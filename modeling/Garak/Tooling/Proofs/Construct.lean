import Garak.Tooling.Packager
import Garak.Tooling.Proofs.Issues

/-!
# Constructing a `Packager`

What the constructor decides is a function of its arguments, the tree and the
machine: `resolve` is that function, and `issues_init` says the constructor returns or
raises accordingly and launches nothing.
-/

namespace Tooling.Packager

open Pathlib

variable {settings : Settings} {fs : FileSystem} {host : Host}

/-- The constructor's two checks and its search, without its messages. -/
def resolve (settings : Settings) (fs : FileSystem) (host : Host) (buildDir : Path)
    (pkgName pkgVersion pkgType : String) : Except PyError (Bool × Packager) :=
  match asked fs.pathExists buildDir with
  | .error e => .error e
  | .ok present =>
      if present = false then
        .error (.exception ("Build directory " ++ buildDir.str ++ " does not exist, aborting..."))
      else if host.installed settings.packageConfig.backend = false then
        .error (.exception ("The packaging backend [" ++ settings.packageConfig.backend ++
          "] was not found on the system, please install and try again"))
      else (attributes settings host buildDir pkgName pkgVersion pkgType).configureBuildEnv fs

/-- The constructor raises what `resolve` raises, and otherwise leaves its object; it
launches no command. -/
theorem issues_init (buildDir : Path) (pkgName pkgVersion pkgType : String) (trace : Trace) :
    Issues host (init settings fs host buildDir pkgName pkgVersion pkgType) trace
      ((resolve settings fs host buildDir pkgName pkgVersion pkgType).map Prod.snd) [] := by
  unfold init resolve Shell.isInstalled Log.error Log.info
  have first := @Issues.ofExcept _ host trace (asked fs.pathExists buildDir)
  cases answered : asked fs.pathExists buildDir with
  | error e =>
      rw [answered] at first
      exact Issues.bind_error first
  | ok present =>
      rw [answered] at first
      apply Issues.bind_silent first
      intro checked
      simp only
      by_cases missing : present = false
      · rw [if_pos missing, if_pos missing]
        exact Issues.bind_error (Issues.throw _)
      rw [if_neg missing, if_neg missing]
      by_cases uninstalled : host.installed settings.packageConfig.backend = false
      · rw [if_pos uninstalled, if_pos uninstalled]
        exact Issues.bind_error (Issues.throw _)
      rw [if_neg uninstalled, if_neg uninstalled]
      cases (attributes settings host buildDir pkgName pkgVersion pkgType).configureBuildEnv fs with
      | error e => exact Issues.bind_error (Issues.throw e)
      | ok result =>
          obtain ⟨found, self⟩ := result
          apply Issues.bind_silent (Issues.pure (found, self))
          intro middle
          cases found with
          | true => exact Issues.bind_silent (Issues.log _ _) fun _ => Issues.pure self
          | false =>
              apply Issues.bind_silent (Issues.log _ _)
              intro _
              exact Issues.bind_silent (Issues.log _ _) fun _ => Issues.pure self

end Tooling.Packager
