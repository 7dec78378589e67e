import Garak.Tooling.Proofs.Main
import Garak.Tooling.Proofs.Selection

/-!
# Exit statuses

A caller of devkit reads success off its exit code. `reportsFailure_iff` says when that
is sound: when no command fails. A run that launches anything returns 0.
-/

namespace Tooling

open Pathlib

variable {settings : Settings} {fs : FileSystem} {host : Host}

/-- A run tells its caller about the commands that failed. -/
structure ReportsFailure (settings : Settings) (fs : FileSystem) (host : Host) (cli : Cli) :
    Prop where
  /-- `main` returns 0 only when every command it launched exited with 0 -/
  mainReports : ∀ after, (main settings fs host cli).exec Trace.empty = (.ok 0, after) →
    ∀ launch ∈ after.launched, launch.status = 0
  /-- `compile` returns `False` when one of its commands did not exit with 0 -/
  compileReports : ∀ clang gnu, cli = .compile clang gnu → ∀ result after,
    ((newCompiler settings host clang gnu).compile settings fs host).exec Trace.empty =
      (result, after) →
    (∃ launch ∈ after.launched, launch.status ≠ 0) → result = .ok false

/-- A run that launches a command ends with exit code 0. -/
theorem exitCode_of_plan_ne_nil {cli : Cli} (launches : plan settings fs host cli ≠ []) :
    exitCode settings fs host cli = 0 := by
  cases cli with
  | package name version type buildDir =>
      unfold plan at launches
      unfold exitCode
      cases resolved : Packager.resolve settings fs host
          (Path.parse (Cli.argsBuildDir settings buildDir)) name version (Cli.argsType type) with
      | ok found => simp only [resolved]
      | error e =>
          simp only [resolved] at launches
          exact absurd rfl launches
  | clang format lint => rfl
  | compile clang gnu =>
      unfold plan compilePlan at launches
      unfold exitCode
      cases answered : fs.pathExists settings.projectBuildDir with
      | ok present => rfl
      | error e =>
          simp only [answered] at launches
          exact absurd rfl launches
  | noCommand => exact absurd rfl launches

/-- From nothing, the launches of a procedure are those of its commands. -/
theorem Issues.succeed_iff {α : Type} {p : Proc α} {result : Except PyError α}
    {commands : List String} (ran : Issues host p Trace.empty result commands) :
    ∃ after, p.exec Trace.empty = (result, after) ∧
      ((∀ launch ∈ after.launched, launch.status = 0) ↔
        ∀ i (h : i < commands.length), host.exitStatus i commands[i] = 0) := by
  obtain ⟨after, ended, launched⟩ := ran
  refine ⟨after, ended, ?_⟩
  have fromStart := launches_succeed_iff host 0 commands
  simp only [Nat.zero_add] at fromStart
  rw [launched, ← fromStart]
  rfl

/-- A run reports failures exactly when there are none: every command of its plan exits
with 0. -/
theorem reportsFailure_iff (settings : Settings) (fs : FileSystem) (host : Host) (cli : Cli)
    (ready : Ready settings host) :
    ReportsFailure settings fs host cli ↔
      ∀ i (h : i < (plan settings fs host cli).length),
        host.exitStatus i (plan settings fs host cli)[i] = 0 := by
  obtain ⟨after, ended, succeed⟩ :=
    (@issues_main _ fs _ ready cli Trace.empty).succeed_iff
  constructor
  · intro reports
    by_cases empty : plan settings fs host cli = []
    · intro i h
      simp [empty] at h
    · rw [exitCode_of_plan_ne_nil empty] at ended
      exact succeed.mp (reports.mainReports after ended)
  · intro zero
    refine ⟨fun final endedFinal => ?_, ?_⟩
    · rw [ended] at endedFinal
      obtain ⟨-, rfl⟩ := Prod.mk.inj endedFinal
      exact succeed.mpr zero
    · rintro clang gnu rfl result final endedFinal ⟨launch, member, failed⟩
      obtain ⟨compiled, endedCompile, succeedCompile⟩ :=
        (@issues_compile settings fs host (newCompiler settings host clang gnu) Trace.empty).succeed_iff
      rw [endedCompile] at endedFinal
      obtain ⟨-, rfl⟩ := Prod.mk.inj endedFinal
      exact absurd (succeedCompile.mpr zero launch member) failed

/-- A machine on which every command fails. -/
def failingHost : Host where
  exitStatus _ _ := 2
  installed _ := true
  nproc := "8"
  user := some "root"
  platform := "linux"
  isPrintable _ := true

theorem reportsFailure_failingHost :
    ReportsFailure Clang.sampleSettings Clang.sampleTree failingHost (.compile true false) ↔
      ∀ i (h : i < (plan Clang.sampleSettings Clang.sampleTree failingHost (.compile true false)).length),
        failingHost.exitStatus i
          (plan Clang.sampleSettings Clang.sampleTree failingHost (.compile true false))[i] = 0 :=
  reportsFailure_iff Clang.sampleSettings Clang.sampleTree failingHost (.compile true false)
    (by decide +kernel)

/-- `devkit compile` ends with 0 although both its commands failed. -/
theorem compile_hides_failure :
    ¬ ReportsFailure Clang.sampleSettings Clang.sampleTree failingHost (.compile true false) := by
  intro reports
  have ended : ((main Clang.sampleSettings Clang.sampleTree failingHost (.compile true false)).exec
      Trace.empty).1 = .ok 0 := by
    decide +kernel
  have failed : ∃ launch ∈ ((main Clang.sampleSettings Clang.sampleTree failingHost
      (.compile true false)).exec Trace.empty).2.launched, launch.status ≠ 0 := by
    decide +kernel
  obtain ⟨launch, member, nonzero⟩ := failed
  exact nonzero (reports.mainReports _ (Prod.ext ended rfl) launch member)

end Tooling
