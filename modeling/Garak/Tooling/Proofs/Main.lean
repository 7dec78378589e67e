import Garak.Tooling.Devkit
import Garak.Tooling.Proofs.Calls
import Garak.Tooling.Proofs.Construct

/-!
# A run of `devkit`

Past the preflight checks, the exit code of a run and the commands it launches are
functions of the options, the settings, the tree and the machine. The exit statuses of
the commands enter neither: see `issues_main`.
-/

namespace Tooling

open Pathlib

variable {settings : Settings} {fs : FileSystem} {host : Host}

/-! ## Preflight -/

/-- The run passes `preflight`. -/
def Ready (settings : Settings) (host : Host) : Prop :=
  host.platform = "linux" ∧
    ∀ item ∈ settings.cmakePrograms.items, item.2.name ≠ "" ∧ host.installed item.2.name = true

instance (settings : Settings) (host : Host) : Decidable (Ready settings host) :=
  inferInstanceAs (Decidable (_ ∧ _))

theorem exec_checkProgram (item : String × Program) (trace : Trace) :
    (checkProgram host item).Checks (item.2.name ≠ "" ∧ host.installed item.2.name = true)
      trace := by
  unfold checkProgram Shell.isInstalled
  by_cases named : item.2.name ≠ ""
  · rw [if_pos named]
    cases installed : host.installed item.2.name with
    | true => exact .inl ⟨⟨named, rfl⟩, rfl⟩
    | false => exact .inr ⟨fun ok => Bool.false_ne_true ok.2, _, rfl⟩
  · rw [if_neg named]
    exact .inr ⟨fun ok => named ok.1, _, rfl⟩

theorem exec_preflight (trace : Trace) :
    (preflight settings host).Checks (Ready settings host) trace := by
  unfold preflight Ready
  by_cases linux : host.platform = "linux"
  · rw [if_neg (not_not_intro linux)]
    rcases Proc.forM_checks exec_checkProgram settings.cmakePrograms.items trace with
      ⟨all, ran⟩ | ⟨some, e, raised⟩
    · exact .inl ⟨⟨linux, all⟩, ran⟩
    · exact .inr ⟨fun ready => some ready.2, e, raised⟩
  · rw [if_pos linux]
    exact .inr ⟨fun ready => linux ready.1, _, Proc.exec_bind_error (Proc.exec_throw _ trace)⟩

theorem issues_preflight (ready : Ready settings host) (trace : Trace) :
    Issues host (preflight settings host) trace (.ok ()) [] := by
  rcases @exec_preflight settings host trace with ⟨-, ran⟩ | ⟨no, -⟩
  · exact ⟨trace, ran, by simp [launches]⟩
  · exact absurd ready no

theorem issues_preflight_raises (notReady : ¬ Ready settings host) (trace : Trace) :
    ∃ e, Issues host (preflight settings host) trace (.error e) [] := by
  rcases @exec_preflight settings host trace with ⟨yes, -⟩ | ⟨-, e, raised⟩
  · exact absurd yes notReady
  · exact ⟨e, trace, raised, by simp [launches]⟩

/-! ## The subcommands -/

/-- The commands of a `compile` run. -/
def compilePlan (settings : Settings) (fs : FileSystem) (self : Compiler) : List String :=
  match fs.pathExists settings.projectBuildDir with
  | .ok false => [self.initBuildCommand settings, self.makeCommand settings]
  | .ok true => [self.makeCommand settings]
  | .error _ => []

/-- `compile` returns `True`, whatever its commands did, unless the system refuses to tell
whether the build directory exists. -/
theorem issues_compile (self : Compiler) (trace : Trace) :
    Issues host (self.compile settings fs host) trace
      ((asked fs.pathExists settings.projectBuildDir).map fun _ => true)
      (compilePlan settings fs self) := by
  unfold Compiler.compile compilePlan Log.info Log.warn asked
  apply Issues.bind_silent (Issues.log _ _)
  intro configuring
  cases fs.pathExists settings.projectBuildDir with
  | error e => exact Issues.bind_error (Issues.ofExcept _)
  | ok present =>
      apply Issues.bind_silent (Issues.ofExcept _)
      intro checked
      cases present with
      | false =>
          rw [if_pos rfl]
          apply Issues.bind (Issues.execute _)
          intro configured
          rw [if_neg (by decide)]
          apply Issues.bind_last (Issues.execute _)
          intro made
          rw [if_neg (by decide)]
          exact Issues.pure true
      | true =>
          rw [if_neg (by decide)]
          exact Issues.bind_silent (Issues.log _ _) fun warned => Issues.execute _

/-- The commands of a `clang` run. `lint` works on the object `format` leaves. -/
def clangPlan (settings : Settings) (fs : FileSystem) (format lint : Bool) : List String :=
  let formatted :=
    if format then Clang.aggregated settings fs .clangFormat (newClang settings)
    else newClang settings
  (if format then formatted.formatCommands else []) ++
    (if lint then [(Clang.aggregated settings fs .clangTidy formatted).lintCommand] else [])

/-- The commands of a run that passes the preflight checks, in order. -/
def plan (settings : Settings) (fs : FileSystem) (host : Host) : Cli → List String
  | .package name version type buildDir =>
      match Packager.resolve settings fs host (Path.parse (Cli.argsBuildDir settings buildDir)) name
        version (Cli.argsType type) with
      | .ok (_, packager) => [packager.buildPkgCommand]
      | .error _ => []
  | .clang format lint => clangPlan settings fs format lint
  | .compile clang gnu => compilePlan settings fs (newCompiler settings host clang gnu)
  | .noCommand => []

/-- The exit code of a run that passes the preflight checks. -/
def exitCode (settings : Settings) (fs : FileSystem) (host : Host) : Cli → Int
  | .package name version type buildDir =>
      match Packager.resolve settings fs host (Path.parse (Cli.argsBuildDir settings buildDir)) name
        version (Cli.argsType type) with
      | .ok _ => 0
      | .error _ => 1
  | .clang _ _ => 0
  | .compile _ _ =>
      match fs.pathExists settings.projectBuildDir with
      | .ok _ => 0
      | .error _ => 1
  | .noCommand => 1

theorem issues_format (self : Clang) (trace : Trace) :
    Issues host (self.format settings fs host) trace
      (.ok (self.aggregated settings fs .clangFormat))
      (self.aggregated settings fs .clangFormat).formatCommands :=
  @Issues.of_issueAll _ _ _ _ _ _ (trace.say .info "Formatting all files") _
    (Clang.exec_format self trace) rfl rfl

theorem issues_lint (self : Clang) (trace : Trace) :
    Issues host (self.lint settings fs host) trace
      (.ok (self.aggregated settings fs .clangTidy))
      [(self.aggregated settings fs .clangTidy).lintCommand] :=
  @Issues.of_issueAll _ _ _ _ _ _ (trace.say .info "Statically analyzing all files") _
    (Clang.exec_lint self trace) rfl rfl

/-- A subcommand launches its plan. Only the constructor of `Packager`, a build directory
the system tells nothing about and a missing subcommand keep `main` from its end. -/
theorem issues_dispatch (cli : Cli) :
    ∃ result, (∀ trace, Issues host (dispatch settings fs host cli) trace result
        (plan settings fs host cli)) ∧
      ((result = .ok none ∧ exitCode settings fs host cli = 0) ∨
        ((result = .ok (some 1) ∨ ∃ e, result = .error e) ∧
          exitCode settings fs host cli = 1)) := by
  cases cli with
  | package name version type buildDir =>
      have constructed := @Packager.issues_init settings fs host
        (Path.parse (Cli.argsBuildDir settings buildDir)) name version (Cli.argsType type)
      simp only [plan, exitCode, dispatch, newPackager]
      cases resolved : Packager.resolve settings fs host
          (Path.parse (Cli.argsBuildDir settings buildDir)) name version (Cli.argsType type) with
      | error e =>
          rw [resolved] at constructed
          exact ⟨_, fun trace => Issues.bind_error (constructed trace), .inr ⟨.inr ⟨e, rfl⟩, rfl⟩⟩
      | ok found =>
          rw [resolved] at constructed
          refine ⟨_, fun trace => Issues.bind_silent (constructed trace) fun middle => ?_,
            .inl ⟨rfl, rfl⟩⟩
          exact Issues.bind_last (Issues.discard (Issues.execute _)) fun _ => Issues.pure none
  | clang format lint =>
      refine ⟨.ok none, fun trace => ?_, .inl ⟨rfl, rfl⟩⟩
      unfold dispatch plan clangPlan
      have lintOrNot : ∀ (self : Clang) (middle : Trace),
          Issues host (do
            let _ ← if lint then self.lint settings fs host else pure self
            return none) middle (.ok (none : Option Int))
            (if lint then [(self.aggregated settings fs .clangTidy).lintCommand] else []) := by
        intro self middle
        cases lint with
        | true => exact Issues.bind_last (issues_lint self middle) fun _ => Issues.pure _
        | false => exact Issues.bind_last (Issues.pure self) fun _ => Issues.pure _
      cases format with
      | true => exact Issues.bind (issues_format _ trace) fun middle => lintOrNot _ middle
      | false => exact Issues.bind (Issues.pure _) fun middle => lintOrNot _ middle
  | compile clang gnu =>
      have compiled := @issues_compile settings fs host (newCompiler settings host clang gnu)
      simp only [plan, exitCode, dispatch]
      unfold asked at compiled
      cases answered : fs.pathExists settings.projectBuildDir with
      | error e =>
          rw [answered] at compiled
          exact ⟨_, fun trace => Issues.bind_error (compiled trace), .inr ⟨.inr ⟨_, rfl⟩, rfl⟩⟩
      | ok present =>
          rw [answered] at compiled
          refine ⟨.ok none, fun trace => ?_, .inl ⟨rfl, rfl⟩⟩
          apply Issues.bind_last (compiled trace)
          intro ended
          rw [if_neg (by simp)]
          exact Issues.pure none
  | noCommand => exact ⟨_, fun trace => Issues.pure _, .inr ⟨.inl rfl, rfl⟩⟩

/-- What the handler of `main` makes of an exception. -/
theorem issues_handler (e : PyError) (trace : Trace) :
    Issues host (do
      Log.error (e.text host)
      return some (1 : Int)) trace (.ok (some 1)) [] :=
  Issues.bind_silent (Issues.log _ _) fun _ => Issues.pure (some 1)

/-- After the `try` block nothing more is launched. -/
theorem issues_main_of {cli : Cli} {trace : Trace} {early : Option Int} {commands : List String}
    (attempted : Issues host (attempt settings fs host cli) trace (.ok early) commands) :
    Issues host (main settings fs host cli) trace (.ok (early.getD 0)) commands := by
  apply Issues.bind_last attempted
  intro middle
  cases early with
  | none => exact Issues.bind_silent (Issues.log _ _) fun _ => Issues.pure 0
  | some code => exact Issues.pure code

/-- A run that passes the preflight checks launches its plan and ends with its exit
code. -/
theorem issues_main (ready : Ready settings host) (cli : Cli) (trace : Trace) :
    Issues host (main settings fs host cli) trace (.ok (exitCode settings fs host cli))
      (plan settings fs host cli) := by
  have block : ∀ {result : Except PyError (Option Int)},
      (∀ middle, Issues host (dispatch settings fs host cli) middle result
        (plan settings fs host cli)) →
      Issues host (do preflight settings host; dispatch settings fs host cli) trace result
        (plan settings fs host cli) :=
    fun dispatched => Issues.bind_silent (issues_preflight ready trace) dispatched
  obtain ⟨result, dispatched, outcome⟩ := @issues_dispatch settings fs host cli
  rcases outcome with ⟨rfl, code⟩ | ⟨rfl | ⟨e, rfl⟩, code⟩
  · rw [code]
    exact issues_main_of (Issues.catch_ok (block dispatched))
  · rw [code]
    exact issues_main_of (Issues.catch_ok (block dispatched))
  · rw [code]
    have caught : Issues host (attempt settings fs host cli) trace (.ok (some 1))
        (plan settings fs host cli ++ []) :=
      Issues.catch_error (block dispatched) (issues_handler e)
    rw [List.append_nil] at caught
    exact issues_main_of caught

/-- A run that fails them launches nothing and ends with exit code 1. -/
theorem issues_main_of_not_ready (notReady : ¬ Ready settings host) (cli : Cli) (trace : Trace) :
    Issues host (main settings fs host cli) trace (.ok 1) [] := by
  obtain ⟨e, raised⟩ := issues_preflight_raises notReady trace
  exact issues_main_of (Issues.catch_error (Issues.bind_error raised) (issues_handler e))

/-- A run with an empty plan launches nothing. -/
theorem launched_of_plan_nil {cli : Cli} (nothing : plan settings fs host cli = [])
    {result : Except PyError Int} {after : Trace}
    (ran : (main settings fs host cli).exec Trace.empty = (result, after)) :
    after.launched = [] := by
  have silent : ∃ code, Issues host (main settings fs host cli) Trace.empty (.ok code) [] := by
    by_cases ready : Ready settings host
    · exact ⟨_, nothing ▸ issues_main ready cli Trace.empty⟩
    · exact ⟨1, issues_main_of_not_ready ready cli Trace.empty⟩
  obtain ⟨code, final, ended, launched⟩ := silent
  rw [ran] at ended
  rw [(Prod.mk.inj ended).2]
  exact launched

end Tooling
