import Garak.Tooling.CommandLine

/-!
# Exit statuses play no part

`Shell.execute` drops the status of the command it ran. Two processes on machines whose
commands end with different statuses therefore do the same to the end: `devkit_blind`. The
relation `Alike` compares procedures on traces that differ in the recorded statuses only.
-/

namespace Tooling

open Pathlib Argparse

variable {α β : Type}

/-- The same commands and messages. -/
structure Trace.Same (t u : Trace) : Prop where
  commands : t.commands = u.commands
  messages : t.messages = u.messages

/-- Run on traces that are the same up to statuses, the procedures end the same. -/
def Alike (p q : Proc α) : Prop :=
  ∀ t u, t.Same u → (p.exec t).1 = (q.exec u).1 ∧ (p.exec t).2.Same (q.exec u).2

namespace Alike

/-- Code that runs no command and does not look at the trace. -/
theorem pure (a : α) : Alike (Pure.pure a) (Pure.pure a) := fun _ _ same => ⟨rfl, same⟩

theorem throw (e : PyError) : Alike (MonadExcept.throw e : Proc α) (MonadExcept.throw e) :=
  fun _ _ same => ⟨rfl, same⟩

theorem ofExcept (x : Except PyError α) : Alike (Proc.ofExcept x) (Proc.ofExcept x) := by
  cases x with
  | ok a => exact pure a
  | error e => exact throw e

theorem log (level : Level) (text : String) : Alike (Tooling.log level text) (Tooling.log level text) :=
  fun _ _ same => ⟨rfl, same.commands, congrArg (· ++ [Message.mk level text]) same.messages⟩

theorem bind {p q : Proc α} {f g : α → Proc β} (first : Alike p q) (rest : ∀ a, Alike (f a) (g a)) :
    Alike (p >>= f) (q >>= g) := by
  intro t u same
  obtain ⟨result, after⟩ := first t u same
  rw [Proc.exec_bind, Proc.exec_bind]
  cases left : p.exec t with
  | mk r t' =>
      cases right : q.exec u with
      | mk r' u' =>
          rw [left, right] at result after
          cases (result : r = r')
          cases r with
          | error e => exact ⟨rfl, after⟩
          | ok a => exact rest a t' u' after

/-- Nothing runs behind an exception. -/
theorem throw_bind (e : PyError) (f g : α → Proc β) :
    Alike ((MonadExcept.throw e : Proc α) >>= f) (MonadExcept.throw e >>= g) :=
  fun _ _ same => ⟨rfl, same⟩

theorem catchException {p q : Proc α} (body : Alike p q) (handler : PyError → Proc α)
    (handled : ∀ e, Alike (handler e) (handler e)) :
    Alike (p.catchException handler) (q.catchException handler) := by
  intro t u same
  obtain ⟨result, after⟩ := body t u same
  rw [Proc.exec_catch, Proc.exec_catch]
  cases left : p.exec t with
  | mk r t' =>
      cases right : q.exec u with
      | mk r' u' =>
          rw [left, right] at result after
          cases (result : r = r')
          cases r with
          | error e => exact handled e t' u' after
          | ok a => exact ⟨rfl, after⟩

theorem forM {items : List α} {f g : α → Proc Unit} (step : ∀ item, Alike (f item) (g item)) :
    Alike (ForM.forM items f) (ForM.forM items g) := by
  induction items with
  | nil => exact pure ()
  | cons item items ih =>
      rw [List.forM_cons, List.forM_cons]
      exact bind (step item) fun _ => ih

theorem discard {p q : Proc α} (body : Alike p q) :
    Alike (Functor.discard p : Proc Unit) (Functor.discard q) :=
  bind body fun _ => pure ()

/-- The status of a command is recorded and dropped. -/
theorem execute (host host' : Host) (command : String) :
    Alike (Shell.execute host command) (Shell.execute host' command) := by
  intro t u same
  rw [Shell.exec_execute, Shell.exec_execute]
  refine ⟨rfl, ?_, ?_⟩
  · simp only [Trace.commands, Trace.issue, List.map_append, List.map_cons, List.map_nil]
    exact congrArg (· ++ [command]) same.commands
  · exact congrArg (· ++ [Message.mk .info ("Running: " ++ command)]) same.messages

end Alike

/-- The machine, with other statuses for its commands. -/
def Machine.exiting (machine : Machine) (exitStatus : Nat → String → Int) : Machine :=
  { machine with exitStatus := exitStatus }

variable {settings : Settings} {fs : FileSystem} {host host' : Host}

theorem alike_format (self : Clang) :
    Alike (self.format settings fs host) (self.format settings fs host') := by
  unfold Clang.format
  apply Alike.bind (.ofExcept _)
  intro self'
  apply Alike.bind (.log _ _)
  intro _
  apply Alike.bind (.forM fun file => .discard (.execute _ _ _))
  intro _
  apply Alike.bind (.forM fun file => .discard (.execute _ _ _))
  intro _
  exact .bind (.log _ _) fun _ => .pure self'

theorem alike_lint (self : Clang) :
    Alike (self.lint settings fs host) (self.lint settings fs host') := by
  unfold Clang.lint
  apply Alike.bind (.ofExcept _)
  intro self'
  apply Alike.bind (.log _ _)
  intro _
  apply Alike.bind (.discard (.execute _ _ _))
  intro _
  exact .bind (.log _ _) fun _ => .pure self'

theorem alike_compile (self : Compiler) :
    Alike (self.compile settings fs host) (self.compile settings fs host') := by
  unfold Compiler.compile
  apply Alike.bind (.log _ _)
  intro _
  apply Alike.bind (.ofExcept _)
  intro present
  split
  · apply Alike.bind (.execute _ _ _)
    intro configured
    cases configured with
    | false => exact .pure false
    | true =>
        apply Alike.bind (.execute _ _ _)
        intro made
        cases made with
        | false => exact .pure false
        | true => exact .pure true
  · exact .bind (.log _ _) fun _ => .execute _ _ _

theorem alike_init (buildDir : Path) (name version type : String) :
    Alike (Packager.init settings fs host buildDir name version type)
      (Packager.init settings fs host buildDir name version type) := by
  unfold Packager.init Shell.isInstalled Log.error Log.info
  apply Alike.bind (.ofExcept _)
  intro present
  by_cases missing : present = false
  · rw [if_pos missing]
    exact Alike.throw_bind _ _ _
  rw [if_neg missing]
  by_cases uninstalled : host.installed settings.packageConfig.backend = false
  · rw [if_pos uninstalled]
    exact Alike.throw_bind _ _ _
  rw [if_neg uninstalled]
  apply Alike.bind (.ofExcept _)
  intro state
  obtain ⟨found, self⟩ := state
  cases found with
  | true => exact .bind (.log _ _) fun _ => .pure self
  | false =>
      apply Alike.bind (.log _ _)
      intro _
      exact .bind (.log _ _) fun _ => .pure self

theorem alike_preflight {machine : Machine} (exitStatus : Nat → String → Int) :
    Alike (machine.preflight settings) ((machine.exiting exitStatus).preflight settings) := by
  have check : ∀ item, Alike (machine.checkProgram item)
      ((machine.exiting exitStatus).checkProgram item) := by
    intro item
    have same : (machine.exiting exitStatus).checkProgram item = machine.checkProgram item := rfl
    rw [same]
    unfold Machine.checkProgram Tooling.checkProgram
    split
    · exact .throw _
    · split
      · split
        · exact .throw _
        · exact .pure ()
      · exact .throw _
  unfold Machine.preflight
  by_cases linux : machine.platform = "linux"
  · have linux' : (machine.exiting exitStatus).platform = "linux" := linux
    rw [if_neg (not_not_intro linux), if_neg (not_not_intro linux')]
    exact .forM check
  · have other : (machine.exiting exitStatus).platform ≠ "linux" := linux
    rw [if_pos linux, if_pos other]
    exact Alike.throw_bind _ _ _

theorem alike_dispatch (exitStatus : Nat → String → Int) (cli : Cli) :
    Alike (dispatch settings fs host cli)
      (dispatch settings fs { host with exitStatus := exitStatus } cli) := by
  unfold dispatch
  cases cli with
  | package name version type buildDir =>
      apply Alike.bind (alike_init _ _ _ _)
      intro packager
      apply Alike.bind (.discard (.execute _ _ _))
      intro _
      exact .pure _
  | clang format lint =>
      have lintOrNot : ∀ self : Clang, Alike
          (do
            let _ ← if lint then self.lint settings fs host else pure self
            return (none : Option Int))
          (do
            let _ ← if lint then self.lint settings fs { host with exitStatus := exitStatus }
              else pure self
            return none) := by
        intro self
        cases lint with
        | true => exact .bind (alike_lint self) fun _ => .pure _
        | false => exact .bind (.pure self) fun _ => .pure _
      cases format with
      | true => exact .bind (alike_format _) lintOrNot
      | false => exact .bind (.pure _) lintOrNot
  | compile clang gnu =>
      apply Alike.bind (alike_compile _)
      intro compiled
      cases compiled with
      | true => exact .pure _
      | false => exact .pure _
  | noCommand => exact .pure _

/-- Neither the exit code, nor the commands launched, nor the messages depend on how the
commands end. -/
theorem devkit_blind (settings : Settings) (fs : FileSystem) (machine : Machine)
    (exitStatus : Nat → String → Int) (argv : List String) :
    Alike (devkit settings fs machine argv)
      (devkit settings fs (machine.exiting exitStatus) argv) := by
  have body : Alike (machine.attempt settings fs argv)
      ((machine.exiting exitStatus).attempt settings fs argv) := by
    unfold Machine.attempt
    apply Alike.catchException
    · apply Alike.bind (alike_preflight exitStatus)
      intro _
      have sameWords : (machine.exiting exitStatus).isDecimal = machine.isDecimal := rfl
      rw [sameWords]
      cases Cli.init machine.isDecimal argv with
      | error exit => exact .pure _
      | ok cli => exact alike_dispatch exitStatus cli
    · intro e
      exact .bind (.log _ _) fun _ => .pure _
  unfold devkit
  apply Alike.bind body
  intro early
  cases early with
  | some code => exact .pure code
  | none => exact .bind (.log _ _) fun _ => .pure 0

end Tooling
