import Garak.Tooling.Utils

/-!
# The commands of a procedure

`Issues host p trace result commands`: run on `trace`, the procedure ends with
`result` and has launched `commands`, in order and each once. The rules follow the
shape of the procedure.
-/

namespace Tooling

variable {α β : Type} {host : Host} {trace : Trace}

/-- The procedure ends with `result`, having launched `commands`. -/
def Issues (host : Host) (p : Proc α) (trace : Trace) (result : Except PyError α)
    (commands : List String) : Prop :=
  ∃ after, p.exec trace = (result, after) ∧
    after.launched = trace.launched ++ launches host trace.launched.length commands

namespace Issues

theorem launches_append (host : Host) (n : Nat) (first second : List String) :
    launches host n (first ++ second) =
      launches host n first ++ launches host (n + first.length) second := by
  induction first generalizing n with
  | nil => rfl
  | cons command first ih =>
      have shift : n + (first.length + 1) = n + 1 + first.length := by omega
      simp only [List.cons_append, launches, ih, List.length_cons, shift]

theorem launches_length (host : Host) (n : Nat) (commands : List String) :
    (launches host n commands).length = commands.length := by
  have := congrArg List.length (launches_command host n commands)
  simpa using this

theorem pure (a : α) : Issues host (Pure.pure a) trace (.ok a) [] :=
  ⟨trace, rfl, by simp [launches]⟩

theorem throw (e : PyError) : Issues host (MonadExcept.throw e : Proc α) trace (.error e) [] :=
  ⟨trace, rfl, by simp [launches]⟩

theorem ofExcept (x : Except PyError α) : Issues host (Proc.ofExcept x) trace x [] := by
  cases x with
  | ok a => exact pure a
  | error e => exact throw e

theorem log (level : Level) (text : String) :
    Issues host (Tooling.log level text) trace (.ok ()) [] :=
  ⟨trace.say level text, rfl, by simp [launches]⟩

/-- A procedure that ends on a trace a sequence of commands leaves. -/
theorem of_issueAll {p : Proc α} {result : Except PyError α} {commands : List String}
    {before after : Trace} (ran : p.exec trace = (result, after))
    (same : before.launched = trace.launched)
    (launched : after.launched = (before.issueAll host commands).launched) :
    Issues host p trace result commands :=
  ⟨after, ran, by rw [launched, Trace.issueAll_launched, same]⟩

theorem execute (command : String) :
    Issues host (Shell.execute host command) trace (.ok true) [command] :=
  of_issueAll (Shell.exec_execute host command trace) rfl rfl

/-- Sequencing after code that returned. -/
theorem bind {p : Proc α} {f : α → Proc β} {a : α} {result : Except PyError β}
    {first second : List String} (ran : Issues host p trace (.ok a) first)
    (rest : ∀ middle, Issues host (f a) middle result second) :
    Issues host (p >>= f) trace result (first ++ second) := by
  obtain ⟨middle, ended, launched⟩ := ran
  obtain ⟨after, endedRest, launchedRest⟩ := rest middle
  refine ⟨after, ?_, ?_⟩
  · rw [Proc.exec_bind_ok ended, endedRest]
  · rw [launchedRest, launched, launches_append, List.length_append, launches_length,
      List.append_assoc]

/-- Sequencing after code that raised. -/
theorem bind_error {p : Proc α} {f : α → Proc β} {e : PyError} {commands : List String}
    (raised : Issues host p trace (.error e) commands) :
    Issues host (p >>= f) trace (.error e) commands := by
  obtain ⟨after, ended, launched⟩ := raised
  exact ⟨after, Proc.exec_bind_error ended, launched⟩

/-- Sequencing after code that launches nothing. -/
theorem bind_silent {p : Proc α} {f : α → Proc β} {a : α} {result : Except PyError β}
    {commands : List String} (ran : Issues host p trace (.ok a) [])
    (rest : ∀ middle, Issues host (f a) middle result commands) :
    Issues host (p >>= f) trace result commands :=
  bind ran rest

/-- Sequencing before code that launches nothing. -/
theorem bind_last {p : Proc α} {f : α → Proc β} {a : α} {result : Except PyError β}
    {commands : List String} (ran : Issues host p trace (.ok a) commands)
    (rest : ∀ middle, Issues host (f a) middle result []) :
    Issues host (p >>= f) trace result commands := by
  have whole := bind ran rest
  rwa [List.append_nil] at whole

/-- Dropping a result. -/
theorem discard {p : Proc α} {a : α} {commands : List String}
    (ran : Issues host p trace (.ok a) commands) :
    Issues host (Functor.discard p) trace (.ok ()) commands := by
  obtain ⟨after, ended, launched⟩ := ran
  refine ⟨after, ?_, launched⟩
  have unfolded : (Functor.discard p : Proc Unit).exec trace =
      (p >>= fun _ => (Pure.pure () : Proc Unit)).exec trace := rfl
  rw [unfolded, Proc.exec_bind_ok ended]
  rfl

/-- `except Exception` around code that returned. -/
theorem catch_ok {p : Proc α} {handler : PyError → Proc α} {a : α} {commands : List String}
    (ran : Issues host p trace (.ok a) commands) :
    Issues host (p.catchException handler) trace (.ok a) commands := by
  obtain ⟨after, ended, launched⟩ := ran
  exact ⟨after, by rw [Proc.exec_catch, ended], launched⟩

/-- `except Exception` around code that raised. -/
theorem catch_error {p : Proc α} {handler : PyError → Proc α} {e : PyError}
    {result : Except PyError α} {first second : List String}
    (raised : Issues host p trace (.error e) first)
    (handled : ∀ middle, Issues host (handler e) middle result second) :
    Issues host (p.catchException handler) trace result (first ++ second) := by
  obtain ⟨middle, ended, launched⟩ := raised
  obtain ⟨after, endedRest, launchedRest⟩ := handled middle
  refine ⟨after, by rw [Proc.exec_catch, ended]; exact endedRest, ?_⟩
  rw [launchedRest, launched, launches_append, List.length_append, launches_length,
    List.append_assoc]

end Issues

end Tooling
