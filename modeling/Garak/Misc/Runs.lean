import Mathlib.Data.List.Basic

/-!
# Runs of a state machine

A machine steps deterministically on events. `Along step P s events` says that `P`
holds of every event at the state it meets. `along_iff` exchanges one such property
for another when, under an invariant that either of them preserves, the two agree on
a step.
-/

namespace Runs

variable {State Event : Type} {step : State → Event → State} {P Q : State → Event → Prop}
  {Inv : State → Prop}

/-- The state after a run. -/
def run (step : State → Event → State) (s : State) (events : List Event) : State :=
  events.foldl step s

/-- Every event of the run meets a state that `P` allows. -/
def Along (step : State → Event → State) (P : State → Event → Prop) (s : State)
    (events : List Event) : Prop :=
  ∀ earlier e later, events = earlier ++ e :: later → P (run step s earlier) e

theorem along_nil (s : State) : Along step P s [] := by
  intro earlier e later split
  cases earlier <;> cases split

/-- Along a run, step by step. -/
theorem along_cons {s : State} {e : Event} {events : List Event} :
    Along step P s (e :: events) ↔ P s e ∧ Along step P (step s e) events := by
  constructor
  · intro along
    refine ⟨along [] e events rfl, fun earlier e' later split => ?_⟩
    exact along (e :: earlier) e' later (by rw [split]; rfl)
  · rintro ⟨here, rest⟩ earlier e' later split
    cases earlier with
    | nil =>
        obtain ⟨rfl, -⟩ := List.cons.inj split
        exact here
    | cons first earlier =>
        obtain ⟨rfl, tail⟩ := List.cons.inj split
        exact rest earlier e' later tail

/-- Run lemma: an invariant that allowed steps preserve holds after the run. -/
theorem invariant (preserved : ∀ s e, Inv s → P s e → Inv (step s e)) {s : State}
    (start : Inv s) {events : List Event} (along : Along step P s events) :
    Inv (run step s events) := by
  induction events generalizing s with
  | nil => exact start
  | cons e events ih =>
      obtain ⟨here, rest⟩ := along_cons.mp along
      exact ih (preserved s e start here) rest

/-- Two properties that agree under an invariant hold along the same runs, when the
invariant survives the steps they allow. -/
theorem along_iff (agree : ∀ s e, Inv s → (P s e ↔ Q s e))
    (preserved : ∀ s e, Inv s → P s e → Inv (step s e)) {s : State} (start : Inv s)
    (events : List Event) : Along step P s events ↔ Along step Q s events := by
  induction events generalizing s with
  | nil => exact iff_of_true (along_nil s) (along_nil s)
  | cons e events ih =>
      rw [along_cons, along_cons]
      constructor
      · intro given
        obtain ⟨here, rest⟩ := given
        exact ⟨(agree s e start).mp here, (ih (preserved s e start here)).mp rest⟩
      · intro given
        obtain ⟨here, rest⟩ := given
        have allowed := (agree s e start).mpr here
        exact ⟨allowed, (ih (preserved s e start allowed)).mpr rest⟩

end Runs
