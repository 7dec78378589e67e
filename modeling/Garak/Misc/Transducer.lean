import Mathlib.Data.List.Basic

/-!
# Transducers

A transducer reads its input item by item, keeping a state, and writes any number of
outputs at each item and at the end; it may also reject. The rules below bound what a
run writes by what it read: `payload_sublist` for the material that is carried from
input to output in order, `all_of_run` for a property of the outputs.
-/

/-- A partial transducer. -/
structure Transducer (σ ι ο : Type) where
  step : σ → ι → Option (List ο × σ)
  finish : σ → Option (List ο)

namespace Transducer

variable {σ ι ο γ : Type} {machine : Transducer σ ι ο}

/-- Read the input from a state; the outputs, unless the input is rejected. -/
def run (machine : Transducer σ ι ο) : σ → List ι → Option (List ο)
  | s, [] => machine.finish s
  | s, i :: is =>
      match machine.step s i with
      | none => none
      | some (out, s') => (machine.run s' is).map (out ++ ·)

/-- Read part of the input: the outputs so far and the state reached. -/
def advance (machine : Transducer σ ι ο) : σ → List ι → Option (List ο × σ)
  | s, [] => some ([], s)
  | s, i :: is =>
      match machine.step s i with
      | none => none
      | some (out, s') => (machine.advance s' is).map fun (more, s'') => (out ++ more, s'')

theorem run_cons {s s' : σ} {i : ι} {out : List ο} (step : machine.step s i = some (out, s'))
    (is : List ι) : machine.run s (i :: is) = (machine.run s' is).map (out ++ ·) := by
  simp only [run, step]

theorem advance_cons {s s' : σ} {i : ι} {out : List ο}
    (step : machine.step s i = some (out, s')) (is : List ι) :
    machine.advance s (i :: is) =
      (machine.advance s' is).map fun (more, s'') => (out ++ more, s'') := by
  simp only [advance, step]

/-- A run goes through the state reached by any first part of its input. -/
theorem run_append {s : σ} (first second : List ι) :
    machine.run s (first ++ second) =
      match machine.advance s first with
      | none => none
      | some (out, s') => (machine.run s' second).map (out ++ ·) := by
  induction first generalizing s with
  | nil => simp [advance]
  | cons i first ih =>
      rw [List.cons_append]
      cases step : machine.step s i with
      | none => simp only [run, advance, step]
      | some result =>
          obtain ⟨out, s'⟩ := result
          rw [run_cons step, advance_cons step, ih]
          cases machine.advance s' first with
          | none => rfl
          | some rest =>
              obtain ⟨more, s''⟩ := rest
              simp [Function.comp_def]

theorem run_of_advance {s s' : σ} {first : List ι} {out : List ο}
    (advanced : machine.advance s first = some (out, s')) (second : List ι) :
    machine.run s (first ++ second) = (machine.run s' second).map (out ++ ·) := by
  rw [run_append, advanced]

theorem advance_append_of_advance {s s' : σ} {first : List ι} {out : List ο}
    (advanced : machine.advance s first = some (out, s')) (second : List ι) :
    machine.advance s (first ++ second) =
      (machine.advance s' second).map fun (more, s'') => (out ++ more, s'') := by
  induction first generalizing s out with
  | nil =>
      obtain ⟨rfl, rfl⟩ := Prod.mk.inj (Option.some.inj advanced)
      simp
  | cons i first ih =>
      cases step : machine.step s i with
      | none => simp [advance, step] at advanced
      | some result =>
          obtain ⟨here, middle⟩ := result
          rw [advance_cons step] at advanced
          obtain ⟨⟨more, reached⟩, rest, equal⟩ := Option.map_eq_some_iff.mp advanced
          obtain ⟨rfl, rfl⟩ := Prod.mk.inj equal
          rw [List.cons_append, advance_cons step, ih rest]
          simp [Function.comp_def]

/-- The machine that treats every item by itself. -/
def each (f : ι → Option (List ο)) : Transducer Unit ι ο where
  step _ i := (f i).map fun out => (out, ())
  finish _ := some []

theorem each_run_cons {f : ι → Option (List ο)} {i : ι} {out : List ο} (treated : f i = some out)
    (is : List ι) : (each f).run () (i :: is) = ((each f).run () is).map (out ++ ·) := by
  have step : (each f).step () i = some (out, ()) := by
    simp [each, treated]
  exact run_cons step is

/-- Such a machine accepts when it accepts every item, and writes what the items make. -/
theorem each_run_iff {f : ι → Option (List ο)} {is : List ι} {out : List ο} :
    (each f).run () is = some out ↔
      (∀ i ∈ is, (f i).isSome) ∧ out = is.flatMap fun i => (f i).getD [] := by
  induction is generalizing out with
  | nil =>
      have empty : (each f).run () [] = some [] := rfl
      rw [empty, Option.some_inj, List.flatMap_nil]
      exact ⟨fun equal => ⟨List.forall_mem_nil _, equal.symm⟩, fun given => given.2.symm⟩
  | cons i is ih =>
      cases treated : f i with
      | none =>
          have stuck : (each f).run () (i :: is) = none := by
            simp [run, each, treated]
          simp [stuck, treated]
      | some here =>
          rw [each_run_cons treated, Option.map_eq_some_iff, List.forall_mem_cons,
            List.flatMap_cons, treated]
          constructor
          · intro given
            obtain ⟨more, rest, rfl⟩ := given
            obtain ⟨accepted, rfl⟩ := ih.mp rest
            exact ⟨⟨rfl, accepted⟩, rfl⟩
          · intro given
            obtain ⟨⟨-, accepted⟩, rfl⟩ := given
            exact ⟨_, ih.mpr ⟨accepted, rfl⟩, rfl⟩

/-- The same where every item makes one output. -/
theorem each_run_single_iff {f : ι → Option ο} {is : List ι} {out : List ο} :
    (each fun i => (f i).map fun o => [o]).run () is = some out ↔ is.map f = out.map some := by
  induction is generalizing out with
  | nil =>
      have empty : (each fun i => (f i).map fun o => [o]).run () [] = some [] := rfl
      rw [empty, Option.some_inj, List.map_nil, eq_comm, eq_comm (b := out.map some),
        List.map_eq_nil_iff]
  | cons i is ih =>
      cases treated : f i with
      | none =>
          have stuck : (each fun i => (f i).map fun o => [o]).run () (i :: is) = none := by
            simp [run, each, treated]
          cases out with
          | nil => simp [stuck]
          | cons o out => simp [stuck, treated]
      | some o =>
          have single : (f i).map (fun o => [o]) = some [o] := by rw [treated]; rfl
          rw [each_run_cons (f := fun i => (f i).map fun o => [o]) single,
            Option.map_eq_some_iff, List.map_cons, treated]
          constructor
          · intro given
            obtain ⟨more, rest, rfl⟩ := given
            rw [List.singleton_append, List.map_cons, ih.mp rest]
          · intro equal
            cases out with
            | nil => cases equal
            | cons o' out =>
                obtain ⟨here, rest⟩ := List.cons.inj equal
                obtain rfl : o = o' := Option.some.inj here
                exact ⟨out, ih.mpr rest, rfl⟩

section Payload

variable {input : ι → List γ} {held : σ → List γ} {output : ο → List γ}

/-- At no step does the machine write or hold more than it held and read, in order. -/
structure Carries (machine : Transducer σ ι ο) (input : ι → List γ) (held : σ → List γ)
    (output : ο → List γ) : Prop where
  step : ∀ s i out s', machine.step s i = some (out, s') →
    (out.flatMap output ++ held s').Sublist (held s ++ input i)
  finish : ∀ s out, machine.finish s = some out → (out.flatMap output).Sublist (held s)

/-- What a run writes is a part, in order, of what it held and read. -/
theorem payload_sublist (carries : Carries machine input held output) {s : σ} {is : List ι}
    {out : List ο} (ran : machine.run s is = some out) :
    (out.flatMap output).Sublist (held s ++ is.flatMap input) := by
  induction is generalizing s out with
  | nil => simpa using carries.finish s out ran
  | cons i is ih =>
      cases step : machine.step s i with
      | none => simp [run, step] at ran
      | some result =>
          obtain ⟨here, s'⟩ := result
          rw [run_cons step] at ran
          obtain ⟨more, rest, rfl⟩ := Option.map_eq_some_iff.mp ran
          have first := carries.step s i here s' step
          have whole : (here.flatMap output ++ (held s' ++ is.flatMap input)).Sublist
              (held s ++ (input i ++ is.flatMap input)) := by
            rw [← List.append_assoc, ← List.append_assoc]
            exact first.append_right _
          rw [List.flatMap_append, List.flatMap_cons]
          exact ((ih rest).append_left _).trans whole

/-- The same for a first part of a run. -/
theorem payload_advance (carries : Carries machine input held output) {s s' : σ} {is : List ι}
    {out : List ο} (advanced : machine.advance s is = some (out, s')) :
    (out.flatMap output ++ held s').Sublist (held s ++ is.flatMap input) := by
  induction is generalizing s out with
  | nil =>
      obtain ⟨rfl, rfl⟩ := Prod.mk.inj (Option.some.inj advanced)
      simp
  | cons i is ih =>
      cases step : machine.step s i with
      | none => simp [advance, step] at advanced
      | some result =>
          obtain ⟨here, middle⟩ := result
          rw [advance_cons step] at advanced
          obtain ⟨⟨more, reached⟩, rest, equal⟩ := Option.map_eq_some_iff.mp advanced
          obtain ⟨rfl, rfl⟩ := Prod.mk.inj equal
          have first := carries.step s i here middle step
          have whole : (here.flatMap output ++ (held middle ++ is.flatMap input)).Sublist
              (held s ++ (input i ++ is.flatMap input)) := by
            rw [← List.append_assoc, ← List.append_assoc]
            exact first.append_right _
          rw [List.flatMap_append, List.flatMap_cons, List.append_assoc]
          exact ((ih rest).append_left _).trans whole

theorem each_carries {f : ι → Option (List ο)}
    (parts : ∀ i out, f i = some out → (out.flatMap output).Sublist (input i)) :
    Carries (each f) input (fun _ => []) output where
  step _ i out _ step := by
    obtain ⟨written, treated, equal⟩ := Option.map_eq_some_iff.mp step
    obtain ⟨rfl, -⟩ := Prod.mk.inj equal
    simpa using parts i written treated
  finish _ out finish := by
    cases finish
    simp

end Payload

section Invariant

variable {Inv : σ → Prop} {Reads : ι → Prop} {Writes : ο → Prop}

/-- On inputs that satisfy `Reads` the machine keeps `Inv` and writes outputs that
satisfy `Writes`. -/
structure Keeps (machine : Transducer σ ι ο) (Inv : σ → Prop) (Reads : ι → Prop)
    (Writes : ο → Prop) : Prop where
  step : ∀ s i out s', Inv s → Reads i → machine.step s i = some (out, s') →
    Inv s' ∧ ∀ o ∈ out, Writes o
  finish : ∀ s out, Inv s → machine.finish s = some out → ∀ o ∈ out, Writes o

/-- Every output of a run has the property the steps give it. -/
theorem all_of_run (keeps : Keeps machine Inv Reads Writes) {s : σ} {is : List ι}
    {out : List ο} (start : Inv s) (reads : ∀ i ∈ is, Reads i)
    (ran : machine.run s is = some out) : ∀ o ∈ out, Writes o := by
  induction is generalizing s out with
  | nil => exact keeps.finish s out start ran
  | cons i is ih =>
      cases step : machine.step s i with
      | none => simp [run, step] at ran
      | some result =>
          obtain ⟨here, s'⟩ := result
          rw [run_cons step] at ran
          obtain ⟨more, rest, rfl⟩ := Option.map_eq_some_iff.mp ran
          obtain ⟨kept, written⟩ :=
            keeps.step s i here s' start (reads i (List.mem_cons_self ..)) step
          intro o member
          rcases List.mem_append.mp member with member | member
          · exact written o member
          · exact ih kept (fun j inRest => reads j (List.mem_cons_of_mem _ inRest)) rest o member

end Invariant

end Transducer
