import Mathlib.Data.List.Basic

/-!
# Leftmost matches

`search accepts text` is the result of `accepts` at the first position of a text where
it has one. A matcher that never looks past a separator can be run line by line.
-/

namespace Leftmost

variable {α β : Type} {accepts : List α → Option β}

/-- The result at the leftmost position that has one. -/
def search (accepts : List α → Option β) : List α → Option β
  | [] => accepts []
  | x :: xs =>
      match accepts (x :: xs) with
      | some b => some b
      | none => search accepts xs

/-- What follows a separator does not change the result at a position before it. -/
def StopsAt (accepts : List α → Option β) (sep : α) : Prop :=
  (∀ before after, accepts (before ++ sep :: after) = accepts before) ∧ accepts [] = none

theorem search_cons_of_none {x : α} {xs : List α} (no : accepts (x :: xs) = none) :
    search accepts (x :: xs) = search accepts xs := by
  simp only [search, no]

theorem search_of_some {text : List α} {b : β} (yes : accepts text = some b) :
    search accepts text = some b := by
  cases text with
  | nil => exact yes
  | cons x xs => simp only [search, yes]

/-- What the search returns was accepted somewhere in the text. -/
theorem accepted_of_search {text : List α} {b : β} (found : search accepts text = some b) :
    ∃ tail, accepts tail = some b := by
  induction text with
  | nil => exact ⟨[], found⟩
  | cons x xs ih =>
      cases here : accepts (x :: xs) with
      | some b' =>
          rw [search_of_some here] at found
          exact ⟨x :: xs, here.trans found⟩
      | none =>
          rw [search_cons_of_none here] at found
          exact ih found

/-- A search for what is made of the results. -/
theorem search_map {γ : Type} (f : β → γ) (text : List α) :
    search (fun rest => (accepts rest).map f) text = (search accepts text).map f := by
  induction text with
  | nil => rfl
  | cons x xs ih =>
      cases here : accepts (x :: xs) with
      | some b =>
          rw [search_of_some here, search_of_some (by rw [here]; rfl)]
          rfl
      | none =>
          rw [search_cons_of_none here, search_cons_of_none (by rw [here]; rfl), ih]

/-- Skip a prefix at none of whose positions there is a match. -/
theorem search_append_of_none {before text : List α}
    (no : ∀ tail, tail ≠ [] → tail <:+ before → accepts (tail ++ text) = none) :
    search accepts (before ++ text) = search accepts text := by
  induction before with
  | nil => rfl
  | cons x before ih =>
      have here : accepts (x :: before ++ text) = none :=
        no (x :: before) (List.cons_ne_nil _ _) (List.suffix_refl _)
      rw [List.cons_append] at here ⊢
      rw [search_cons_of_none here]
      exact ih fun tail nonempty suffix =>
        no tail nonempty (suffix.trans (List.suffix_cons x before))

/-- A separator splits the search in two. -/
theorem search_append_sep {sep : α} (stops : StopsAt accepts sep) (first second : List α) :
    search accepts (first ++ sep :: second) =
      match search accepts first with
      | some b => some b
      | none => search accepts second := by
  induction first with
  | nil =>
      have here := stops.1 [] second
      rw [stops.2] at here
      rw [List.nil_append] at here ⊢
      rw [search_cons_of_none here]
      simp only [search, stops.2]
  | cons x first ih =>
      have here := stops.1 (x :: first) second
      cases result : accepts (x :: first) with
      | some b =>
          rw [result] at here
          rw [search_of_some here, search_of_some result]
      | none =>
          rw [result] at here
          rw [List.cons_append] at here ⊢
          rw [search_cons_of_none here, search_cons_of_none result, ih]

/-- The search through a text is a search through its lines. -/
theorem search_intercalate {sep : α} (stops : StopsAt accepts sep) (lines : List (List α)) :
    search accepts ([sep].intercalate lines) = lines.findSome? (search accepts) := by
  induction lines with
  | nil => exact stops.2
  | cons line lines ih =>
      cases lines with
      | nil =>
          simp only [List.intercalate_singleton, List.findSome?_cons, List.findSome?_nil]
          cases search accepts line <;> rfl
      | cons next lines =>
          rw [List.intercalate_cons_cons, List.append_assoc, List.singleton_append,
            search_append_sep stops, ih]
          rfl

end Leftmost
