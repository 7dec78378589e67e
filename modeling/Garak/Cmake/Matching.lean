import Garak.Cmake.Rules

/-!
# What stays inside a scope

Code that only sets variables acts `Locally`, and a function made of such code leaves its
caller's state as it was. `string(REGEX MATCH)` is such code: it sets the variable it is
given and those named `CMAKE_MATCH_<n>`.
-/

namespace Cmake

/-- The states differ in variables of the current scope, and there under these names
only. -/
def Locally (names : String → Prop) (s s' : State) : Prop :=
  ∃ scope, s' = { s with scope := scope } ∧ ∀ name, ¬ names name → scope name = s.scope name

section Locally

variable {names names' : String → Prop} {s s' s'' : State}

theorem Locally.refl (names : String → Prop) (s : State) : Locally names s s :=
  ⟨s.scope, rfl, fun _ _ => rfl⟩

theorem Locally.trans (first : Locally names s s') (second : Locally names s' s'') :
    Locally names s s'' := by
  obtain ⟨scope, rfl, same⟩ := first
  obtain ⟨scope', rfl, same'⟩ := second
  exact ⟨scope', rfl, fun name apart => (same' name apart).trans (same name apart)⟩

theorem Locally.mono (acts : Locally names s s') (more : ∀ name, names name → names' name) :
    Locally names' s s' := by
  obtain ⟨scope, rfl, same⟩ := acts
  exact ⟨scope, rfl, fun name apart => same name fun listed => apart (more name listed)⟩

theorem Locally.lookup (acts : Locally names s s') {name : String} (apart : ¬ names name) :
    s'.lookup name = s.lookup name := by
  obtain ⟨scope, rfl, same⟩ := acts
  simp only [State.lookup, same name apart]

theorem Locally.value (acts : Locally names s s') {name : String} (apart : ¬ names name) :
    s'.value name = s.value name := by
  unfold State.value
  rw [acts.lookup apart]

theorem locally_update {name : String} (listed : names name) (value : Option String) :
    Locally names s (s.setScope name value) := by
  refine ⟨_, rfl, fun other apart => ?_⟩
  have other_ne : other ≠ name := fun same => apart (same ▸ listed)
  exact Function.update_of_ne other_ne ..

theorem locally_assign {name : String} (listed : names name) (value : String) :
    Locally names s (s.assign name value) :=
  locally_update listed (some value)

theorem locally_foldl {α : Type} {f : State → α → State} (step : ∀ s a, Locally names s (f s a))
    (items : List α) (s : State) : Locally names s (items.foldl f s) := by
  induction items generalizing s with
  | nil => exact Locally.refl names s
  | cons a items ih => exact (step s a).trans (ih (f s a))

/-- What a function did to its own variables is gone when it returns. -/
theorem Locally.leave (acts : Locally names s.enter s') : s'.leave = s := by
  obtain ⟨scope, rfl, -⟩ := acts
  rfl

end Locally

theorem State.lookup_assign_self (s : State) (name value : String) :
    (s.assign name value).lookup name = some value :=
  lookup_setScope_self ..

theorem State.lookup_assign_of_ne (s : State) {name other : String} (apart : other ≠ name)
    (value : String) : (s.assign name value).lookup other = s.lookup other :=
  lookup_setScope_of_ne apart

/-! ## Calls -/

/-- Rule for a call: the body runs on a copy of the caller's variables and its
parameters. -/
theorem ends_callFunction {parameters : List (String × String)} {body : Script Unit} {s : State}
    {done : Unit → State → Prop} {stopped : String → State → Prop}
    (inside : Ends body (parameters.foldl (fun s entry => s.assign entry.1 entry.2) s.enter)
      (fun _ s' => done () s'.leave) stopped) :
    Ends (callFunction parameters body) s done stopped := by
  apply ends_bind_of_ok (exec_modify _ _)
  apply ends_bind_of_ok (exec_modify _ _)
  apply Ends.bind
  refine inside.mono (fun a s' returns => ?_) (fun _ _ holds => holds)
  exact ends_of_ok (exec_modify _ _) returns

/-! ## Regular expressions -/

/-- A name that regular expressions write to. -/
def IsMatch (name : String) : Prop := "CMAKE_MATCH_".toList <+: name.toList

instance (name : String) : Decidable (IsMatch name) := inferInstanceAs (Decidable (_ <+: _))

theorem isMatch_matchVariable (n : Nat) : IsMatch (matchVariable n) := by
  unfold IsMatch matchVariable
  rw [String.toList_append]
  exact List.prefix_append ..

theorem isMatch_count : IsMatch "CMAKE_MATCH_COUNT" := by decide

theorem clearMatches_locally (s : State) : Locally IsMatch s s.clearMatches := by
  unfold State.clearMatches
  cases s.lookup "CMAKE_MATCH_COUNT" with
  | none => exact Locally.refl IsMatch s
  | some count =>
      refine (locally_foldl (fun s n => ?_) _ s).trans (locally_assign isMatch_count "0")
      split
      · exact Locally.refl IsMatch s
      · exact locally_assign (isMatch_matchVariable n) ""

/-- Without a match the count is no positive number. -/
theorem clearMatches_count (s : State) {n : Nat}
    (counted : number (s.clearMatches.operand "CMAKE_MATCH_COUNT") = some n) : n = 0 := by
  unfold State.clearMatches at counted
  cases known : s.lookup "CMAKE_MATCH_COUNT" with
  | none =>
      rw [known] at counted
      unfold State.operand at counted
      rw [known] at counted
      have word : number "CMAKE_MATCH_COUNT" = none := by decide
      cases word.symm.trans counted
  | some count =>
      rw [known] at counted
      unfold State.operand at counted
      rw [State.lookup_assign_self] at counted
      exact (Option.some.inj (counted.symm.trans (by decide : number "0" = some 0)))

section Matches

variable {regex : Regex} {name input : String} {s : State}

/-- Where there is no match, the count says so. -/
theorem exec_stringRegexMatch_none (outside : ¬ IsMatch name)
    (none : Leftmost.search regex.matchHere input.toList = none) :
    ∃ s', (stringRegexMatch regex name input).exec s = (.ok (), s') ∧
      Locally (fun other => other = name ∨ IsMatch other) s s' ∧
      number (s'.operand "CMAKE_MATCH_COUNT") ≠ some 1 := by
  refine ⟨s.clearMatches.assign name "", ?_, ?_, ?_⟩
  · unfold stringRegexMatch
    rw [exec_bind_ok (exec_modify _ s), none]
    rfl
  · exact ((clearMatches_locally s).mono fun _ => .inr).trans (locally_assign (.inl rfl) "")
  · intro counted
    have apart : "CMAKE_MATCH_COUNT" ≠ name := fun same => outside (same ▸ isMatch_count)
    unfold State.operand at counted
    rw [State.lookup_assign_of_ne _ apart] at counted
    exact absurd (clearMatches_count s counted) Nat.one_ne_zero

/-- A match whose one group captured something. -/
theorem exec_stringRegexMatch_some (outside : ¬ IsMatch name) {found group : List Char}
    (nonempty : found ≠ [] ∧ group ≠ [])
    (hit : Leftmost.search regex.matchHere input.toList = some (found, [group])) :
    ∃ s', (stringRegexMatch regex name input).exec s = (.ok (), s') ∧
      Locally (fun other => other = name ∨ IsMatch other) s s' ∧
      number (s'.operand "CMAKE_MATCH_COUNT") = some 1 ∧
      s'.value "CMAKE_MATCH_1" = String.ofList group := by
  have stored : s.clearMatches.storeFrom 0 [found, group] =
      (s.clearMatches.assign "CMAKE_MATCH_0" (String.ofList found)).assign "CMAKE_MATCH_1"
        (String.ofList group) := by
    rw [State.storeFrom, if_neg nonempty.1, State.storeFrom, if_neg nonempty.2]
    rfl
  have last : lastGroup [group] = 1 := by
    simp [lastGroup, nonempty.2]
  refine ⟨(((s.clearMatches.assign "CMAKE_MATCH_0" (String.ofList found)).assign "CMAKE_MATCH_1"
    (String.ofList group)).assign "CMAKE_MATCH_COUNT" "1").assign name (String.ofList found),
    ?_, ?_, ?_, ?_⟩
  · unfold stringRegexMatch
    rw [exec_bind_ok (exec_modify _ s), hit]
    simp only [last, if_neg nonempty.1]
    rw [exec_bind_ok (exec_modify _ _), stored]
    rfl
  · refine ((clearMatches_locally s).mono fun _ => .inr).trans ?_
    refine (locally_assign (.inr (isMatch_matchVariable 0)) (String.ofList found)).trans ?_
    refine (locally_assign (.inr (isMatch_matchVariable 1)) (String.ofList group)).trans ?_
    exact (locally_assign (.inr isMatch_count) _).trans (locally_assign (.inl rfl) _)
  · have apart : "CMAKE_MATCH_COUNT" ≠ name := fun same => outside (same ▸ isMatch_count)
    unfold State.operand
    rw [State.lookup_assign_of_ne _ apart, State.lookup_assign_self]
    decide
  · have apart : "CMAKE_MATCH_1" ≠ name := fun same => outside (same ▸ isMatch_matchVariable 1)
    unfold State.value
    rw [State.lookup_assign_of_ne _ apart, State.lookup_assign_of_ne _ (by decide),
      State.lookup_assign_self]
    rfl

end Matches

end Cmake
