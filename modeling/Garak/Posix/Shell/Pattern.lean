import Mathlib.Data.List.Basic

/-!
# Shell patterns

The pattern matching notation of the POSIX shell (XCU 2.13), as pathname expansion uses
it. Which characters a bracket expression stands for depends on the locale; here it may
match any one but a slash.
-/

namespace Posix.Shell

/-- A text in which each character is marked as one that may be special, or as a quoted
one. -/
abbrev Pattern := List (Char × Bool)

/-- The list of a bracket expression, what follows its opening bracket being given. -/
def bracketList : Pattern → Pattern
  | (c, true) :: rest => if c = '!' ∨ c = '^' then rest else (c, true) :: rest
  | pattern => pattern

/-- What follows an opening bracket closes it, within one pathname component. -/
def bracketCloses (pattern : Pattern) : Bool :=
  match bracketList pattern with
  | (c, _) :: rest => c != '/' && (rest.takeWhile fun x => x.1 != '/').contains (']', true)
  | [] => false

/-- What follows the closing bracket. -/
def afterBracket (pattern : Pattern) : Pattern :=
  match bracketList pattern with
  | _ :: rest => (rest.dropWhile fun x => x != (']', true)).tail
  | [] => []

/-- The character is special before the rest of the pattern. -/
def isWild (c : Char) (special : Bool) (rest : Pattern) : Bool :=
  special && (c == '*' || c == '?' || (c == '[' && bracketCloses rest))

/-- The pattern has a special character. -/
def isPattern : Pattern → Bool
  | [] => false
  | (c, special) :: rest => isWild c special rest || isPattern rest

/-- The pattern matches the name. -/
inductive Matches : Pattern → List Char → Prop
  | nil : Matches [] []
  | star {rest : Pattern} {before after : List Char} (inComponent : '/' ∉ before)
      (matched : Matches rest after) : Matches (('*', true) :: rest) (before ++ after)
  | mark {rest : Pattern} {c : Char} {after : List Char} (inComponent : c ≠ '/')
      (matched : Matches rest after) : Matches (('?', true) :: rest) (c :: after)
  | bracket {rest : Pattern} {c : Char} {after : List Char} (closes : bracketCloses rest = true)
      (inComponent : c ≠ '/') (matched : Matches (afterBracket rest) after) :
      Matches (('[', true) :: rest) (c :: after)
  | literal {c : Char} {special : Bool} {rest : Pattern} {after : List Char}
      (plain : isWild c special rest = false) (matched : Matches rest after) :
      Matches ((c, special) :: rest) (c :: after)

theorem length_bracketList_le (pattern : Pattern) :
    (bracketList pattern).length ≤ pattern.length := by
  unfold bracketList
  split
  · split
    · simp
    · simp
  · simp

theorem length_afterBracket_le (pattern : Pattern) :
    (afterBracket pattern).length ≤ pattern.length := by
  have listed := length_bracketList_le pattern
  unfold afterBracket
  split
  · rename_i first rest equal
    have dropped : (rest.dropWhile fun x => x != (']', true)).length ≤ rest.length :=
      (List.dropWhile_sublist _).length_le
    rw [equal, List.length_cons] at listed
    rw [List.length_tail]
    omega
  · simp

theorem isWild_cases {c : Char} {special : Bool} {rest : Pattern}
    (wild : isWild c special rest = true) :
    special = true ∧ (c = '*' ∨ c = '?' ∨ (c = '[' ∧ bracketCloses rest = true)) := by
  simpa [isWild, or_assoc] using wild

/-- Every pattern matches some name, and one with a special character matches a name
that is not its own text. -/
theorem exists_other_match (pattern : Pattern) :
    ∃ name, Matches pattern name ∧ (isPattern pattern = true → name ≠ pattern.map Prod.fst) := by
  induction size : pattern.length using Nat.strongRecOn generalizing pattern with
  | ind n ih =>
      cases pattern with
      | nil =>
          refine ⟨[], .nil, ?_⟩
          intro yes
          cases yes
      | cons first rest =>
          obtain ⟨c, special⟩ := first
          rw [List.length_cons] at size
          obtain ⟨after, matched, other⟩ := ih rest.length (by omega) rest rfl
          by_cases wild : isWild c special rest = true
          · -- an x stands where the special character was
            obtain ⟨rfl, rfl | rfl | ⟨rfl, closes⟩⟩ := isWild_cases wild
            · exact ⟨['x'] ++ after, .star (by decide) matched, by simp⟩
            · exact ⟨'x' :: after, .mark (by decide) matched, by simp⟩
            · have shorter := length_afterBracket_le rest
              obtain ⟨last, matched', -⟩ := ih _ (by omega) (afterBracket rest) rfl
              exact ⟨'x' :: last, .bracket closes (by decide) matched', by simp⟩
          · refine ⟨c :: after, .literal (by simpa using wild) matched, ?_⟩
            intro yes equal
            rw [isPattern, Bool.or_eq_true] at yes
            rw [List.map_cons] at equal
            exact other (yes.resolve_left wild) (List.cons.inj equal).2

end Posix.Shell
