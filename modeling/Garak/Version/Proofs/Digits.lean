import Garak.Version.Literal
import Mathlib.Data.List.TakeWhile

/-!
# The first digits of a literal

A reader that knows nothing about C++ takes the digits a literal begins with. They are
the decimal form of its value for a decimal literal without separators, and otherwise
only for the value zero.
-/

namespace Version

/-- The digits a literal begins with are the decimal form of its value. -/
def Body.Faithful : Body → Prop
  | .decimal _ rest => ∀ next ∈ rest, next.separated = false
  | .octal rest => restValue 0 rest = 0 ∧ ∀ next ∈ rest.head?, next.separated = true
  | .hexadecimal _ first rest => restValue first.number rest = 0
  | .binary _ first rest => restValue first.number rest = 0

/-- A digit of a base up to ten is a decimal digit, and has no capital letter. -/
theorem Digit.char_of_base_le {base : Nat} (small : base ≤ 10) (d : Digit base) :
    d.char = Nat.digitChar d.number ∧ d.char.isDigit = true := by
  have table : ∀ n < 10, ∀ capital : Bool,
      (if capital then (Nat.digitChar n).toUpper else Nat.digitChar n) = Nat.digitChar n ∧
        (Nat.digitChar n).isDigit = true := by
    decide
  have bound : d.number.val < 10 := Nat.lt_of_lt_of_le d.number.isLt small
  obtain ⟨char, digit⟩ := table d.number bound d.capital
  exact ⟨char, by rw [Digit.char, char]; exact digit⟩

theorem suffix_takeWhile {suffix : String} (listed : suffix ∈ suffixes) :
    suffix.toList.takeWhile Char.isDigit = [] := by
  have table : ∀ suffix ∈ suffixes, suffix.toList.takeWhile Char.isDigit = [] := by decide
  exact table suffix listed

/-- The digits up to the first separator. -/
theorem restText_takeWhile {base : Nat} (small : base ≤ 10) (rest : List (Next base))
    {suffix : String} (listed : suffix ∈ suffixes) :
    (restText rest ++ suffix.toList).takeWhile Char.isDigit =
      (rest.takeWhile fun next => !next.separated).map fun next =>
        Nat.digitChar next.digit.number := by
  induction rest with
  | nil => exact suffix_takeWhile listed
  | cons next rest ih =>
      obtain ⟨char, digit⟩ := next.digit.char_of_base_le small
      cases separated : next.separated with
      | true =>
          have stop : separator.isDigit = false := by decide
          simp [restText, separated, stop]
      | false =>
          unfold restText at ih
          simp [restText, separated, digit, ih]
          exact char

/-- A leading zero is the decimal form of zero only, and then it stands alone. -/
theorem zero_cons_eq_decimal_iff (digits : List Char) (n : Nat) :
    '0' :: digits = decimal n ↔ n = 0 ∧ digits = [] := by
  constructor
  · intro same
    obtain rfl := eq_zero_of_decimal_zero same.symm
    exact ⟨rfl, List.tail_eq_of_cons_eq same⟩
  · intro given
    obtain ⟨rfl, rfl⟩ := given
    rfl

theorem map_takeWhile_eq_iff {α β : Type} (p : α → Bool) (f : α → β) (xs : List α) :
    (xs.takeWhile p).map f = xs.map f ↔ ∀ x ∈ xs, p x = true := by
  rw [← List.takeWhile_eq_self_iff]
  constructor
  · intro same
    have length := congrArg List.length same
    rw [List.length_map, List.length_map] at length
    exact (List.takeWhile_prefix p).eq_of_length length
  · intro all
    rw [all]

/-- The digits a literal begins with are the decimal form of its value exactly when the
literal is faithful. -/
theorem takeWhile_eq_decimal_iff (literal : IntLiteral) :
    literal.text.takeWhile Char.isDigit = decimal literal.value ↔ literal.body.Faithful := by
  obtain ⟨body, suffix, listed⟩ := literal
  have zero : Char.isDigit '0' = true := by decide
  cases body with
  | decimal first rest =>
      have head : (Nat.digitChar (first + 1)).isDigit = true := by
        have table : ∀ n : Fin 9, (Nat.digitChar (n + 1)).isDigit = true := by decide
        exact table first
      have single : decimal (first + 1) = [Nat.digitChar (first + 1)] :=
        Nat.toDigits_of_lt_base (by omega)
      simp only [IntLiteral.text, IntLiteral.value, Body.text, Body.value, List.cons_append,
        List.takeWhile_cons_of_pos head, restText_takeWhile (Nat.le_refl 10) rest listed,
        decimal_restValue (Nat.succ_pos _), single, List.nil_append, List.cons.injEq, true_and,
        map_takeWhile_eq_iff, Body.Faithful, Bool.not_eq_true']
  | octal rest =>
      simp only [IntLiteral.text, IntLiteral.value, Body.text, Body.value, List.cons_append,
        List.takeWhile_cons_of_pos zero, restText_takeWhile (by omega) rest listed,
        zero_cons_eq_decimal_iff, Body.Faithful, List.map_eq_nil_iff]
      apply and_congr_right
      intro _
      cases rest with
      | nil => simp
      | cons next rest => cases separated : next.separated <;> simp [separated]
  | hexadecimal capital first rest =>
      have stop : (if capital then 'X' else 'x').isDigit = false := by cases capital <;> decide
      simp [IntLiteral.text, IntLiteral.value, Body.text, Body.value, zero, stop,
        zero_cons_eq_decimal_iff, Body.Faithful]
  | binary capital first rest =>
      have stop : (if capital then 'B' else 'b').isDigit = false := by cases capital <;> decide
      simp [IntLiteral.text, IntLiteral.value, Body.text, Body.value, zero, stop,
        zero_cons_eq_decimal_iff, Body.Faithful]

end Version
