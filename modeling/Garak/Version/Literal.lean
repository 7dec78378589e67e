import Mathlib.Data.List.Basic
import Std.Data.String.ToNat

/-!
# C++ integer literals

The non-negative integer literals of C++20: a decimal, octal, hexadecimal or binary
body, with single quotes allowed between its digits, and a suffix. `text` is the
spelling, `value` the number.
-/

namespace Version

/-- The digit separator, a single quote. -/
def separator : Char := Char.ofNat 39

/-- A digit of the given base; the flag picks the capital letter where there is one. -/
structure Digit (base : Nat) where
  number : Fin base
  capital : Bool
deriving DecidableEq

/-- The spelling of a digit. -/
def Digit.char {base : Nat} (d : Digit base) : Char :=
  if d.capital then (Nat.digitChar d.number).toUpper else Nat.digitChar d.number

/-- A digit after the first, and whether a separator stands before it. -/
structure Next (base : Nat) where
  separated : Bool
  digit : Digit base
deriving DecidableEq

/-- The spelling of the digits after the first. -/
def restText {base : Nat} (rest : List (Next base)) : List Char :=
  rest.flatMap fun next =>
    if next.separated then [separator, next.digit.char] else [next.digit.char]

/-- The number written by a first digit and the digits after it. -/
def restValue {base : Nat} (first : Nat) (rest : List (Next base)) : Nat :=
  rest.foldl (fun n next => base * n + next.digit.number) first

/-- The suffixes of an integer literal, the empty one included. -/
def suffixes : List String :=
  ["", "u", "U", "l", "L", "ll", "LL", "ul", "uL", "Ul", "UL", "lu", "lU", "Lu", "LU",
    "ull", "uLL", "Ull", "ULL", "llu", "llU", "LLu", "LLU"]

/-- The digits of a literal, with their prefix. -/
inductive Body
  /-- a nonzero digit, then digits -/
  | decimal (first : Fin 9) (rest : List (Next 10))
  /-- `0`, then digits; `0` itself is octal -/
  | octal (rest : List (Next 8))
  /-- `0x` or `0X`, then digits -/
  | hexadecimal (capital : Bool) (first : Digit 16) (rest : List (Next 16))
  /-- `0b` or `0B`, then digits -/
  | binary (capital : Bool) (first : Digit 2) (rest : List (Next 2))
deriving DecidableEq

/-- A non-negative integer literal. -/
structure IntLiteral where
  body : Body
  suffix : String
  listed : suffix ∈ suffixes

/-- The number a literal stands for. -/
def Body.value : Body → Nat
  | .decimal first rest => restValue (first + 1) rest
  | .octal rest => restValue 0 rest
  | .hexadecimal _ first rest => restValue first.number rest
  | .binary _ first rest => restValue first.number rest

/-- The spelling of a literal without its suffix. -/
def Body.text : Body → List Char
  | .decimal first rest => Nat.digitChar (first + 1) :: restText rest
  | .octal rest => '0' :: restText rest
  | .hexadecimal capital first rest =>
      '0' :: (if capital then 'X' else 'x') :: first.char :: restText rest
  | .binary capital first rest =>
      '0' :: (if capital then 'B' else 'b') :: first.char :: restText rest

/-- The number a literal stands for. -/
def IntLiteral.value (literal : IntLiteral) : Nat := literal.body.value

/-- The spelling of a literal. -/
def IntLiteral.text (literal : IntLiteral) : List Char :=
  literal.body.text ++ literal.suffix.toList

/-! ## The decimal form of a number -/

/-- `std::to_string` of a non-negative integer. -/
def decimal (n : Nat) : List Char := Nat.toDigits 10 n

theorem decimal_ne_nil (n : Nat) : decimal n ≠ [] := Nat.toDigits_ne_nil

theorem isDigit_of_mem_decimal {n : Nat} {c : Char} (member : c ∈ decimal n) :
    c.isDigit = true :=
  Nat.isDigit_of_mem_toDigits (by omega) (by omega) member

/-- Only zero is written with a leading zero. -/
theorem eq_zero_of_decimal_zero {n : Nat} {digits : List Char}
    (leading : decimal n = '0' :: digits) : n = 0 := by
  induction n using Nat.strongRecOn generalizing digits with
  | ind n ih =>
      by_cases small : n < 10
      · unfold decimal at leading
        rw [Nat.toDigits_of_lt_base small] at leading
        have head := List.head_eq_of_cons_eq leading
        revert head
        have table : ∀ n < 10, Nat.digitChar n = '0' → n = 0 := by decide
        exact table n small
      · have split : decimal n = decimal (n / 10) ++ [Nat.digitChar (n % 10)] :=
          Nat.toDigits_of_base_le (by omega) (Nat.le_of_not_lt small)
        rw [split] at leading
        -- the leading digit is that of the quotient, which is positive
        cases quotient : decimal (n / 10) with
        | nil => exact absurd quotient (decimal_ne_nil _)
        | cons c cs =>
            rw [quotient, List.cons_append] at leading
            obtain rfl := List.head_eq_of_cons_eq leading
            have := ih (n / 10) (by omega) quotient
            omega

/-- Appending a digit to the decimal form of a positive number. -/
theorem decimal_concat {n d : Nat} (positive : 0 < n) (digit : d < 10) :
    decimal (10 * n + d) = decimal n ++ [Nat.digitChar d] := by
  unfold decimal
  rw [← Nat.toDigits_append_toDigits (by omega) positive digit, Nat.toDigits_of_lt_base digit]

/-- The decimal form of a decimal literal is its digits, without separators. -/
theorem decimal_restValue {first : Nat} (positive : 0 < first) (rest : List (Next 10)) :
    decimal (restValue first rest) =
      decimal first ++ rest.map fun next => Nat.digitChar next.digit.number := by
  induction rest generalizing first with
  | nil => simp [restValue]
  | cons next rest ih =>
      have grown : 0 < 10 * first + next.digit.number := by omega
      have step := ih grown
      rw [decimal_concat positive next.digit.number.isLt] at step
      simpa [restValue] using step

end Version
