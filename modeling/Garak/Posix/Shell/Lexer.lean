import Garak.Misc.Transducer

/-!
# Shell tokens

Quoting and token recognition of the POSIX shell command language (XCU 2.2 and 2.3),
as two transducers: the first resolves quotes, escapes and comments, the second cuts
its output into words and operators. Where the standard leaves the meaning of a text
open (an unfinished quote, a backslash at the very end) the first one rejects it.
-/

namespace Posix.Shell

/-- The single quote. -/
def quote : Char := Char.ofNat 39

/-- The double quote. -/
def doubleQuote : Char := Char.ofNat 34

/-- The backslash. -/
def backslash : Char := Char.ofNat 92

/-- The grave accent, which opens a command substitution. -/
def backquote : Char := Char.ofNat 96

/-- The newline. -/
def newline : Char := Char.ofNat 10

/-- A blank separates words. -/
def isBlank (c : Char) : Bool := c == ' ' || c == Char.ofNat 9

/-- A character operators consist of. The newline is one of them. -/
def isOperatorChar (c : Char) : Bool :=
  c == '&' || c == '|' || c == ';' || c == '<' || c == '>' || c == '(' || c == ')' || c == newline

/-- The operators. -/
def operators : List (List Char) :=
  ["&".toList, "&&".toList, "|".toList, "||".toList, ";".toList, ";;".toList, ";&".toList,
    "<".toList, "<<".toList, "<&".toList, "<>".toList, "<<-".toList, ">".toList, ">>".toList,
    ">&".toList, ">|".toList, "(".toList, ")".toList, [newline]]

/-! ## Quoting -/

/-- A character of the text, by what protects it. -/
inductive Item
  /-- not quoted -/
  | bare (c : Char)
  /-- between double quotes: expansions still take place -/
  | soft (c : Char)
  /-- between single quotes, or after a backslash -/
  | hard (c : Char)
  /-- where a quote stood; it goes, but the word it stood in stays -/
  | mark
deriving DecidableEq

/-- Where in the text the reader is. -/
inductive Mode
  /-- outside quotes; the flag is set where a token may begin -/
  | bare (start : Bool)
  | comment
  | escape (start : Bool)
  | single
  | double
  | doubleEscape
deriving DecidableEq

/-- One character of quote recognition. -/
def quoteStep : Mode → Char → Option (List Item × Mode)
  | .bare start, c =>
      if c = backslash then some ([], .escape start)
      else if c = quote then some ([.mark], .single)
      else if c = doubleQuote then some ([.mark], .double)
      else if c = '#' ∧ start = true then some ([], .comment)
      else some ([.bare c], .bare (isBlank c || isOperatorChar c))
  | .comment, c => if c = newline then some ([.bare c], .bare true) else some ([], .comment)
  | .escape start, c =>
      -- a backslash and a newline vanish together
      if c = newline then some ([], .bare start) else some ([.hard c], .bare false)
  | .single, c => if c = quote then some ([.mark], .bare false) else some ([.hard c], .single)
  | .double, c =>
      if c = doubleQuote then some ([.mark], .bare false)
      else if c = backslash then some ([], .doubleEscape)
      else some ([.soft c], .double)
  | .doubleEscape, c =>
      if c = newline then some ([], .double)
      else if c = '$' ∨ c = backquote ∨ c = doubleQuote ∨ c = backslash then
        some ([.hard c], .double)
      else some ([.soft backslash, .soft c], .double)

/-- The characters that quote others. -/
def isQuoting (c : Char) : Bool := c == quote || c == doubleQuote || c == backslash

theorem quoteStep_bare {start : Bool} {c : Char} (clean : isQuoting c = false)
    (word : ¬ (c = '#' ∧ start = true)) :
    quoteStep (.bare start) c = some ([.bare c], .bare (isBlank c || isOperatorChar c)) := by
  simp only [isQuoting, Bool.or_eq_false_iff, beq_eq_false_iff_ne] at clean
  rw [quoteStep, if_neg clean.2, if_neg clean.1.1, if_neg clean.1.2, if_neg word]

theorem quoteStep_hash : quoteStep (.bare true) '#' = some ([], .comment) := rfl

theorem quoteStep_quote (start : Bool) : quoteStep (.bare start) quote = some ([.mark], .single) :=
  rfl

theorem quoteStep_doubleQuote (start : Bool) :
    quoteStep (.bare start) doubleQuote = some ([.mark], .double) :=
  rfl

theorem quoteStep_backslash (start : Bool) :
    quoteStep (.bare start) backslash = some ([], .escape start) :=
  rfl

theorem quoteStep_comment {c : Char} (inside : c ≠ newline) :
    quoteStep .comment c = some ([], .comment) :=
  if_neg inside

theorem quoteStep_comment_newline :
    quoteStep .comment newline = some ([.bare newline], .bare true) :=
  rfl

/-- Quote removal, with the protection of each character remembered. -/
def quoting : Transducer Mode Char Item where
  step := quoteStep
  finish
    | .bare _ => some []
    | .comment => some []
    | _ => none

theorem quoting_step (mode : Mode) (c : Char) : quoting.step mode c = quoteStep mode c := rfl

/-! ## Token recognition -/

/-- A token. -/
inductive Token
  | word (items : List Item)
  | operator (text : List Char)
deriving DecidableEq

/-- The token being read. -/
inductive Pending
  | nothing
  | word (items : List Item)
  | operator (text : List Char)
deriving DecidableEq

/-- End the token being read. -/
def Pending.flush : Pending → List Token
  | .nothing => []
  | .word items => [.word items]
  | .operator text => [.operator text]

/-- The item belongs to a word. -/
def Pending.extend : Pending → Item → List Token × Pending
  | .word items, i => ([], .word (items ++ [i]))
  | pending, i => (pending.flush, .word [i])

/-- One item of token recognition. -/
def tokenStep (pending : Pending) : Item → List Token × Pending
  | .bare c =>
      if isOperatorChar c then
        match pending with
        | .operator text =>
            if text ++ [c] ∈ operators then ([], .operator (text ++ [c]))
            else (pending.flush, .operator [c])
        | _ => (pending.flush, .operator [c])
      else if isBlank c then (pending.flush, .nothing)
      else pending.extend (.bare c)
  | i => pending.extend i

/-- Token recognition. -/
def tokenising : Transducer Pending Item Token where
  step pending i := some (tokenStep pending i)
  finish pending := some pending.flush

theorem tokenising_step (pending : Pending) (i : Item) :
    tokenising.step pending i = some (tokenStep pending i) :=
  rfl

/-! ## Lists of commands -/

/-- A sequence of simple commands joined by `&&`, each a sequence of words. Any other
operator is more than that. -/
def andList : Transducer (List (List Item)) Token (List (List Item)) where
  step
    | words, .word items => some ([], words ++ [items])
    | words, .operator text =>
        if text = "&&".toList ∧ words ≠ [] then some ([words], []) else none
  finish words := if words = [] then none else some [words]

end Posix.Shell
