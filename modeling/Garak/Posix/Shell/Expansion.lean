import Garak.Posix.Shell.Lexer
import Garak.Posix.Shell.Pattern

/-!
# Word expansion

The word expansions of the POSIX shell (XCU 2.6): tilde, parameter, field splitting,
pathname expansion and quote removal. What the shell looks up is an `Env`. A command
substitution, an arithmetic expansion or a parameter in braces makes the shell do more
than look something up, and before most other characters the standard leaves a dollar
sign open; such a word is rejected.
-/

namespace Posix.Shell

/-- What expansions depend on. `IFS` is the default one. -/
structure Env where
  /-- value of a parameter, empty when it is unset -/
  param : List Char → List Char
  /-- home directory for a login name, `[]` being the name for the user's own -/
  home : List Char → Option (List Char)
  /-- the existing pathnames that a pattern matches -/
  glob : Pattern → List (List Char)
  glob_matches : ∀ pattern, ∀ name ∈ glob pattern, Matches pattern name

/-! ## Tilde expansion -/

/-- The characters of a sequence of unquoted items. -/
def bareText : List Item → Option (List Char)
  | [] => some []
  | .bare c :: items => (bareText items).map (c :: ·)
  | _ => none

/-- Replace the tilde-prefix of a word. -/
def tilde (env : Env) (items : List Item) : List Item :=
  match items with
  | .bare c :: rest =>
      if c = '~' then
        match (bareText (rest.takeWhile (· ≠ .bare '/'))).bind env.home with
        | some dir => .mark :: (dir.map .hard ++ rest.dropWhile (· ≠ .bare '/'))
        | none => items
      else items
  | _ => items

/-! ## Parameter expansion -/

/-- A character of an expanded word, by what may still happen to it. -/
inductive Frag
  /-- stood in the word: may be special in a pattern -/
  | lit (c : Char)
  /-- quoted: nothing happens to it -/
  | hard (c : Char)
  /-- came out of an expansion: may split the word or be special in a pattern -/
  | result (c : Char)
  /-- a quote stood here -/
  | null
deriving DecidableEq

/-- What of a parameter has been read. -/
inductive Scan
  | plain
  /-- a dollar sign; the flag tells whether it is between double quotes -/
  | dollar (soft : Bool)
  /-- a dollar sign and the beginning of a name -/
  | name (soft : Bool) (text : List Char)
deriving DecidableEq

/-- A name begins with a letter or an underscore. -/
def isNameStart (c : Char) : Bool := c.isAlpha || c == '_'

/-- A name goes on with these, or with digits. -/
def isNameChar (c : Char) : Bool := isNameStart c || c.isDigit

/-- A parameter named by a single character that begins no name. -/
def isSpecial (c : Char) : Bool :=
  c.isDigit || c == '@' || c == '*' || c == '#' || c == '?' || c == '-' || c == '$' || c == '!'

/-- The character of an item that is protected like the dollar sign before it. -/
def Item.sameContext (soft : Bool) : Item → Option Char
  | .bare c => if soft then none else some c
  | .soft c => if soft then some c else none
  | _ => none

/-- A dollar sign that nothing follows in its context stands for itself. -/
def dollarFrag (soft : Bool) : Frag := if soft then .hard '$' else .lit '$'

/-- The value of a parameter. -/
def valueFrags (env : Env) (soft : Bool) (name : List Char) : List Frag :=
  (env.param name).map fun c => if soft then .hard c else .result c

/-- One item outside parameters. -/
def plainStep : Item → Option (List Frag × Scan)
  | .bare c =>
      if c = backquote then none
      else if c = '$' then some ([], .dollar false)
      else some ([.lit c], .plain)
  | .soft c =>
      if c = backquote then none
      else if c = '$' then some ([], .dollar true)
      else some ([.hard c], .plain)
  | .hard c => some ([.hard c], .plain)
  | .mark => some ([.null], .plain)

/-- Write fragments before those of a step. -/
def writeFirst (frags : List Frag) (result : Option (List Frag × Scan)) :
    Option (List Frag × Scan) :=
  result.map fun (more, scan) => (frags ++ more, scan)

/-- One item of parameter expansion. -/
def scanStep (env : Env) : Scan → Item → Option (List Frag × Scan)
  | .plain, i => plainStep i
  | .dollar soft, i =>
      match i.sameContext soft with
      | some c =>
          if isNameStart c then some ([], .name soft [c])
          else if isSpecial c then some (valueFrags env soft [c], .plain)
          -- braces and parentheses ask for more than a value, and before any other
          -- character the standard leaves the dollar sign open
          else none
      | none =>
          -- it leaves open an unquoted one before a quote as well
          if soft then writeFirst [dollarFrag soft] (plainStep i) else none
  | .name soft text, i =>
      match i.sameContext soft with
      | some c =>
          if isNameChar c then some ([], .name soft (text ++ [c]))
          else writeFirst (valueFrags env soft text) (plainStep i)
      | none => writeFirst (valueFrags env soft text) (plainStep i)

/-- Parameter expansion. -/
def scanning (env : Env) : Transducer Scan Item Frag where
  step := scanStep env
  finish
    | .plain => some []
    | .dollar soft => some [dollarFrag soft]
    | .name soft text => some (valueFrags env soft text)

theorem scanning_step (env : Env) (scan : Scan) (i : Item) :
    (scanning env).step scan i = scanStep env scan i :=
  rfl

/-! ## Fields -/

/-- The characters of the default `IFS`. -/
def isIfs (c : Char) : Bool := isBlank c || c == newline

/-- Field splitting, after the fragments of an unfinished field. -/
def splitFields : List Frag → List Frag → List (List Frag)
  | [], [] => []
  | f :: current, [] => [f :: current]
  | current, .result c :: frags =>
      if isIfs c then
        match current with
        | [] => splitFields [] frags
        | f :: rest => (f :: rest) :: splitFields [] frags
      else splitFields (current ++ [.result c]) frags
  | current, f :: frags => splitFields (current ++ [f]) frags

/-- The character of a fragment. -/
def Frag.chars : Frag → List Char
  | .lit c => [c]
  | .hard c => [c]
  | .result c => [c]
  | .null => []

/-- A field as a pattern. -/
def Frag.pattern : Frag → Pattern
  | .lit c => [(c, true)]
  | .hard c => [(c, false)]
  | .result c => [(c, true)]
  | .null => []

/-- Pathname expansion and quote removal. A pattern that matches nothing stands for
itself. -/
def globField (env : Env) (field : List Frag) : List (List Char) :=
  if isPattern (field.flatMap Frag.pattern) then
    match env.glob (field.flatMap Frag.pattern) with
    | [] => [field.flatMap Frag.chars]
    | found => found
  else [field.flatMap Frag.chars]

/-- The fields of a word. -/
def expandWord (env : Env) (items : List Item) : Option (List (List Char)) :=
  ((scanning env).run .plain (tilde env items)).map fun frags =>
    (splitFields [] frags).flatMap (globField env)

/-- The fields of a command. -/
def expandWords (env : Env) : Transducer Unit (List Item) (List Char) :=
  Transducer.each (expandWord env)

/-- The fields of each command. -/
def expandCommands (env : Env) : Transducer Unit (List (List Item)) (List (List Char)) :=
  Transducer.each fun words => ((expandWords env).run () words).map fun fields => [fields]

end Posix.Shell
