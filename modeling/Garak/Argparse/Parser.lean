import Mathlib.Data.List.Basic

/-!
# Python's `argparse`

The part of `argparse` that parsers with options, and subcommands, rely on: how an
argument is told apart from an option, which spellings of an option are understood, and
in what order things go wrong. The functions follow `_parse_optional`,
`_get_option_tuples`, `consume_optional` and `_parse_known_args` of CPython 3.11.10, the
interpreter that is modelled throughout; prefix characters are dashes. Older releases read
`--name=--`, `-f=l` and `-hx` in other ways.
-/

namespace Argparse

/-- An argument of a command line. -/
abbrev Arg := List Char

/-- How a parser ends without a result: the help text was asked for, or there is a
mistake in the arguments. -/
inductive Exit
  | help
  | usage
deriving DecidableEq

/-- The status `sys.exit` is called with. -/
def Exit.status : Exit → Int
  | .help => 0
  | .usage => 2

/-- What an option does: `store_true`, `store` with one argument, or `help`. -/
inductive Kind
  | flag
  | value
  | help
deriving DecidableEq

/-- A parser with options only. -/
structure Parser (D : Type) where
  /-- `_option_string_actions`, in the order of declaration -/
  strings : List (Arg × D)
  kind : D → Kind
  required : List D
  allowAbbrev : Bool
  /-- what `\d` matches -/
  isDecimal : Char → Bool

/-- An option recognised in an argument. -/
structure Reading (D : Type) where
  dest : D
  /-- one dash, not two -/
  short : Bool
  /-- the rest of the argument, and whether an equals sign stands before it -/
  explicit : Option (Bool × Arg)
deriving DecidableEq

/-- What an argument is taken for. -/
inductive Class (D : Type)
  | positional
  | option (reading : Reading D)
  | unknown
  | ambiguous
deriving DecidableEq

/-- An argument of a command line, classified. -/
inductive Token (D : Type)
  | arg (text : Arg)
  | opt (text : Arg) (reading : Option (Reading D))
  | dashes
deriving DecidableEq

/-- What an option argument comes to: an error, options with their arguments and what is
left unrecognised, or the same with an option at its end that takes the next argument. -/
inductive Spelled (D : Type)
  | error
  | done (taken : List (D × Option Arg)) (extra : List Arg)
  | wants (taken : List (D × Option Arg)) (dest : D)
deriving DecidableEq

/-- The options seen, in order, and the arguments nobody recognised. -/
structure Result (D : Type) where
  taken : List (D × Option Arg)
  extras : List Arg
deriving DecidableEq

def Result.empty {D : Type} : Result D := ⟨[], []⟩

/-- A result with something before it. -/
def Result.after {D : Type} (taken : List (D × Option Arg)) (extras : List Arg)
    (result : Result D) : Result D :=
  ⟨taken ++ result.taken, extras ++ result.extras⟩

/-- An option without an argument, before others. -/
def Spelled.after {D : Type} (dest : D) : Spelled D → Spelled D
  | .error => .error
  | .done taken extra => .done ((dest, none) :: taken) extra
  | .wants taken last => .wants ((dest, none) :: taken) last

/-- `--` -/
def doubleDash : Arg := ['-', '-']

/-- `text.partition('=')`, when there is an equals sign. -/
def partition : Arg → Option (Arg × Arg)
  | [] => none
  | c :: cs => if c = '=' then some ([], cs) else (partition cs).map fun (a, b) => (c :: a, b)

/-- An option string with one dash. -/
def isShort : Arg → Bool
  | _ :: c :: _ => c != '-'
  | _ => true

namespace Parser

variable {D : Type}

/-! ## One argument -/

/-- `_option_string_actions[string]` -/
def find (parser : Parser D) (string : Arg) : Option D :=
  (parser.strings.find? fun entry => entry.1 = string).map Prod.snd

/-- `^-\d+$|^-\d*\.\d+$`; the dollar sign also matches before a newline at the end. -/
def looksNegative (parser : Parser D) : Arg → Bool
  | '-' :: text =>
      let body := if text.getLast? = some '\n' then text.dropLast else text
      let rest := body.dropWhile parser.isDecimal
      (body != [] && rest == []) ||
        match rest with
        | '.' :: decimals => decimals != [] && decimals.all parser.isDecimal
        | _ => false
  | _ => false

/-- `_get_option_tuples` -/
def optionTuples (parser : Parser D) (arg : Arg) : List (Reading D) :=
  if isShort arg then
    parser.strings.filterMap fun (string, dest) =>
      if string = arg.take 2 then some ⟨dest, isShort string, some (false, arg.drop 2)⟩
      else if arg <+: string then some ⟨dest, isShort string, none⟩
      else none
  else if parser.allowAbbrev then
    let (start, explicit) :=
      match partition arg with
      | some (before, after) => (before, some (true, after))
      | none => (arg, none)
    parser.strings.filterMap fun (string, dest) =>
      if start <+: string then some ⟨dest, isShort string, explicit⟩ else none
  else []

/-- The end of `_parse_optional`, for an argument that is no option as it stands. -/
def search (parser : Parser D) (arg : Arg) : Class D :=
  match parser.optionTuples arg with
  | [reading] => .option reading
  | _ :: _ :: _ => .ambiguous
  | [] =>
      if parser.looksNegative arg && !parser.strings.any fun entry => parser.looksNegative entry.1
      then .positional
      else if arg.contains ' ' then .positional
      else .unknown

/-- `_parse_optional` -/
def parseOptional (parser : Parser D) (arg : Arg) : Class D :=
  if arg.head? = some '-' then
    match parser.find arg with
    | some dest => .option ⟨dest, isShort arg, none⟩
    | none =>
        if arg.length = 1 then .positional
        else
          match partition arg with
          | some (string, explicit) =>
              match parser.find string with
              | some dest => .option ⟨dest, isShort string, some (true, explicit)⟩
              | none => parser.search arg
          | none => parser.search arg
  else .positional

/-- The first loop of `_parse_known_args`; an ambiguous argument ends it. -/
def tokens (parser : Parser D) : List Arg → Option (List (Token D))
  | [] => some []
  | arg :: args =>
      if arg = doubleDash then some (.dashes :: args.map .arg)
      else
        match parser.parseOptional arg with
        | .positional => (parser.tokens args).map (.arg arg :: ·)
        | .option reading => (parser.tokens args).map (.opt arg (some reading) :: ·)
        | .unknown => (parser.tokens args).map (.opt arg none :: ·)
        | .ambiguous => none

/-! ## One option -/

/-- An option without anything of its argument left. -/
def bare (parser : Parser D) (dest : D) : Spelled D :=
  match parser.kind dest with
  | .value => .wants [] dest
  | _ => .done [(dest, none)] []

/-- The loop of `consume_optional` while something of the argument is left: short options
without arguments may be written together. -/
def spell (parser : Parser D) (dest : D) (short equals : Bool) : Arg → Spelled D
  | [] =>
      match parser.kind dest with
      | .value => .done [(dest, some [])] []
      | _ => .error
  | c :: rest =>
      match parser.kind dest with
      | .value => .done [(dest, some (c :: rest))] []
      | _ =>
          if !short || equals || c = '-' then .error
          else
            match parser.find ['-', c] with
            | none => .done [(dest, none)] ['-' :: c :: rest]
            | some next =>
                Spelled.after dest
                  (match rest with
                  | [] => parser.bare next
                  | d :: rest' =>
                      if d = '=' then parser.spell next true true rest'
                      else parser.spell next true false (d :: rest'))

/-- `consume_optional`, up to the arguments that follow. -/
def spelled (parser : Parser D) (reading : Reading D) : Spelled D :=
  match reading.explicit with
  | none => parser.bare reading.dest
  | some (equals, text) => parser.spell reading.dest reading.short equals text

/-! ## The arguments of a parser -/

/-- One of the options prints the help text and exits. -/
def helps (parser : Parser D) (taken : List (D × Option Arg)) : Bool :=
  taken.any fun entry => parser.kind entry.1 == .help

/-- The second loop of `_parse_known_args`, when there are no positional arguments. -/
def run (parser : Parser D) : List (Token D) → Except Exit (Result D)
  | [] => .ok .empty
  | .arg text :: ts => (parser.run ts).map (.after [] [text])
  | .dashes :: ts => (parser.run ts).map (.after [] [doubleDash])
  | .opt text none :: ts => (parser.run ts).map (.after [] [text])
  | .opt _ (some reading) :: ts =>
      match parser.spelled reading with
      | .error => .error .usage
      | .done taken extra =>
          if parser.helps taken then .error .help else (parser.run ts).map (.after taken extra)
      | .wants taken dest =>
          match ts with
          | .arg text :: ts' =>
              if parser.helps taken then .error .help
              else (parser.run ts').map (.after (taken ++ [(dest, some text)]) [])
          | _ => .error .usage

/-- `parse_known_args` -/
def parseKnownArgs [DecidableEq D] (parser : Parser D) (args : List Arg) :
    Except Exit (Result D) :=
  match parser.tokens args with
  | none => .error .usage
  | some ts =>
      match parser.run ts with
      | .error exit => .error exit
      | .ok result =>
          if parser.required.all fun dest => result.taken.any fun entry => entry.1 = dest then
            .ok result
          else .error .usage

end Parser

/-! ## Subcommands -/

/-- The text of a classified argument. -/
def Token.text {D : Type} : Token D → Arg
  | .arg text => text
  | .opt text _ => text
  | .dashes => doubleDash

/-- A parser with flags and, behind them, an optional subcommand with a parser of its
own. -/
structure Commands (D : Type) where
  top : Parser D
  parsers : List (Arg × Parser D)

/-- The subcommand that was used, with its options. -/
abbrev Command (D : Type) := Option (Arg × List (D × Option Arg))

namespace Commands

variable {D : Type} [DecidableEq D]

/-- `_SubParsersAction.__call__`, behind the check of the choices. -/
def command (commands : Commands D) (name : Arg) (args : List Arg) :
    Except Exit (Result D × Command D) :=
  match commands.parsers.find? fun entry => entry.1 = name with
  | none => .error .usage
  | some (_, parser) =>
      (parser.parseKnownArgs args).map fun result =>
        (⟨[], result.extras⟩, some (name, result.taken))

/-- The second loop of `_parse_known_args`, when the only positional argument is the
subcommand: it takes everything behind it. -/
def run (commands : Commands D) : List (Token D) → Except Exit (Result D × Command D)
  | [] => .ok (.empty, none)
  | .arg text :: ts => commands.command text (ts.map Token.text)
  | .dashes :: [] => .ok (⟨[], [doubleDash]⟩, none)
  | .dashes :: t :: ts => commands.command doubleDash ((t :: ts).map Token.text)
  | .opt text none :: ts =>
      (commands.run ts).map fun (result, used) => (.after [] [text] result, used)
  | .opt _ (some reading) :: ts =>
      match commands.top.spelled reading with
      | .error => .error .usage
      | .done taken extra =>
          if commands.top.helps taken then .error .help
          else (commands.run ts).map fun (result, used) => (.after taken extra result, used)
      | .wants taken dest =>
          match ts with
          | .arg text :: ts' =>
              if commands.top.helps taken then .error .help
              else
                (commands.run ts').map fun (result, used) =>
                  (.after (taken ++ [(dest, some text)]) [] result, used)
          | _ => .error .usage

/-- `parse_args`: the options of the parser itself, and the subcommand. -/
def parseArgs (commands : Commands D) (args : List Arg) :
    Except Exit (List (D × Option Arg) × Command D) :=
  match commands.top.tokens args with
  | none => .error .usage
  | some ts =>
      match commands.run ts with
      | .error exit => .error exit
      | .ok (result, used) =>
          if result.extras = [] ∧
              commands.top.required.all fun dest => result.taken.any fun entry => entry.1 = dest
          then .ok (result.taken, used)
          else .error .usage

end Commands

end Argparse
