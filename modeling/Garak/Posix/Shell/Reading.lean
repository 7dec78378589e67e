import Garak.Posix.Shell.Expansion

/-!
# What a shell makes of a text

`reading env text` is the list of commands a shell runs for the text, when it is no more
than simple commands joined by `&&`: for each, its name and arguments. A text that is
anything else has no reading.
-/

namespace Posix.Shell

/-- Words that are part of the grammar where a command name is expected. -/
def reserved : List (List Char) :=
  ["!".toList, [Char.ofNat 123], [Char.ofNat 125], "case".toList, "do".toList, "done".toList,
    "elif".toList, "else".toList, "esac".toList, "fi".toList, "for".toList, "if".toList,
    "in".toList, "then".toList, "until".toList, "while".toList]

/-- An unquoted character of a name. -/
def isBareNameChar : Item → Bool
  | .bare c => isNameChar c
  | _ => false

/-- `name=value`, which before a command name is an assignment. -/
def isAssignment : List Item → Bool
  | .bare c :: rest => isNameStart c && (rest.dropWhile isBareNameChar).head? == some (.bare '=')
  | _ => false

/-- A word that may be the name of a simple command. -/
def isCommandName (items : List Item) : Bool :=
  !isAssignment items &&
    match bareText items with
    | some text => !reserved.contains text
    | none => true

/-- The commands of a text. -/
def parse (text : List Char) : Option (List (List (List Item))) :=
  (quoting.run (.bare true) text).bind fun items =>
    (tokenising.run .nothing items).bind fun tokens => andList.run [] tokens

/-- The first word of every command may be its name. -/
def namesCommands (commands : List (List (List Item))) : Bool :=
  commands.all fun words => words.head?.all isCommandName

/-- The names and arguments of the commands of a text. -/
def reading (env : Env) (text : List Char) : Option (List (List (List Char))) :=
  (parse text).bind fun commands =>
    if namesCommands commands then (expandCommands env).run () commands else none

/-- What a shell makes of a state for a text that is one command, given what programs make of
it for their words. What the shell looks up may depend on the state. -/
def runCommand {S : Type} (env : S → Env) (programs : List String → S → S) (s : S)
    (text : String) : Option S :=
  match reading (env s) text.toList with
  | some [invocation] => some (programs (invocation.map String.ofList) s)
  | _ => none

end Posix.Shell
