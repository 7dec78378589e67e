import Garak.Argparse.Parser
import Garak.Tooling.Devkit

/-!
# `tooling/cli.py`, and `devkit` on its arguments

The parsers `Cli.__init__` declares, and `main` from `sys.argv` on. Preflight comes
before parsing; what `argparse` does by `sys.exit` is no `Exception` and passes the
handlers of `main`.
-/

namespace Tooling

open Pathlib Argparse

/-! ## The parsers -/

/-- The destinations of the options. -/
inductive Opt
  | help
  | format
  | lint
  | name
  | version
  | type
  | buildDir
  | clang
  | gnu
deriving DecidableEq

/-- The actions of the options. -/
def Opt.kind : Opt → Argparse.Kind
  | .help => .help
  | .format | .lint | .clang | .gnu => .flag
  | .name | .version | .type | .buildDir => .value

/-- What every `ArgumentParser` begins with. -/
def helpStrings : List (Arg × Opt) := [("-h".toList, .help), ("--help".toList, .help)]

section Parsers

variable (isDecimal : Char → Bool)

/-- `clang_commands` -/
def clangCommands : Parser Opt where
  strings :=
    helpStrings ++
      [("-f".toList, .format), ("--format".toList, .format), ("-l".toList, .lint),
        ("--lint".toList, .lint)]
  kind := Opt.kind
  required := []
  allowAbbrev := true
  isDecimal := isDecimal

/-- `packager_commands` -/
def packagerCommands : Parser Opt where
  strings :=
    helpStrings ++
      [("-n".toList, .name), ("--name".toList, .name), ("-v".toList, .version),
        ("--version".toList, .version), ("-t".toList, .type), ("--type".toList, .type),
        ("-b".toList, .buildDir), ("--build-dir".toList, .buildDir)]
  kind := Opt.kind
  required := [.name, .version]
  allowAbbrev := true
  isDecimal := isDecimal

/-- `compiler_commands` -/
def compilerCommands : Parser Opt where
  strings := helpStrings ++ [("--clang".toList, .clang), ("--gnu".toList, .gnu)]
  kind := Opt.kind
  required := []
  allowAbbrev := true
  isDecimal := isDecimal

/-- `self.__parser`: only here `allow_abbrev` is turned off. -/
def cliParser : Commands Opt where
  top :=
    { strings := helpStrings
      kind := Opt.kind
      required := []
      allowAbbrev := false
      isDecimal := isDecimal }
  parsers :=
    [("clang".toList, clangCommands isDecimal), ("package".toList, packagerCommands isDecimal),
      ("compile".toList, compilerCommands isDecimal)]

/-- The argument an option was last given, if it was given. -/
def stored (taken : List (Opt × Option Arg)) (dest : Opt) : Option String :=
  ((taken.filterMap fun entry => if entry.1 = dest then entry.2 else none).getLast?).map
    String.ofList

/-- The flag was given. -/
def given (taken : List (Opt × Option Arg)) (dest : Opt) : Bool :=
  taken.any fun entry => entry.1 = dest

/-- What `main` reads off `cli`: the three properties `subcommand_*` and `args`. -/
def Cli.ofCommand : Command Opt → Cli
  | some (name, taken) =>
      if name = "package".toList then
        .package ((stored taken .name).getD "") ((stored taken .version).getD "")
          (stored taken .type) (stored taken .buildDir)
      else if name = "clang".toList then .clang (given taken .format) (given taken .lint)
      else if name = "compile".toList then .compile (given taken .clang) (given taken .gnu)
      else .noCommand
  | none => .noCommand

/-- `Cli.__init__` on `sys.argv[1:]` -/
def Cli.init (argv : List String) : Except Exit Cli :=
  ((cliParser isDecimal).parseArgs (argv.map String.toList)).map fun parsed =>
    Cli.ofCommand parsed.2

end Parsers

/-! ## The process -/

/-- A host, and what a process finds out before it asks anything of the host's shell. -/
structure Machine extends Host where
  /-- `command -v bash` writes a path -/
  bash : Bool
  /-- what `\d` matches -/
  isDecimal : Char → Bool

/-- The body of the loop of `preflight`. `Shell.__init__` keeps what `command -v bash`
wrote, and with nothing for an executable `subprocess.run` raises. -/
def Machine.checkProgram (machine : Machine) (item : String × Program) : Proc Unit :=
  if item.2.name ≠ "" ∧ machine.bash = false then throw (.exception "[Errno 13] Permission denied: ''")
  else Tooling.checkProgram machine.toHost item

/-- `preflight` -/
def Machine.preflight (machine : Machine) (settings : Settings) : Proc Unit := do
  if machine.platform ≠ "linux" then
    throw (.exception (machine.platform ++ " is currently not supported\n"))
  forM settings.cmakePrograms.items machine.checkProgram

/-- The `try` block of `main`, with its handler. -/
def Machine.attempt (machine : Machine) (settings : Settings) (fs : FileSystem)
    (argv : List String) : Proc (Option Int) :=
  Proc.catchException
    (do
      machine.preflight settings
      match Cli.init machine.isDecimal argv with
      | .error exit => return some exit.status
      | .ok cli => dispatch settings fs machine.toHost cli)
    fun error => do
      Log.error (error.text machine.toHost)
      return some 1

/-- `./devkit` with the given arguments: the exit status of the process. -/
def devkit (settings : Settings) (fs : FileSystem) (machine : Machine) (argv : List String) :
    Proc Int := do
  match ← machine.attempt settings fs argv with
  | some code => return code
  | none => do
      Log.complete "Done.."
      return 0

end Tooling
