import Garak.Tooling.Clang
import Garak.Tooling.Compiler
import Garak.Tooling.Packager

/-!
# `devkit`

The preflight checks, the options `tooling/cli.py` declares, and `main`.
-/

namespace Tooling

open Pathlib

/-- The body of the loop of `preflight`, for a key of `CMAKE_PROGRAMS` and its value. -/
def checkProgram (host : Host) (item : String × Program) : Proc Unit :=
  if item.2.name ≠ "" then
    if Shell.isInstalled host item.2.name = false then
      throw (.exception (item.2.name ++ " was not found on the system, please install, or " ++
        "change the value of " ++ item.1 ++ " in the tooling/settings.py file"))
    else pure ()
  else
    throw (.exception ("Value for " ++ item.1 ++
      " is empty, please edit the value in tooling/settings.py file"))

/-- `preflight` -/
def preflight (settings : Settings) (host : Host) : Proc Unit := do
  if host.platform ≠ "linux" then
    throw (.exception (host.platform ++ " is currently not supported\n"))
  forM settings.cmakePrograms.items (checkProgram host)

/-- The options given on the command line, once `argparse` has accepted them. -/
inductive Cli
  | package (name version : String) (type buildDir : Option String)
  | clang (format lint : Bool)
  | compile (clang gnu : Bool)
  | noCommand
deriving DecidableEq

/-- `cli.args.type` -/
def Cli.argsType (type : Option String) : String := type.getD "debian"

/-- `cli.args.build_dir` -/
def Cli.argsBuildDir (settings : Settings) (buildDir : Option String) : String :=
  buildDir.getD settings.projectBuildDir.str

/-- `cli.args.clang`: the flag is declared with `default=True`. -/
def Cli.argsClang (clang : Bool) : Bool := clang || true

/-- The two compiler names `main` picks. -/
def chooseCompilers (programs : CmakePrograms) (clang gnu : Bool) : String × String :=
  let compilers := ("", "")
  let compilers :=
    if Cli.argsClang clang then (programs.clangCxxCompiler.name, programs.clangCCompiler.name)
    else compilers
  if gnu then (programs.gnuCxxCompiler.name, programs.gnuCCompiler.name) else compilers

/-- The `Compiler` `main` makes. -/
def newCompiler (settings : Settings) (host : Host) (clang gnu : Bool) : Compiler :=
  let compilers := chooseCompilers settings.cmakePrograms clang gnu
  Compiler.init host settings.cmakePrograms.cmake.name compilers.1 compilers.2

/-- The `Clang` object `main` makes. -/
def newClang (settings : Settings) : Clang :=
  Clang.init settings.cmakePrograms.clangFormatter settings.cmakePrograms.cmakeFormatter
    settings.cmakePrograms.clangAnalyzer

/-- The `Packager` `main` makes. -/
def newPackager (settings : Settings) (fs : FileSystem) (host : Host) (name version : String)
    (type buildDir : Option String) : Proc Packager :=
  Packager.init settings fs host (Path.parse (Cli.argsBuildDir settings buildDir)) name version
    (Cli.argsType type)

/-- The branches of `main` over the subcommand: the code of an early `return`, or
nothing. -/
def dispatch (settings : Settings) (fs : FileSystem) (host : Host) : Cli → Proc (Option Int)
  | .package name version type buildDir => do
      let packager ← newPackager settings fs host name version type buildDir
      packager.buildPkg host
      return none
  | .clang format lint => do
      let clang := newClang settings
      let clang ← if format then clang.format settings fs host else pure clang
      let _ ← if lint then clang.lint settings fs host else pure clang
      return none
  | .compile clang gnu => do
      if !(← (newCompiler settings host clang gnu).compile settings fs host) then
        return some 1
      return none
  | .noCommand => return some 1

/-- The `try` block of `main`, with its handler. -/
def attempt (settings : Settings) (fs : FileSystem) (host : Host) (cli : Cli) :
    Proc (Option Int) :=
  Proc.catchException
    (do
      preflight settings host
      dispatch settings fs host cli)
    fun error => do
      Log.error (error.text host)
      return some 1

/-- `main`: its exit code. -/
def main (settings : Settings) (fs : FileSystem) (host : Host) (cli : Cli) : Proc Int := do
  match ← attempt settings fs host cli with
  | some code => return code
  | none => do
      Log.complete "Done.."
      return 0

end Tooling
