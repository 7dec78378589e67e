import Garak.Tooling.Settings
import Garak.Tooling.Utils

/-!
# `tooling/compiler.py`

`compile` asks whether the *absolute* build directory exists, and hands the two cmake
commands the *name* of that directory, which cmake takes relative to the directory
devkit was started in.
-/

namespace Tooling

open Pathlib

/-- The attributes of a `Compiler`. -/
structure Compiler where
  cpus : String
  cmake : String
  cxxCompiler : String
  cCompiler : String

namespace Compiler

/-- `Compiler.__init__` -/
def init (host : Host) (cmake cxxCompiler cCompiler : String) : Compiler where
  cpus := host.nproc
  cmake := cmake
  cxxCompiler := cxxCompiler
  cCompiler := cCompiler

/-- The command of `__init_build`. -/
def initBuildCommand (settings : Settings) (self : Compiler) : String :=
  self.cmake ++ " -B " ++ settings.projectBuildDir.stem ++ " -D CMAKE_CXX_COMPILER=" ++
    self.cxxCompiler ++ " -D CMAKE_C_COMPILER=" ++ self.cCompiler

/-- The command of `__make`. -/
def makeCommand (settings : Settings) (self : Compiler) : String :=
  self.cmake ++ " --build " ++ settings.projectBuildDir.stem ++ " -- -j" ++ self.cpus

/-- `__init_build` -/
def initBuild (settings : Settings) (host : Host) (self : Compiler) : Proc Bool :=
  Shell.execute host (self.initBuildCommand settings)

/-- `__make` -/
def make (settings : Settings) (host : Host) (self : Compiler) : Proc Bool :=
  Shell.execute host (self.makeCommand settings)

/-- `compile` -/
def compile (settings : Settings) (fs : FileSystem) (host : Host) (self : Compiler) : Proc Bool := do
  Log.info "Configuring the project.."
  let present ← Proc.ofExcept (asked fs.pathExists settings.projectBuildDir)
  if present = false then
    if !(← self.initBuild settings host) then
      return false
    if !(← self.make settings host) then
      return false
    return true
  Log.warn (settings.projectBuildDir.str ++
    " already exists, re-compiling with existing settings")
  self.make settings host

end Compiler

end Tooling
