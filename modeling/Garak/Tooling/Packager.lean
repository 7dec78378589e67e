import Garak.Tooling.Settings
import Garak.Tooling.Utils

/-!
# `tooling/packager.py`

The constructor settles which directory to package, `build_pkg` packages it. The
search in `__configure_build_env` overwrites `_build_dir` at every hit, and the caller
reports a search without a hit through `Log.error`, which returns.
-/

namespace Tooling

open Pathlib

/-- The attributes of a `Packager`. -/
structure Packager where
  sudoCmd : String
  backend : String
  license : String
  maintainer : String
  requires : String
  release : String
  buildDir : Path
  name : String
  version : String
  type : String
deriving DecidableEq

namespace Packager

/-- `"build" in path.stem` -/
def stemHasBuild (path : Path) : Bool :=
  decide ("build".toList <:+: path.stem.toList)

/-- `self._build_dir = receptacle; found = True` -/
def settle (state : Bool × Packager) (receptacle : Path) : Bool × Packager :=
  (true, { state.2 with buildDir := receptacle })

/-- The body of the loop of `__configure_build_env`. -/
def tryReceptacle (fs : FileSystem) (state : Bool × Packager) (receptacle : Path) :
    Except PyError (Bool × Packager) := do
  if ← asked fs.isDir receptacle then
    if stemHasBuild receptacle then
      return settle state receptacle
  return state

/-- `__configure_build_env`: the flag it returns, and the object it leaves. -/
def configureBuildEnv (fs : FileSystem) (self : Packager) : Except PyError (Bool × Packager) :=
  if stemHasBuild self.buildDir then .ok (true, self)
  else do
    let names ← asked fs.iterdir self.buildDir
    (names.map self.buildDir.child).foldlM (tryReceptacle fs) (false, self)

/-- `_sudo`, from the environment variable `USER`. -/
def sudoFor : Option String → String
  | some user => if user ≠ "" ∧ user ≠ "root" then "sudo" else ""
  | none => ""

/-- The attributes `__init__` sets before it looks for the build directory. -/
def attributes (settings : Settings) (host : Host) (buildDir : Path)
    (pkgName pkgVersion pkgType : String) : Packager where
  sudoCmd := sudoFor host.user
  backend := settings.packageConfig.backend
  license := settings.packageConfig.license
  maintainer := settings.packageConfig.maintainer
  requires := settings.packageConfig.requires
  release := settings.packageConfig.release
  buildDir := buildDir
  name := pkgName
  version := pkgVersion
  type := pkgType

/-- `Packager.__init__` -/
def init (settings : Settings) (fs : FileSystem) (host : Host) (buildDir : Path)
    (pkgName pkgVersion pkgType : String) : Proc Packager := do
  let present ← Proc.ofExcept (asked fs.pathExists buildDir)
  if present = false then
    throw (.exception ("Build directory " ++ buildDir.str ++ " does not exist, aborting..."))
  if Shell.isInstalled host settings.packageConfig.backend = false then
    throw (.exception ("The packaging backend [" ++ settings.packageConfig.backend ++
      "] was not found on the system, please install and try again"))
  let self := attributes settings host buildDir pkgName pkgVersion pkgType
  let (found, self) ← Proc.ofExcept (self.configureBuildEnv fs)
  -- the constructor goes on after this error
  if found = false then
    Log.error (self.buildDir.str ++ " is an invalid build directory")
  Log.info ("Build directory resolved => " ++ self.buildDir.str)
  return self

/-- The command of `build_pkg`. -/
def buildPkgCommand (self : Packager) : String :=
  "cd " ++ self.buildDir.str ++ " && " ++ self.sudoCmd ++ " " ++ self.backend ++ " -y --pkgname=" ++
    self.name ++ " --pkgrelease=" ++ self.release ++ " --pkgversion=" ++ self.version ++
    " --pkglicense=" ++ self.license ++ " --requires=" ++ self.requires ++ " --maintainer=" ++
    self.maintainer ++ " --type=" ++ self.type ++ " --install=no"

/-- `build_pkg` -/
def buildPkg (host : Host) (self : Packager) : Proc Unit :=
  discard (Shell.execute host self.buildPkgCommand)

end Packager

end Tooling
