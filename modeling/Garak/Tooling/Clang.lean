import Garak.Tooling.Settings
import Garak.Tooling.Utils

/-!
# `tooling/clang.py`

One `Clang` object holds the program names and three lists of paths. `format` and
`lint` first fill the lists for their own tool (`_aggregate_files`), then run
commands over what the lists hold.
-/

namespace Tooling

open Pathlib

/-- `Clang.IgnoreType` -/
inductive IgnoreType
  | clangFormat
  | clangTidy
deriving DecidableEq

/-- The attributes of a `Clang` object. -/
structure Clang where
  cxxFormatter : String
  cxxFormatterFlags : String
  cmakeFormatter : String
  cmakeFormatterFlags : String
  linter : String
  linterFlags : String
  sourceFiles : List Path
  cmakeFiles : List Path
  ignoredFiles : List Path
deriving DecidableEq

namespace Clang

/-- `Clang.__init__` -/
def init (cxxFormatter cmakeFormatter linter : Program) : Clang where
  cxxFormatter := cxxFormatter.name
  cxxFormatterFlags := cxxFormatter.flags
  cmakeFormatter := cmakeFormatter.name
  cmakeFormatterFlags := cmakeFormatter.flags
  linter := linter.name
  linterFlags := linter.flags
  sourceFiles := []
  cmakeFiles := []
  ignoredFiles := []

/-- `self._source_files.append(file)` -/
def appendSource (self : Clang) (file : Path) : Clang :=
  { self with sourceFiles := self.sourceFiles ++ [file] }

/-- `self._cmake_files.append(file)` -/
def appendCmake (self : Clang) (file : Path) : Clang :=
  { self with cmakeFiles := self.cmakeFiles ++ [file] }

/-- `self._ignored_files.append(file)` -/
def appendIgnored (self : Clang) (file : Path) : Clang :=
  { self with ignoredFiles := self.ignoredFiles ++ [file] }

/-- The file list that goes with an `ignore_type`. -/
def ignoreFile (settings : Settings) : IgnoreType → List Path
  | .clangFormat => settings.clangFormatIgnoreFile
  | .clangTidy => settings.clangTidyIgnoreFile

/-- The directory list that goes with an `ignore_type`. -/
def ignoreDir (settings : Settings) : IgnoreType → List Path
  | .clangFormat => settings.clangFormatIgnoreDir
  | .clangTidy => settings.clangTidyIgnoreDir

/-- `_path_in_file_ignore` -/
def pathInFileIgnore (settings : Settings) (path : Path) (ignoreType : IgnoreType) : Bool :=
  decide (path ∈ ignoreFile settings ignoreType)

/-- The recursion of `_path_in_directory_ignore`, allowed `depth` calls. -/
def walk (settings : Settings) (projectRoot : Path) (ignoreType : IgnoreType) :
    Nat → Path → Except PyError Bool
  | 0, _ => .error .recursionError
  | depth + 1, path =>
      if path = projectRoot then .ok false
      else if path ∈ ignoreDir settings ignoreType then .ok true
      -- this test does not look at `ignore_type`
      else if path ∈ settings.clangFormatIgnoreDir ∨ path ∈ settings.clangTidyIgnoreDir then
        .ok true
      else walk settings projectRoot ignoreType depth path.parent

/-- `_path_in_directory_ignore`. A path has one parent for each of its components
and then only itself, so a walk that needs more calls than that never ends. -/
def pathInDirectoryIgnore (settings : Settings) (path projectRoot : Path)
    (ignoreType : IgnoreType) : Except PyError Bool :=
  walk settings projectRoot ignoreType (path.parts.length + 1) path

/-- The body of the three inner loops of `_aggregate_files`, which differ in the
list a file that is not ignored goes to. -/
def sortFile (settings : Settings) (ignoreType : IgnoreType) (project : Path)
    (keep : Clang → Path → Clang) (self : Clang) (file : Path) : Except PyError Clang := do
  if pathInFileIgnore settings file ignoreType then
    return self.appendIgnored file
  if ← pathInDirectoryIgnore settings file project ignoreType then
    return self.appendIgnored file
  return keep self file

/-- One turn of the outer loop of `_aggregate_files`. -/
def aggregateProject (settings : Settings) (fs : FileSystem) (ignoreType : IgnoreType)
    (self : Clang) (project : Path) : Except PyError Clang := do
  let self ← (fs.rglob project ".cpp").foldlM
    (sortFile settings ignoreType project appendSource) self
  let self ← (fs.rglob project ".hpp").foldlM
    (sortFile settings ignoreType project appendSource) self
  (fs.rglob project ".txt").foldlM (sortFile settings ignoreType project appendCmake) self

/-- `_aggregate_files` -/
def aggregateFiles (settings : Settings) (fs : FileSystem) (ignoreType : IgnoreType)
    (self : Clang) : Except PyError Clang :=
  settings.projects.foldlM (aggregateProject settings fs ignoreType) self

/-- `_show_ignored` -/
def showIgnored (self : Clang) : Proc Unit :=
  Log.warn ("Ignored: [" ++ toString self.ignoredFiles.length ++ "] file(s)")

/-- The command `format` runs on a C++ file. -/
def formatCxxCommand (self : Clang) (file : Path) : String :=
  self.cxxFormatter ++ " " ++ self.cxxFormatterFlags ++ " " ++ file.str

/-- The command `format` runs on a CMake file. -/
def formatCmakeCommand (self : Clang) (file : Path) : String :=
  self.cmakeFormatter ++ " " ++ self.cmakeFormatterFlags ++ " " ++ file.str

/-- The loop of `lint` that builds the list of files. -/
def lintFiles (files : List Path) : String :=
  files.foldl (fun text file => text ++ (file.str ++ " ")) ""

/-- The command `lint` runs. -/
def lintCommand (self : Clang) : String :=
  self.linter ++ " " ++ self.linterFlags ++ " " ++ lintFiles self.sourceFiles

/-- `format`, with the object it leaves. -/
def format (settings : Settings) (fs : FileSystem) (host : Host) (self : Clang) : Proc Clang := do
  let self ← Proc.ofExcept (self.aggregateFiles settings fs .clangFormat)
  Log.info "Formatting all files"
  forM self.sourceFiles fun file => discard (Shell.execute host (self.formatCxxCommand file))
  forM self.cmakeFiles fun file => discard (Shell.execute host (self.formatCmakeCommand file))
  self.showIgnored
  return self

/-- `lint`, with the object it leaves. -/
def lint (settings : Settings) (fs : FileSystem) (host : Host) (self : Clang) : Proc Clang := do
  let self ← Proc.ofExcept (self.aggregateFiles settings fs .clangTidy)
  Log.info "Statically analyzing all files"
  discard (Shell.execute host self.lintCommand)
  self.showIgnored
  return self

end Clang

end Tooling
