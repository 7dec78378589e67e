import Garak.Build.Scripts
import Garak.Pathlib.Path
import Garak.Posix.Shell.Decoding
import Garak.Tooling.CommandLine
import Garak.Tooling.Proofs.CompilerRuns
import Garak.Version.GetVersion

/-!
# A checkout that is worked on

What a developer does to a checkout, as far as the version of the library goes: the version
header is edited, the build directory is deleted, and `devkit compile` is run in the project
root. The commands of `devkit` are texts for a shell, which starts cmake for them. What cmake
does is a parameter of each run; `Toolchain.AsDocumented` says what is relied on, for a
checkout whose list files nobody edits.
-/

namespace Build

open Cmake Pathlib Path Posix.Shell Tooling

/-- The build directory. -/
structure Tree where
  /-- what the configure step generated, unless it failed -/
  generated : Option State
  /-- the header the library in it was compiled against, once there is a library -/
  library : Option Version.Header

/-- The state of a checkout. -/
structure Workspace where
  header : Version.Header
  tree : Option Tree

/-- The version header of the checkout. -/
def headerFile (root : Path) : String := joinDir root.str "garak" ++ "/include/garak/version.hpp"

/-- What a run of the list files generates: after a fatal error, and after an error that only
postpones it, nothing. -/
def generate (externals : Externals) (files : String → Option String) (root : Path)
    (cache : Entries) (header : Version.Header) : Option State :=
  match (projectLists externals).exec
      (initial root.str (projectBuildDir root).str cache
        (Function.update files (headerFile root) (some header.text))) with
  | (.ok (), s) => if s.messages.any fun said => said.mode = .sendError then none else some s
  | (.error _, _) => none

/-! ## What cmake does -/

/-- The words that give a new cache its entries. -/
def defineWords (entries : List (String × String)) : List String :=
  entries.flatMap fun entry => ["-D", entry.1 ++ "=" ++ entry.2]

/-- The cache with these entries. -/
def cacheOf (entries : List (String × String)) : Entries :=
  entries.foldl (fun cache entry => Function.update cache entry.1 (some entry.2)) fun _ => none

/-- The name of an entry, without a type. -/
def isEntryName (name : String) : Bool := name.toList != [] && name.toList.all isNameChar

/-- What a run of `devkit` finds on its machine. -/
structure Toolchain where
  /-- what the list files call and do not define -/
  externals : Externals
  /-- the files there are, the version header apart -/
  files : String → Option String
  /-- what a program started in the project root with the given words makes of the checkout -/
  runs : List String → Workspace → Workspace

/-- What the manual of cmake says of the two uses `devkit` makes of it. -/
structure Toolchain.AsDocumented (tools : Toolchain) (root : Path) : Prop where
  /-- `-B` and a directory that is not there: the list files are run, on a cache of the `-D`
  entries, and the directory is there afterwards, whatever came of it -/
  configures : ∀ w entries, w.tree = none → (∀ entry ∈ entries, isEntryName entry.1 = true) →
    tools.runs (["cmake", "-B", "build"] ++ defineWords entries) w =
      { w with
        tree := some ⟨generate tools.externals tools.files root (cacheOf entries) w.header, none⟩ }
  /-- `--build`: the build tool leaves the library as it was, or compiled against the header as
  it is. Where nothing was generated there is nothing to build. -/
  builds : ∀ w tree jobs, w.tree = some tree →
    ∃ library, (library = tree.library ∨ tree.generated.isSome ∧ library = some w.header) ∧
      tools.runs ["cmake", "--build", "build", "--", "-j" ++ jobs] w =
        { w with tree := some ⟨tree.generated, library⟩ }

/-! ## What a developer does -/

/-- A run of `devkit` whose arguments ask to compile, on a machine where `nproc` writes
nothing that is special to a shell. -/
structure Invocation where
  machine : Machine
  argv : List String
  clang : Bool
  gnu : Bool
  asks : Cli.init machine.isDecimal argv = .ok (.compile clang gnu)
  plain : Plain machine.nproc.toList
  /-- what the shell looks up -/
  env : Workspace → Env
  tools : Toolchain

inductive Event
  /-- `devkit` is run in the project root -/
  | compile (invocation : Invocation)
  /-- the version header is edited -/
  | edit (header : Version.Header)
  /-- the build directory is deleted -/
  | delete

/-- The tree as `compile` sees it. -/
def Workspace.fs (root : Path) (w : Workspace) : FileSystem :=
  Compiler.Disk.fs ⟨if w.tree.isSome then [projectBuildDir root] else [], []⟩

section Steps

variable (settings : Settings)

/-- One event. -/
def step (w : Workspace) : Event → Option Workspace
  | .compile invocation =>
      ((devkit settings (w.fs settings.projectRoot) invocation.machine
        invocation.argv).exec Trace.empty).2.commands.foldlM
          (runCommand invocation.env invocation.tools.runs) w
  | .edit header => some { w with header := header }
  | .delete => some { w with tree := none }

/-- One event after another. -/
def run (w : Workspace) (events : List Event) : Option Workspace := events.foldlM (step settings) w

end Steps

/-! ## Versions of the library -/

/-- The version in the file name of the library. -/
def Workspace.fileVersion (w : Workspace) : Option String := do
  let s ← (← w.tree).generated
  (← s.targets "garak").properties.lookup "VERSION"

/-- The major version in the name the library is loaded by. -/
def Workspace.soVersion (w : Workspace) : Option String := do
  let s ← (← w.tree).generated
  (← s.targets "garak").properties.lookup "SOVERSION"

/-- What `garak::get_version` of the library returns. -/
def Workspace.reports (w : Workspace) : Option String := do
  let header ← (← w.tree).library
  return Version.Garak.getVersion header

end Build
