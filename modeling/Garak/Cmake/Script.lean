import Garak.Cmake.Values
import Garak.Misc.Leftmost
import Mathlib.Data.List.Infix
import Mathlib.Logic.Function.Basic

/-!
# Scripts of the CMake language

What a configure step does to variables, cache, files and targets. A script is code over
that state which a fatal error may stop. Variables live in scopes: a function or a
subdirectory works on a copy of its caller's variables, and `PARENT_SCOPE` writes to the
caller's. Where a variable is not set, the cache entry of its name is read. Policies are
those of version 3.22: `option` gives way to a variable of its name, and writing a cache
entry leaves variables alone.
-/

namespace Cmake

/-- Variables or cache entries, by name. -/
abbrev Entries := String → Option String

/-- The modes of `message`. -/
inductive MessageMode
  | status
  | authorWarning
  | warning
  | sendError
  | fatalError
deriving DecidableEq

structure Message where
  mode : MessageMode
  text : String
deriving DecidableEq

inductive TargetKind
  | interfaceLibrary
  | sharedLibrary
  | executable
deriving DecidableEq

/-- `INTERFACE`, `PUBLIC`, `PRIVATE`. -/
inductive Visibility
  | interface
  | publicly
  | privately
deriving DecidableEq

/-- What the `target_*` commands add to. -/
inductive Usage
  | features
  | options
  | definitions
  | includeDirectories
  | libraries
  | precompiledHeaders
deriving DecidableEq

structure Requirement where
  usage : Usage
  visibility : Visibility
  item : String
deriving DecidableEq

structure Target where
  kind : TargetKind
  /-- the binary directory it is built in -/
  binaryDir : String
  sources : List String
  requirements : List Requirement
  properties : List (String × String)
deriving DecidableEq

/-- An install rule. -/
inductive Install
  | targets (name destination : String)
  | directory (source destination : String)
deriving DecidableEq

structure State where
  /-- the variables of the current scope -/
  scope : Entries
  /-- those of the scopes it was entered from, innermost first -/
  callers : List Entries
  cache : Entries
  files : String → Option String
  targets : String → Option Target
  /-- `COMPILE_OPTIONS` of the current directory -/
  compileOptions : List String
  /-- the binary directories `enable_testing` was called for -/
  testing : List String
  /-- the executables whose tests are discovered -/
  tests : List String
  installs : List Install
  messages : List Message

/-- Code that a fatal error may stop. -/
abbrev Script := ExceptT String (StateM State)

/-- Run a script. -/
def Script.exec {α : Type} (p : Script α) (s : State) : Except String α × State := p.run.run s

/-! ## Variables -/

/-- What `${name}` is replaced by, if there is anything. -/
def State.lookup (s : State) (name : String) : Option String := (s.scope name).or (s.cache name)

/-- `${name}` inside an argument. -/
def State.value (s : State) (name : String) : String := (s.lookup name).getD ""

/-- Set or unset a variable of the current scope. -/
def State.setScope (s : State) (name : String) (value : Option String) : State :=
  { s with scope := Function.update s.scope name value }

/-- Give a variable of the current scope a value. -/
def State.assign (s : State) (name value : String) : State := s.setScope name (some value)

/-- The value a list of arguments sets a variable to: without any it is unset. -/
def valueOf : List String → Option String
  | [] => none
  | arguments => some (joinList arguments)

/-- `${name}` inside an argument. -/
def value (name : String) : Script String := do return (← get).value name

/-- `${name}` as an argument of its own, without quotes. -/
def unquoted (name : String) : Script (List String) := do return expandList ((← get).value name)

/-- `set(name arguments)` -/
def setVariable (name : String) (arguments : List String) : Script Unit :=
  modify fun s => s.setScope name (valueOf arguments)

/-- The state with other scopes around the current one. -/
def State.withCallers (s : State) (callers : List Entries) : State := { s with callers := callers }

/-- `set(name arguments PARENT_SCOPE)` -/
def setParent (name : String) (arguments : List String) : Script Unit :=
  modify fun s =>
    match s.callers with
    | [] => s
    | caller :: callers =>
        s.withCallers (Function.update caller name (valueOf arguments) :: callers)

/-- The state with a cache entry. -/
def State.setEntry (s : State) (name value : String) : State :=
  { s with cache := Function.update s.cache name (some value) }

/-- `set(name value CACHE STRING doc FORCE)` -/
def setCache (name value : String) : Script Unit := modify fun s => s.setEntry name value

/-- The state after an option was declared. -/
def State.withOption (s : State) (name default : String) : State :=
  { s with
    cache :=
      if (s.scope name).isSome ∨ (s.cache name).isSome then s.cache
      else Function.update s.cache name (some (if isOn default then "ON" else "OFF")) }

/-- `option(name doc default)` -/
def option (name default : String) : Script Unit := modify fun s => s.withOption name default

/-! ## Scopes -/

def State.enter (s : State) : State := { s with callers := s.scope :: s.callers }

def State.leave (s : State) : State :=
  match s.callers with
  | [] => s
  | caller :: callers => { s with scope := caller, callers := callers }

/-- The path of an entry of a directory. -/
def joinDir (dir name : String) : String :=
  if dir.toList.getLast? = some '/' then dir ++ name else dir ++ "/" ++ name

/-- The scope of a subdirectory. -/
def State.enterDirectory (s : State) (name : String) : State :=
  (s.enter.assign "CMAKE_CURRENT_SOURCE_DIR" (joinDir (s.value "CMAKE_CURRENT_SOURCE_DIR") name)).assign
    "CMAKE_CURRENT_BINARY_DIR" (joinDir (s.value "CMAKE_CURRENT_BINARY_DIR") name)

/-- The state with other compile options for the current directory. -/
def State.withOptions (s : State) (items : List String) : State := { s with compileOptions := items }

/-- Call a function with the given parameters. -/
def callFunction (parameters : List (String × String)) (body : Script Unit) : Script Unit := do
  modify State.enter
  modify fun s => parameters.foldl (fun s entry => s.assign entry.1 entry.2) s
  body
  modify State.leave

/-- `add_subdirectory(name)`, for a directory with the given list file. -/
def addSubdirectory (name : String) (body : Script Unit) : Script Unit := do
  let outer : State ← get
  modify fun s => s.enterDirectory name
  body
  modify fun s => s.leave.withOptions outer.compileOptions

/-! ## Conditions -/

/-- `if(name)`, for a name that is no constant. -/
def State.isTrue (s : State) (name : String) : Bool :=
  match s.lookup name with
  | some value => !isOff value
  | none => false

/-- `if(name)` -/
def isTrue (name : String) : Script Bool := do return (← get).isTrue name

/-- An operand of a comparison: the variable of that name, or else the word itself. -/
def State.operand (s : State) (word : String) : String := (s.lookup word).getD word

/-- `first STREQUAL second` -/
def strequal (first second : String) : Script Bool := do
  return decide ((← get).operand first = (← get).operand second)

/-- `first STREQUAL "text"` -/
def strequalText (first text : String) : Script Bool := do
  return decide ((← get).operand first = text)

/-- `word EQUAL n` -/
def equal (word : String) (n : Nat) : Script Bool := do
  return decide (number ((← get).operand word) = some n)

/-- `word MATCHES ".*part"`: `part` occurs in the operand. -/
def contains (word part : String) : Script Bool := do
  return decide (part.toList <:+: ((← get).operand word).toList)

/-! ## Messages and files -/

/-- The state with other messages. -/
def State.withMessages (s : State) (messages : List Message) : State := { s with messages := messages }

/-- The state after a message. -/
def State.say (s : State) (mode : MessageMode) (text : String) : State :=
  { s with messages := s.messages ++ [⟨mode, text⟩] }

/-- `message(mode text)` -/
def message (mode : MessageMode) (text : String) : Script Unit := do
  modify fun s => s.say mode text
  if mode = .fatalError then throw text

/-- `file(READ path name)` -/
def fileRead (path name : String) : Script Unit := do
  match (← get).files path with
  | some contents => modify fun s => s.assign name contents
  | none => throw ("file failed to open for reading (No such file or directory): " ++ path)

/-! ## Regular expressions -/

/-- A regular expression, by what it matches at the beginning of a text: the match, and
what its groups capture. -/
structure Regex where
  matchHere : List Char → Option (List Char × List (List Char))

/-- `CMAKE_MATCH_<n>` -/
def matchVariable (n : Nat) : String := "CMAKE_MATCH_" ++ toString n

/-- Empty the variables of the match before. -/
def State.clearMatches (s : State) : State :=
  match s.lookup "CMAKE_MATCH_COUNT" with
  | none => s
  | some count =>
      ((List.range (min ((number count).getD 0) 9 + 1)).foldl (fun s n =>
        if s.value (matchVariable n) = "" then s else s.assign (matchVariable n) "") s).assign
          "CMAKE_MATCH_COUNT" "0"

/-- Set the variables of a match, of which the first is numbered `n`. -/
def State.storeFrom (s : State) (n : Nat) : List (List Char) → State
  | [] => s
  | group :: groups =>
      if group = [] then s.storeFrom (n + 1) groups
      else
        (s.assign (matchVariable n) (String.ofList group)).storeFrom (n + 1) groups

/-- The number of the last group that captured something. -/
def lastGroup (groups : List (List Char)) : Nat :=
  groups.length - (groups.reverse.takeWhile fun group => group.isEmpty).length

/-- `string(REGEX MATCH regex name input)` -/
def stringRegexMatch (regex : Regex) (name input : String) : Script Unit := do
  modify State.clearMatches
  match Leftmost.search regex.matchHere input.toList with
  | some (found, groups) =>
      modify fun s => (s.storeFrom 0 (found :: groups)).assign "CMAKE_MATCH_COUNT"
        (toString (lastGroup groups))
      if found = [] then throw "string sub-command REGEX, mode MATCH regex matched an empty string."
      modify fun s => s.assign name (String.ofList found)
  | none => modify fun s => s.assign name ""

/-! ## Targets -/

/-- The state with a target under a name. -/
def State.putTarget (s : State) (name : String) (target : Target) : State :=
  { s with targets := Function.update s.targets name (some target) }

/-- A new target. It takes over the compile options of its directory. -/
def State.newTarget (s : State) (kind : TargetKind) (sources : List String) : Target where
  kind := kind
  binaryDir := s.value "CMAKE_CURRENT_BINARY_DIR"
  sources := sources
  requirements :=
    if kind = .interfaceLibrary then []
    else s.compileOptions.map fun item => ⟨.options, .privately, item⟩
  properties := []

/-- Create a target. -/
def addTarget (kind : TargetKind) (name : String) (sources : List String) : Script Unit := do
  let s : State ← get
  if (s.targets name).isSome then
    throw ("cannot create target " ++ name ++
      " because another target with the same name already exists.")
  else set (s.putTarget name (s.newTarget kind sources))

/-- `add_library(name INTERFACE)` -/
def addInterfaceLibrary (name : String) : Script Unit := addTarget .interfaceLibrary name []

/-- `add_library(name SHARED sources)` -/
def addSharedLibrary (name : String) (sources : List String) : Script Unit :=
  addTarget .sharedLibrary name sources

/-- `add_executable(name sources)` -/
def addExecutable (name : String) (sources : List String) : Script Unit :=
  addTarget .executable name sources

/-- Change a target that exists. -/
def onTarget (name : String) (change : Target → Target) : Script Unit := do
  let s : State ← get
  match s.targets name with
  | some target => set (s.putTarget name (change target))
  | none => throw ("target " ++ name ++ " is not built by this project.")

/-- A target with items of one kind more, under one visibility. -/
def Target.require (target : Target) (usage : Usage) (visibility : Visibility) (items : List String) :
    Target :=
  { target with
    requirements := target.requirements ++ items.map fun item => ⟨usage, visibility, item⟩ }

/-- The `target_*` commands. -/
def targetRequire (usage : Usage) (name : String) (visibility : Visibility) (items : List String) :
    Script Unit :=
  onTarget name fun target => target.require usage visibility items

/-- `target_compile_features` -/
def targetCompileFeatures (name : String) (visibility : Visibility) (items : List String) : Script Unit :=
  targetRequire .features name visibility items

/-- `target_compile_options` -/
def targetCompileOptions (name : String) (visibility : Visibility) (items : List String) : Script Unit :=
  targetRequire .options name visibility items

/-- `target_compile_definitions` -/
def targetCompileDefinitions (name : String) (visibility : Visibility) (items : List String) :
    Script Unit :=
  targetRequire .definitions name visibility items

/-- `target_include_directories` -/
def targetIncludeDirectories (name : String) (visibility : Visibility) (items : List String) :
    Script Unit :=
  targetRequire .includeDirectories name visibility items

/-- `target_link_libraries` -/
def targetLinkLibraries (name : String) (visibility : Visibility) (items : List String) : Script Unit :=
  targetRequire .libraries name visibility items

/-- `target_precompile_headers` -/
def targetPrecompileHeaders (name : String) (visibility : Visibility) (items : List String) :
    Script Unit :=
  targetRequire .precompiledHeaders name visibility items

/-- The names and values of properties, when each name has its value. -/
def propertyPairs : List String → Option (List (String × String))
  | [] => some []
  | [_] => none
  | name :: value :: rest => (propertyPairs rest).map ((name, value) :: ·)

/-- `set_target_properties(name PROPERTIES arguments)` -/
def setTargetProperties (name : String) (arguments : List String) : Script Unit := do
  match propertyPairs arguments with
  | some properties =>
      onTarget name fun target => { target with properties := target.properties ++ properties }
  | none => throw "set_target_properties called with incorrect number of arguments."

/-- `add_compile_options(items)` -/
def addCompileOptions (items : List String) : Script Unit :=
  modify fun s => s.withOptions (s.compileOptions ++ items)

/-- The state after `enable_testing()`. -/
def State.addTesting (s : State) : State :=
  { s with testing := s.testing ++ [s.value "CMAKE_CURRENT_BINARY_DIR"] }

/-- `enable_testing()` -/
def enableTesting : Script Unit := modify State.addTesting

/-- The state with an executable whose tests are discovered. -/
def State.addTests (s : State) (name : String) : State := { s with tests := s.tests ++ [name] }

/-- `gtest_discover_tests(name)` -/
def gtestDiscoverTests (name : String) : Script Unit := modify fun s => s.addTests name

/-- The state with an install rule more. -/
def State.addInstall (s : State) (rule : Install) : State :=
  { s with installs := s.installs ++ [rule] }

/-- `install(…)` -/
def install (rule : Install) : Script Unit := modify fun s => s.addInstall rule

end Cmake
