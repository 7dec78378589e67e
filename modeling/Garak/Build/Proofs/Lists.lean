import Garak.Build.Proofs.GetVersion
import Garak.Build.Scripts
import Garak.Pathlib.Path

/-!
# The list files of the subdirectories

Each of them adds one target. The targets as they are meant to be are `libraryTarget`,
`testsTarget` and `scratchTarget`; the lemmas say that the list files add these.
-/

namespace Build

open Cmake Pathlib

/-! ## The targets -/

section Targets

variable (source binary : Path) (colours : List String)

/-- `garak` below a directory. -/
def garakDir (dir : Path) : String := joinDir dir.str "garak"

/-- A target of `garak/`, in a directory of it. Its sources see the headers of the
library. -/
def garakTarget (kind : TargetKind) (dir : String) (sources libraries : List String) : Target where
  kind := kind
  binaryDir := joinDir (garakDir binary) dir
  sources := sources
  requirements :=
    colours.map (fun item => ⟨.options, .privately, item⟩) ++
      (expandList (garakDir source ++ "/include")).map (fun item =>
        ⟨.includeDirectories, .publicly, item⟩) ++
      libraries.map fun item => ⟨.libraries, .privately, item⟩
  properties := []

/-- The shared library. -/
def libraryTarget (vars : Version.Cmake.Variables) : Target :=
  { garakTarget source binary colours .sharedLibrary "src"
      [garakDir source ++ "/include" ++ "/" ++ "garak" ++ "/version.hpp",
        garakDir source ++ "/src" ++ "/version.cpp"]
      ["project_options", "project_warnings", "stdc++fs", "asio"] with
    properties := [("VERSION", vars.version), ("SOVERSION", vars.vmajor)] }

/-- The unit tests. -/
def testsTarget : Target :=
  garakTarget source binary colours .executable "tests"
    (expandList (garakDir source ++ "/tests" ++ "/version_test.cpp") ++
      [garakDir source ++ "/src" ++ "/version.cpp"])
    ["project_options", "project_warnings", "gtest_main"]

/-- The scratch program. -/
def scratchTarget : Target :=
  garakTarget source binary colours .executable "examples"
    ([garakDir source ++ "/examples" ++ "/scratch.cpp"] ++
      expandList (garakDir source ++ "/src" ++ "/version.cpp"))
    ["project_options", "project_warnings", "stdc++fs", "asio"]

/-- The headers of asio. -/
def asioTarget : Target where
  kind := .interfaceLibrary
  binaryDir := garakDir binary
  sources := []
  requirements :=
    [⟨.includeDirectories, .interface, garakDir source ++ "/include"⟩,
      ⟨.definitions, .interface, "ASIO_STANDALONE"⟩,
      ⟨.definitions, .interface, "ASIO_NO_DEPRECATED"⟩,
      ⟨.libraries, .interface, "Threads::Threads"⟩]
  properties := []

end Targets

/-! ## The variables of `garak/CMakeLists.txt` -/

/-- What the list files of the subdirectories find. -/
structure InGarak (source : Path) (vars : Version.Cmake.Variables) (s : State) : Prop where
  package : s.lookup "PACKAGE_NAME" = some "garak"
  version : s.lookup "garak_VERSION" = some vars.version
  vmajor : s.lookup "garak_VMAJOR" = some vars.vmajor
  sourceDir : s.lookup "GARAK_SOURCE_DIR" = some (garakDir source ++ "/src")
  includeDir : s.lookup "GARAK_INCLUDE_DIR" = some (garakDir source ++ "/include")
  testDir : s.lookup "GARAK_TEST_SOURCE_DIR" = some (garakDir source ++ "/tests")
  examplesDir : s.lookup "GARAK_EXAMPLES_SOURCE_DIR" = some (garakDir source ++ "/examples")

/-- The names `InGarak` is about. -/
def inGarakVars : List String :=
  ["PACKAGE_NAME", "garak_VERSION", "garak_VMAJOR", "GARAK_SOURCE_DIR", "GARAK_INCLUDE_DIR",
    "GARAK_TEST_SOURCE_DIR", "GARAK_EXAMPLES_SOURCE_DIR"]

theorem InGarak.congr {source : Path} {vars : Version.Cmake.Variables} {s s' : State}
    (inside : InGarak source vars s) (same : ∀ name ∈ inGarakVars, s'.lookup name = s.lookup name) :
    InGarak source vars s' where
  package := (same _ (by decide)).trans inside.package
  version := (same _ (by decide)).trans inside.version
  vmajor := (same _ (by decide)).trans inside.vmajor
  sourceDir := (same _ (by decide)).trans inside.sourceDir
  includeDir := (same _ (by decide)).trans inside.includeDir
  testDir := (same _ (by decide)).trans inside.testDir
  examplesDir := (same _ (by decide)).trans inside.examplesDir

section Lists

variable {source binary : Path} {vars : Version.Cmake.Variables} {s : State}

theorem exec_srcLists (inside : InGarak source vars s) (free : s.targets "garak" = none)
    (elements : isElement vars.version = true ∧ isElement vars.vmajor = true)
    (here : s.lookup "CMAKE_CURRENT_BINARY_DIR" = some (joinDir (garakDir binary) "src")) :
    srcLists.exec s =
      (.ok (),
        { s with
          targets := Function.update s.targets "garak"
            (some (libraryTarget source binary s.compileOptions vars))
          installs := s.installs ++ [.targets "garak" "lib"] ++
            [.directory (garakDir source ++ "/include" ++ "/") "include"]
          messages := s.messages ++
            [⟨.status, "Building " ++ "garak" ++ "_v" ++ s.value "PACKAGE_VERSION" ++ " [" ++
              s.value "CMAKE_BUILD_TYPE" ++ "]"⟩] }) := by
  have names : "garak" ++ "_VERSION" = "garak_VERSION" ∧ "garak" ++ "_VMAJOR" = "garak_VMAJOR" := by
    decide
  unfold srcLists addSharedLibrary targetIncludeDirectories targetLinkLibraries targetRequire
    setTargetProperties
  simp only [exec_bind, exec_value, exec_unquoted, exec_install, exec_addTarget, exec_onTarget,
    exec_message (by decide : MessageMode.status ≠ .fatalError), State.value, lookup_say,
    lookup_putTarget, lookup_addInstall, targets_say, targets_putTarget_self, putTarget_putTarget,
    putTarget_addInstall, inside.package, inside.includeDir, inside.sourceDir, free,
    Option.getD_some]
  rw [names.1, names.2, inside.version, inside.vmajor, Option.getD_some, Option.getD_some,
    expandList_of_isElement elements.1, expandList_of_isElement elements.2]
  simp only [propertyPairs, List.cons_append, List.nil_append, Option.map_some, exec_onTarget,
    targets_putTarget_self, putTarget_putTarget]
  simp only [State.newTarget, State.value, lookup_say, here, Option.getD_some]
  rfl

theorem exec_testsLists (inside : InGarak source vars s)
    (free : s.targets "garak_tests.bin" = none)
    (here : s.lookup "CMAKE_CURRENT_BINARY_DIR" = some (joinDir (garakDir binary) "tests")) :
    ∃ scope, testsLists.exec s =
      (.ok (),
        { s with
          scope := scope
          targets := Function.update s.targets "garak_tests.bin"
            (some (testsTarget source binary s.compileOptions))
          tests := s.tests ++ ["garak_tests.bin"] }) := by
  have name : "garak" ++ "_tests.bin" = "garak_tests.bin" := by decide
  unfold testsLists addExecutable targetIncludeDirectories targetLinkLibraries targetRequire
  simp only [exec_bind, exec_value, exec_unquoted, exec_setVariable, exec_addTarget, exec_onTarget,
    exec_gtestDiscoverTests, State.value, lookup_setScope, lookup_putTarget, inside.package,
    inside.testDir, inside.sourceDir, inside.includeDir, Option.getD_some, valueOf,
    joinList_singleton, String.reduceEq, if_true, if_false, name, free, targets_setScope,
    targets_putTarget_self, putTarget_putTarget, State.newTarget, here]
  exact ⟨_, rfl⟩

theorem exec_examplesLists (inside : InGarak source vars s)
    (free : s.targets "garak_scratch.bin" = none)
    (here : s.lookup "CMAKE_CURRENT_BINARY_DIR" = some (joinDir (garakDir binary) "examples")) :
    ∃ scope, examplesLists.exec s =
      (.ok (),
        { s with
          scope := scope
          targets := Function.update s.targets "garak_scratch.bin"
            (some (scratchTarget source binary s.compileOptions)) }) := by
  have name : "garak" ++ "_scratch.bin" = "garak_scratch.bin" := by decide
  unfold examplesLists addExecutable targetIncludeDirectories targetLinkLibraries targetRequire
  simp only [exec_bind, exec_value, exec_unquoted, exec_setVariable, exec_addTarget, exec_onTarget,
    State.value, lookup_setScope, lookup_putTarget, inside.package, inside.examplesDir,
    inside.sourceDir, inside.includeDir, Option.getD_some, valueOf, joinList_singleton,
    String.reduceEq, if_true, if_false, name, free, targets_setScope, targets_putTarget_self,
    putTarget_putTarget, State.newTarget, here]
  exact ⟨_, rfl⟩

theorem exec_asioLibrary (inside : InGarak source vars s) (free : s.targets "asio" = none)
    (here : s.lookup "CMAKE_CURRENT_BINARY_DIR" = some (garakDir binary)) :
    asioLibrary.exec s =
      (.ok (),
        (s.putTarget "asio" (asioTarget source binary)).say .status
          "Adding bundled asio standalone") := by
  unfold asioLibrary addInterfaceLibrary targetIncludeDirectories targetCompileDefinitions
    targetLinkLibraries targetRequire
  simp only [exec_bind, exec_value, exec_addTarget, exec_onTarget, State.value, lookup_putTarget,
    inside.includeDir, Option.getD_some, free, targets_putTarget_self, putTarget_putTarget,
    State.newTarget, here]
  rfl

end Lists

end Build
