import Garak.Build.GetVersion
import Garak.Cmake.Rules

/-!
# The list files

`CMakeLists.txt` of the project and of its directories, and the scripts under `cmake/`
they include, statement by statement. What they call and do not define is in `Externals`:
the modules that come with CMake, and CPM, which is downloaded. An external is code that
leaves alone what goes by the names of this project.
-/

namespace Build

open Cmake

/-! ## What comes from elsewhere -/

/-- The names this project counts on. -/
def own : Names where
  vars :=
    ["CMAKE_CURRENT_SOURCE_DIR", "CMAKE_CURRENT_BINARY_DIR", "CMAKE_CXX_STANDARD",
      "CMAKE_CXX_COMPILER_ID", "WARNINGS_AS_ERRORS", "PROJECT_WARNINGS", "GARAK_ENABLE_PCH",
      "PACKAGE_NAME", "PACKAGE_VERSION", "garak_VMAJOR", "garak_VMINOR", "garak_VPATCH",
      "garak_VERSION", "GARAK_SOURCE_DIR", "GARAK_INCLUDE_DIR", "GARAK_TEST_SOURCE_DIR",
      "GARAK_EXAMPLES_SOURCE_DIR", "GARAK_BUILD_TESTING", "GARAK_BUILD_EXAMPLES"]
  targets :=
    ["project_options", "project_warnings", "asio", "garak", "garak_tests.bin",
      "garak_scratch.bin"]
  files := fun path => "/include/garak/version.hpp".toList <:+ path.toList

/-- What the list files call and do not define. -/
structure Externals where
  /-- the texts of the errors that may stop such code -/
  fails : String → Prop
  /-- the compiler id CMake finds for the entry `CMAKE_CXX_COMPILER`, or why there is none -/
  identify : Option String → Except String String
  /-- the rest of what `project` does for its languages -/
  enableLanguages : Script Unit
  /-- `$ENV{name}` -/
  environment : String → Option String
  /-- `get_filename_component(path ABSOLUTE)` -/
  absolute : String → String
  /-- `file(DOWNLOAD url path)` -/
  download : String → String → Script Unit
  /-- the downloaded CPM -/
  cpm : Script Unit
  /-- `cpmaddpackage` with the given arguments -/
  cpmAddPackage : List String → Script Unit
  /-- `find_package(Threads REQUIRED)` -/
  findThreads : Script Unit
  /-- `check_ipo_supported`: its result and its output -/
  checkIpoSupported : Bool × String
  /-- `include(GNUInstallDirs)` -/
  gnuInstallDirs : Script Unit
  enableLanguages_confined : Confined own fails enableLanguages
  download_keeps : ∀ url path s, s.files path = none → Keeps own s ((download url path).exec s).2
  download_stops : ∀ url path s e s', (download url path).exec s = (.error e, s') → fails e
  cpm_confined : Confined own fails cpm
  cpmAddPackage_confined : ∀ arguments, Confined own fails (cpmAddPackage arguments)
  findThreads_confined : Confined own fails findThreads
  gnuInstallDirs_confined : Confined own fails gnuInstallDirs

/-! ## `cmake/CompilerWarnings.cmake` -/

/-- `CLANG_WARNINGS` as it is first set. -/
def clangWarnings : List String :=
  ["-Wall", "-Wextra", "-Wshadow", "-Wnon-virtual-dtor", "-Wold-style-cast", "-Wcast-align",
    "-Wunused", "-Woverloaded-virtual", "-Wpedantic", "-Wconversion", "-Wsign-conversion",
    "-Wnull-dereference", "-Wdouble-promotion", "-Wformat=2"]

/-- What `GCC_WARNINGS` adds. -/
def gccWarnings : List String :=
  ["-Wmisleading-indentation", "-Wduplicated-cond", "-Wduplicated-branches", "-Wlogical-op",
    "-Wuseless-cast"]

/-- The lists of `set_project_warnings`. -/
def warningLists : Script Unit := do
  option "WARNINGS_AS_ERRORS" "FALSE"
  setVariable "CLANG_WARNINGS" clangWarnings
  if ← isTrue "WARNINGS_AS_ERRORS" then
    setVariable "CLANG_WARNINGS" ((← unquoted "CLANG_WARNINGS") ++ ["-Werror"])
    setVariable "MSVC_WARNINGS" ((← unquoted "MSVC_WARNINGS") ++ ["/WX"])
  setVariable "GCC_WARNINGS" ((← unquoted "CLANG_WARNINGS") ++ gccWarnings)

/-- The branches of `set_project_warnings` over the compiler. -/
def chooseWarnings : Script Unit := do
  if ← contains "CMAKE_CXX_COMPILER_ID" "Clang" then
    setVariable "PROJECT_WARNINGS" (← unquoted "CLANG_WARNINGS")
  else if ← strequalText "CMAKE_CXX_COMPILER_ID" "GNU" then
    setVariable "PROJECT_WARNINGS" (← unquoted "GCC_WARNINGS")
  else
    message .authorWarning
      ("No compiler warnings set for '" ++ (← value "CMAKE_CXX_COMPILER_ID") ++ "' compiler.")

/-- The body of `set_project_warnings`. -/
def setProjectWarningsBody : Script Unit := do
  warningLists
  chooseWarnings
  targetCompileOptions (← value "project_name") .interface (← unquoted "PROJECT_WARNINGS")

/-- `set_project_warnings(project_name)` -/
def setProjectWarnings (projectName : String) : Script Unit :=
  callFunction [("project_name", projectName)] setProjectWarningsBody

section Lists

variable (externals : Externals)

/-! ## `cmake/CPM.cmake` and `cmake/StandardProjectSettings.cmake` -/

/-- The place `cmake/CPM.cmake` downloads to. -/
def cpmDownloadLocation : Script Unit := do
  if ← isTrue "CPM_SOURCE_CACHE" then
    setVariable "CPM_SOURCE_CACHE" [externals.absolute (← value "CPM_SOURCE_CACHE")]
    setVariable "CPM_DOWNLOAD_LOCATION"
      [(← value "CPM_SOURCE_CACHE") ++ "/cpm/CPM_" ++ (← value "CPM_DOWNLOAD_VERSION") ++ ".cmake"]
  else
    match externals.environment "CPM_SOURCE_CACHE" with
    | some cache =>
        setVariable "CPM_DOWNLOAD_LOCATION"
          [cache ++ "/cpm/CPM_" ++ (← value "CPM_DOWNLOAD_VERSION") ++ ".cmake"]
    | none =>
        setVariable "CPM_DOWNLOAD_LOCATION"
          [(← value "CMAKE_BINARY_DIR") ++ "/cmake/CPM_" ++ (← value "CPM_DOWNLOAD_VERSION") ++
            ".cmake"]

/-- CPM is downloaded unless it is there. -/
def downloadCpm : Script Unit := do
  if ((← get).files (← value "CPM_DOWNLOAD_LOCATION")).isNone then
    message .status ("Downloading CPM.cmake to " ++ (← value "CPM_DOWNLOAD_LOCATION"))
    externals.download
      ("https://github.com/cpm-cmake/CPM.cmake/releases/download/v" ++
        (← value "CPM_DOWNLOAD_VERSION") ++ "/CPM.cmake")
      (← value "CPM_DOWNLOAD_LOCATION")

/-- `cmake/CPM.cmake` -/
def cpmScript : Script Unit := do
  setVariable "CPM_DOWNLOAD_VERSION" ["0.32.2"]
  cpmDownloadLocation externals
  downloadCpm externals
  externals.cpm

/-- The default for the build type. -/
def defaultBuildType : Script Unit := do
  if !(← isTrue "CMAKE_BUILD_TYPE") && !(← isTrue "CMAKE_CONFIGURATION_TYPES") then
    message .status "Setting build type to 'RelWithDebInfo' as none was specified."
    setCache "CMAKE_BUILD_TYPE" "RelWithDebInfo"

/-- The settings for optimisation between units. -/
def ipoSettings : Script Unit := do
  option "ENABLE_IPO" "OFF"
  if ← isTrue "ENABLE_IPO" then
    if externals.checkIpoSupported.1 then setVariable "CMAKE_INTERPROCEDURAL_OPTIMIZATION" ["ON"]
    else message .sendError ("IPO is not supported: " ++ externals.checkIpoSupported.2)

/-- The colours of the diagnostics. -/
def colourSettings : Script Unit := do
  if ← contains "CMAKE_CXX_COMPILER_ID" "Clang" then addCompileOptions ["-fcolor-diagnostics"]
  else if ← strequalText "CMAKE_CXX_COMPILER_ID" "GNU" then
    addCompileOptions ["-fdiagnostics-color=always"]
  else
    message .status
      ("No colored compiler diagnostic set for '" ++ (← value "CMAKE_CXX_COMPILER_ID") ++
        "' compiler.")

/-- `cmake/StandardProjectSettings.cmake` -/
def standardProjectSettings : Script Unit := do
  defaultBuildType
  setVariable "CMAKE_EXPORT_COMPILE_COMMANDS" ["ON"]
  ipoSettings externals
  colourSettings

/-! ## `garak/` -/

/-- `garak/tests/CMakeLists.txt` -/
def testsLists : Script Unit := do
  setVariable "GARAK_TEST_SOURCES" [(← value "GARAK_TEST_SOURCE_DIR") ++ "/version_test.cpp"]
  setVariable "PACKAGE_UNIT_TEST_NAME" [(← value "PACKAGE_NAME") ++ "_tests.bin"]
  addExecutable (← value "PACKAGE_UNIT_TEST_NAME")
    ((← unquoted "GARAK_TEST_SOURCES") ++ [(← value "GARAK_SOURCE_DIR") ++ "/version.cpp"])
  targetIncludeDirectories (← value "PACKAGE_UNIT_TEST_NAME") .publicly
    (← unquoted "GARAK_INCLUDE_DIR")
  targetLinkLibraries (← value "PACKAGE_UNIT_TEST_NAME") .privately
    ["project_options", "project_warnings", "gtest_main"]
  gtestDiscoverTests (← value "PACKAGE_UNIT_TEST_NAME")

/-- `garak/src/CMakeLists.txt` -/
def srcLists : Script Unit := do
  message .status
    ("Building " ++ (← value "PACKAGE_NAME") ++ "_v" ++ (← value "PACKAGE_VERSION") ++ " [" ++
      (← value "CMAKE_BUILD_TYPE") ++ "]")
  addSharedLibrary (← value "PACKAGE_NAME")
    [(← value "GARAK_INCLUDE_DIR") ++ "/" ++ (← value "PACKAGE_NAME") ++ "/version.hpp",
      (← value "GARAK_SOURCE_DIR") ++ "/version.cpp"]
  targetIncludeDirectories (← value "PACKAGE_NAME") .publicly (← unquoted "GARAK_INCLUDE_DIR")
  targetLinkLibraries (← value "PACKAGE_NAME") .privately
    ["project_options", "project_warnings", "stdc++fs", "asio"]
  install (.targets (← value "PACKAGE_NAME") "lib")
  install (.directory ((← value "GARAK_INCLUDE_DIR") ++ "/") "include")
  setTargetProperties (← value "PACKAGE_NAME")
    (["VERSION"] ++ (← unquoted ((← value "PACKAGE_NAME") ++ "_VERSION")) ++ ["SOVERSION"] ++
      (← unquoted ((← value "PACKAGE_NAME") ++ "_VMAJOR")))

/-- `garak/examples/CMakeLists.txt` -/
def examplesLists : Script Unit := do
  setVariable "ScratchFile" [(← value "PACKAGE_NAME") ++ "_scratch.bin"]
  addExecutable (← value "ScratchFile")
    ([(← value "GARAK_EXAMPLES_SOURCE_DIR") ++ "/scratch.cpp"] ++
      expandList ((← value "GARAK_SOURCE_DIR") ++ "/version.cpp"))
  targetIncludeDirectories (← value "ScratchFile") .publicly (← unquoted "GARAK_INCLUDE_DIR")
  targetLinkLibraries (← value "ScratchFile") .privately
    ["project_options", "project_warnings", "stdc++fs", "asio"]

/-- The message of the guard against in-source builds. -/
def inSource : String :=
  "In source builds are not allowed. Please make a new directory (called a build directory) " ++
    "and run CMake from there."

/-- The variables and options of `garak/CMakeLists.txt`. -/
def garakVariables : Script Unit := do
  setVariable "PACKAGE_VERSION" (← unquoted ((← value "PACKAGE_NAME") ++ "_VERSION"))
  setVariable "GARAK_SOURCE_DIR" [(← value "CMAKE_CURRENT_SOURCE_DIR") ++ "/src"]
  setVariable "GARAK_INCLUDE_DIR" [(← value "CMAKE_CURRENT_SOURCE_DIR") ++ "/include"]
  setVariable "GARAK_TEST_SOURCE_DIR" [(← value "CMAKE_CURRENT_SOURCE_DIR") ++ "/tests"]
  setVariable "GARAK_EXAMPLES_SOURCE_DIR" [(← value "CMAKE_CURRENT_SOURCE_DIR") ++ "/examples"]
  option "GARAK_BUILD_TESTING" "ON"
  option "GARAK_BUILD_EXAMPLES" "ON"

/-- The guard against builds in the project root and in `src/`. -/
def inSourceGuard : Script Unit := do
  if (← strequal "CMAKE_CURRENT_SOURCE_DIR" "CMAKE_CURRENT_BINARY_DIR") ||
      (← strequal "CMAKE_CURRENT_BINARY_DIR" "GARAK_SOURCE_DIR") then
    message .fatalError inSource

/-- What the list file says about googletest. -/
def reportGoogletest : Script Unit := do
  if ← isTrue "googletest_ADDED" then
    message .status "gtest configured correctly"
    setParent "googletest_Installed" ["ON"]
  else if ← isTrue "googletest_Installed" then message .status "gtest already installed"
  else message .warning "gtest was not configured properly"

/-- The part of `garak/CMakeLists.txt` under `if(GARAK_BUILD_TESTING)`. -/
def garakTesting : Script Unit := do
  externals.cpmAddPackage
    ["NAME", "googletest", "GITHUB_REPOSITORY", "google/googletest", "GIT_TAG", "release-1.11.0",
      "VERSION", "1.11.0", "OPTIONS", "BUILD_GMOCK ON", "INSTALL_GTEST OFF",
      "gtest_force_shared_crt ON"]
  reportGoogletest
  enableTesting
  message .status ((← value "PACKAGE_NAME") ++ " -- Tests Enabled")
  addSubdirectory "tests" testsLists

/-- The interface library for the bundled asio. -/
def asioLibrary : Script Unit := do
  addInterfaceLibrary "asio"
  targetIncludeDirectories "asio" .interface [← value "GARAK_INCLUDE_DIR"]
  targetCompileDefinitions "asio" .interface ["ASIO_STANDALONE", "ASIO_NO_DEPRECATED"]
  targetLinkLibraries "asio" .interface ["Threads::Threads"]
  message .status "Adding bundled asio standalone"

/-- The part of `garak/CMakeLists.txt` under `if(GARAK_BUILD_EXAMPLES)`. -/
def garakExamples : Script Unit := do
  message .status ((← value "PACKAGE_NAME") ++ " -- Examples Enabled")
  addSubdirectory "examples" examplesLists

/-- `garak/CMakeLists.txt`, after the tests. -/
def garakLibraries : Script Unit := do
  asioLibrary
  addSubdirectory "src" srcLists
  if ← isTrue "GARAK_BUILD_EXAMPLES" then garakExamples

/-- `garak/CMakeLists.txt`, after the guard. -/
def garakContents : Script Unit := do
  externals.findThreads
  if ← isTrue "GARAK_BUILD_TESTING" then garakTesting externals
  garakLibraries

/-- `garak/CMakeLists.txt` -/
def garakLists : Script Unit := do
  setVariable "PACKAGE_NAME" ["garak"]
  getVersion
  garakVariables
  inSourceGuard
  garakContents externals

/-! ## The project -/

/-- The variables `project(libgarak …)` sets. -/
def projectVariables : Script Unit := do
  setVariable "PROJECT_NAME" ["libgarak"]
  setVariable "PROJECT_VERSION" ["0.1.0"]
  setVariable "PROJECT_DESCRIPTION" ["An async tcp client/server framework in modern C++"]
  setVariable "PROJECT_HOMEPAGE_URL" ["https://github.com/mattcoding4days/garak"]

/-- `project(libgarak …)`, with the languages CXX and C. -/
def project : Script Unit := do
  projectVariables
  match externals.identify ((← get).lookup "CMAKE_CXX_COMPILER") with
  | .ok id => setVariable "CMAKE_CXX_COMPILER_ID" [id]
  | .error text => message .fatalError text
  externals.enableLanguages

/-- The libraries that carry options and warnings. -/
def optionsLibraries : Script Unit := do
  addInterfaceLibrary "project_options"
  targetCompileFeatures "project_options" .interface
    (expandList ("cxx_std_" ++ (← value "CMAKE_CXX_STANDARD")))
  addInterfaceLibrary "project_warnings"

/-- The headers `GARAK_ENABLE_PCH` has precompiled. -/
def precompiledHeaders : List String :=
  ["<algorithm>", "<bitset>", "<chrono>", "<condition_variable>", "<cstdint>", "<cstdlib>",
    "<deque>", "<exception>", "<filesystem>", "<fstream>", "<iostream>", "<memory>", "<mutex>",
    "<optional>", "<sstream>", "<string_view>", "<thread>", "<variant>", "<vector>"]

/-- The option for precompiled headers. -/
def precompile : Script Unit := do
  option "GARAK_ENABLE_PCH" "ON"
  if ← isTrue "GARAK_ENABLE_PCH" then
    targetPrecompileHeaders "project_options" .interface precompiledHeaders

/-- `CMakeLists.txt` -/
def projectLists : Script Unit := do
  setVariable "CMAKE_CXX_STANDARD" ["20"]
  setVariable "CMAKE_CXX_STANDARD_REQUIRED" ["True"]
  project externals
  optionsLibraries
  cpmScript externals
  standardProjectSettings externals
  setProjectWarnings "project_warnings"
  precompile
  addSubdirectory "garak" (garakLists externals)
  externals.gnuInstallDirs

/-! ## A configure step -/

/-- The state a configure step begins in. -/
def initial (sourceDir binaryDir : String) (cache : Entries) (files : String → Option String) :
    State where
  scope := fun name =>
    if name = "CMAKE_SOURCE_DIR" ∨ name = "CMAKE_CURRENT_SOURCE_DIR" then some sourceDir
    else if name = "CMAKE_BINARY_DIR" ∨ name = "CMAKE_CURRENT_BINARY_DIR" then some binaryDir
    else none
  callers := []
  cache := cache
  files := files
  targets := fun _ => none
  compileOptions := []
  testing := []
  tests := []
  installs := []
  messages := []

end Lists

end Build
