import Garak.Pathlib.Path

/-!
# `tooling/settings.py`

The application-wide settings. Everything a developer edits by hand in that file
(the projects, the ignore lists, the programs) is a field, so that a statement
over all `Settings` is one over all edits; `shipped` is the file as it stands.
-/

namespace Tooling

open Pathlib

/-- An entry of `CMAKE_PROGRAMS`. -/
structure Program where
  name : String
  flags : String
deriving DecidableEq

/-- `CMAKE_PROGRAMS`, with a field for each of its keys. -/
structure CmakePrograms where
  cmake : Program
  clangFormatter : Program
  cmakeFormatter : Program
  clangAnalyzer : Program
  clangCxxCompiler : Program
  clangCCompiler : Program
  gnuCxxCompiler : Program
  gnuCCompiler : Program

/-- `CMAKE_PROGRAMS.items()`. -/
def CmakePrograms.items (programs : CmakePrograms) : List (String × Program) :=
  [("CMAKE", programs.cmake), ("CLANG_FORMATTER", programs.clangFormatter),
    ("CMAKE_FORMATTER", programs.cmakeFormatter), ("CLANG_ANALYZER", programs.clangAnalyzer),
    ("CLANG_CXX_COMPILER", programs.clangCxxCompiler),
    ("CLANG_C_COMPILER", programs.clangCCompiler),
    ("GNU_CXX_COMPILER", programs.gnuCxxCompiler), ("GNU_C_COMPILER", programs.gnuCCompiler)]

/-- `PACKAGE_CONFIG`. -/
structure PackageConfig where
  backend : String
  license : String
  maintainer : String
  requires : String
  release : String

/-- The module-level names of `tooling/settings.py`. -/
structure Settings where
  /-- `PROJECT_ROOT` -/
  projectRoot : Path
  /-- `PROJECTS` -/
  projects : List Path
  packageConfig : PackageConfig
  cmakePrograms : CmakePrograms
  clangFormatIgnoreFile : List Path
  clangFormatIgnoreDir : List Path
  clangTidyIgnoreFile : List Path
  clangTidyIgnoreDir : List Path

/-- `PROJECT_ROOT / "build"` -/
def projectBuildDir (projectRoot : Path) : Path := projectRoot.child ⟨"build", by decide⟩

/-- `PROJECT_BUILD_DIR` -/
def Settings.projectBuildDir (settings : Settings) : Path :=
  Tooling.projectBuildDir settings.projectRoot

/-- `PROJECT_ROOT / '.clang-tidy'` -/
def tidyConfig (projectRoot : Path) : Path := projectRoot.child ⟨".clang-tidy", by decide⟩

/-- `CMAKE_PROGRAMS` as shipped. The flags of the analyzer name two paths below the
project root. -/
def shippedPrograms (projectRoot : Path) : CmakePrograms where
  cmake := ⟨"cmake", ""⟩
  clangFormatter := ⟨"clang-format", "-i"⟩
  cmakeFormatter := ⟨"cmake-format", "-i"⟩
  clangAnalyzer :=
    ⟨"clang-tidy",
      "-p " ++ (projectBuildDir projectRoot).str ++ " --config-file=" ++ (tidyConfig projectRoot).str⟩
  clangCxxCompiler := ⟨"clang++", ""⟩
  clangCCompiler := ⟨"clang", ""⟩
  gnuCxxCompiler := ⟨"g++", ""⟩
  gnuCCompiler := ⟨"gcc", ""⟩

/-- `tooling/settings.py` as it stands: `projectRoot` is where the checkout lies, the
release names come from the `distro` package. -/
def shipped (projectRoot : Path) (codename version : String) : Settings where
  projectRoot := projectRoot
  projects := [projectRoot.child ⟨"garak", by decide⟩]
  packageConfig :=
    { backend := "checkinstall"
      license := "GPL-3.0"
      maintainer := "mattcoding4days"
      requires := ""
      release := codename ++ "-" ++ version }
  cmakePrograms := shippedPrograms projectRoot
  clangFormatIgnoreFile :=
    [((projectRoot.child ⟨"garak", by decide⟩).child ⟨"include", by decide⟩).child
      ⟨"asio.hpp", by decide⟩]
  clangFormatIgnoreDir :=
    [((projectRoot.child ⟨"garak", by decide⟩).child ⟨"include", by decide⟩).child
      ⟨"asio", by decide⟩]
  clangTidyIgnoreFile :=
    [((projectRoot.child ⟨"garak", by decide⟩).child ⟨"tests", by decide⟩).child
      ⟨"version_test.cpp", by decide⟩,
      ((projectRoot.child ⟨"garak", by decide⟩).child ⟨"include", by decide⟩).child
      ⟨"asio.hpp", by decide⟩]
  clangTidyIgnoreDir :=
    [((projectRoot.child ⟨"garak", by decide⟩).child ⟨"include", by decide⟩).child
      ⟨"asio", by decide⟩]

end Tooling
