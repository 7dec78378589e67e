import Garak.Cmake.Script
import Garak.Version.GetVersion

/-!
# `cmake/Utils.cmake`

The function `get_version`, which runs in a scope of its own and writes four variables of
its caller.
-/

namespace Build

open Cmake

/-- `name ([0-9]+)` -/
def macroRegex (name : String) : Regex where
  matchHere text :=
    (Version.matchMacro name.toList text).map fun digits => (name.toList ++ ' ' :: digits, [digits])

/-- The part of `get_version` that reads one macro. -/
def readMacro (name result what : String) : Script Unit := do
  stringRegexMatch (macroRegex name) "_" (← value "file_contents")
  if !(← equal "CMAKE_MATCH_COUNT" 1) then
    message .fatalError ("Could not extract the " ++ what ++ " version from version.hpp")
  setVariable result (← unquoted "CMAKE_MATCH_1")

/-- The last part of `get_version`. -/
def publishVersion : Script Unit := do
  setParent ((← value "PACKAGE_NAME") ++ "_VMAJOR") (← unquoted "ver_major")
  setParent ((← value "PACKAGE_NAME") ++ "_VMINOR") (← unquoted "ver_minor")
  setParent ((← value "PACKAGE_NAME") ++ "_VPATCH") (← unquoted "ver_patch")
  setParent ((← value "PACKAGE_NAME") ++ "_VERSION")
    [(← value "ver_major") ++ "." ++ (← value "ver_minor") ++ "." ++ (← value "ver_patch")]

/-- The body of `get_version`. -/
def getVersionBody : Script Unit := do
  fileRead
    ((← value "CMAKE_CURRENT_SOURCE_DIR") ++ "/include/" ++ (← value "PACKAGE_NAME") ++ "/version.hpp")
    "file_contents"
  readMacro "VMAJOR" "ver_major" "major"
  readMacro "VMINOR" "ver_minor" "minor"
  readMacro "VPATCH" "ver_patch" "patch"
  publishVersion

/-- `get_version()` -/
def getVersion : Script Unit := callFunction [] getVersionBody

end Build
