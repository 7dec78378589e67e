import Garak.Misc.Leftmost
import Garak.Version.Header

/-!
# The two readers of the version

`cmake/Utils.cmake` searches the text of the header with a regular expression; the
library is compiled with the macros the header defines.
-/

namespace Version

/-- Match `name ([0-9]+)` at the beginning of a text: what the group captures. -/
def matchMacro (name text : List Char) : Option (List Char) :=
  match List.isPrefixOf? (name ++ [' ']) text with
  | some rest =>
      match rest.takeWhile Char.isDigit with
      | [] => none
      | digits => some digits
  | none => none

/-- `string(REGEX MATCH "name ([0-9]+)" _ "${text}")`: `CMAKE_MATCH_1`, when there is a
match. -/
def regexMatch (name text : List Char) : Option (List Char) :=
  Leftmost.search (matchMacro name) text

namespace Cmake

/-- The variables `get_version` sets in its caller, without the package prefix. -/
structure Variables where
  vmajor : String
  vminor : String
  vpatch : String
  version : String
deriving DecidableEq

/-- `get_version` of `cmake/Utils.cmake`, on the contents of the header. An error is the
text of a `FATAL_ERROR`. -/
def getVersion (fileContents : String) : Except String Variables := do
  let some verMajor := regexMatch "VMAJOR".toList fileContents.toList
    | .error "Could not extract the major version from version.hpp"
  let some verMinor := regexMatch "VMINOR".toList fileContents.toList
    | .error "Could not extract the minor version from version.hpp"
  let some verPatch := regexMatch "VPATCH".toList fileContents.toList
    | .error "Could not extract the patch version from version.hpp"
  return {
    vmajor := String.ofList verMajor
    vminor := String.ofList verMinor
    vpatch := String.ofList verPatch
    version := String.ofList verMajor ++ "." ++ String.ofList verMinor ++ "." ++
      String.ofList verPatch }

end Cmake

namespace Garak

/-- `std::to_string` -/
def toStdString (n : Nat) : String := String.ofList (decimal n)

/-- `garak::get_version`, compiled against the header. -/
def getVersion (header : Header) : String :=
  toStdString (header.value .vmajor) ++ "." ++ toStdString (header.value .vminor) ++ "." ++
    toStdString (header.value .vpatch)

end Garak

end Version
