import Garak.Version.Literal

/-!
# `garak/version.hpp`

A header is a list of lines. Three of them are the active definitions of the version
macros; the preprocessor gives each macro the literal on its line, whatever blanks and
comments stand around it. Every other line, whether comment, declaration or directive,
is any text without a newline.
-/

namespace Version

/-- The macros `version.hpp` defines. -/
inductive Macro
  | vmajor
  | vminor
  | vpatch
deriving DecidableEq

/-- The name of a macro. -/
def Macro.name : Macro → List Char
  | .vmajor => "VMAJOR".toList
  | .vminor => "VMINOR".toList
  | .vpatch => "VPATCH".toList

/-- A line that defines no version macro. -/
structure OtherLine where
  text : List Char
  oneLine : '\n' ∉ text
deriving DecidableEq

/-- A line of the header. -/
inductive Line
  | other (line : OtherLine)
  | define (macroName : Macro)
deriving DecidableEq

/-! ## The layout of a directive -/

/-- What may stand between the tokens of a directive. -/
inductive Blank
  | space
  | tab
deriving DecidableEq

def Blank.char : Blank → Char
  | .space => ' '
  | .tab => '\t'

/-- The blanks between two tokens that would otherwise run together. -/
structure Gap where
  first : Blank
  rest : List Blank
deriving DecidableEq

/-- The text of blanks. -/
def blanksText (blanks : List Blank) : List Char := blanks.map Blank.char

def Gap.text (gap : Gap) : List Char := blanksText (gap.first :: gap.rest)

/-- A single space. -/
def Gap.single : Gap := ⟨.space, []⟩

/-- A comment after the tokens of a directive. -/
inductive Comment
  /-- from `//` to the end of the line -/
  | line (text : List Char) (oneLine : '\n' ∉ text)
  /-- from `/*` to `*/` -/
  | block (text : List Char) (oneLine : '\n' ∉ text) (inside : ¬ "*/".toList <:+: text)

def Comment.text : Comment → List Char
  | .line text _ => "//".toList ++ text
  | .block text _ _ => "/*".toList ++ text ++ "*/".toList

/-- How a `#define` line is laid out around its tokens. -/
structure Layout where
  beforeHash : List Blank
  afterHash : List Blank
  afterDefine : Gap
  afterName : Gap
  afterLiteral : List Blank
  comment : Option Comment
  /-- the line ends with a carriage return and a newline -/
  carriageReturn : Bool

/-- `#define NAME literal`, and nothing else. -/
def Layout.plain : Layout where
  beforeHash := []
  afterHash := []
  afterDefine := .single
  afterName := .single
  afterLiteral := []
  comment := none
  carriageReturn := false

/-- What stands before the name. -/
def Layout.leading (layout : Layout) : List Char :=
  blanksText layout.beforeHash ++ '#' :: blanksText layout.afterHash ++ "define".toList ++
    layout.afterDefine.text

/-- What stands after the literal. -/
def Layout.trailing (layout : Layout) : List Char :=
  blanksText layout.afterLiteral ++ (layout.comment.map Comment.text).getD [] ++
    if layout.carriageReturn then ['\r'] else []

/-! ## The header -/

/-- A header whose macros have the given literals. -/
structure Header where
  literal : Macro → IntLiteral
  layout : Macro → Layout
  lines : List Line
  fits : ∀ m, (literal m).value ≤ 2147483647
  once : ∀ m, lines.count (.define m) = 1

/-- The text of a line. -/
def Header.lineText (header : Header) : Line → List Char
  | .other line => line.text
  | .define m =>
      (header.layout m).leading ++
        (m.name ++ (header.layout m).afterName.text ++ (header.literal m).text ++
          (header.layout m).trailing)

/-- The text of the file. -/
def Header.text (header : Header) : String :=
  String.ofList (['\n'].intercalate (header.lines.map header.lineText))

/-- The value the preprocessor gives a macro. -/
def Header.value (header : Header) (m : Macro) : Nat := (header.literal m).value

end Version
