import Mathlib.Data.List.Infix

/-!
# Pure POSIX paths

The part of Python's `pathlib.PurePosixPath` the tooling relies on: a path is an
anchor and the list of its components, outermost first. `parent`, `name`, `stem`
and `str` follow the documentation of the properties of the same names
(CPython 3.11.10). Resolution of `..` is
lexical in `pathlib`, so `..` is an ordinary component here.
-/

namespace Pathlib

/-- What a component may be: not empty, not `.` (the constructor drops both),
without a slash and without NUL. -/
def validName (name : String) : Bool :=
  name != "" && name != "." && !name.toList.contains '/' &&
    !name.toList.contains (Char.ofNat 0)

/-- A component of a path. -/
structure Component where
  name : String
  valid : validName name = true
deriving DecidableEq

/-- The component a piece of text between slashes stands for, if it stands for one. -/
def Component.ofChars? (text : List Char) : Option Component :=
  if valid : validName (String.ofList text) = true then some ⟨String.ofList text, valid⟩ else none

/-- The root of a POSIX path. Exactly two leading slashes are kept apart. -/
inductive Anchor
  | relative
  | root
  | doubleRoot
deriving DecidableEq

/-- The text of an anchor. -/
def Anchor.text : Anchor → String
  | .relative => ""
  | .root => "/"
  | .doubleRoot => "//"

/-- `pathlib.PurePosixPath`. -/
structure Path where
  anchor : Anchor
  parts : List Component
deriving DecidableEq

/-- Index of the last occurrence of a character (`str.rfind`). -/
def rfind (c : Char) : List Char → Option Nat
  | [] => none
  | x :: xs =>
      match rfind c xs with
      | some i => some (i + 1)
      | none => if x = c then some 0 else none

/-- Cut a text at its slashes. -/
def splitSlash : List Char → List (List Char)
  | [] => [[]]
  | c :: cs =>
      if c = '/' then [] :: splitSlash cs
      else
        match splitSlash cs with
        | [] => [[c]]
        | piece :: pieces => (c :: piece) :: pieces

/-- The names of components, with slashes between them. -/
def joinNames : List Component → String
  | [] => ""
  | [c] => c.name
  | c :: cs => c.name ++ "/" ++ joinNames cs

namespace Path

/-- The root the text of a path begins with. -/
def anchorOf : List Char → Anchor
  | '/' :: '/' :: '/' :: _ => .root
  | '/' :: '/' :: _ => .doubleRoot
  | '/' :: _ => .root
  | _ => .relative

/-- `Path(text)`. -/
def parse (text : String) : Path :=
  { anchor := anchorOf text.toList
    parts := (splitSlash text.toList).filterMap Component.ofChars? }

/-- `str(path)`. -/
def str (path : Path) : String :=
  match path.anchor, path.parts with
  | .relative, [] => "."
  | anchor, parts => anchor.text ++ joinNames parts

/-- `path.parent`: the path without its last component. An anchor, and the empty
relative path, is its own parent. -/
def parent (path : Path) : Path := { path with parts := path.parts.dropLast }

/-- `path.name`: the last component, or the empty string. -/
def name (path : Path) : String :=
  match path.parts.getLast? with
  | some c => c.name
  | none => ""

/-- `path.stem`: the name up to its last dot, when that dot is neither its first
nor its last character. -/
def stem (path : Path) : String :=
  match rfind '.' path.name.toList with
  | some i =>
      if 0 < i ∧ i < path.name.length - 1 then String.ofList (path.name.toList.take i)
      else path.name
  | none => path.name

/-- `path / component`. -/
def child (path : Path) (c : Component) : Path := { path with parts := path.parts ++ [c] }

/-- `path / other`: an anchored `other` replaces the path. -/
def join (path other : Path) : Path :=
  match other.anchor with
  | .relative => { path with parts := path.parts ++ other.parts }
  | _ => other

/-- `path` is `top` itself or lies below it, lexically. -/
def Under (top path : Path) : Prop := top.anchor = path.anchor ∧ top.parts <+: path.parts

/-- `path` lies strictly below `top`. -/
def Below (top path : Path) : Prop := Under top path ∧ top ≠ path

instance (top path : Path) : Decidable (Under top path) :=
  inferInstanceAs (Decidable (_ ∧ _))

instance (top path : Path) : Decidable (Below top path) :=
  inferInstanceAs (Decidable (_ ∧ _))

@[simp] theorem parent_anchor (path : Path) : path.parent.anchor = path.anchor := rfl

@[simp] theorem parent_parts (path : Path) : path.parent.parts = path.parts.dropLast := rfl

@[simp] theorem child_anchor (path : Path) (c : Component) :
    (path.child c).anchor = path.anchor := rfl

@[simp] theorem child_parts (path : Path) (c : Component) :
    (path.child c).parts = path.parts ++ [c] := rfl

@[simp] theorem child_name (path : Path) (c : Component) : (path.child c).name = c.name := by
  simp [name]

theorem child_inj {path : Path} {c d : Component} (h : path.child c = path.child d) : c = d := by
  simpa [child] using h

theorem eq_of_parts {p q : Path} (anchor : p.anchor = q.anchor) (parts : p.parts = q.parts) :
    p = q := by
  cases p; cases q; simp_all

/-! ## The lexical order -/

theorem under_refl (path : Path) : Under path path := ⟨rfl, List.prefix_refl _⟩

theorem under_trans {a b c : Path} (hab : Under a b) (hbc : Under b c) : Under a c :=
  ⟨hab.1.trans hbc.1, hab.2.trans hbc.2⟩

theorem parent_under (path : Path) : Under path.parent path :=
  ⟨rfl, List.dropLast_prefix _⟩

theorem under_antisymm {a b : Path} (hab : Under a b) (hba : Under b a) : a = b :=
  eq_of_parts hab.1 (hab.2.eq_of_length (Nat.le_antisymm hab.2.length_le hba.2.length_le))

/-- Two paths above one path are comparable. -/
theorem under_total {a b path : Path} (ha : Under a path) (hb : Under b path) :
    Under a b ∨ Under b a := by
  rcases List.prefix_or_prefix_of_prefix ha.2 hb.2 with h | h
  · exact .inl ⟨ha.1.trans hb.1.symm, h⟩
  · exact .inr ⟨hb.1.trans ha.1.symm, h⟩

/-- A path above `path` is `path` itself or lies above its parent. -/
theorem under_cases {top path : Path} (h : Under top path) : top = path ∨ Under top path.parent := by
  cases empty : path.parts with
  | nil =>
      refine .inl (eq_of_parts h.1 ?_)
      rw [empty]
      exact List.prefix_nil.mp (empty ▸ h.2)
  | cons c cs =>
      have nonempty : path.parts ≠ [] := by simp [empty]
      have split := h.2
      rw [← List.dropLast_concat_getLast nonempty] at split
      rcases List.prefix_concat_iff.mp split with equal | above
      · rw [List.dropLast_concat_getLast nonempty] at equal
        exact .inl (eq_of_parts h.1 equal)
      · exact .inr ⟨h.1, above⟩

theorem under_parent_of_below {top path : Path} (h : Below top path) : Under top path.parent :=
  (under_cases h.1).resolve_left h.2

theorem below_of_under_of_below {a b path : Path} (hab : Below a b) (h : Under b path) :
    Below a path := by
  refine ⟨under_trans hab.1 h, ?_⟩
  rintro rfl
  exact hab.2 (under_antisymm hab.1 h)

theorem parts_ne_nil_of_below {top path : Path} (h : Below top path) : path.parts ≠ [] := by
  intro empty
  apply h.2
  exact eq_of_parts h.1.1 (by rw [empty]; exact List.prefix_nil.mp (empty ▸ h.1.2))

/-- Going to the parent below an anchor shortens the path. -/
theorem parent_length_lt {top path : Path} (h : Below top path) :
    path.parent.parts.length < path.parts.length := by
  have := List.length_pos_iff.mpr (parts_ne_nil_of_below h)
  simp only [parent_parts, List.length_dropLast]
  omega

theorem below_child (path : Path) (c : Component) : Below path (path.child c) := by
  refine ⟨⟨rfl, List.prefix_append _ _⟩, fun equal => ?_⟩
  have := congrArg (fun p : Path => p.parts.length) equal
  simp at this

/-! ## Text -/

theorem Component.name_ne_empty (c : Component) : c.name ≠ "" := by
  intro empty
  have := c.valid
  simp [validName, empty] at this

theorem joinNames_ne_empty {cs : List Component} (h : cs ≠ []) : joinNames cs ≠ "" := by
  match cs, h with
  | [c], _ => exact Component.name_ne_empty c
  | c :: d :: cs, _ =>
      intro empty
      have := congrArg String.length empty
      simp [joinNames] at this

/-- No path is written as the empty string. -/
theorem str_ne_empty (path : Path) : path.str ≠ "" := by
  obtain ⟨anchor, parts⟩ := path
  cases anchor with
  | relative =>
      cases parts with
      | nil => simp [str]
      | cons c cs => simpa [str, Anchor.text] using @joinNames_ne_empty (c :: cs) (by simp)
  | root =>
      intro empty
      have := congrArg String.length empty
      simp [str, Anchor.text] at this
  | doubleRoot =>
      intro empty
      have := congrArg String.length empty
      simp [str, Anchor.text] at this

end Path

/-! ## Reading a path back -/

theorem splitSlash_append {name rest : List Char} (noSlash : '/' ∉ name) :
    splitSlash (name ++ '/' :: rest) = name :: splitSlash rest := by
  induction name with
  | nil => rfl
  | cons c name ih =>
      obtain ⟨notHead, notTail⟩ := not_or.mp (List.mem_cons.not.mp noSlash)
      rw [List.cons_append, splitSlash, if_neg (Ne.symm notHead), ih notTail]

theorem splitSlash_eq_self {name : List Char} (noSlash : '/' ∉ name) :
    splitSlash name = [name] := by
  induction name with
  | nil => rfl
  | cons c name ih =>
      obtain ⟨notHead, notTail⟩ := not_or.mp (List.mem_cons.not.mp noSlash)
      rw [splitSlash, if_neg (Ne.symm notHead), ih notTail]

theorem Component.no_slash (c : Component) : '/' ∉ c.name.toList := by
  have valid := c.valid
  simp only [validName, Bool.and_eq_true, Bool.not_eq_true', List.contains_eq_mem,
    decide_eq_false_iff_not] at valid
  exact valid.1.2

theorem Component.ofChars?_name (c : Component) : Component.ofChars? c.name.toList = some c := by
  have text : String.ofList c.name.toList = c.name := String.ofList_toList
  have valid : validName (String.ofList c.name.toList) = true := by
    rw [text]
    exact c.valid
  rw [Component.ofChars?, dif_pos valid]
  simp only [text]

/-- The components of a joined text. -/
theorem components_joinNames (cs : List Component) :
    (splitSlash (joinNames cs).toList).filterMap Component.ofChars? = cs := by
  match cs with
  | [] => rfl
  | [c] =>
      rw [joinNames, splitSlash_eq_self c.no_slash, List.filterMap_cons_some c.ofChars?_name]
      rfl
  | c :: d :: cs =>
      have text : (joinNames (c :: d :: cs)).toList =
          c.name.toList ++ '/' :: (joinNames (d :: cs)).toList := by
        simp [joinNames]
      rw [text, splitSlash_append c.no_slash, List.filterMap_cons_some c.ofChars?_name,
        components_joinNames (d :: cs)]

/-- A joined text does not begin with a slash. -/
theorem joinNames_head (cs : List Component) : (joinNames cs).toList.head? ≠ some '/' := by
  have first : ∀ (c : Component) (rest : List Char), (c.name.toList ++ rest).head? ≠ some '/' := by
    intro c rest slash
    cases chars : c.name.toList with
    | nil => exact Path.Component.name_ne_empty c (String.toList_eq_nil_iff.mp chars)
    | cons x xs =>
        rw [chars] at slash
        have noSlash := c.no_slash
        rw [chars, Option.some.inj (slash : some x = some '/')] at noSlash
        exact noSlash (List.mem_cons_self ..)
  match cs with
  | [] => exact Option.some_ne_none _ ∘ Eq.symm
  | [c] => simpa [joinNames] using first c []
  | c :: d :: cs => simpa [joinNames] using first c ('/' :: (joinNames (d :: cs)).toList)

/-- The slashes a text begins with. -/
theorem anchorOf_slashes {text : List Char} (head : text.head? ≠ some '/') :
    Path.anchorOf text = .relative ∧ Path.anchorOf ('/' :: text) = .root ∧
      Path.anchorOf ('/' :: '/' :: text) = .doubleRoot := by
  cases text with
  | nil => exact ⟨rfl, rfl, rfl⟩
  | cons x xs =>
      have other : x ≠ '/' := fun slash => head (congrArg some slash)
      refine ⟨?_, ?_, ?_⟩
      · unfold Path.anchorOf
        split <;> simp_all
      · unfold Path.anchorOf
        split <;> simp_all
      · simp [Path.anchorOf, other]

/-- `Path(str(path)) == path` -/
theorem Path.parse_str (path : Path) : Path.parse path.str = path := by
  obtain ⟨anchor, parts⟩ := path
  have components := components_joinNames parts
  obtain ⟨relative, root, doubleRoot⟩ := anchorOf_slashes (joinNames_head parts)
  have empty : Component.ofChars? [] = none := by decide
  cases anchor with
  | relative =>
      cases parts with
      | nil => rfl
      | cons c cs =>
          have text : (Path.str ⟨.relative, c :: cs⟩).toList = (joinNames (c :: cs)).toList := by
            simp [Path.str, Anchor.text]
          unfold Path.parse
          rw [text, components, relative]
  | root =>
      have text : (Path.str ⟨.root, parts⟩).toList = '/' :: (joinNames parts).toList := by
        simp [Path.str, Anchor.text]
      unfold Path.parse
      rw [text, root, splitSlash, if_pos rfl, List.filterMap_cons_none empty, components]
  | doubleRoot =>
      have text : (Path.str ⟨.doubleRoot, parts⟩).toList =
          '/' :: '/' :: (joinNames parts).toList := by
        simp [Path.str, Anchor.text]
      unfold Path.parse
      rw [text, doubleRoot, splitSlash, if_pos rfl, splitSlash, if_pos rfl,
        List.filterMap_cons_none empty, List.filterMap_cons_none empty, components]

end Pathlib
