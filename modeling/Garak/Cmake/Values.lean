import Mathlib.Data.List.Basic

/-!
# Values of the CMake language

Every value is a string. A list is written with semicolons between its elements, and an
argument that stands without quotes is taken apart at them again: `expandList_joinList`
is the round trip.
-/

namespace Cmake

/-- The backslash. -/
def escape : Char := Char.ofNat 92

/-- The value of a list. -/
def joinList (elements : List String) : String := ";".intercalate elements

/-- Take a value apart at its semicolons, inside an element of which the given characters
have been read, so many square brackets deep. An escaped semicolon belongs to the
element, and its backslash does not. -/
def expandFrom (current : List Char) (depth : Int) (escaped : Bool) : List Char → List (List Char)
  | [] => [current]
  | c :: rest =>
      if escaped then expandFrom (current ++ [c]) depth false rest
      else if c = escape ∧ rest.head? = some ';' then expandFrom current depth true rest
      else if c = '[' then expandFrom (current ++ [c]) (depth + 1) false rest
      else if c = ']' then expandFrom (current ++ [c]) (depth - 1) false rest
      else if c = ';' ∧ depth = 0 then current :: expandFrom [] 0 false rest
      else expandFrom (current ++ [c]) depth false rest

/-- The arguments that a value stands for without quotes. Empty elements are dropped. -/
def expandList (value : String) : List String :=
  ((expandFrom [] 0 false value.toList).filter fun element => !element.isEmpty).map String.ofList

/-- Characters that play a part in taking lists apart. -/
def isListChar (c : Char) : Bool := c == ';' || c == '[' || c == ']' || c == escape

/-- An element that a list keeps in one piece. -/
def isElement (element : String) : Bool :=
  !element.isEmpty && element.toList.all fun c => !isListChar c

theorem expandFrom_cons_of_plain {c : Char} (plain : isListChar c = false) (current : List Char)
    (depth : Int) (rest : List Char) :
    expandFrom current depth false (c :: rest) = expandFrom (current ++ [c]) depth false rest := by
  simp only [isListChar, Bool.or_eq_false_iff, beq_eq_false_iff_ne, ne_eq] at plain
  obtain ⟨⟨⟨semicolon, opens⟩, closes⟩, escapes⟩ := plain
  rw [expandFrom, if_neg Bool.false_ne_true, if_neg fun both => escapes both.1, if_neg opens,
    if_neg closes, if_neg fun both => semicolon both.1]

theorem expandFrom_append {element : List Char} (plain : ∀ c ∈ element, isListChar c = false)
    (current : List Char) (rest : List Char) :
    expandFrom current 0 false (element ++ rest) =
      expandFrom (current ++ element) 0 false rest := by
  induction element generalizing current with
  | nil => rw [List.nil_append, List.append_nil]
  | cons c element ih =>
      rw [List.cons_append, expandFrom_cons_of_plain (plain c (List.mem_cons_self ..)),
        ih fun d member => plain d (List.mem_cons_of_mem _ member), List.append_assoc]
      rfl

theorem expandFrom_semicolon (current rest : List Char) :
    expandFrom current 0 false (';' :: rest) = current :: expandFrom [] 0 false rest := by
  have apart : ';' ≠ escape ∧ ';' ≠ '[' ∧ ';' ≠ ']' := by decide
  rw [expandFrom, if_neg Bool.false_ne_true, if_neg fun both => apart.1 both.1, if_neg apart.2.1,
    if_neg apart.2.2, if_pos ⟨rfl, rfl⟩]

theorem isElement_iff {element : String} :
    isElement element = true ↔ element.toList ≠ [] ∧ ∀ c ∈ element.toList, isListChar c = false := by
  simp [isElement]

theorem joinList_cons_cons (first second : String) (rest : List String) :
    (joinList (first :: second :: rest)).toList =
      first.toList ++ ';' :: (joinList (second :: rest)).toList := by
  simp [joinList]

theorem expandFrom_joinList {first : String} {rest : List String}
    (elements : ∀ element ∈ first :: rest, isElement element = true) :
    expandFrom [] 0 false (joinList (first :: rest)).toList = (first :: rest).map String.toList := by
  induction rest generalizing first with
  | nil =>
      have plain := (isElement_iff.mp (elements first (List.mem_cons_self ..))).2
      have whole := expandFrom_append plain [] []
      rw [List.append_nil, List.nil_append] at whole
      have alone : (joinList [first]).toList = first.toList := by simp [joinList]
      rw [alone, whole]
      rfl
  | cons second rest ih =>
      have plain := (isElement_iff.mp (elements first (List.mem_cons_self ..))).2
      rw [joinList_cons_cons, expandFrom_append plain, expandFrom_semicolon, List.nil_append,
        ih fun element member => elements element (List.mem_cons_of_mem _ member)]
      rfl

/-- A list of elements that need no care is taken apart into them again. -/
theorem expandList_joinList {elements : List String}
    (plain : ∀ element ∈ elements, isElement element = true) :
    expandList (joinList elements) = elements := by
  cases elements with
  | nil => rfl
  | cons first rest =>
      have nonempty : ((first :: rest).map String.toList).filter (fun element => !element.isEmpty) =
          (first :: rest).map String.toList := by
        apply List.filter_eq_self.mpr
        intro text member
        obtain ⟨element, listed, rfl⟩ := List.mem_map.mp member
        have nonempty := (isElement_iff.mp (plain element listed)).1
        simpa using nonempty
      rw [expandList, expandFrom_joinList plain, nonempty]
      simp [Function.comp_def]

/-- A single element. -/
theorem expandList_of_isElement {element : String} (plain : isElement element = true) :
    expandList element = [element] := by
  have alone : joinList [element] = element := by simp [joinList]
  have round : expandList (joinList [element]) = [element] :=
    expandList_joinList fun other member => by rwa [List.mem_singleton.mp member]
  rwa [alone] at round

theorem joinList_singleton (element : String) : joinList [element] = element := by
  simp [joinList]

/-! ## Truth -/

/-- The letters of a constant do not matter. -/
def upper (value : String) : List Char := value.toList.map Char.toUpper

/-- The value counts as false in a condition. -/
def isOff (value : String) : Bool :=
  ["", "0", "N", "NO", "OFF", "FALSE", "IGNORE"].any (fun constant => constant.toList == upper value) ||
    value.toList == "NOTFOUND".toList || "-NOTFOUND".toList.isSuffixOf value.toList

/-- The value is one of the true constants. -/
def isOn (value : String) : Bool :=
  ["1", "Y", "ON", "YES", "TRUE"].any fun constant => constant.toList == upper value

/-- A natural number, where a value is one. -/
def number (value : String) : Option Nat :=
  if value.toList.isEmpty || !value.toList.all Char.isDigit then none
  else some (value.toList.foldl (fun n c => 10 * n + (c.toNat - '0'.toNat)) 0)

end Cmake
