import Garak.Version.GetVersion
import Garak.Version.Proofs.Digits

/-!
# When the two readers agree

The regular expression is not anchored, so CMake reads a macro off the first line that
mentions its name, a blank and a digit. `agreement_iff` says when that gives the value
the preprocessor sees.
-/

namespace Version

/-! ## The expression on a text -/

theorem isPrefixOf?_append_sep {sep : Char} {pattern : List Char} (absent : sep ∉ pattern)
    (before after : List Char) :
    List.isPrefixOf? pattern (before ++ sep :: after) =
      (List.isPrefixOf? pattern before).map (· ++ sep :: after) := by
  induction pattern generalizing before with
  | nil => rfl
  | cons p pattern ih =>
      obtain ⟨notHead, notTail⟩ := not_or.mp (List.mem_cons.not.mp absent)
      cases before with
      | nil => simp [List.isPrefixOf?, Ne.symm notHead]
      | cons b before =>
          simp only [List.cons_append, List.isPrefixOf?]
          split
          · exact ih notTail before
          · rfl

theorem takeWhile_append_sep {p : Char → Bool} {sep : Char} (stop : p sep = false)
    (before after : List Char) :
    (before ++ sep :: after).takeWhile p = before.takeWhile p := by
  induction before with
  | nil => simp [stop]
  | cons b before ih =>
      rw [List.cons_append, List.takeWhile_cons, List.takeWhile_cons, ih]

/-- The expression does not match across lines. -/
theorem matchMacro_stopsAt (m : Macro) : Leftmost.StopsAt (matchMacro m.name) '\n' := by
  have absent : '\n' ∉ m.name ++ [' '] := by cases m <;> decide
  have stop : Char.isDigit '\n' = false := by decide
  refine ⟨fun before after => ?_, ?_⟩
  · unfold matchMacro
    rw [isPrefixOf?_append_sep absent]
    cases List.isPrefixOf? (m.name ++ [' ']) before with
    | none => rfl
    | some rest => simp only [Option.map_some, takeWhile_append_sep stop]
  · cases m <;> rfl

/-- CMake reads a macro off the first line that mentions it. -/
theorem regexMatch_header (header : Header) (m : Macro) :
    regexMatch m.name header.text.toList =
      header.lines.findSome? fun line => regexMatch m.name (header.lineText line) := by
  unfold regexMatch Header.text
  rw [String.toList_ofList, Leftmost.search_intercalate (matchMacro_stopsAt m),
    List.findSome?_map]
  rfl

/-- Every name has one `V`, at its beginning. -/
theorem Macro.name_eq (m : Macro) : ∃ tail, m.name = 'V' :: tail ∧ 'V' ∉ tail := by
  cases m with
  | vmajor => exact ⟨"MAJOR".toList, rfl, by decide⟩
  | vminor => exact ⟨"MINOR".toList, rfl, by decide⟩
  | vpatch => exact ⟨"PATCH".toList, rfl, by decide⟩

/-- So only at a `V` can a match begin. -/
theorem matchMacro_cons_of_ne (m : Macro) {c : Char} (other : c ≠ 'V') (text : List Char) :
    matchMacro m.name (c :: text) = none := by
  obtain ⟨tail, name, -⟩ := m.name_eq
  have differ : ('V' == c) = false := beq_eq_false_iff_ne.mpr (Ne.symm other)
  rw [name, matchMacro, List.cons_append, List.isPrefixOf?, differ]
  rfl

theorem regexMatch_append_of_not_mem (m : Macro) {before : List Char} (absent : 'V' ∉ before)
    (text : List Char) : regexMatch m.name (before ++ text) = regexMatch m.name text := by
  apply Leftmost.search_append_of_none
  intro tail nonempty suffix
  cases tail with
  | nil => exact absurd rfl nonempty
  | cons c tail =>
      have member : c ∈ before := suffix.subset (List.mem_cons_self ..)
      exact matchMacro_cons_of_ne m (fun equal => absent (equal ▸ member)) _

/-! ## The lines that define macros -/

theorem Digit.char_ne_V {base : Nat} (small : base ≤ 16) (d : Digit base) : d.char ≠ 'V' := by
  have table : ∀ n < 16, ∀ capital : Bool,
      (if capital then (Nat.digitChar n).toUpper else Nat.digitChar n) ≠ 'V' := by
    decide
  exact table d.number (Nat.lt_of_lt_of_le d.number.isLt small) d.capital

theorem restText_no_V {base : Nat} (small : base ≤ 16) (rest : List (Next base)) :
    'V' ∉ restText rest := by
  unfold restText
  simp only [List.mem_flatMap, not_exists, not_and]
  intro next _
  have digit := next.digit.char_ne_V small
  have quote : separator ≠ 'V' := by decide
  split
  · simp [digit.symm, quote.symm]
  · simp [digit.symm]

/-- No literal is spelled with a `V`. -/
theorem IntLiteral.text_no_V (literal : IntLiteral) : 'V' ∉ literal.text := by
  obtain ⟨body, suffix, listed⟩ := literal
  have inSuffix : ∀ suffix ∈ suffixes, 'V' ∉ suffix.toList := by decide
  refine List.not_mem_append ?_ (inSuffix suffix listed)
  cases body with
  | decimal first rest =>
      have head : ∀ n : Fin 9, 'V' ≠ Nat.digitChar (n + 1) := by decide
      simp [Body.text, head first, restText_no_V (by omega : 10 ≤ 16) rest]
  | octal rest => simp [Body.text, restText_no_V (by omega : 8 ≤ 16) rest]
  | hexadecimal capital first rest =>
      have letter : 'V' ≠ if capital then 'X' else 'x' := by cases capital <;> decide
      have digit := (first.char_ne_V (Nat.le_refl 16)).symm
      simp [Body.text, letter, digit, restText_no_V (Nat.le_refl 16) rest]
  | binary capital first rest =>
      have letter : 'V' ≠ if capital then 'B' else 'b' := by cases capital <;> decide
      have digit := (first.char_ne_V (by decide)).symm
      simp [Body.text, letter, digit, restText_no_V (by omega : 2 ≤ 16) rest]

/-- A literal begins with a digit. -/
theorem IntLiteral.takeWhile_ne_nil (literal : IntLiteral) :
    literal.text.takeWhile Char.isDigit ≠ [] := by
  obtain ⟨body, suffix, listed⟩ := literal
  cases body with
  | decimal first rest =>
      have head : ∀ n : Fin 9, (Nat.digitChar (n + 1)).isDigit = true := by decide
      simp [IntLiteral.text, Body.text, head first]
  | octal rest => simp [IntLiteral.text, Body.text]
  | hexadecimal capital first rest => simp [IntLiteral.text, Body.text]
  | binary capital first rest => simp [IntLiteral.text, Body.text]

/-! ## The layout around a literal -/

theorem blanksText_no_V (blanks : List Blank) : 'V' ∉ blanksText blanks := by
  unfold blanksText
  rw [List.mem_map]
  intro given
  obtain ⟨blank, -, char⟩ := given
  cases blank <;> cases char

theorem Layout.leading_no_V (layout : Layout) : 'V' ∉ layout.leading := by
  unfold Layout.leading Gap.text
  simp [blanksText_no_V]

/-- What follows a literal does not begin with a digit. -/
theorem Layout.trailing_head (layout : Layout) :
    ∀ c ∈ layout.trailing.head?, Char.isDigit c = false := by
  unfold Layout.trailing
  intro c head
  cases blanks : layout.afterLiteral with
  | cons blank rest =>
      rw [blanks] at head
      obtain rfl : blank.char = c := Option.some.inj head
      cases blank <;> rfl
  | nil =>
      rw [blanks] at head
      cases comment : layout.comment with
      | some comment' =>
          rw [comment] at head
          obtain rfl : '/' = c := by
            cases comment' <;> exact Option.some.inj head
          rfl
      | none =>
          rw [comment] at head
          cases ending : layout.carriageReturn with
          | true =>
              rw [ending] at head
              obtain rfl : '\r' = c := Option.some.inj head
              rfl
          | false =>
              rw [ending] at head
              cases head

theorem takeWhile_append_of_head {p : Char → Bool} {after : List Char}
    (stop : ∀ c ∈ after.head?, p c = false) (before : List Char) :
    (before ++ after).takeWhile p = before.takeWhile p := by
  cases after with
  | nil => rw [List.append_nil]
  | cons c after => exact takeWhile_append_sep (stop c rfl) before after

/-! ## The expression on a line that defines a macro -/

/-- At its own name, followed by one space, the expression captures the digits the
literal begins with. -/
theorem matchMacro_own (m : Macro) (literal : IntLiteral) (layout : Layout) :
    matchMacro m.name (m.name ++ (' ' :: (literal.text ++ layout.trailing))) =
      some (literal.text.takeWhile Char.isDigit) := by
  have found : List.isPrefixOf? (m.name ++ [' '])
      (m.name ++ (' ' :: (literal.text ++ layout.trailing))) =
        some (literal.text ++ layout.trailing) := by
    cases m <;> rfl
  have same := takeWhile_append_of_head layout.trailing_head literal.text
  unfold matchMacro
  rw [found]
  cases digits : literal.text.takeWhile Char.isDigit with
  | nil => exact absurd digits literal.takeWhile_ne_nil
  | cons d ds =>
      rw [digits] at same
      simp only [same]

/-- At any other name, and where the literal does not follow after one space, it does not
match. -/
theorem matchMacro_apart {m m' : Macro} {gap : Gap} (apart : ¬ (m' = m ∧ gap = .single))
    (text : List Char) : matchMacro m.name (m'.name ++ (gap.text ++ text)) = none := by
  by_cases own : m' = m
  · subst own
    obtain ⟨first, rest⟩ := gap
    cases first with
    | tab => cases m' <;> rfl
    | space =>
        cases rest with
        | nil => exact absurd ⟨rfl, rfl⟩ apart
        | cons blank rest => cases m' <;> cases blank <;> rfl
  · cases m <;> cases m' <;> first | exact absurd rfl own | rfl

/-- On the line of its own macro the expression captures the digits the literal begins
with, if one space stands between the two. Otherwise it looks at what follows the
literal. -/
theorem regexMatch_define (header : Header) (m m' : Macro) :
    regexMatch m.name (header.lineText (.define m')) =
      if m' = m ∧ (header.layout m').afterName = .single then
        some ((header.literal m').text.takeWhile Char.isDigit)
      else regexMatch m.name (header.layout m').trailing := by
  unfold Header.lineText
  simp only
  rw [regexMatch_append_of_not_mem m (header.layout m').leading_no_V]
  simp only [List.append_assoc]
  by_cases own : m' = m ∧ (header.layout m').afterName = .single
  · rw [if_pos own, own.2, own.1]
    exact Leftmost.search_of_some (matchMacro_own m (header.literal m) (header.layout m))
  · rw [if_neg own]
    have first := matchMacro_apart own ((header.literal m').text ++ (header.layout m').trailing)
    -- past its first character the line has no `V` up to what follows the literal
    obtain ⟨tail, name, noMore⟩ := m'.name_eq
    rw [name, List.cons_append] at first ⊢
    unfold regexMatch
    rw [Leftmost.search_cons_of_none first]
    have gap : 'V' ∉ (header.layout m').afterName.text := blanksText_no_V _
    have noV : 'V' ∉ tail ++ ((header.layout m').afterName.text ++ (header.literal m').text) :=
      List.not_mem_append noMore (List.not_mem_append gap (header.literal m').text_no_V)
    have skipped := regexMatch_append_of_not_mem m noV (header.layout m').trailing
    simp only [List.append_assoc] at skipped
    exact skipped

/-! ## The two versions -/

/-- No line has anything CMake could read for the macro. -/
def Unmentioned (header : Header) (m : Macro) : Prop :=
  ∀ line ∈ header.lines, regexMatch m.name (header.lineText line) = none

theorem regexMatch_header_none_iff (header : Header) (m : Macro) :
    regexMatch m.name header.text.toList = none ↔ Unmentioned header m := by
  rw [regexMatch_header]
  exact List.findSome?_eq_none_iff

theorem findSome?_eq_some_iff_first {α β : Type} (f : α → Option β) (xs : List α) (b : β) :
    xs.findSome? f = some b ↔
      ∃ earlier x later, xs = earlier ++ x :: later ∧ (∀ y ∈ earlier, f y = none) ∧
        f x = some b := by
  rw [List.findSome?_eq_some_iff]
  constructor
  · intro given
    obtain ⟨earlier, x, later, split, yes, no⟩ := given
    exact ⟨earlier, x, later, split, no, yes⟩
  · intro given
    obtain ⟨earlier, x, later, split, no, yes⟩ := given
    exact ⟨earlier, x, later, split, yes, no⟩

/-- The line tells CMake the value of the macro: it defines it by a literal that begins
with the decimal form of its value, or it happens to mention that number. -/
def TellsValue (header : Header) (m : Macro) : Line → Prop
  | .other line => regexMatch m.name line.text = some (decimal (header.value m))
  | .define m' =>
      if m' = m ∧ (header.layout m').afterName = .single then
        (header.literal m).body.Faithful
      else
        regexMatch m.name (header.layout m').trailing = some (decimal (header.value m))

/-- The first line that mentions the macro tells its value. -/
def FirstMentionTells (header : Header) (m : Macro) : Prop :=
  ∃ earlier line later, header.lines = earlier ++ line :: later ∧
    (∀ l ∈ earlier, regexMatch m.name (header.lineText l) = none) ∧ TellsValue header m line

theorem regexMatch_line_iff (header : Header) (m : Macro) (line : Line) :
    regexMatch m.name (header.lineText line) = some (decimal (header.value m)) ↔
      TellsValue header m line := by
  cases line with
  | other line => exact Iff.rfl
  | define m' =>
      rw [regexMatch_define]
      unfold TellsValue Header.value
      by_cases own : m' = m ∧ (header.layout m').afterName = .single
      · rw [if_pos own]
        simp only [if_pos own]
        rw [own.1, ← takeWhile_eq_decimal_iff]
        simp
      · rw [if_neg own]
        simp only [if_neg own]

theorem regexMatch_header_iff (header : Header) (m : Macro) :
    regexMatch m.name header.text.toList = some (decimal (header.value m)) ↔
      FirstMentionTells header m := by
  rw [regexMatch_header, findSome?_eq_some_iff_first]
  unfold FirstMentionTells
  simp only [regexMatch_line_iff]

/-- Two texts that begin with a part without the given character, then that character,
are the same only part by part. -/
theorem split_at_first {sep : Char} {a b x y : List Char} (notInA : sep ∉ a) (notInB : sep ∉ b)
    (same : a ++ sep :: x = b ++ sep :: y) : a = b ∧ x = y := by
  have stop : (decide (sep ≠ sep)) = false := by simp
  have whole : ∀ {c : List Char}, sep ∉ c → c.takeWhile (fun d => decide (d ≠ sep)) = c := by
    intro c absent
    apply List.takeWhile_eq_self_iff.mpr
    intro d member
    simp only [decide_eq_true_eq]
    exact fun equal => absent (equal ▸ member)
  have firsts := congrArg (List.takeWhile fun d => decide (d ≠ sep)) same
  rw [takeWhile_append_sep stop, takeWhile_append_sep stop, whole notInA, whole notInB] at firsts
  rw [firsts] at same
  exact ⟨firsts, List.tail_eq_of_cons_eq (List.append_cancel_left same)⟩

theorem no_dot_of_regexMatch {name text digits : List Char}
    (found : regexMatch name text = some digits) : '.' ∉ digits := by
  obtain ⟨tail, accepted⟩ := Leftmost.accepted_of_search found
  unfold matchMacro at accepted
  split at accepted
  · rename_i rest _
    have captured : rest.takeWhile Char.isDigit = digits := by
      split at accepted
      · cases accepted
      · exact Option.some.inj accepted
    intro dot
    rw [← captured] at dot
    have digit := List.mem_takeWhile_imp dot
    revert digit
    decide
  · cases accepted

theorem no_dot_decimal (n : Nat) : '.' ∉ decimal n := by
  intro dot
  have digit := isDigit_of_mem_decimal dot
  revert digit
  decide

/-- What `get_version` sets, given what it read for the three macros. -/
theorem Cmake.getVersion_eq {text : String} {major minor patch : List Char}
    (foundMajor : regexMatch (Macro.name .vmajor) text.toList = some major)
    (foundMinor : regexMatch (Macro.name .vminor) text.toList = some minor)
    (foundPatch : regexMatch (Macro.name .vpatch) text.toList = some patch) :
    Cmake.getVersion text = .ok
      { vmajor := String.ofList major
        vminor := String.ofList minor
        vpatch := String.ofList patch
        version := String.ofList major ++ "." ++ String.ofList minor ++ "." ++
          String.ofList patch } := by
  unfold Cmake.getVersion
  unfold Macro.name at foundMajor foundMinor foundPatch
  simp only [foundMajor, foundMinor, foundPatch]
  rfl

/-- `get_version` stops when there is nothing to read for one of the macros. -/
theorem Cmake.getVersion_stops {text : String} {m : Macro}
    (missing : regexMatch m.name text.toList = none) :
    ∃ message, Cmake.getVersion text = .error message := by
  unfold Cmake.getVersion
  cases major : regexMatch "VMAJOR".toList text.toList with
  | none => exact ⟨_, rfl⟩
  | some verMajor =>
      cases minor : regexMatch "VMINOR".toList text.toList with
      | none => exact ⟨_, rfl⟩
      | some verMinor =>
          cases patch : regexMatch "VPATCH".toList text.toList with
          | none => exact ⟨_, rfl⟩
          | some verPatch =>
              cases m with
              | vmajor => cases missing.symm.trans major
              | vminor => cases missing.symm.trans minor
              | vpatch => cases missing.symm.trans patch

/-- Two version strings are the same number by number. -/
theorem version_inj {a b c x y z : List Char} (dots : '.' ∉ a ∧ '.' ∉ b ∧ '.' ∉ x ∧ '.' ∉ y) :
    String.ofList a ++ "." ++ String.ofList b ++ "." ++ String.ofList c =
        String.ofList x ++ "." ++ String.ofList y ++ "." ++ String.ofList z ↔
      a = x ∧ b = y ∧ c = z := by
  obtain ⟨inA, inB, inX, inY⟩ := dots
  constructor
  · intro same
    have chars := congrArg String.toList same
    simp only [String.toList_append, String.toList_ofList, List.append_assoc] at chars
    obtain ⟨first, rest⟩ := split_at_first inA inX chars
    obtain ⟨second, third⟩ := split_at_first inB inY rest
    exact ⟨first, second, third⟩
  · intro given
    obtain ⟨rfl, rfl, rfl⟩ := given
    rfl

/-- The two readers agree on a header: unless CMake stops, the version string is the one
`garak::get_version` returns, and the major version is the value of `VMAJOR`. -/
def Agreement (header : Header) : Prop :=
  ∀ vars, Cmake.getVersion header.text = .ok vars →
    vars.version = Garak.getVersion header ∧
      vars.vmajor = Garak.toStdString (header.value .vmajor)

/-- What CMake reads for the macros of a header none of which is unmentioned. -/
theorem read_of_mentioned {header : Header} (mentioned : ¬ ∃ m, Unmentioned header m) (m : Macro) :
    ∃ digits, regexMatch m.name header.text.toList = some digits := by
  cases found : regexMatch m.name header.text.toList with
  | some digits => exact ⟨digits, rfl⟩
  | none => exact absurd ⟨m, (regexMatch_header_none_iff header m).mp found⟩ mentioned

/-- The readers agree exactly when CMake stops, because it finds nothing to read for a
macro, or for every macro the first line that mentions it tells its value. -/
theorem agreement_iff (header : Header) :
    Agreement header ↔ (∃ m, Unmentioned header m) ∨ ∀ m, FirstMentionTells header m := by
  by_cases mentioned : ∃ m, Unmentioned header m
  · obtain ⟨m, missing⟩ := mentioned
    obtain ⟨message, stops⟩ :=
      Cmake.getVersion_stops ((regexMatch_header_none_iff header m).mpr missing)
    refine iff_of_true (fun vars result => ?_) (.inl ⟨m, missing⟩)
    cases stops.symm.trans result
  rw [or_iff_right mentioned]
  obtain ⟨major, foundMajor⟩ := read_of_mentioned mentioned .vmajor
  obtain ⟨minor, foundMinor⟩ := read_of_mentioned mentioned .vminor
  obtain ⟨patch, foundPatch⟩ := read_of_mentioned mentioned .vpatch
  have read := Cmake.getVersion_eq foundMajor foundMinor foundPatch
  have versions := @version_inj major minor patch (decimal (header.value .vmajor))
    (decimal (header.value .vminor)) (decimal (header.value .vpatch))
    ⟨no_dot_of_regexMatch foundMajor, no_dot_of_regexMatch foundMinor, no_dot_decimal _,
      no_dot_decimal _⟩
  have tells : (∀ m, FirstMentionTells header m) ↔
      major = decimal (header.value .vmajor) ∧ minor = decimal (header.value .vminor) ∧
        patch = decimal (header.value .vpatch) := by
    constructor
    · intro all
      have same : ∀ {m digits}, regexMatch (Macro.name m) header.text.toList = some digits →
          digits = decimal (header.value m) := by
        intro m digits found
        have told := (regexMatch_header_iff header m).mpr (all m)
        exact Option.some.inj (found.symm.trans told)
      exact ⟨same foundMajor, same foundMinor, same foundPatch⟩
    · rintro ⟨rfl, rfl, rfl⟩ m
      apply (regexMatch_header_iff header m).mp
      cases m with
      | vmajor => exact foundMajor
      | vminor => exact foundMinor
      | vpatch => exact foundPatch
  rw [tells, ← versions]
  constructor
  · intro agree
    exact (agree _ read).1
  · intro same vars result
    obtain rfl := Except.ok.inj (read.symm.trans result)
    refine ⟨same, ?_⟩
    rw [(versions.mp same).1]
    rfl

/-- A header for version 2.0.0 whose comment still speaks of `VMAJOR 1`. -/
def staleComment : Header where
  literal
    | .vmajor => ⟨.decimal 1 [], "", by decide⟩
    | .vminor => ⟨.octal [], "", by decide⟩
    | .vpatch => ⟨.octal [], "", by decide⟩
  layout _ := .plain
  lines :=
    [.other ⟨"// VMAJOR 1 is still maintained on its own branch".toList, by decide⟩,
      .define .vmajor, .define .vminor, .define .vpatch]
  fits m := by cases m <;> decide
  once m := by cases m <;> decide

example : Garak.getVersion staleComment = "2.0.0" := by decide +kernel

/-- CMake takes the package version from the comment. -/
theorem staleComment_disagrees : ¬ Agreement staleComment := by
  intro agree
  have read : Cmake.getVersion staleComment.text =
      .ok { vmajor := "1", vminor := "0", vpatch := "0", version := "1.0.0" } := by
    decide +kernel
  have same := (agree _ read).1
  revert same
  decide +kernel

end Version
