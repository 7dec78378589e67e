import Garak.Posix.Shell.BareWords

/-!
# Lines written without quoting

A command line the way a program writes it that quotes nothing: words with blanks
between them, and `&&` before each further command. `parse_line` is what token
recognition makes of such a line when its words hold nothing that quotes or separates.
-/

namespace Posix.Shell

/-- What is written before a word other than the first. -/
structure Gap where
  /-- the word begins a further command -/
  joins : Bool
  /-- blanks beyond the one that is always there -/
  extra : Nat

/-- The text of a gap. -/
def Gap.text (gap : Gap) : List Char :=
  (if gap.joins then " &&".toList else []) ++ (List.replicate gap.extra ' ' ++ [' '])

/-- One blank. -/
def Gap.blank : Gap := ⟨false, 0⟩

/-- ` &&` and blanks, more than one by `extra`. -/
def Gap.andIf (extra : Nat) : Gap := ⟨true, extra⟩

/-- Words with one blank before each. -/
def blanks {α : Type} (words : List α) : List (Gap × α) := words.map fun word => (.blank, word)

/-- A line of words. -/
structure Line where
  first : List Char
  rest : List (Gap × List Char)
  /-- blanks at the end -/
  trailing : Nat

/-- The text of the words after the first. -/
def restText (rest : List (Gap × List Char)) : List Char :=
  rest.flatMap fun entry => entry.1.text ++ entry.2

/-- The text of a line. -/
def Line.text (line : Line) : List Char :=
  line.first ++ (restText line.rest ++ List.replicate line.trailing ' ')

/-- The words of a line. -/
def Line.words (line : Line) : List (List Char) := line.first :: line.rest.map Prod.snd

/-- Cut a sequence at the gaps that join commands, after the words of an unfinished one. -/
def grouped {α : Type} (current : List α) : List (Gap × α) → List (List α)
  | [] => [current]
  | (gap, word) :: rest =>
      if gap.joins then current :: grouped [word] rest else grouped (current ++ [word]) rest

/-- The commands of a line. -/
def Line.commands (line : Line) : List (List (List Char)) := grouped [line.first] line.rest

theorem flatten_grouped {α : Type} (current : List α) (rest : List (Gap × α)) :
    (grouped current rest).flatten = current ++ rest.map Prod.snd := by
  induction rest generalizing current with
  | nil => simp [grouped]
  | cons entry rest ih =>
      obtain ⟨gap, word⟩ := entry
      rw [grouped]
      split
      · rw [List.flatten_cons, ih]
        rfl
      · rw [ih, List.append_assoc]
        rfl

theorem Line.flatten_commands (line : Line) : line.commands.flatten = line.words :=
  flatten_grouped [line.first] line.rest

theorem restText_cons (gap : Gap) (word : List Char) (rest : List (Gap × List Char)) :
    restText ((gap, word) :: rest) = gap.text ++ (word ++ restText rest) := by
  simp [restText]

theorem blanks_cons {α : Type} (word : α) (words : List α) :
    blanks (word :: words) = (.blank, word) :: blanks words :=
  rfl

theorem restText_blanks_append (first second : List (List Char)) :
    restText (blanks (first ++ second)) = restText (blanks first) ++ restText (blanks second) := by
  rw [blanks, List.map_append, restText, List.flatMap_append]
  rfl

theorem grouped_blanks {α : Type} (current words : List α) :
    grouped current (blanks words) = [current ++ words] := by
  induction words generalizing current with
  | nil => simp [blanks, grouped]
  | cons word words ih =>
      have step : grouped current (blanks (word :: words)) =
          grouped (current ++ [word]) (blanks words) := rfl
      rw [step, ih, List.append_assoc]
      rfl

theorem words_blanks {α : Type} (words : List α) : (blanks words).map Prod.snd = words := by
  simp [blanks, Function.comp_def]

theorem grouped_map {α β : Type} (f : α → β) (current : List α) (rest : List (Gap × α)) :
    grouped (current.map f) (rest.map fun entry => (entry.1, f entry.2)) =
      (grouped current rest).map (List.map f) := by
  induction rest generalizing current with
  | nil => rfl
  | cons entry rest ih =>
      obtain ⟨gap, word⟩ := entry
      rw [List.map_cons, grouped, grouped]
      split
      · rw [List.map_cons, ← ih]
        rfl
      · rw [← ih, List.map_append]
        rfl

theorem Line.mem_words_of_command {line : Line} {command : List (List Char)} {word : List Char}
    (inLine : command ∈ line.commands) (inCommand : word ∈ command) : word ∈ line.words := by
  rw [← line.flatten_commands]
  exact List.mem_flatten.mpr ⟨command, inLine, inCommand⟩

/-! ## Quotes -/

theorem gap_clean {gap : Gap} {c : Char} (member : c ∈ gap.text) : c = ' ' ∨ c = '&' := by
  rw [Gap.text, List.mem_append, List.mem_append] at member
  rcases member with joins | blanks | last
  · split at joins
    · have sign : c ∈ [' ', '&', '&'] := joins
      simpa [or_assoc] using sign
    · cases joins
  · exact .inl (List.eq_of_mem_replicate blanks)
  · exact .inl (List.mem_singleton.mp last)

theorem quoting_step_gap {start : Bool} {c : Char} (gapChar : c = ' ' ∨ c = '&') :
    quoting.step (.bare start) c = some ([.bare c], .bare true) := by
  rcases gapChar with rfl | rfl
  · rfl
  · rfl

theorem quoting_run_blanks (start : Bool) (n : Nat) :
    quoting.run (.bare start) (List.replicate n ' ') = some ((List.replicate n ' ').map .bare) := by
  induction n generalizing start with
  | zero => rfl
  | succ n ih =>
      rw [List.replicate_succ, Transducer.run_cons (quoting_step_gap (.inl rfl)), ih]
      rfl

/-- After a gap a token may begin. -/
theorem quoting_advance_gap (start : Bool) {text : List Char} (nonempty : text ≠ [])
    (gapChars : ∀ c ∈ text, c = ' ' ∨ c = '&') :
    quoting.advance (.bare start) text = some (text.map .bare, .bare true) := by
  induction text generalizing start with
  | nil => exact absurd rfl nonempty
  | cons c text ih =>
      have step := @quoting_step_gap start c (gapChars c (List.mem_cons_self ..))
      rw [Transducer.advance_cons step]
      cases text with
      | nil => rfl
      | cons d text =>
          rw [ih true (List.cons_ne_nil d text)
            fun e member => gapChars e (List.mem_cons_of_mem _ member)]
          rfl

theorem gap_ne_nil (gap : Gap) : gap.text ≠ [] := by
  simp [Gap.text]

/-- A word that quote recognition and token recognition leave whole. -/
structure Whole (word : List Char) : Prop where
  nonempty : word ≠ []
  ordinary : ∀ c ∈ word, isOrdinary c = true
  noComment : word.head? ≠ some '#'

theorem quoting_run_rest {rest : List (Gap × List Char)} (whole : ∀ entry ∈ rest, Whole entry.2)
    (start : Bool) (trailing : Nat) :
    quoting.run (.bare start) (restText rest ++ List.replicate trailing ' ') =
      some ((restText rest ++ List.replicate trailing ' ').map .bare) := by
  induction rest generalizing start with
  | nil => exact quoting_run_blanks start trailing
  | cons entry rest ih =>
      obtain ⟨gap, word⟩ := entry
      obtain ⟨nonempty, ordinary, noComment⟩ := whole (gap, word) (List.mem_cons_self ..)
      have between := quoting_advance_gap start (gap_ne_nil gap) fun c => gap_clean
      have inside := quoting_advance_word nonempty ordinary noComment
      rw [restText_cons, List.append_assoc, List.append_assoc, Transducer.run_of_advance between,
        Transducer.run_of_advance inside,
        ih fun entry member => whole entry (List.mem_cons_of_mem _ member)]
      simp

theorem quoting_run_line {line : Line} (whole : ∀ word ∈ line.words, Whole word) :
    quoting.run (.bare true) line.text = some (line.text.map .bare) := by
  obtain ⟨nonempty, ordinary, noComment⟩ := whole line.first (List.mem_cons_self ..)
  have inside := quoting_advance_word nonempty ordinary noComment
  have rest : ∀ entry ∈ line.rest, Whole entry.2 := fun entry member =>
    whole entry.2 (List.mem_cons_of_mem _ (List.mem_map_of_mem member))
  rw [Line.text, Transducer.run_of_advance inside, quoting_run_rest rest, Option.map_some,
    ← List.map_append]

/-! ## Tokens -/

theorem tokenising_step_blank (pending : Pending) :
    tokenising.step pending (.bare ' ') = some (pending.flush, .nothing) :=
  rfl

theorem tokenising_advance_blanks (pending : Pending) (n : Nat) :
    tokenising.advance pending ((List.replicate n ' ' ++ [' ']).map .bare) =
      some (pending.flush, .nothing) := by
  induction n generalizing pending with
  | zero =>
      rw [List.replicate_zero, List.nil_append, List.map_singleton,
        Transducer.advance_cons (tokenising_step_blank pending)]
      simp [Transducer.advance]
  | succ n ih =>
      rw [List.replicate_succ, List.cons_append, List.map_cons,
        Transducer.advance_cons (tokenising_step_blank pending), ih]
      simp [Pending.flush]

theorem tokenising_run_blanks (pending : Pending) (n : Nat) :
    tokenising.run pending ((List.replicate n ' ').map .bare) = some pending.flush := by
  induction n generalizing pending with
  | zero => rfl
  | succ n ih =>
      rw [List.replicate_succ, List.map_cons,
        Transducer.run_cons (tokenising_step_blank pending), ih]
      simp [Pending.flush]

/-- The token a gap stands for. -/
def Gap.tokens (gap : Gap) : List Token := if gap.joins then [.operator "&&".toList] else []

/-- A gap ends the word before it. -/
theorem tokenising_advance_gap (items : List Item) (gap : Gap) :
    tokenising.advance (.word items) (gap.text.map .bare) =
      some (.word items :: gap.tokens, .nothing) := by
  cases joins : gap.joins with
  | false =>
      simp only [Gap.text, Gap.tokens, joins, Bool.false_eq_true, if_false, List.nil_append]
      exact tokenising_advance_blanks _ _
  | true =>
      have sign : tokenising.advance (.word items) (" &&".toList.map .bare) =
          some ([.word items], .operator "&&".toList) := rfl
      simp only [Gap.text, Gap.tokens, joins, if_true]
      rw [List.map_append, Transducer.advance_append_of_advance sign, tokenising_advance_blanks]
      rfl

/-- The tokens of the words after the first. -/
def restTokens (rest : List (Gap × List Char)) : List Token :=
  rest.flatMap fun entry => entry.1.tokens ++ [.word (entry.2.map .bare)]

theorem nothing_apart (items : List Item) : Pending.nothing ≠ .word items := by
  intro equal
  cases equal

theorem tokenising_run_rest {rest : List (Gap × List Char)}
    (whole : ∀ entry ∈ rest, Whole entry.2) (items : List Item) (trailing : Nat) :
    tokenising.run (.word items) ((restText rest ++ List.replicate trailing ' ').map .bare) =
      some (.word items :: restTokens rest) := by
  induction rest generalizing items with
  | nil => exact tokenising_run_blanks (.word items) trailing
  | cons entry rest ih =>
      obtain ⟨gap, word⟩ := entry
      obtain ⟨nonempty, ordinary, -⟩ := whole (gap, word) (List.mem_cons_self ..)
      have between := tokenising_advance_gap items gap
      have inside := @tokenising_advance_word _ nonempty ordinary .nothing nothing_apart
      rw [restText_cons, List.append_assoc, List.append_assoc, List.map_append,
        Transducer.run_of_advance between, List.map_append, Transducer.run_of_advance inside,
        ih fun entry member => whole entry (List.mem_cons_of_mem _ member)]
      simp [restTokens, Pending.flush]

theorem tokenising_run_line {line : Line} (whole : ∀ word ∈ line.words, Whole word) :
    tokenising.run .nothing (line.text.map .bare) =
      some (.word (line.first.map .bare) :: restTokens line.rest) := by
  obtain ⟨nonempty, ordinary, -⟩ := whole line.first (List.mem_cons_self ..)
  have inside := @tokenising_advance_word _ nonempty ordinary .nothing nothing_apart
  have rest : ∀ entry ∈ line.rest, Whole entry.2 := fun entry member =>
    whole entry.2 (List.mem_cons_of_mem _ (List.mem_map_of_mem member))
  rw [Line.text, List.map_append, Transducer.run_of_advance inside, tokenising_run_rest rest]
  rfl

/-! ## Commands -/

theorem andList_run_rest (rest : List (Gap × List Char)) {words : List (List Item)}
    (nonempty : words ≠ []) :
    andList.run words (restTokens rest) =
      some (grouped words (rest.map fun entry => (entry.1, entry.2.map .bare))) := by
  induction rest generalizing words with
  | nil => simp [restTokens, Transducer.run, andList, nonempty, grouped]
  | cons entry rest ih =>
      obtain ⟨gap, word⟩ := entry
      have tokens : restTokens ((gap, word) :: rest) =
          gap.tokens ++ (.word (word.map .bare) :: restTokens rest) := by
        simp [restTokens]
      have more : ∀ words, andList.step words (.word (word.map .bare)) =
          some ([], words ++ [word.map .bare]) := fun _ => rfl
      rw [tokens, List.map_cons, grouped]
      cases joins : gap.joins with
      | false =>
          simp only [Gap.tokens, joins, Bool.false_eq_true, if_false, List.nil_append]
          rw [Transducer.run_cons (more words), ih (by simp)]
          rfl
      | true =>
          have sign : andList.step words (.operator "&&".toList) = some ([words], []) := by
            simp [andList, nonempty]
          simp only [Gap.tokens, joins, if_true, List.singleton_append]
          rw [Transducer.run_cons sign, Transducer.run_cons (more []), ih (by simp)]
          rfl

/-- A line of whole words is parsed into the commands it was written for. -/
theorem parse_line {line : Line} (whole : ∀ word ∈ line.words, Whole word) :
    parse line.text = some (line.commands.map (List.map (List.map .bare))) := by
  have first : andList.step [] (.word (line.first.map .bare)) =
      some ([], [line.first.map .bare]) := rfl
  rw [parse, quoting_run_line whole, Option.bind_some, tokenising_run_line whole,
    Option.bind_some, Transducer.run_cons first, andList_run_rest line.rest (by simp)]
  rw [Line.commands, ← grouped_map]
  simp

end Posix.Shell
