import Garak.Posix.Shell.Reading

/-!
# What a reading keeps of its text

In an environment where nothing expands to anything, every character of every argument
is a character of the text, in order. A quoting character outside quotes, and the sign
that begins a comment, are not kept: a text with one in such a place is longer than what
a shell reads out of it.
-/

namespace Posix.Shell

/-- The environment in which no lookup yields anything. -/
def emptyEnv : Env where
  param _ := []
  home _ := none
  glob _ := []
  glob_matches _ := List.forall_mem_nil _

/-- The character of an item. -/
def Item.chars : Item → List Char
  | .bare c => [c]
  | .soft c => [c]
  | .hard c => [c]
  | .mark => []

/-- The characters of a word. -/
def wordChars (items : List Item) : List Char := items.flatMap Item.chars

/-- The characters of the words of a command. -/
def commandChars (words : List (List Item)) : List Char := words.flatMap wordChars

/-- The characters of a token that is a word. -/
def Token.chars : Token → List Char
  | .word items => wordChars items
  | .operator _ => []

/-- A backslash between double quotes is put off until the next character. -/
def Mode.held : Mode → List Char
  | .doubleEscape => [backslash]
  | _ => []

/-- The characters of an unfinished word. -/
def Pending.held : Pending → List Char
  | .word items => wordChars items
  | _ => []

/-- A dollar sign is put off until the next character. -/
def Scan.held : Scan → List Char
  | .dollar _ => ['$']
  | _ => []

theorem quoting_carries : quoting.Carries (fun c => [c]) Mode.held Item.chars where
  step mode c out mode' step := by
    cases mode with
    | bare start =>
        simp only [quoting, quoteStep] at step
        split at step
        · cases step; simp [Mode.held]
        split at step
        · cases step; simp [Mode.held, Item.chars]
        split at step
        · cases step; simp [Mode.held, Item.chars]
        split at step
        · cases step; simp [Mode.held]
        · cases step; simp [Mode.held, Item.chars]
    | comment =>
        simp only [quoting, quoteStep] at step
        split at step
        · cases step; simp [Mode.held, Item.chars]
        · cases step; simp [Mode.held]
    | escape start =>
        simp only [quoting, quoteStep] at step
        split at step
        · cases step; simp [Mode.held]
        · cases step; simp [Mode.held, Item.chars]
    | single =>
        simp only [quoting, quoteStep] at step
        split at step
        · cases step; simp [Mode.held, Item.chars]
        · cases step; simp [Mode.held, Item.chars]
    | double =>
        simp only [quoting, quoteStep] at step
        split at step
        · cases step; simp [Mode.held, Item.chars]
        split at step
        · rename_i escape
          cases step; simp [Mode.held, escape]
        · cases step; simp [Mode.held, Item.chars]
    | doubleEscape =>
        simp only [quoting, quoteStep] at step
        split at step
        · cases step; simp [Mode.held]
        split at step
        · cases step; simp [Mode.held, Item.chars]
        · cases step; simp [Mode.held, Item.chars]
  finish mode out finish := by
    cases mode <;> cases finish <;> simp

theorem flush_chars (pending : Pending) :
    pending.flush.flatMap Token.chars = pending.held := by
  cases pending <;> simp [Pending.flush, Pending.held, Token.chars]

theorem extend_chars (pending : Pending) (i : Item) :
    (pending.extend i).1.flatMap Token.chars ++ (pending.extend i).2.held =
      pending.held ++ i.chars := by
  cases pending <;> simp [Pending.extend, Pending.flush, Pending.held, Token.chars, wordChars]

theorem tokenStep_chars (pending : Pending) (i : Item) :
    ((tokenStep pending i).1.flatMap Token.chars ++ (tokenStep pending i).2.held).Sublist
      (pending.held ++ i.chars) := by
  cases i with
  | bare c =>
      unfold tokenStep
      dsimp only
      split
      · -- an operator is not a word, and ends the one before it
        cases pending with
        | operator text =>
            by_cases longer : text ++ [c] ∈ operators
            · simp only [if_pos longer]
              exact List.nil_sublist _
            · simp only [if_neg longer]
              exact List.nil_sublist _
        | nothing => simp [Pending.flush, Pending.held]
        | word items => simp [Pending.flush, Pending.held, Token.chars]
      split
      · rw [flush_chars]
        simp [Pending.held]
      · rw [extend_chars]
  | soft c => exact (extend_chars pending (.soft c)) ▸ List.Sublist.refl _
  | hard c => exact (extend_chars pending (.hard c)) ▸ List.Sublist.refl _
  | mark => exact (extend_chars pending .mark) ▸ List.Sublist.refl _

theorem tokenising_carries : tokenising.Carries Item.chars Pending.held Token.chars where
  step pending i out pending' step := by
    have equal : tokenStep pending i = (out, pending') := Option.some.inj step
    have bound := tokenStep_chars pending i
    rwa [equal] at bound
  finish pending out finish := by
    obtain rfl : out = pending.flush := (Option.some.inj finish).symm
    rw [flush_chars]

theorem andList_carries : andList.Carries Token.chars commandChars commandChars where
  step words token out words' step := by
    cases token with
    | word items =>
        cases step
        simp [commandChars, Token.chars]
    | operator text =>
        simp only [andList] at step
        split at step
        · cases step
          simp [commandChars, Token.chars]
        · cases step
  finish words out finish := by
    simp only [andList] at finish
    split at finish
    · cases finish
    · cases finish
      simp [commandChars]

/-! ## Expansion in the empty environment -/

theorem valueFrags_emptyEnv (soft : Bool) (name : List Char) :
    valueFrags emptyEnv soft name = [] :=
  rfl

theorem dollarFrag_chars (soft : Bool) : (dollarFrag soft).chars = ['$'] := by
  cases soft <;> rfl

theorem plainStep_chars {i : Item} {out : List Frag} {scan : Scan}
    (step : plainStep i = some (out, scan)) :
    out.flatMap Frag.chars ++ scan.held = i.chars := by
  cases i with
  | bare c =>
      simp only [plainStep] at step
      split at step
      · cases step
      split at step
      · rename_i dollar
        cases step
        simp [Scan.held, Item.chars, dollar]
      · cases step
        simp [Scan.held, Item.chars, Frag.chars]
  | soft c =>
      simp only [plainStep] at step
      split at step
      · cases step
      split at step
      · rename_i dollar
        cases step
        simp [Scan.held, Item.chars, dollar]
      · cases step
        simp [Scan.held, Item.chars, Frag.chars]
  | hard c =>
      cases step
      simp [Scan.held, Item.chars, Frag.chars]
  | mark =>
      cases step
      simp [Scan.held, Item.chars, Frag.chars]

theorem writeFirst_chars {frags out : List Frag} {i : Item} {scan : Scan}
    (step : writeFirst frags (plainStep i) = some (out, scan)) :
    out.flatMap Frag.chars ++ scan.held = frags.flatMap Frag.chars ++ i.chars := by
  obtain ⟨⟨more, reached⟩, plain, equal⟩ := Option.map_eq_some_iff.mp step
  obtain ⟨rfl, rfl⟩ := Prod.mk.inj equal
  rw [List.flatMap_append, List.append_assoc, plainStep_chars plain]

theorem scanning_carries : (scanning emptyEnv).Carries Item.chars Scan.held Frag.chars where
  step scan i out scan' step := by
    cases scan with
    | plain => exact plainStep_chars step ▸ List.Sublist.refl _
    | dollar soft =>
        simp only [scanning, scanStep] at step
        split at step
        · split at step
          · cases step; simp [Scan.held]
          split at step
          · cases step; simp [Scan.held, valueFrags_emptyEnv]
          · cases step
        · split at step
          · rw [writeFirst_chars step]
            simp [dollarFrag_chars, Scan.held]
          · cases step
    | name soft text =>
        simp only [scanning, scanStep, valueFrags_emptyEnv] at step
        have ended : writeFirst [] (plainStep i) = some (out, scan') →
            (out.flatMap Frag.chars ++ scan'.held).Sublist
              ((Scan.name soft text).held ++ i.chars) := by
          intro plain
          rw [writeFirst_chars plain]
          simp [Scan.held]
        split at step
        · split at step
          · cases step; simp [Scan.held]
          · exact ended step
        · exact ended step
  finish scan out finish := by
    cases scan with
    | plain => cases finish; simp
    | dollar soft => cases finish; simp [dollarFrag_chars, Scan.held]
    | name soft text => cases finish; simp [valueFrags_emptyEnv]

theorem splitFields_chars (current frags : List Frag) :
    ((splitFields current frags).flatMap fun field => field.flatMap Frag.chars).Sublist
      ((current ++ frags).flatMap Frag.chars) := by
  fun_induction splitFields current frags with
  | case1 => simp
  | case2 f current => simp
  | case3 c frags ifs ih => simpa [Frag.chars] using ih.cons c
  | case4 c frags ifs f rest ih =>
      have rest' : ((splitFields [] frags).flatMap fun field => field.flatMap Frag.chars).Sublist
          ((Frag.result c :: frags).flatMap Frag.chars) := by
        simpa [Frag.chars] using ih.cons c
      rw [List.flatMap_cons, List.flatMap_append]
      exact rest'.append_left _
  | case5 current c frags ifs ih => simpa using ih
  | case6 current f frags other ih => simpa using ih

theorem globField_emptyEnv (field : List Frag) :
    globField emptyEnv field = [field.flatMap Frag.chars] := by
  unfold globField
  split
  · rfl
  · rfl

theorem tilde_emptyEnv (items : List Item) : tilde emptyEnv items = items := by
  have none : ∀ name : Option (List Char), name.bind emptyEnv.home = none := by
    intro name
    cases name <;> rfl
  unfold tilde
  split
  · rw [none]
    split <;> rfl
  · rfl

/-- The fields of a word hold no more than the fragments they come from. -/
theorem expandWord_frags {items : List Item} {fields : List (List Char)}
    (expanded : expandWord emptyEnv items = some fields) :
    ∃ frags, (scanning emptyEnv).run .plain items = some frags ∧
      fields.flatten.Sublist (frags.flatMap Frag.chars) := by
  unfold expandWord at expanded
  rw [tilde_emptyEnv] at expanded
  obtain ⟨frags, scanned, rfl⟩ := Option.map_eq_some_iff.mp expanded
  refine ⟨frags, scanned, ?_⟩
  have fields : ((splitFields [] frags).flatMap (globField emptyEnv)).flatten =
      (splitFields [] frags).flatMap fun field => field.flatMap Frag.chars := by
    have each : globField emptyEnv = fun field => [field.flatMap Frag.chars] :=
      funext globField_emptyEnv
    rw [each, ← List.map_eq_flatMap, ← List.flatMap_def]
  rw [fields]
  exact splitFields_chars [] frags

theorem expandWord_chars {items : List Item} {fields : List (List Char)}
    (expanded : expandWord emptyEnv items = some fields) :
    fields.flatten.Sublist (wordChars items) := by
  obtain ⟨frags, scanned, part⟩ := expandWord_frags expanded
  exact part.trans (Transducer.payload_sublist scanning_carries scanned)

theorem expandWords_carries :
    (expandWords emptyEnv).Carries wordChars (fun _ => []) (fun field => field) := by
  apply Transducer.each_carries
  intro items fields expanded
  simpa [List.flatMap_def] using expandWord_chars expanded

theorem expandCommands_carries :
    (expandCommands emptyEnv).Carries commandChars (fun _ => []) (fun fields => fields.flatten) := by
  apply Transducer.each_carries
  intro words out treated
  obtain ⟨fields, expanded, rfl⟩ := Option.map_eq_some_iff.mp treated
  have kept := Transducer.payload_sublist expandWords_carries expanded
  simpa [List.flatMap_def, commandChars] using kept

/-- Past quote recognition a reading keeps a part of the characters. -/
theorem reading_chars {text : List Char} {commands : List (List (List Char))}
    (read : reading emptyEnv text = some commands) :
    ∃ items, quoting.run (.bare true) text = some items ∧
      commands.flatten.flatten.Sublist (wordChars items) := by
  unfold reading at read
  obtain ⟨parsed, parsing, read⟩ := Option.bind_eq_some_iff.mp read
  unfold parse at parsing
  obtain ⟨items, quoted, parsing⟩ := Option.bind_eq_some_iff.mp parsing
  obtain ⟨tokens, tokenised, parsing⟩ := Option.bind_eq_some_iff.mp parsing
  split at read
  · refine ⟨items, quoted, ?_⟩
    have expansion := Transducer.payload_sublist expandCommands_carries read
    have grouping := Transducer.payload_sublist andList_carries parsing
    have cutting := Transducer.payload_sublist tokenising_carries tokenised
    have fields : commands.flatten.flatten = commands.flatMap fun fields => fields.flatten := by
      rw [List.flatten_flatten, ← List.flatMap_def]
    rw [fields]
    exact (expansion.trans grouping).trans cutting
  · cases read

/-! ## What is not kept -/

/-- Outside quotes. -/
def Mode.Outside (mode : Mode) : Prop := mode = .comment ∨ ∃ start, mode = .bare start

/-- Where a `#` begins a comment, or stands in one. -/
def Mode.AtStart (mode : Mode) : Prop := mode = .comment ∨ mode = .bare true

/-- Without quoting characters the reader stays outside quotes, and after a blank a token
may begin. -/
theorem quoteStep_outside {mode : Mode} {c : Char} (outside : mode.Outside)
    (clean : isQuoting c = false) :
    ∃ out mode', quoteStep mode c = some (out, mode') ∧ mode'.Outside ∧
      (c = ' ' → mode'.AtStart) := by
  rcases outside with rfl | ⟨start, rfl⟩
  · by_cases line : c = newline
    · rw [line]
      exact ⟨_, _, quoteStep_comment_newline, .inr ⟨true, rfl⟩, fun _ => .inr rfl⟩
    · exact ⟨_, _, quoteStep_comment line, .inl rfl, fun _ => .inl rfl⟩
  · by_cases hash : c = '#' ∧ start = true
    · obtain ⟨rfl, rfl⟩ := hash
      exact ⟨_, _, quoteStep_hash, .inl rfl, fun _ => .inl rfl⟩
    · refine ⟨_, _, quoteStep_bare clean hash, .inr ⟨_, rfl⟩, ?_⟩
      rintro rfl
      exact .inr rfl

theorem advance_outside {text : List Char} (clean : ∀ c ∈ text, isQuoting c = false) {mode : Mode}
    (outside : mode.Outside) :
    ∃ out mode', quoting.advance mode text = some (out, mode') ∧ mode'.Outside := by
  induction text generalizing mode with
  | nil => exact ⟨[], mode, rfl, outside⟩
  | cons c text ih =>
      obtain ⟨here, middle, step, outside', -⟩ :=
        quoteStep_outside outside (clean c (List.mem_cons_self ..))
      obtain ⟨more, mode', rest, outside''⟩ :=
        ih (fun d member => clean d (List.mem_cons_of_mem _ member)) outside'
      have step' : quoting.step mode c = some (here, middle) := step
      exact ⟨here ++ more, mode', by rw [Transducer.advance_cons step', rest]; rfl, outside''⟩

/-- At the beginning, and after a blank, a token may begin. -/
theorem advance_atStart {text : List Char} (clean : ∀ c ∈ text, isQuoting c = false)
    (ends : text = [] ∨ ∃ before, text = before ++ [' ']) :
    ∃ out mode', quoting.advance (.bare true) text = some (out, mode') ∧ mode'.AtStart := by
  rcases ends with rfl | ⟨before, rfl⟩
  · exact ⟨[], _, rfl, .inr rfl⟩
  · obtain ⟨out, middle, first, outside⟩ := advance_outside
      (fun c member => clean c (List.mem_append_left _ member)) (.inr ⟨true, rfl⟩)
    obtain ⟨here, mode', step, -, start⟩ := @quoteStep_outside _ ' ' outside
      (clean ' ' (List.mem_append_right _ (List.mem_singleton_self _)))
    have step' : quoting.step middle ' ' = some (here, mode') := step
    refine ⟨out ++ here, mode', ?_, start rfl⟩
    rw [Transducer.advance_append_of_advance first, Transducer.advance_cons step']
    simp [Transducer.advance]

/-- A quoting character outside quotes, and a `#` that begins a comment, write nothing. -/
theorem quoteStep_dropped {mode : Mode} {c : Char}
    (drops : (mode.Outside ∧ isQuoting c = true) ∨ (mode.AtStart ∧ c = '#')) :
    ∃ out mode', quoteStep mode c = some (out, mode') ∧ out.flatMap Item.chars = [] ∧
      mode'.held = [] := by
  rcases drops with ⟨outside, quoting⟩ | ⟨start, rfl⟩
  · simp only [isQuoting, Bool.or_eq_true, beq_iff_eq] at quoting
    rcases outside with rfl | ⟨start, rfl⟩
    · have inside : c ≠ newline := by
        rcases quoting with (rfl | rfl) | rfl <;> decide
      exact ⟨_, _, quoteStep_comment inside, rfl, rfl⟩
    · rcases quoting with (rfl | rfl) | rfl
      · exact ⟨_, _, quoteStep_quote start, rfl, rfl⟩
      · exact ⟨_, _, quoteStep_doubleQuote start, rfl, rfl⟩
      · exact ⟨_, _, quoteStep_backslash start, rfl, rfl⟩
  · rcases start with rfl | rfl
    · exact ⟨_, _, quoteStep_comment (by decide), rfl, rfl⟩
    · exact ⟨_, _, quoteStep_hash, rfl, rfl⟩

/-- A reading of a text keeps a part of what is left of the text without such a
character. -/
theorem reading_drops {before after : List Char} {c : Char}
    (clean : ∀ d ∈ before, isQuoting d = false)
    (drops : isQuoting c = true ∨
      (c = '#' ∧ (before = [] ∨ ∃ first, before = first ++ [' '])))
    {commands : List (List (List Char))}
    (read : reading emptyEnv (before ++ c :: after) = some commands) :
    commands.flatten.flatten.Sublist (before ++ after) := by
  obtain ⟨items, quoted, kept⟩ := reading_chars read
  obtain ⟨out, mode, advanced, dropped⟩ : ∃ out mode,
      quoting.advance (.bare true) before = some (out, mode) ∧
        ((mode.Outside ∧ isQuoting c = true) ∨ (mode.AtStart ∧ c = '#')) := by
    rcases drops with quotes | ⟨hash, ends⟩
    · obtain ⟨out, mode, advanced, outside⟩ := advance_outside clean (.inr ⟨true, rfl⟩)
      exact ⟨out, mode, advanced, .inl ⟨outside, quotes⟩⟩
    · obtain ⟨out, mode, advanced, start⟩ := advance_atStart clean ends
      exact ⟨out, mode, advanced, .inr ⟨start, hash⟩⟩
  obtain ⟨here, mode', step, nothing, free⟩ := quoteStep_dropped dropped
  have step' : quoting.step mode c = some (here, mode') := step
  rw [Transducer.run_of_advance advanced, Transducer.run_cons step', Option.map_map] at quoted
  obtain ⟨rest, ran, rfl⟩ := Option.map_eq_some_iff.mp quoted
  have first := Transducer.payload_advance quoting_carries advanced
  have second := Transducer.payload_sublist quoting_carries ran
  have self : ∀ text : List Char, (text.flatMap fun c => [c]) = text := fun text => by simp
  rw [self] at first second
  rw [free, List.nil_append] at second
  apply kept.trans
  simp only [Function.comp_apply, wordChars, List.flatMap_append, nothing, List.nil_append]
  have firstOut : (out.flatMap Item.chars).Sublist before :=
    (List.sublist_append_left _ _).trans first
  exact firstOut.append second

end Posix.Shell
