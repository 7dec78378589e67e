import Garak.Posix.Shell.BareWords

/-!
# Texts without quoting characters

Quote recognition finds nothing but unquoted characters in such a text. What a shell
reads out of it then consists of characters that neither separate words nor belong to
an operator, and none of them is a grave accent.
-/

namespace Posix.Shell

/-- An unquoted character with no part in quoting. -/
def Item.Bare (i : Item) : Prop := ∃ c, i = .bare c ∧ isQuoting c = false

/-- An unquoted character that may stand in a word. -/
def Item.InWord (i : Item) : Prop := ∃ c, i = .bare c ∧ isOrdinary c = true

/-- The items of an unfinished word. -/
def Pending.items : Pending → List Item
  | .word items => items
  | _ => []

/-- The items of a word. -/
def Token.items : Token → List Item
  | .word items => items
  | .operator _ => []

theorem quoting_keeps :
    quoting.Keeps Mode.Outside (fun c => isQuoting c = false) Item.Bare where
  step mode c out mode' outside clean step := by
    rcases outside with rfl | ⟨start, rfl⟩
    · by_cases line : c = newline
      · rw [line, quoting_step, quoteStep_comment_newline] at step
        cases step
        refine ⟨.inr ⟨true, rfl⟩, ?_⟩
        intro i member
        exact ⟨newline, List.mem_singleton.mp member, rfl⟩
      · rw [quoting_step, quoteStep_comment line] at step
        cases step
        exact ⟨.inl rfl, List.forall_mem_nil _⟩
    · by_cases hash : c = '#' ∧ start = true
      · obtain ⟨rfl, rfl⟩ := hash
        cases step
        exact ⟨.inl rfl, List.forall_mem_nil _⟩
      · rw [quoting_step, quoteStep_bare clean hash] at step
        cases step
        refine ⟨.inr ⟨_, rfl⟩, ?_⟩
        intro i member
        exact ⟨c, List.mem_singleton.mp member, clean⟩
  finish mode out _ finish := by
    cases mode with
    | bare start => cases finish; exact List.forall_mem_nil _
    | comment => cases finish; exact List.forall_mem_nil _
    | _ => cases finish

theorem mem_flush {pending : Pending} {token : Token} {i : Item} (written : token ∈ pending.flush)
    (member : i ∈ token.items) : i ∈ pending.items := by
  cases pending with
  | nothing => cases written
  | word items =>
      rw [List.mem_singleton.mp written] at member
      exact member
  | operator text =>
      rw [List.mem_singleton.mp written] at member
      cases member

/-- A character that separates words ends the one being read. -/
theorem tokenStep_separator {c : Char} (clean : isQuoting c = false)
    (separates : isOrdinary c = false) (pending : Pending) :
    (tokenStep pending (.bare c)).1 ⊆ pending.flush ∧
      (tokenStep pending (.bare c)).2.items = [] := by
  by_cases operator : isOperatorChar c = true
  · simp only [tokenStep, operator, if_true]
    cases pending with
    | operator text =>
        by_cases longer : text ++ [c] ∈ operators
        · simp [longer, Pending.items]
        · simp [longer, Pending.items, Pending.flush]
    | nothing => simp [Pending.items, Pending.flush]
    | word items => simp [Pending.items, Pending.flush]
  · have blank : isBlank c = true := by
      simpa [isOrdinary, clean, operator] using separates
    simp [tokenStep, operator, blank, Pending.items]

theorem tokenising_keeps :
    tokenising.Keeps (fun pending => ∀ i ∈ pending.items, i.InWord) Item.Bare
      (fun token => ∀ i ∈ token.items, i.InWord) where
  step pending i out pending' inv bare step := by
    obtain ⟨c, rfl, clean⟩ := bare
    have equal : tokenStep pending (.bare c) = (out, pending') := Option.some.inj step
    by_cases ordinary : isOrdinary c = true
    · have here : ∀ i ∈ [Item.bare c], i.InWord := fun i member =>
        ⟨c, List.mem_singleton.mp member, ordinary⟩
      rw [tokenStep_ordinary ordinary] at equal
      cases pending with
      | nothing =>
          cases equal
          exact ⟨here, List.forall_mem_nil _⟩
      | operator text =>
          cases equal
          exact ⟨here, fun token written i member => by cases mem_flush written member⟩
      | word items =>
          cases equal
          refine ⟨?_, List.forall_mem_nil _⟩
          intro i member
          rcases List.mem_append.mp member with member | member
          · exact inv i member
          · exact here i member
    · obtain ⟨flushed, nothing⟩ := tokenStep_separator clean (by simpa using ordinary) pending
      rw [equal] at flushed nothing
      refine ⟨?_, fun token written i member => inv i (mem_flush (flushed written) member)⟩
      intro i member
      simp only at nothing
      rw [nothing] at member
      cases member
  finish pending out inv finish := by
    cases finish
    exact fun token written i member => inv i (mem_flush written member)

theorem andList_keeps :
    andList.Keeps (fun words => ∀ items ∈ words, ∀ i ∈ items, i.InWord)
      (fun token => ∀ i ∈ token.items, i.InWord)
      (fun words => ∀ items ∈ words, ∀ i ∈ items, i.InWord) where
  step words token out words' inv reads step := by
    cases token with
    | word items =>
        cases step
        refine ⟨?_, List.forall_mem_nil _⟩
        intro more member
        rcases List.mem_append.mp member with member | member
        · exact inv more member
        · rw [List.mem_singleton.mp member]
          exact reads
    | operator text =>
        simp only [andList] at step
        split at step
        · cases step
          refine ⟨List.forall_mem_nil _, ?_⟩
          intro written member
          rw [List.mem_singleton.mp member]
          exact inv
        · cases step
  finish words out inv finish := by
    simp only [andList] at finish
    split at finish
    · cases finish
    · cases finish
      intro written member
      rw [List.mem_singleton.mp member]
      exact inv

/-- The words of a text without quoting characters. -/
theorem parse_unquoted {text : List Char} (clean : ∀ c ∈ text, isQuoting c = false)
    {parsed : List (List (List Item))} (parsing : parse text = some parsed) :
    ∀ words ∈ parsed, ∀ items ∈ words, ∀ i ∈ items, i.InWord := by
  unfold parse at parsing
  obtain ⟨items, quoted, parsing⟩ := Option.bind_eq_some_iff.mp parsing
  obtain ⟨tokens, tokenised, parsing⟩ := Option.bind_eq_some_iff.mp parsing
  have bare := Transducer.all_of_run quoting_keeps (.inr ⟨true, rfl⟩) clean quoted
  have cut := Transducer.all_of_run tokenising_keeps (fun i none => by cases none) bare tokenised
  exact Transducer.all_of_run andList_keeps (fun words none => by cases none) cut parsing

/-! ## Command substitutions -/

theorem scanStep_backquote (env : Env) (scan : Scan) :
    scanStep env scan (.bare backquote) = none := by
  cases scan with
  | plain => rfl
  | dollar soft => cases soft <;> rfl
  | name soft text => cases soft <;> rfl

theorem scanning_backquote {env : Env} {scan : Scan} {items : List Item} {frags : List Frag}
    (ran : (scanning env).run scan items = some frags) : .bare backquote ∉ items := by
  induction items generalizing scan frags with
  | nil => exact List.not_mem_nil
  | cons i items ih =>
      cases step : scanStep env scan i with
      | none => simp [Transducer.run, scanning_step, step] at ran
      | some result =>
          obtain ⟨out, scan'⟩ := result
          have step' : (scanning env).step scan i = some (out, scan') := step
          rw [Transducer.run_cons step'] at ran
          obtain ⟨more, rest, -⟩ := Option.map_eq_some_iff.mp ran
          intro member
          rcases List.mem_cons.mp member with rfl | later
          · rw [scanStep_backquote] at step
            cases step
          · exact ih rest later

theorem expandWord_backquote {items : List Item} {fields : List (List Char)}
    (expanded : expandWord emptyEnv items = some fields) : .bare backquote ∉ items := by
  obtain ⟨frags, scanned, -⟩ := expandWord_frags expanded
  exact scanning_backquote scanned

/-! ## Readings -/

/-- Every character read out of a text without quoting characters may stand in a word,
and is no grave accent. -/
theorem reading_unquoted {text : List Char} (clean : ∀ c ∈ text, isQuoting c = false)
    {commands : List (List (List Char))} (read : reading emptyEnv text = some commands) :
    ∀ c ∈ commands.flatten.flatten, isOrdinary c = true ∧ c ≠ backquote := by
  unfold reading at read
  obtain ⟨parsed, parsing, read⟩ := Option.bind_eq_some_iff.mp read
  split at read
  · have inWords := parse_unquoted clean parsing
    have kept := Transducer.payload_sublist expandCommands_carries read
    obtain ⟨accepted, -⟩ := Transducer.each_run_iff.mp read
    intro c member
    have fields : commands.flatten.flatten = commands.flatMap fun fields => fields.flatten := by
      rw [List.flatten_flatten, ← List.flatMap_def]
    rw [fields] at member
    obtain ⟨words, inParsed, inCommand⟩ := List.mem_flatMap.mp (kept.subset member)
    obtain ⟨items, inWords', inWord⟩ := List.mem_flatMap.mp inCommand
    obtain ⟨i, inItems, isChar⟩ := List.mem_flatMap.mp inWord
    obtain ⟨d, rfl, ordinary⟩ := inWords words inParsed items inWords' i inItems
    obtain rfl : c = d := List.mem_singleton.mp isChar
    refine ⟨ordinary, ?_⟩
    rintro rfl
    -- the word it stands in was expanded
    obtain ⟨written, treated⟩ := Option.isSome_iff_exists.mp (accepted words inParsed)
    obtain ⟨each, expanded, -⟩ := Option.map_eq_some_iff.mp treated
    obtain ⟨one, single⟩ :=
      Option.isSome_iff_exists.mp ((Transducer.each_run_iff.mp expanded).1 items inWords')
    exact expandWord_backquote single inItems
  · cases read

end Posix.Shell
