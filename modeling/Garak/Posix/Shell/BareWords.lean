import Garak.Posix.Shell.Kept

/-!
# Words without quotes

How each stage of a reading treats a word written without quoting characters, blanks and
operators, and what remains in such a word that a shell does not leave alone.
-/

namespace Posix.Shell

/-- A character that neither quotes, nor separates words, nor belongs to an operator. -/
def isOrdinary (c : Char) : Bool := !(isQuoting c || isBlank c || isOperatorChar c)

theorem isOrdinary_iff {c : Char} :
    isOrdinary c = true ↔ isQuoting c = false ∧ isBlank c = false ∧ isOperatorChar c = false := by
  simp [isOrdinary, and_assoc]

/-! ## Tokens -/

theorem quoting_advance_false {word : List Char} (ordinary : ∀ c ∈ word, isOrdinary c = true) :
    quoting.advance (.bare false) word = some (word.map .bare, .bare false) := by
  induction word with
  | nil => rfl
  | cons c word ih =>
      obtain ⟨clean, blank, operator⟩ :=
        isOrdinary_iff.mp (ordinary c (List.mem_cons_self ..))
      have step : quoting.step (.bare false) c = some ([.bare c], .bare false) := by
        rw [quoting_step, quoteStep_bare clean (by simp), blank, operator]
        rfl
      rw [Transducer.advance_cons step, ih fun d member => ordinary d (List.mem_cons_of_mem _ member)]
      rfl

/-- A word of ordinary characters is read as it stands, unless it begins a comment. -/
theorem quoting_advance_word {word : List Char} (nonempty : word ≠ [])
    (ordinary : ∀ c ∈ word, isOrdinary c = true) (noComment : word.head? ≠ some '#') :
    quoting.advance (.bare true) word = some (word.map .bare, .bare false) := by
  cases word with
  | nil => exact absurd rfl nonempty
  | cons c word =>
      obtain ⟨clean, blank, operator⟩ :=
        isOrdinary_iff.mp (ordinary c (List.mem_cons_self ..))
      have notHash : ¬ (c = '#' ∧ true = true) := by
        intro given
        obtain ⟨rfl, -⟩ := given
        exact noComment rfl
      have step : quoting.step (.bare true) c = some ([.bare c], .bare false) := by
        rw [quoting_step, quoteStep_bare clean notHash, blank, operator]
        rfl
      rw [Transducer.advance_cons step,
        quoting_advance_false fun d member => ordinary d (List.mem_cons_of_mem _ member)]
      rfl

theorem tokenStep_ordinary {c : Char} (ordinary : isOrdinary c = true) (pending : Pending) :
    tokenStep pending (.bare c) = pending.extend (.bare c) := by
  obtain ⟨-, blank, operator⟩ := isOrdinary_iff.mp ordinary
  simp [tokenStep, blank, operator]

theorem tokenising_advance_more {word : List Char} (ordinary : ∀ c ∈ word, isOrdinary c = true)
    (items : List Item) :
    tokenising.advance (.word items) (word.map .bare) =
      some ([], .word (items ++ word.map .bare)) := by
  induction word generalizing items with
  | nil => simp [Transducer.advance]
  | cons c word ih =>
      have step : tokenising.step (.word items) (.bare c) =
          some ([], .word (items ++ [.bare c])) := by
        rw [tokenising_step, tokenStep_ordinary (ordinary c (List.mem_cons_self ..))]
        rfl
      rw [List.map_cons, Transducer.advance_cons step,
        ih fun d member => ordinary d (List.mem_cons_of_mem _ member)]
      simp

/-- A word of ordinary characters becomes one token. -/
theorem tokenising_advance_word {word : List Char} (nonempty : word ≠ [])
    (ordinary : ∀ c ∈ word, isOrdinary c = true) {pending : Pending}
    (apart : ∀ items, pending ≠ .word items) :
    tokenising.advance pending (word.map .bare) = some (pending.flush, .word (word.map .bare)) := by
  cases word with
  | nil => exact absurd rfl nonempty
  | cons c word =>
      have first : pending.extend (.bare c) = (pending.flush, .word [.bare c]) := by
        cases pending with
        | word items => exact absurd rfl (apart items)
        | nothing => rfl
        | operator text => rfl
      have step : tokenising.step pending (.bare c) =
          some (pending.flush, .word [.bare c]) := by
        rw [tokenising_step, tokenStep_ordinary (ordinary c (List.mem_cons_self ..)), first]
      rw [List.map_cons, Transducer.advance_cons step, tokenising_advance_more
        fun d member => ordinary d (List.mem_cons_of_mem _ member)]
      simp

/-! ## Parameters -/

/-- A dollar sign stands in the word before another character. It begins an expansion, or
the standard leaves open what it does. -/
def expands : List Char → Bool
  | [] => false
  | [_] => false
  | a :: b :: rest => a == '$' || expands (b :: rest)

theorem scanning_cons {env : Env} {c : Char} (notDollar : c ≠ '$') (notBackquote : c ≠ backquote)
    (items : List Item) :
    (scanning env).run .plain (.bare c :: items) =
      ((scanning env).run .plain items).map (.lit c :: ·) := by
  have step : (scanning env).step .plain (.bare c) = some ([.lit c], .plain) := by
    rw [scanning_step, scanStep, plainStep, if_neg notBackquote, if_neg notDollar]
  exact Transducer.run_cons step items

theorem scanning_dollar {env : Env} (items : List Item) :
    (scanning env).run .plain (.bare '$' :: items) =
      (scanning env).run (.dollar false) items := by
  have step : (scanning env).step .plain (.bare '$') = some ([], .dollar false) := rfl
  rw [Transducer.run_cons step]
  simp

/-- A word without expansions stays as it is. -/
theorem scanning_word {env : Env} {word : List Char} (noBackquote : backquote ∉ word)
    (stays : expands word = false) :
    (scanning env).run .plain (word.map .bare) = some (word.map .lit) := by
  induction word using expands.induct with
  | case1 => rfl
  | case2 c =>
      by_cases dollar : c = '$'
      · rw [dollar]
        rfl
      · have notBackquote : c ≠ backquote := fun equal => noBackquote (by simp [equal])
        rw [List.map_singleton, scanning_cons dollar notBackquote]
        rfl
  | case3 a b rest ih =>
      simp only [expands, Bool.or_eq_false_iff, beq_eq_false_iff_ne] at stays
      have tail := ih (fun member => noBackquote (List.mem_cons_of_mem _ member)) stays.2
      have notBackquote : a ≠ backquote := fun equal => noBackquote (by simp [equal])
      rw [List.map_cons, scanning_cons stays.1 notBackquote, tail]
      rfl

/-- An expansion where every parameter is empty: its first two characters are gone. -/
theorem scanning_param {c : Char} {items : List Item} {frags : List Frag}
    (ran : (scanning emptyEnv).run (.dollar false) (.bare c :: items) = some frags) :
    ∃ scan, (scanning emptyEnv).run scan items = some frags ∧ scan.held = [] := by
  by_cases name : isNameStart c = true
  · have step : (scanning emptyEnv).step (.dollar false) (.bare c) =
        some ([], .name false [c]) := by
      simp [scanning_step, scanStep, Item.sameContext, name]
    rw [Transducer.run_cons step] at ran
    exact ⟨_, by simpa using ran, rfl⟩
  · by_cases special : isSpecial c = true
    · have step : (scanning emptyEnv).step (.dollar false) (.bare c) = some ([], .plain) := by
        simp [scanning_step, scanStep, Item.sameContext, name, special, valueFrags_emptyEnv]
      rw [Transducer.run_cons step] at ran
      exact ⟨_, by simpa using ran, rfl⟩
    · have step : (scanning emptyEnv).step (.dollar false) (.bare c) = none := by
        simp [scanning_step, scanStep, Item.sameContext, name, special]
      simp [Transducer.run, step] at ran

/-- A word with an expansion loses characters where every parameter is empty. -/
theorem scanning_word_shorter {word : List Char} (expanding : expands word = true)
    {frags : List Frag} (ran : (scanning emptyEnv).run .plain (word.map .bare) = some frags) :
    (frags.flatMap Frag.chars).length < word.length := by
  induction word using expands.induct generalizing frags with
  | case1 => cases expanding
  | case2 c => cases expanding
  | case3 a b rest ih =>
      by_cases dollar : a = '$'
      · -- the two characters go, and nothing takes their place
        rw [List.map_cons, List.map_cons, dollar, scanning_dollar] at ran
        obtain ⟨scan, ran', free⟩ := scanning_param ran
        have kept := Transducer.payload_sublist scanning_carries ran'
        rw [free, List.nil_append] at kept
        have length := kept.length_le
        simp only [List.flatMap_map, Item.chars, List.flatMap_singleton', List.length_cons] at length ⊢
        omega
      · simp only [expands, Bool.or_eq_true, beq_iff_eq, dollar, false_or] at expanding
        by_cases grave : a = backquote
        · rw [List.map_cons, grave] at ran
          cases ran
        · rw [List.map_cons, scanning_cons dollar grave] at ran
          obtain ⟨more, tail, rfl⟩ := Option.map_eq_some_iff.mp ran
          have shorter := ih expanding tail
          simpa [Frag.chars] using shorter

/-! ## Fields -/

/-- Characters that stood in the word do not split it. -/
theorem splitFields_word (word : List Char) {current : List Frag}
    (nonempty : current ++ word.map .lit ≠ []) :
    splitFields current (word.map .lit) = [current ++ word.map .lit] := by
  induction word generalizing current with
  | nil =>
      cases current with
      | nil => exact absurd rfl nonempty
      | cons f current => simp [splitFields]
  | cons c word ih =>
      have step : splitFields current (.lit c :: word.map .lit) =
          splitFields (current ++ [.lit c]) (word.map .lit) := by
        cases current <;> rfl
      rw [List.map_cons, step, ih (by simp), List.append_assoc]
      rfl

/-- The word as a pattern, every character of it unquoted. -/
def asPattern (word : List Char) : Pattern := word.map fun c => (c, true)

theorem chars_word (word : List Char) : (word.map Frag.lit).flatMap Frag.chars = word := by
  induction word with
  | nil => rfl
  | cons c word ih => simpa [Frag.chars] using ih

theorem pattern_word (word : List Char) :
    (word.map Frag.lit).flatMap Frag.pattern = asPattern word := by
  induction word with
  | nil => rfl
  | cons c word ih => simpa [Frag.pattern, asPattern] using ih

/-- The fields of a word that is no pattern, or a pattern nothing matches. -/
theorem globField_word {env : Env} {word : List Char}
    (literal : isPattern (asPattern word) = false ∨ env.glob (asPattern word) = []) :
    globField env (word.map .lit) = [word] := by
  unfold globField
  rw [pattern_word, chars_word]
  rcases literal with no | nothing
  · rw [no]
    rfl
  · rw [nothing]
    split <;> rfl

theorem globField_pattern {env : Env} {word : List Char} {f : List Char} {found : List (List Char)}
    (yes : isPattern (asPattern word) = true) (matched : env.glob (asPattern word) = f :: found) :
    globField env (word.map .lit) = f :: found := by
  unfold globField
  rw [pattern_word, yes, matched]
  rfl

/-! ## Tildes -/

theorem tilde_of_head_ne {env : Env} {word : List Char} (noTilde : word.head? ≠ some '~') :
    tilde env (word.map .bare) = word.map .bare := by
  cases word with
  | nil => rfl
  | cons c word =>
      have notTilde : c ≠ '~' := by
        rintro rfl
        exact noTilde rfl
      simp [tilde, notTilde]

theorem bareText_map (word : List Char) : bareText (word.map .bare) = some word := by
  induction word with
  | nil => rfl
  | cons c word ih => simp [bareText, ih]

/-- A tilde-prefix that stands for an empty directory goes. -/
theorem tilde_of_head {env : Env} (nowhere : ∀ name, env.home name = some []) (word : List Char) :
    tilde env (('~' :: word).map .bare) =
      .mark :: (word.dropWhile fun c => decide (c ≠ '/')).map .bare := by
  have slash : ((fun i : Item => decide (i ≠ .bare '/')) ∘ Item.bare) =
      fun c => decide (c ≠ '/') := by
    funext c
    simp
  have takes : (word.map Item.bare).takeWhile (fun i => decide (i ≠ .bare '/')) =
      (word.takeWhile fun c => decide (c ≠ '/')).map .bare := by
    rw [List.takeWhile_map, slash]
  have drops : (word.map Item.bare).dropWhile (fun i => decide (i ≠ .bare '/')) =
      (word.dropWhile fun c => decide (c ≠ '/')).map .bare := by
    rw [List.dropWhile_map, slash]
  rw [List.map_cons, tilde, if_pos rfl, takes, drops, bareText_map, Option.bind_some, nowhere]
  rfl

/-! ## Beginnings that are special nowhere -/

/-- A character that is special nowhere in a word but at its beginning. -/
def isLiteral (c : Char) : Bool :=
  isOrdinary c && c != backquote && c != '$' && c != '*' && c != '?' && c != '['

theorem isLiteral_iff {c : Char} :
    isLiteral c = true ↔ isOrdinary c = true ∧ c ≠ backquote ∧ c ≠ '$' ∧ c ≠ '*' ∧ c ≠ '?' ∧
      c ≠ '[' := by
  simp [isLiteral, and_assoc]

theorem expands_cons {c : Char} (notDollar : c ≠ '$') (word : List Char) :
    expands (c :: word) = expands word := by
  cases word with
  | nil => rfl
  | cons d word => simp [expands, notDollar]

theorem expands_append {key : List Char} (literal : ∀ c ∈ key, isLiteral c = true)
    (word : List Char) : expands (key ++ word) = expands word := by
  induction key with
  | nil => rfl
  | cons c key ih =>
      obtain ⟨-, -, notDollar, -⟩ := isLiteral_iff.mp (literal c (List.mem_cons_self ..))
      rw [List.cons_append, expands_cons notDollar,
        ih fun d member => literal d (List.mem_cons_of_mem _ member)]

theorem isPattern_append {key : List Char} (literal : ∀ c ∈ key, isLiteral c = true)
    (word : List Char) : isPattern (asPattern (key ++ word)) = isPattern (asPattern word) := by
  induction key with
  | nil => rfl
  | cons c key ih =>
      obtain ⟨-, -, -, star, mark, bracket⟩ := isLiteral_iff.mp (literal c (List.mem_cons_self ..))
      have rest := ih fun d member => literal d (List.mem_cons_of_mem _ member)
      rw [← rest]
      simp [asPattern, isPattern, isWild, star, mark, bracket]

/-! ## Words -/

/-- A word in which nothing is expanded. -/
theorem expandWord_word {env : Env} {word : List Char} (nonempty : word ≠ [])
    (noTilde : word.head? ≠ some '~' ∨ ∀ name, env.home name = none)
    (noBackquote : backquote ∉ word) (stays : expands word = false) :
    expandWord env (word.map .bare) = some (globField env (word.map .lit)) := by
  have unchanged : tilde env (word.map .bare) = word.map .bare := by
    rcases noTilde with noTilde | homeless
    · exact tilde_of_head_ne noTilde
    · have none : ∀ name : Option (List Char), name.bind env.home = none := by
        intro name
        cases name with
        | none => rfl
        | some name => exact homeless name
      unfold tilde
      split
      · rw [none]
        split <;> rfl
      · rfl
  have whole : splitFields [] (word.map .lit) = [word.map .lit] :=
    splitFields_word word (by simpa using nonempty)
  rw [expandWord, unchanged, scanning_word noBackquote stays, Option.map_some, whole]
  simp

theorem expands_of_suffix {suffix word : List Char} (ends : suffix <:+ word)
    (stays : expands word = false) : expands suffix = false := by
  induction word using expands.induct with
  | case1 =>
      rw [List.suffix_nil.mp ends]
      rfl
  | case2 c =>
      rcases List.suffix_cons_iff.mp ends with rfl | ends
      · rfl
      · rw [List.suffix_nil.mp ends]
        rfl
  | case3 a b rest ih =>
      rcases List.suffix_cons_iff.mp ends with rfl | ends
      · exact stays
      · simp only [expands, Bool.or_eq_false_iff] at stays
        exact ih ends stays.2

/-- A word that begins with a tilde loses it where every home directory is empty. -/
theorem expandWord_tilde {env : Env} (nowhere : ∀ name, env.home name = some [])
    (unmatched : ∀ pattern, env.glob pattern = []) {word : List Char}
    (noBackquote : backquote ∉ word) (stays : expands ('~' :: word) = false) :
    expandWord env (('~' :: word).map .bare) =
      some [word.dropWhile fun c => decide (c ≠ '/')] := by
  have ends : (word.dropWhile fun c => decide (c ≠ '/')) <:+ word := List.dropWhile_suffix _
  have stays' := expands_of_suffix (ends.trans (List.suffix_cons '~' word)) stays
  have noBackquote' : backquote ∉ word.dropWhile fun c => decide (c ≠ '/') :=
    fun member => noBackquote (ends.subset member)
  have step : (scanning env).step .plain .mark = some ([.null], .plain) := rfl
  rw [expandWord, tilde_of_head nowhere, Transducer.run_cons step,
    scanning_word noBackquote' stays']
  have first : splitFields [] (.null :: (word.dropWhile fun c => decide (c ≠ '/')).map .lit) =
      splitFields [.null] ((word.dropWhile fun c => decide (c ≠ '/')).map .lit) := rfl
  simp only [Option.map_some, List.singleton_append, first]
  rw [splitFields_word _ (by simp), List.flatMap_singleton, globField]
  rw [unmatched]
  simp only [List.flatMap_append, chars_word, List.flatMap_singleton, Frag.chars, List.nil_append]
  split <;> rfl

end Posix.Shell
