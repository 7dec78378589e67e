import Garak.Misc.Lists
import Garak.Posix.Shell.Line
import Garak.Posix.Shell.Unquoted

/-!
# When a line is read as it was written

`reading_line_iff`: a shell reads the words of an unquoted line as they stand, whatever
it looks up in expansions, exactly when none of them holds anything special. One
direction builds the reading. For the other, each special thing is found to be missing
from a reading, or changed in it, in some environment.
-/

namespace Posix.Shell

/-- The word holds nothing that is special to a shell anywhere in a word. -/
structure Plain (word : List Char) : Prop where
  ordinary : ∀ c ∈ word, isOrdinary c = true
  noBackquote : backquote ∉ word
  stays : expands word = false
  literal : isPattern (asPattern word) = false

/-- Nor does it begin with what is special there. -/
structure Inert (word : List Char) : Prop extends Plain word where
  noComment : word.head? ≠ some '#'
  noTilde : word.head? ≠ some '~'

/-- The test for plain words. -/
def isPlain (word : List Char) : Bool :=
  word.all isOrdinary && !word.contains backquote && !expands word && !isPattern (asPattern word)

/-- The test for inert words. -/
def isInert (word : List Char) : Bool :=
  isPlain word && word.head? != some '#' && word.head? != some '~'

theorem isPlain_iff {word : List Char} : isPlain word = true ↔ Plain word := by
  simp only [isPlain, Bool.and_eq_true, List.all_eq_true, Bool.not_eq_true', ← Bool.not_eq_true,
    List.contains_iff_mem, and_assoc]
  constructor
  · intro given
    obtain ⟨ordinary, noBackquote, stays, literal⟩ := given
    exact ⟨ordinary, noBackquote, by simpa using stays, by simpa using literal⟩
  · intro given
    obtain ⟨ordinary, noBackquote, stays, literal⟩ := given
    exact ⟨ordinary, noBackquote, by simpa using stays, by simpa using literal⟩

theorem isInert_iff {word : List Char} : isInert word = true ↔ Inert word := by
  simp only [isInert, Bool.and_eq_true, isPlain_iff, bne_iff_ne, and_assoc]
  constructor
  · intro given
    obtain ⟨plain, noComment, noTilde⟩ := given
    exact ⟨plain, noComment, noTilde⟩
  · intro given
    obtain ⟨plain, noComment, noTilde⟩ := given
    exact ⟨plain, noComment, noTilde⟩

instance (word : List Char) : Decidable (Plain word) := decidable_of_iff _ isPlain_iff

instance (word : List Char) : Decidable (Inert word) := decidable_of_iff _ isInert_iff

/-- What follows such a beginning is as special as it is by itself. -/
theorem plain_append_iff {key word : List Char} (literal : ∀ c ∈ key, isLiteral c = true) :
    Plain (key ++ word) ↔ Plain word := by
  have keyChars : ∀ c ∈ key, isOrdinary c = true ∧ c ≠ backquote := fun c member =>
    ⟨(isLiteral_iff.mp (literal c member)).1, (isLiteral_iff.mp (literal c member)).2.1⟩
  constructor
  · intro plain
    refine ⟨fun c member => plain.ordinary c (List.mem_append_right _ member),
      fun member => plain.noBackquote (List.mem_append_right _ member), ?_, ?_⟩
    · rw [← expands_append literal]
      exact plain.stays
    · rw [← isPattern_append literal]
      exact plain.literal
  · intro plain
    refine ⟨fun c member => ?_, fun member => ?_, ?_, ?_⟩
    · rcases List.mem_append.mp member with inKey | inWord
      · exact (keyChars c inKey).1
      · exact plain.ordinary c inWord
    · rcases List.mem_append.mp member with inKey | inWord
      · exact (keyChars backquote inKey).2 rfl
      · exact plain.noBackquote inWord
    · rw [expands_append literal]
      exact plain.stays
    · rw [isPattern_append literal]
      exact plain.literal

/-- The key of an option: a dash, and nothing special. -/
def isOptionKey (key : List Char) : Bool := key.head? == some '-' && key.all isLiteral

/-- The value of an option is inert after its key when it is plain. -/
theorem inert_option_iff {key word : List Char} (option : isOptionKey key = true) :
    Inert (key ++ word) ↔ Plain word := by
  simp only [isOptionKey, Bool.and_eq_true, beq_iff_eq, List.all_eq_true] at option
  obtain ⟨dash, literal⟩ := option
  have head : (key ++ word).head? = some '-' := by
    rw [List.head?_append, dash]
    rfl
  rw [← plain_append_iff literal]
  constructor
  · intro inert
    exact inert.toPlain
  · intro plain
    refine ⟨plain, ?_, ?_⟩
    · rw [head]
      decide
    · rw [head]
      decide

/-! ## Readings of whole words -/

/-- The first words of the commands of the line may be their names. -/
def Line.Named (line : Line) : Prop :=
  namesCommands (line.commands.map (List.map (List.map .bare))) = true

/-- A line of whole words is read as it stands when each of its commands is. -/
theorem reading_whole_iff {line : Line} (whole : ∀ word ∈ line.words, Whole word)
    (named : line.Named) {env : Env} :
    reading env line.text = some line.commands ↔
      ∀ command ∈ line.commands,
        (expandWords env).run () (command.map (List.map .bare)) = some command := by
  have each : reading env line.text =
      (expandCommands env).run () (line.commands.map (List.map (List.map .bare))) := by
    unfold Line.Named at named
    rw [reading, parse_line whole, Option.bind_some, if_pos named]
  rw [each, expandCommands, Transducer.each_run_single_iff, List.map_map, List.map_inj_left]
  rfl

/-- The fields of an unquoted word. -/
def fields (env : Env) (word : List Char) : List (List Char) :=
  (expandWord env (word.map .bare)).getD []

theorem run_words_iff {env : Env} {command : List (List Char)} :
    (expandWords env).run () (command.map (List.map .bare)) = some command ↔
      (∀ word ∈ command, (expandWord env (word.map .bare)).isSome) ∧
        command = command.flatMap (fields env) := by
  rw [expandWords, Transducer.each_run_iff, List.forall_mem_map, List.flatMap_map]
  rfl

theorem fields_eq {env : Env} {word : List Char} {found : List (List Char)}
    (expanded : expandWord env (word.map .bare) = some found) : fields env word = found := by
  rw [fields, expanded]
  rfl

/-- The fields of a command that is read as it stands are as long, together, as its
words. -/
theorem length_flatMap_fields {env : Env} {command : List (List Char)}
    (exact : command = command.flatMap (fields env)) :
    (command.flatMap fun word => (fields env word).flatten).length =
      (command.flatMap fun word => word).length := by
  have texts := congrArg List.flatten exact
  rw [List.flatMap_def, List.flatten_flatten, List.map_map] at texts
  rw [List.flatMap_def, List.flatMap_id', texts]
  rfl

/-! ## What a reading leaves out -/

theorem Line.count_text (line : Line) {c : Char} (notGap : ¬ (c = ' ' ∨ c = '&')) :
    line.text.count c = line.words.flatten.count c := by
  have gaps : ∀ gap : Gap, gap.text.count c = 0 := fun gap =>
    List.count_eq_zero.mpr fun member => notGap (gap_clean member)
  have blanks : (List.replicate line.trailing ' ').count c = 0 :=
    List.count_eq_zero.mpr fun member => notGap (.inl (List.eq_of_mem_replicate member))
  have rest : (restText line.rest).count c = (line.rest.map Prod.snd).flatten.count c := by
    induction line.rest with
    | nil => rfl
    | cons entry rest ih =>
        rw [restText, List.flatMap_cons, ← restText, List.count_append, List.count_append, gaps,
          ih, List.map_cons, List.flatten_cons, List.count_append]
        omega
  rw [Line.text, Line.words, List.count_append, List.count_append, blanks, rest,
    List.flatten_cons, List.count_append]
  omega

/-- A word of a line stands at its beginning or after a blank. -/
theorem Line.text_split {line : Line} {word : List Char} (member : word ∈ line.words) :
    ∃ before after, line.text = before ++ (word ++ after) ∧
      (before = [] ∨ ∃ first, before = first ++ [' ']) := by
  rcases List.mem_cons.mp member with rfl | member
  · exact ⟨[], _, rfl, .inl rfl⟩
  · obtain ⟨⟨gap, word⟩, inRest, rfl⟩ := List.mem_map.mp member
    obtain ⟨front, back, split⟩ := List.append_of_mem inRest
    have gapText : gap.text = ((if gap.joins then " &&".toList else []) ++
        List.replicate gap.extra ' ') ++ [' '] := by
      rw [Gap.text, List.append_assoc]
    refine ⟨line.first ++ (restText front ++ gap.text),
      restText back ++ List.replicate line.trailing ' ', ?_, .inr ?_⟩
    · rw [Line.text, split]
      simp [restText]
    · rw [gapText, ← List.append_assoc, ← List.append_assoc]
      exact ⟨_, rfl⟩

/-- A line that is read as it stands has no place where a character is dropped. -/
theorem not_dropped {line : Line} (read : reading emptyEnv line.text = some line.commands)
    {before after : List Char} {c : Char} (split : line.text = before ++ c :: after)
    (clean : ∀ d ∈ before, isQuoting d = false) (notGap : ¬ (c = ' ' ∨ c = '&'))
    (drops : isQuoting c = true ∨
      (c = '#' ∧ (before = [] ∨ ∃ first, before = first ++ [' ']))) : False := by
  rw [split] at read
  have kept := (reading_drops clean drops read).count_le c
  have written := line.count_text notGap
  rw [split, List.count_append, List.count_cons_self] at written
  rw [line.flatten_commands, List.count_append] at kept
  omega

/-- Such a line has no quoting character. -/
theorem text_unquoted {line : Line} (read : reading emptyEnv line.text = some line.commands) :
    ∀ c ∈ line.text, isQuoting c = false := by
  by_contra quoted
  push Not at quoted
  obtain ⟨c, member, quotes⟩ := quoted
  have found : (line.text.find? isQuoting).isSome :=
    List.find?_isSome.mpr ⟨c, member, by simpa using quotes⟩
  obtain ⟨first, first_eq⟩ := Option.isSome_iff_exists.mp found
  -- the first of them stands outside quotes
  obtain ⟨quotes, before, after, split, clean⟩ := List.find?_eq_some_iff_append.mp first_eq
  refine not_dropped read split (fun d earlier => by simpa using clean d earlier) ?_ (.inl quotes)
  rintro (rfl | rfl)
  · cases quotes
  · cases quotes

/-- Its words are whole, and have no grave accent. -/
theorem words_whole {line : Line} (nonempty : ∀ word ∈ line.words, word ≠ [])
    (read : reading emptyEnv line.text = some line.commands) :
    ∀ word ∈ line.words, Whole word ∧ backquote ∉ word := by
  intro word member
  have clean := text_unquoted read
  have inWords := reading_unquoted clean read
  rw [line.flatten_commands] at inWords
  have chars : ∀ c ∈ word, isOrdinary c = true ∧ c ≠ backquote := fun c inWord =>
    inWords c (List.mem_flatten.mpr ⟨word, member, inWord⟩)
  refine ⟨⟨nonempty word member, fun c inWord => (chars c inWord).1, ?_⟩,
    fun inWord => (chars backquote inWord).2 rfl⟩
  intro comment
  obtain ⟨before, after, split, ends⟩ := Line.text_split member
  obtain ⟨rest, rfl⟩ := List.head?_eq_some_iff.mp comment
  have clean' : ∀ d ∈ before, isQuoting d = false := fun d earlier =>
    clean d (split ▸ List.mem_append_left _ earlier)
  exact not_dropped read split clean' (by decide) (.inr ⟨rfl, ends⟩)

/-! ## What expansions change -/

section Changes

variable {line : Line} (whole : ∀ word ∈ line.words, Whole word ∧ backquote ∉ word)
  (named : line.Named)

include whole named

theorem command_exact {env : Env} (read : reading env line.text = some line.commands)
    {word : List Char} (member : word ∈ line.words) :
    ∃ command : List (List Char), word ∈ command ∧ (∀ other ∈ command, other ∈ line.words) ∧
      (∀ other ∈ command, (expandWord env (other.map .bare)).isSome) ∧
        command = command.flatMap (fields env) := by
  rw [← line.flatten_commands] at member
  obtain ⟨command, inLine, inCommand⟩ := List.mem_flatten.mp member
  have run := (reading_whole_iff (fun word member => (whole word member).1) named).mp read
    command inLine
  obtain ⟨accepted, exact⟩ := run_words_iff.mp run
  exact ⟨command, inCommand, fun other => Line.mem_words_of_command inLine, accepted, exact⟩

/-- Where no word gets longer, every word keeps its length. -/
theorem length_fields_of_le {env : Env} (read : reading env line.text = some line.commands)
    (le : ∀ word ∈ line.words, (expandWord env (word.map .bare)).isSome →
      (fields env word).flatten.length ≤ word.length) :
    ∀ word ∈ line.words, (fields env word).flatten.length = word.length := by
  intro word member
  obtain ⟨command, inCommand, inLine, accepted, exact⟩ := command_exact whole named read member
  exact Lists.length_eq_of_flatMap (length_flatMap_fields exact)
    (fun other inCommand => le other (inLine other inCommand) (accepted other inCommand))
    word inCommand

/-- Where parameters are empty, a word with a parameter gets shorter. -/
theorem words_stay (read : reading emptyEnv line.text = some line.commands) :
    ∀ word ∈ line.words, expands word = false := by
  have le : ∀ word ∈ line.words, (expandWord emptyEnv (word.map .bare)).isSome →
      (fields emptyEnv word).flatten.length ≤ word.length := by
    intro word _ accepted
    obtain ⟨found, expanded⟩ := Option.isSome_iff_exists.mp accepted
    have kept := (expandWord_chars expanded).length_le
    rw [fields_eq expanded]
    simpa [wordChars, Item.chars, List.flatMap_map] using kept
  intro word member
  by_contra expanding
  have equal := length_fields_of_le whole named read le word member
  obtain ⟨command, inCommand, -, accepted, -⟩ := command_exact whole named read member
  obtain ⟨found, expanded⟩ := Option.isSome_iff_exists.mp (accepted word inCommand)
  obtain ⟨frags, scanned, part⟩ := expandWord_frags expanded
  have shorter := scanning_word_shorter (by simpa using expanding) scanned
  have kept := part.length_le
  rw [fields_eq expanded] at equal
  omega

/-- The environment in which every home directory has an empty name. -/
def emptyHomes : Env := { emptyEnv with home := fun _ => some [] }

/-- Where home directories are empty, a word with a tilde-prefix gets shorter. -/
theorem words_noTilde (stay : ∀ word ∈ line.words, expands word = false)
    (read : reading emptyHomes line.text = some line.commands) :
    ∀ word ∈ line.words, word.head? ≠ some '~' := by
  have found : ∀ word ∈ line.words, (word.head? ≠ some '~' → fields emptyHomes word = [word]) ∧
      ∀ rest, word = '~' :: rest →
        fields emptyHomes word = [rest.dropWhile fun c => decide (c ≠ '/')] := by
    intro word member
    obtain ⟨⟨nonempty, -, -⟩, noBackquote⟩ := whole word member
    constructor
    · intro noTilde
      have expanded := @expandWord_word emptyHomes _ nonempty (.inl noTilde) noBackquote
        (stay word member)
      rw [globField_word (.inr rfl)] at expanded
      exact fields_eq expanded
    · rintro rest rfl
      exact fields_eq (expandWord_tilde (fun _ => rfl) (fun _ => rfl)
        (fun later => noBackquote (List.mem_cons_of_mem _ later)) (stay _ member))
  have shorter : ∀ rest, '~' :: rest ∈ line.words →
      (fields emptyHomes ('~' :: rest)).flatten.length < ('~' :: rest).length := by
    intro rest member
    rw [(found _ member).2 rest rfl, List.flatten_singleton, List.length_cons]
    have kept : (rest.dropWhile fun c => decide (c ≠ '/')).length ≤ rest.length :=
      (List.dropWhile_sublist _).length_le
    omega
  have le : ∀ word ∈ line.words, (expandWord emptyHomes (word.map .bare)).isSome →
      (fields emptyHomes word).flatten.length ≤ word.length := by
    intro word member _
    by_cases begins : word.head? = some '~'
    · obtain ⟨rest, rfl⟩ := List.head?_eq_some_iff.mp begins
      exact Nat.le_of_lt (shorter rest member)
    · have equal : (fields emptyHomes word).flatten = word := by
        rw [(found word member).1 begins, List.flatten_singleton]
      exact Nat.le_of_eq (congrArg List.length equal)
  intro word member begins
  obtain ⟨rest, rfl⟩ := List.head?_eq_some_iff.mp begins
  have equal := length_fields_of_le whole named read le _ member
  have less := shorter rest member
  omega

/-- The environment in which one pattern matches one name. -/
def onlyMatch {pattern : Pattern} {name : List Char} (matched : Matches pattern name) : Env :=
  { emptyEnv with
    glob := fun other => if other = pattern then [name] else []
    glob_matches := by
      intro other found member
      split at member
      · rename_i same
        rw [same, List.mem_singleton.mp member]
        exact matched
      · cases member }

/-- Where a word that is a pattern matches another name, it is replaced. -/
theorem words_literal (stay : ∀ word ∈ line.words, expands word = false)
    (read : ∀ env, reading env line.text = some line.commands) :
    ∀ word ∈ line.words, isPattern (asPattern word) = false := by
  intro word member
  by_contra yes
  obtain ⟨name, matched, other⟩ := exists_other_match (asPattern word)
  have differs : name ≠ word := by
    have text : (asPattern word).map Prod.fst = word := by
      simp [asPattern, Function.comp_def]
    exact text ▸ other (by simpa using yes)
  -- every word is one field, and this one is the name
  have single : ∀ other ∈ line.words, ∃ field, fields (onlyMatch matched) other = [field] ∧
      (other = word → field = name) := by
    intro other member
    obtain ⟨⟨nonempty, -, -⟩, noBackquote⟩ := whole other member
    have expanded := @expandWord_word (onlyMatch matched) _ nonempty (.inr fun _ => rfl) noBackquote
      (stay other member)
    rw [fields_eq expanded]
    by_cases same : asPattern other = asPattern word
    · have found : (onlyMatch matched).glob (asPattern other) = [name] := if_pos same
      by_cases pattern : isPattern (asPattern other) = true
      · exact ⟨name, globField_pattern pattern found, fun _ => rfl⟩
      · refine ⟨other, globField_word (.inl (by simpa using pattern)), ?_⟩
        rintro rfl
        exact absurd pattern (by simpa using yes)
    · have found : (onlyMatch matched).glob (asPattern other) = [] := if_neg same
      refine ⟨other, globField_word (.inr found), ?_⟩
      rintro rfl
      exact absurd rfl same
  obtain ⟨command, inCommand, inLine, -, exact⟩ :=
    command_exact whole named (read (onlyMatch matched)) member
  have fields_self := Lists.eq_of_flatMap_singletons
    (fun other member => (single other (inLine other member)).imp fun _ found => found.1) exact
  obtain ⟨field, equal, isName⟩ := single word member
  rw [fields_self word inCommand] at equal
  exact differs ((isName rfl).symm.trans (List.singleton_inj.mp equal).symm)

end Changes

/-! ## The readings of a line -/

/-- An inert word is one field, itself. -/
theorem expandWord_inert {word : List Char} (nonempty : word ≠ []) (inert : Inert word)
    (env : Env) : expandWord env (word.map .bare) = some [word] := by
  rw [expandWord_word nonempty (.inl inert.noTilde) inert.noBackquote inert.stays,
    globField_word (.inl inert.literal)]

/-- A line written word by word is read as it was written, in every environment, exactly
when its words are inert. -/
theorem reading_line_iff {line : Line} (nonempty : ∀ word ∈ line.words, word ≠ [])
    (named : line.Named) :
    (∀ env, reading env line.text = some line.commands) ↔ ∀ word ∈ line.words, Inert word := by
  constructor
  · intro read
    have whole := words_whole nonempty (read emptyEnv)
    have stay := words_stay whole named (read emptyEnv)
    have noTilde := words_noTilde whole named stay (read emptyHomes)
    have literal := words_literal whole named stay read
    intro word member
    obtain ⟨⟨-, ordinary, noComment⟩, noBackquote⟩ := whole word member
    exact ⟨⟨ordinary, noBackquote, stay word member, literal word member⟩, noComment,
      noTilde word member⟩
  · intro inert env
    have whole : ∀ word ∈ line.words, Whole word := fun word member =>
      ⟨nonempty word member, (inert word member).ordinary, (inert word member).noComment⟩
    apply (reading_whole_iff whole named).mpr
    intro command inLine
    have single : ∀ word ∈ command, expandWord env (word.map .bare) = some [word] :=
      fun word inCommand =>
        have member := Line.mem_words_of_command inLine inCommand
        expandWord_inert (nonempty word member) (inert word member) env
    rw [run_words_iff]
    refine ⟨fun word inCommand => by rw [single word inCommand]; rfl, ?_⟩
    have each : command.flatMap (fields env) = command.flatMap fun word => [word] :=
      List.flatMap_congr fun word inCommand => fields_eq (single word inCommand)
    rw [each, List.flatMap_singleton']

end Posix.Shell
