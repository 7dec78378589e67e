import Garak.Argparse.Parser
import Garak.Misc.Lists

/-!
# The command lines a parser accepts

`Writes parser words taken`: the words are one way to write the options `taken`.
`parseKnownArgs_iff` says that a parser leaves nothing unrecognised on exactly those
command lines that are written so, and reads what was written.
-/

namespace Argparse.Parser

variable {D : Type} {parser : Parser D}

/-- Every option string is a dash and a letter or two dashes and a name, without an equals
sign, and none is declared twice. -/
structure Regular (parser : Parser D) : Prop where
  shape : ∀ entry ∈ parser.strings,
    (∃ c, entry.1 = ['-', c] ∧ c ≠ '-' ∧ c ≠ '=') ∨
      ∃ name, entry.1 = '-' :: '-' :: name ∧ name ≠ [] ∧ '=' ∉ name
  distinct : (parser.strings.map Prod.fst).Nodup

/-! ## Option strings -/

theorem find_iff (regular : parser.Regular) {string : Arg} {dest : D} :
    parser.find string = some dest ↔ (string, dest) ∈ parser.strings :=
  Lists.find?_key_iff regular.distinct

theorem mem_of_find {string : Arg} {dest : D} (found : parser.find string = some dest) :
    (string, dest) ∈ parser.strings := by
  unfold find at found
  obtain ⟨entry, hit, same⟩ := Option.map_eq_some_iff.mp found
  have key := List.find?_some hit
  simp only [decide_eq_true_eq] at key
  rw [← key, ← same]
  exact List.mem_of_find?_eq_some hit

theorem find_eq_none_iff {string : Arg} :
    parser.find string = none ↔ ∀ dest, (string, dest) ∉ parser.strings := by
  unfold find
  rw [Option.map_eq_none_iff, List.find?_eq_none]
  constructor
  · intro absent dest listed
    exact absent _ listed (by simp)
  · intro absent entry listed same
    exact absent entry.2 ((of_decide_eq_true same : entry.1 = string) ▸ listed)

theorem no_equals (regular : parser.Regular) {string : Arg} {dest : D}
    (listed : (string, dest) ∈ parser.strings) : '=' ∉ string := by
  rcases regular.shape _ listed with ⟨c, rfl, noDash, noEquals⟩ | ⟨name, rfl, -, noEquals⟩
  · simpa using Ne.symm noEquals
  · simpa using noEquals

theorem head_dash (regular : parser.Regular) {string : Arg} {dest : D}
    (listed : (string, dest) ∈ parser.strings) (rest : Arg) :
    (string ++ rest).head? = some '-' := by
  rcases regular.shape _ listed with ⟨c, rfl, -⟩ | ⟨name, rfl, -⟩
  · rfl
  · rfl

theorem length_ge (regular : parser.Regular) {string : Arg} {dest : D}
    (listed : (string, dest) ∈ parser.strings) : 2 ≤ string.length := by
  rcases regular.shape _ listed with ⟨c, rfl, -⟩ | ⟨name, rfl, -⟩
  · exact Nat.le_refl 2
  · simp

/-- A letter behind one dash. -/
theorem letter_ne (regular : parser.Regular) {c : Char} {dest : D}
    (listed : (['-', c], dest) ∈ parser.strings) : c ≠ '-' ∧ c ≠ '=' := by
  rcases regular.shape _ listed with ⟨c', same, noDash, noEquals⟩ | ⟨name, same, named, -⟩
  · simp only [List.cons.injEq, and_true, true_and] at same
    exact same ▸ ⟨noDash, noEquals⟩
  · simp only [List.cons.injEq, true_and] at same
    exact absurd same.2.symm named

/-- An argument that is longer than a letter behind one dash is no option string. -/
theorem find_short_none (regular : parser.Regular) {c : Char} (noDash : c ≠ '-') {rest : Arg}
    (nonempty : rest ≠ []) : parser.find ('-' :: c :: rest) = none := by
  rw [find_eq_none_iff]
  intro dest listed
  rcases regular.shape _ listed with ⟨c', same, -⟩ | ⟨name, same, -⟩
  · simp only [List.cons.injEq, true_and] at same
    exact nonempty same.2
  · simp only [List.cons.injEq, true_and] at same
    exact noDash same.1

/-! ## Equals signs -/

theorem partition_append {before : Arg} (noEquals : '=' ∉ before) (after : Arg) :
    partition (before ++ '=' :: after) = some (before, after) := by
  induction before with
  | nil => rfl
  | cons c before ih =>
      obtain ⟨notHead, notTail⟩ := not_or.mp (List.mem_cons.not.mp noEquals)
      rw [List.cons_append, partition, if_neg (Ne.symm notHead), ih notTail]
      rfl

theorem partition_eq_none {text : Arg} (noEquals : '=' ∉ text) : partition text = none := by
  induction text with
  | nil => rfl
  | cons c text ih =>
      obtain ⟨notHead, notTail⟩ := not_or.mp (List.mem_cons.not.mp noEquals)
      rw [partition, if_neg (Ne.symm notHead), ih notTail]
      rfl

theorem no_equals_of_partition {text : Arg} (whole : partition text = none) : '=' ∉ text := by
  intro member
  obtain ⟨before, after, same, noEquals⟩ := List.eq_append_cons_of_mem member
  rw [same, partition_append noEquals] at whole
  cases whole

theorem partition_eq_some {text before after : Arg} (cut : partition text = some (before, after)) :
    text = before ++ '=' :: after ∧ '=' ∉ before := by
  induction text generalizing before with
  | nil => cases cut
  | cons c text ih =>
      unfold partition at cut
      split at cut
      · rename_i equals
        cases cut
        exact ⟨by rw [equals]; rfl, List.not_mem_nil⟩
      · rename_i other
        obtain ⟨⟨first, second⟩, later, same⟩ := Option.map_eq_some_iff.mp cut
        obtain ⟨rfl, rfl⟩ := Prod.mk.inj same
        obtain ⟨rfl, noEquals⟩ := ih later
        refine ⟨rfl, fun member => ?_⟩
        rcases List.mem_cons.mp member with equal | inside
        · exact other equal.symm
        · exact noEquals inside

/-! ## Options with two dashes -/

/-- The beginning of exactly one option string, and not one itself. -/
structure Abbreviates (parser : Parser D) (word : Arg) (dest : D) : Prop where
  allowed : parser.allowAbbrev = true
  twoDashes : ∃ rest, word = '-' :: '-' :: rest
  noEquals : '=' ∉ word
  unlisted : ∀ d, (word, d) ∉ parser.strings
  begins : ∃ string, (string, dest) ∈ parser.strings ∧ word <+: string ∧
    ∀ entry ∈ parser.strings, word <+: entry.1 → entry = (string, dest)

/-- A word with two dashes that names an option. -/
inductive Long (parser : Parser D) (word : Arg) (dest : D) : Prop
  | full (listed : (word, dest) ∈ parser.strings) (long : isShort word = false)
  | abbreviated (abbreviates : parser.Abbreviates word dest)

theorem Long.noEquals {word : Arg} {dest : D} (long : parser.Long word dest)
    (regular : parser.Regular) : '=' ∉ word := by
  cases long with
  | full listed _ => exact Parser.no_equals regular listed
  | abbreviated abbreviates => exact abbreviates.noEquals

theorem optionTuples_abbreviates (regular : parser.Regular) {word : Arg} {dest : D}
    (abbreviates : parser.Abbreviates word dest) :
    parser.optionTuples word = [⟨dest, false, none⟩] ∧
      ∀ text, parser.optionTuples (word ++ '=' :: text) = [⟨dest, false, some (true, text)⟩] := by
  obtain ⟨rest, twoDashes⟩ := abbreviates.twoDashes
  obtain ⟨string, listed, begins, only⟩ := abbreviates.begins
  have distinct : parser.strings.Nodup := List.Nodup.of_map _ regular.distinct
  have long : isShort string = false := by
    obtain ⟨more, rfl⟩ := begins
    rw [twoDashes]
    rfl
  have single : ∀ explicit : Option (Bool × Arg),
      (parser.strings.filterMap fun entry =>
        if word <+: entry.1 then some (⟨entry.2, isShort entry.1, explicit⟩ : Reading D) else none) =
          [⟨dest, false, explicit⟩] := by
    intro explicit
    apply Lists.filterMap_eq_singleton distinct listed
    · simp [begins, long]
    · intro entry member hit
      apply only entry member
      by_contra other
      exact hit (if_neg other)
  have noShort : isShort word = false := by rw [twoDashes]; rfl
  have noShort' : ∀ text, isShort (word ++ '=' :: text) = false := by
    intro text
    rw [twoDashes]
    rfl
  refine ⟨?_, fun text => ?_⟩
  · unfold optionTuples
    rw [noShort, abbreviates.allowed, partition_eq_none abbreviates.noEquals]
    exact single none
  · unfold optionTuples
    rw [noShort' text, abbreviates.allowed, partition_append abbreviates.noEquals]
    exact single (some (true, text))

theorem of_search {arg : Arg} {reading : Reading D} (found : parser.search arg = .option reading) :
    parser.optionTuples arg = [reading] := by
  unfold search at found
  split at found
  · rename_i single
    cases found
    exact single
  · cases found
  · split at found
    · cases found
    · split at found <;> cases found

theorem of_search_long {arg : Arg} {reading : Reading D} (long : isShort arg = false)
    (found : parser.search arg = .option reading) :
    parser.optionTuples arg = [reading] ∧ parser.allowAbbrev = true := by
  have single := of_search found
  refine ⟨single, ?_⟩
  unfold optionTuples at single
  rw [long] at single
  by_contra off
  rw [if_neg off] at single
  cases single

theorem optionTuples_long {arg : Arg} (long : isShort arg = false)
    (allowed : parser.allowAbbrev = true) :
    parser.optionTuples arg =
      match partition arg with
      | some (before, after) =>
          parser.strings.filterMap fun (string, dest) =>
            if before <+: string then some ⟨dest, isShort string, some (true, after)⟩ else none
      | none =>
          parser.strings.filterMap fun (string, dest) =>
            if arg <+: string then some ⟨dest, isShort string, none⟩ else none := by
  unfold optionTuples
  rw [long, allowed]
  cases partition arg <;> rfl

theorem parseOptional_listed (regular : parser.Regular) {string : Arg} {dest : D}
    (listed : (string, dest) ∈ parser.strings) :
    parser.parseOptional string = .option ⟨dest, isShort string, none⟩ := by
  have head := head_dash regular listed []
  rw [List.append_nil] at head
  unfold parseOptional
  rw [if_pos head, (find_iff regular).mpr listed]

theorem parseOptional_listed_equals (regular : parser.Regular) {string : Arg} {dest : D}
    (listed : (string, dest) ∈ parser.strings) (text : Arg) :
    parser.parseOptional (string ++ '=' :: text) =
      .option ⟨dest, isShort string, some (true, text)⟩ := by
  have unlisted : parser.find (string ++ '=' :: text) = none := by
    rw [find_eq_none_iff]
    intro d listed'
    exact no_equals regular listed' (List.mem_append_right _ (List.mem_cons_self ..))
  have long : (string ++ '=' :: text).length ≠ 1 := by
    have := length_ge regular listed
    simp only [List.length_append, List.length_cons]
    omega
  unfold parseOptional
  rw [if_pos (head_dash regular listed _), unlisted]
  simp only [if_neg long, partition_append (no_equals regular listed),
    (find_iff regular).mpr listed]

/-- A word with two dashes is read as the option it names. -/
theorem parseOptional_long (regular : parser.Regular) {word : Arg} {dest : D}
    (long : parser.Long word dest) :
    parser.parseOptional word = .option ⟨dest, false, none⟩ ∧
      ∀ text, parser.parseOptional (word ++ '=' :: text) =
        .option ⟨dest, false, some (true, text)⟩ := by
  cases long with
  | full listed long =>
      refine ⟨?_, fun text => ?_⟩
      · rw [parseOptional_listed regular listed, long]
      · rw [parseOptional_listed_equals regular listed, long]
  | abbreviated abbreviates =>
      obtain ⟨alone, followed⟩ := optionTuples_abbreviates regular abbreviates
      obtain ⟨rest, twoDashes⟩ := abbreviates.twoDashes
      have unlisted : parser.find word = none := find_eq_none_iff.mpr abbreviates.unlisted
      have unlisted' : ∀ text, parser.find (word ++ '=' :: text) = none := by
        intro text
        rw [find_eq_none_iff]
        intro d listed
        exact no_equals regular listed (List.mem_append_right _ (List.mem_cons_self ..))
      refine ⟨?_, fun text => ?_⟩
      · have head : word.head? = some '-' := by rw [twoDashes]; rfl
        have length : word.length ≠ 1 := by rw [twoDashes]; simp
        unfold parseOptional
        rw [if_pos head, unlisted]
        simp only [if_neg length, partition_eq_none abbreviates.noEquals, search, alone]
      · have head : (word ++ '=' :: text).head? = some '-' := by rw [twoDashes]; rfl
        have length : (word ++ '=' :: text).length ≠ 1 := by rw [twoDashes]; simp
        unfold parseOptional
        rw [if_pos head, unlisted']
        simp only [if_neg length, partition_append abbreviates.noEquals, unlisted, search,
          followed]

/-! ## Letters behind one dash -/

/-- What the letters behind a first one come to. -/
def resume (parser : Parser D) (dest : D) : Arg → Spelled D
  | [] => parser.bare dest
  | c :: rest =>
      if c = '=' then parser.spell dest true true rest
      else parser.spell dest true false (c :: rest)

/-- An argument that begins with the letter of an option. -/
theorem parseOptional_short (regular : parser.Regular) {c : Char} {dest : D}
    (listed : (['-', c], dest) ∈ parser.strings) (rest : Arg) :
    ∃ reading, parser.parseOptional ('-' :: c :: rest) = .option reading ∧
      parser.spelled reading = parser.resume dest rest := by
  obtain ⟨noDash, noEquals⟩ := letter_ne regular listed
  have short : isShort ['-', c] = true := by simpa [isShort] using noDash
  cases rest with
  | nil => exact ⟨_, parseOptional_listed regular listed, rfl⟩
  | cons d rest =>
      by_cases equals : d = '='
      · subst equals
        refine ⟨_, parseOptional_listed_equals regular listed rest, ?_⟩
        rw [short]
        rfl
      · refine ⟨⟨dest, true, some (false, d :: rest)⟩, ?_, ?_⟩
        · have tuples : parser.optionTuples ('-' :: c :: d :: rest) =
              [⟨dest, true, some (false, d :: rest)⟩] := by
            have shortArg : isShort ('-' :: c :: d :: rest) = true := by
              simpa [isShort] using noDash
            unfold optionTuples
            rw [if_pos shortArg]
            apply Lists.filterMap_eq_singleton (List.Nodup.of_map _ regular.distinct) listed
            · simp [short]
            · intro entry member hit
              obtain ⟨string, other⟩ := entry
              by_cases same : string = ['-', c]
              · subst same
                have again := (find_iff regular).mpr member
                rw [(find_iff regular).mpr listed] at again
                rw [Option.some.inj again]
              · have longer : ¬ ('-' :: c :: d :: rest) <+: string := by
                  intro begins
                  rcases regular.shape _ member with ⟨c', shape, -⟩ | ⟨name, shape, -⟩
                  · have := begins.length_le
                    simp [show string = ['-', c'] from shape] at this
                  · rw [show string = '-' :: '-' :: name from shape] at begins
                    exact noDash (List.cons_prefix_cons.mp (List.cons_prefix_cons.mp begins).2).1
                simp [same, longer] at hit
          have unlisted := find_short_none regular noDash (List.cons_ne_nil d rest)
          have head : ('-' :: c :: d :: rest).head? = some '-' := rfl
          unfold parseOptional
          rw [if_pos head, unlisted]
          simp only [List.length_cons, Nat.add_eq_right, Nat.add_eq_zero_iff, Nat.one_ne_zero, and_false, if_false]
          cases cut : partition ('-' :: c :: d :: rest) with
          | none => simp only [search, tuples]
          | some pieces =>
              obtain ⟨before, after⟩ := pieces
              have unlistedBefore : parser.find before = none := by
                -- the first equals sign stands behind more than the letter
                obtain ⟨whole, -⟩ := partition_eq_some cut
                match before, whole with
                | [], whole => cases whole
                | [_], whole =>
                    simp only [List.cons_append, List.nil_append, List.cons.injEq] at whole
                    exact absurd whole.2.1 noEquals
                | [_, _], whole =>
                    simp only [List.cons_append, List.nil_append, List.cons.injEq] at whole
                    exact absurd whole.2.2.1 equals
                | a :: b :: e :: more, whole =>
                    simp only [List.cons_append, List.cons.injEq] at whole
                    obtain ⟨rfl, rfl, -⟩ := whole
                    exact find_short_none regular noDash (List.cons_ne_nil _ _)
              simp only [unlistedBefore, search, tuples]
        · unfold spelled resume
          simp only [if_neg equals]

/-- A letter behind an option that takes no argument. -/
theorem resume_cons {dest : D} (novalue : parser.kind dest ≠ .value) (c : Char) (rest : Arg) :
    parser.resume dest (c :: rest) =
      if c = '=' ∨ c = '-' then .error
      else
        match parser.find ['-', c] with
        | none => .done [(dest, none)] ['-' :: c :: rest]
        | some next => .after dest (parser.resume next rest) := by
  have nothing : ∀ text, parser.spell dest true true text = .error := by
    intro text
    cases text <;> cases kind : parser.kind dest <;> simp_all [spell]
  rw [show parser.resume dest (c :: rest) =
    if c = '=' then parser.spell dest true true rest
    else parser.spell dest true false (c :: rest) from rfl]
  by_cases equals : c = '='
  · rw [if_pos equals, if_pos (.inl equals), nothing]
  · rw [if_neg equals, spell]
    by_cases dash : c = '-'
    · have stop : (!true || false || decide (c = '-')) = true := decide_eq_true dash
      rw [if_pos (show c = '=' ∨ c = '-' from .inr dash)]
      cases kind : parser.kind dest with
      | value => exact absurd kind novalue
      | flag => exact if_pos stop
      | help => exact if_pos stop
    · have proceed : ¬(!true || false || decide (c = '-')) = true := by simpa using dash
      rw [if_neg (not_or.mpr ⟨equals, dash⟩)]
      cases kind : parser.kind dest with
      | value => exact absurd kind novalue
      | flag =>
          simp only [if_neg proceed]
          cases parser.find ['-', c] <;> rfl
      | help =>
          simp only [if_neg proceed]
          cases parser.find ['-', c] <;> rfl

/-- An option that takes an argument has it behind its letter, behind an equals sign, or in
the next argument. -/
theorem resume_value {dest : D} (value : parser.kind dest = .value) :
    parser.resume dest [] = .wants [] dest ∧
      (∀ text, parser.resume dest ('=' :: text) = .done [(dest, some text)] []) ∧
      ∀ c rest, c ≠ '=' → parser.resume dest (c :: rest) = .done [(dest, some (c :: rest))] [] := by
  refine ⟨?_, fun text => ?_, fun c rest other => ?_⟩
  · simp only [resume, bare, value]
  · unfold resume
    cases text <;> simp only [if_pos, spell, value]
  · simp only [resume, if_neg other, spell, value]

/-! ## Ways to write options -/

/-- An argument that an option can take from behind itself. -/
structure Plain (parser : Parser D) (text : Arg) : Prop where
  positional : parser.parseOptional text = .positional
  noDashes : text ≠ doubleDash

/-- What may follow the letter of the option `dest`, in the same argument and in the next. -/
inductive Tail (parser : Parser D) : D → Arg → List Arg → List (D × Option Arg) → Prop
  | flag {dest} (kind : parser.kind dest = .flag) : Tail parser dest [] [] [(dest, none)]
  | next {dest} (kind : parser.kind dest = .value) {text} (plain : parser.Plain text) :
      Tail parser dest [] [text] [(dest, some text)]
  | equals {dest} (kind : parser.kind dest = .value) (text) :
      Tail parser dest ('=' :: text) [] [(dest, some text)]
  | joined {dest} (kind : parser.kind dest = .value) {c} (other : c ≠ '=') (rest) :
      Tail parser dest (c :: rest) [] [(dest, some (c :: rest))]
  | letter {dest} (kind : parser.kind dest = .flag) {c next}
      (listed : (['-', c], next) ∈ parser.strings) {rest following taken}
      (tail : Tail parser next rest following taken) :
      Tail parser dest (c :: rest) following ((dest, none) :: taken)

/-- One argument, and the next one if it belongs to it, with the options they write. -/
inductive Chunk (parser : Parser D) : Arg → List Arg → List (D × Option Arg) → Prop
  | long {word dest} (long : parser.Long word dest) (noDashes : word ≠ doubleDash)
      (kind : parser.kind dest = .flag) : Chunk parser word [] [(dest, none)]
  | longNext {word dest} (long : parser.Long word dest) (noDashes : word ≠ doubleDash)
      (kind : parser.kind dest = .value) {text} (plain : parser.Plain text) :
      Chunk parser word [text] [(dest, some text)]
  | longEquals {word dest} (long : parser.Long word dest) (kind : parser.kind dest = .value)
      (text) : Chunk parser (word ++ '=' :: text) [] [(dest, some text)]
  | short {c dest} (listed : (['-', c], dest) ∈ parser.strings) {rest following taken}
      (tail : parser.Tail dest rest following taken) :
      Chunk parser ('-' :: c :: rest) following taken

/-- The arguments write the options `taken`, in this order. -/
inductive Writes (parser : Parser D) : List Arg → List (D × Option Arg) → Prop
  | nil : Writes parser [] []
  | cons {word following now args later} (chunk : parser.Chunk word following now)
      (writes : Writes parser args later) : Writes parser (word :: (following ++ args)) (now ++ later)

/-! ## A word is read as what it writes -/

/-- What an option and the arguments that follow come to, when nothing is left
unrecognised and no help is asked for. -/
def Reads (parser : Parser D) (following : List Arg) (taken : List (D × Option Arg)) :
    Spelled D → Prop
  | .error => False
  | .done now extra => following = [] ∧ extra = [] ∧ parser.helps now = false ∧ taken = now
  | .wants now dest =>
      ∃ text, following = [text] ∧ parser.Plain text ∧ parser.helps now = false ∧
        taken = now ++ [(dest, some text)]

theorem reads_bare {dest : D} {following : List Arg} {taken : List (D × Option Arg)} :
    parser.Reads following taken (parser.bare dest) ↔ parser.Tail dest [] following taken := by
  unfold bare
  constructor
  · intro reads
    cases kind : parser.kind dest with
    | flag =>
        rw [kind] at reads
        obtain ⟨rfl, -, -, rfl⟩ := reads
        exact .flag kind
    | value =>
        rw [kind] at reads
        obtain ⟨text, rfl, plain, -, rfl⟩ := reads
        exact .next kind plain
    | help =>
        rw [kind] at reads
        obtain ⟨-, -, noHelp, -⟩ := reads
        simp [helps, kind] at noHelp
  · intro tail
    cases tail with
    | flag kind =>
        rw [kind]
        exact ⟨rfl, rfl, by simp [helps, kind], rfl⟩
    | next kind plain =>
        rw [kind]
        exact ⟨_, rfl, plain, rfl, rfl⟩

theorem reads_after {dest : D} (kind : parser.kind dest = .flag) {following : List Arg}
    {taken : List (D × Option Arg)} {spelled : Spelled D} :
    parser.Reads following taken (.after dest spelled) ↔
      ∃ later, taken = (dest, none) :: later ∧ parser.Reads following later spelled := by
  have noHelp : ∀ now : List (D × Option Arg),
      parser.helps ((dest, none) :: now) = parser.helps now := by
    intro now
    simp [helps, kind]
  cases spelled with
  | error => simp [Spelled.after, Reads]
  | done now extra =>
      simp only [Spelled.after, Reads, noHelp]
      constructor
      · intro reads
        obtain ⟨rfl, rfl, noHelp, same⟩ := reads
        exact ⟨now, same, rfl, rfl, noHelp, rfl⟩
      · intro reads
        obtain ⟨later, same, rfl, rfl, noHelp, equal⟩ := reads
        exact ⟨rfl, rfl, noHelp, equal ▸ same⟩
  | wants now last =>
      simp only [Spelled.after, Reads, noHelp]
      constructor
      · intro reads
        obtain ⟨text, rfl, plain, noHelp, same⟩ := reads
        exact ⟨_, same, text, rfl, plain, noHelp, rfl⟩
      · intro reads
        obtain ⟨later, same, text, rfl, plain, noHelp, equal⟩ := reads
        rw [equal] at same
        exact ⟨text, rfl, plain, noHelp, same⟩

/-- Help is asked for. -/
theorem not_reads_after {dest : D} (kind : parser.kind dest = .help) {following : List Arg}
    {taken : List (D × Option Arg)} (spelled : Spelled D) :
    ¬ parser.Reads following taken (.after dest spelled) := by
  intro reads
  cases spelled with
  | error => exact reads.elim
  | done now extra =>
      obtain ⟨-, -, noHelp, -⟩ := reads
      simp [helps, kind] at noHelp
  | wants now last =>
      obtain ⟨-, -, -, noHelp, -⟩ := reads
      simp [helps, kind] at noHelp

/-- What follows a letter is read as what is written there. -/
theorem reads_resume_iff (regular : parser.Regular) {dest : D} {rest : Arg} {following : List Arg}
    {taken : List (D × Option Arg)} :
    parser.Reads following taken (parser.resume dest rest) ↔
      parser.Tail dest rest following taken := by
  induction rest generalizing dest taken with
  | nil => exact reads_bare
  | cons c rest ih =>
      cases kind : parser.kind dest with
      | value =>
          obtain ⟨-, equals, joined⟩ := resume_value kind
          by_cases sign : c = '='
          · subst sign
            rw [equals]
            constructor
            · intro reads
              obtain ⟨rfl, -, -, rfl⟩ := reads
              exact .equals kind rest
            · intro tail
              cases tail with
              | equals _ _ => exact ⟨rfl, rfl, by simp [helps, kind], rfl⟩
              | joined _ other _ => exact absurd rfl other
              | letter flag _ _ => simp [kind] at flag
          · rw [joined c rest sign]
            constructor
            · intro reads
              obtain ⟨rfl, -, -, rfl⟩ := reads
              exact .joined kind sign rest
            · intro tail
              cases tail with
              | equals _ _ => exact absurd rfl sign
              | joined _ _ _ => exact ⟨rfl, rfl, by simp [helps, kind], rfl⟩
              | letter flag _ _ => simp [kind] at flag
      | flag =>
          rw [resume_cons (by simp [kind])]
          constructor
          · intro reads
            split at reads
            · exact reads.elim
            · cases found : parser.find ['-', c] with
              | none =>
                  rw [found] at reads
                  obtain ⟨-, extra, -⟩ := reads
                  cases extra
              | some next =>
                  rw [found] at reads
                  dsimp only at reads
                  obtain ⟨later, rfl, behind⟩ := (reads_after kind).mp reads
                  exact .letter kind ((find_iff regular).mp found) (ih.mp behind)
          · intro tail
            cases tail with
            | equals value _ => simp [kind] at value
            | joined value _ _ => simp [kind] at value
            | letter _ listed tail =>
                obtain ⟨noDash, noEquals⟩ := letter_ne regular listed
                rw [if_neg (not_or.mpr ⟨noEquals, noDash⟩), (find_iff regular).mpr listed]
                exact (reads_after kind).mpr ⟨_, rfl, ih.mpr tail⟩
      | help =>
          rw [resume_cons (by simp [kind])]
          constructor
          · intro reads
            split at reads
            · exact reads.elim
            · cases found : parser.find ['-', c] with
              | none =>
                  rw [found] at reads
                  obtain ⟨-, extra, -⟩ := reads
                  cases extra
              | some next =>
                  rw [found] at reads
                  exact absurd reads (not_reads_after kind _)
          · intro tail
            cases tail with
            | equals value _ => simp [kind] at value
            | joined value _ _ => simp [kind] at value
            | letter flag _ _ => simp [kind] at flag

/-! ## What is read as an option is written so -/

/-- A search with a single hit. -/
theorem Abbreviates.of_hits {start : Arg} {explicit : Option (Bool × Arg)} {reading : Reading D}
    (allowed : parser.allowAbbrev = true) (twoDashes : ∃ rest, start = '-' :: '-' :: rest)
    (noEquals : '=' ∉ start) (unlisted : parser.find start = none)
    (hits : (parser.strings.filterMap fun (string, dest) =>
      if start <+: string then some (⟨dest, isShort string, explicit⟩ : Reading D)
      else none) = [reading]) :
    parser.Abbreviates start reading.dest ∧ reading = ⟨reading.dest, false, explicit⟩ := by
  obtain ⟨⟨string, dest⟩, listed, hit, only⟩ := Lists.exists_of_filterMap_eq_singleton hits
  dsimp only at hit
  by_cases begins : start <+: string
  · rw [if_pos begins] at hit
    have long : isShort string = false := by
      obtain ⟨rest, rfl⟩ := twoDashes
      obtain ⟨_, rfl⟩ := begins
      rfl
    cases hit
    refine ⟨⟨allowed, twoDashes, noEquals, find_eq_none_iff.mp unlisted, string, listed, begins,
      fun entry member begins' => ?_⟩, by rw [long]⟩
    apply only entry member
    dsimp only
    rw [if_pos begins']
    exact Option.some_ne_none _
  · rw [if_neg begins] at hit
    cases hit

/-- An argument with two dashes. -/
theorem Long.of_parseOptional {rest : Arg} {reading : Reading D}
    (read : parser.parseOptional ('-' :: '-' :: rest) = .option reading) :
    ∃ word, parser.Long word reading.dest ∧
      ('-' :: '-' :: rest = word ∧ reading = ⟨reading.dest, false, none⟩ ∨
        ∃ text, '-' :: '-' :: rest = word ++ '=' :: text ∧
          reading = ⟨reading.dest, false, some (true, text)⟩) := by
  have head : ('-' :: '-' :: rest).head? = some '-' := rfl
  have length : ('-' :: '-' :: rest).length ≠ 1 := by simp
  have long : isShort ('-' :: '-' :: rest) = false := rfl
  -- with a dash in second place the part before an equals sign has two dashes as well
  have twoDashes : ∀ before after, '-' :: '-' :: rest = before ++ '=' :: after →
      ∃ more, before = '-' :: '-' :: more := by
    intro before after whole
    match before, whole with
    | [], whole => cases whole
    | [_], whole => cases whole
    | a :: b :: more, whole =>
        simp only [List.cons_append, List.cons.injEq] at whole
        obtain ⟨rfl, rfl, -⟩ := whole
        exact ⟨more, rfl⟩
  unfold parseOptional at read
  rw [if_pos head] at read
  cases found : parser.find ('-' :: '-' :: rest) with
  | some dest =>
      rw [found] at read
      cases read
      exact ⟨_, .full (mem_of_find found) long, .inl ⟨rfl, rfl⟩⟩
  | none =>
      rw [found] at read
      dsimp only at read
      rw [if_neg length] at read
      cases cut : partition ('-' :: '-' :: rest) with
      | none =>
          rw [cut] at read
          obtain ⟨single, allowed⟩ := of_search_long long read
          rw [optionTuples_long long allowed, cut] at single
          obtain ⟨abbreviates, same⟩ :=
            Abbreviates.of_hits allowed ⟨rest, rfl⟩ (no_equals_of_partition cut) found single
          exact ⟨_, .abbreviated abbreviates, .inl ⟨rfl, same⟩⟩
      | some pieces =>
          obtain ⟨before, after⟩ := pieces
          obtain ⟨whole, noEquals⟩ := partition_eq_some cut
          rw [cut] at read
          dsimp only at read
          cases foundBefore : parser.find before with
          | some dest =>
              obtain ⟨more, rfl⟩ := twoDashes before after whole
              rw [foundBefore] at read
              cases read
              exact ⟨_, .full (mem_of_find foundBefore) rfl, .inr ⟨after, whole, rfl⟩⟩
          | none =>
              rw [foundBefore] at read
              obtain ⟨single, allowed⟩ := of_search_long long read
              rw [optionTuples_long long allowed, cut] at single
              obtain ⟨abbreviates, same⟩ :=
                Abbreviates.of_hits allowed (twoDashes before after whole) noEquals foundBefore single
              exact ⟨_, .abbreviated abbreviates, .inr ⟨after, whole, same⟩⟩

/-- An option string that begins an argument with one dash, or that it begins, is the dash
with its letter. -/
theorem letter_of_common (regular : parser.Regular) {c : Char} (noDash : c ≠ '-') {rest : Arg}
    {string : Arg} {dest : D} (listed : (string, dest) ∈ parser.strings)
    (common : string <+: '-' :: c :: rest ∨ '-' :: c :: rest <+: string) : string = ['-', c] := by
  rcases regular.shape _ listed with ⟨c', shape, -⟩ | ⟨name, shape, -⟩
  · rw [show string = ['-', c'] from shape] at common ⊢
    rcases common with begins | begins
    · rw [(List.cons_prefix_cons.mp (List.cons_prefix_cons.mp begins).2).1]
    · rw [(List.cons_prefix_cons.mp (List.cons_prefix_cons.mp begins).2).1]
  · rw [show string = '-' :: '-' :: name from shape] at common
    rcases common with begins | begins
    · exact absurd (List.cons_prefix_cons.mp (List.cons_prefix_cons.mp begins).2).1.symm noDash
    · exact absurd (List.cons_prefix_cons.mp (List.cons_prefix_cons.mp begins).2).1 noDash

/-- An argument whose letter no option has is searched for, and not found. -/
theorem parseOptional_unlisted (regular : parser.Regular) {c : Char} (noDash : c ≠ '-')
    (unlisted : ∀ dest, (['-', c], dest) ∉ parser.strings) (rest : Arg) :
    parser.parseOptional ('-' :: c :: rest) = parser.search ('-' :: c :: rest) ∧
      parser.optionTuples ('-' :: c :: rest) = [] := by
  have apart : ∀ string dest, (string, dest) ∈ parser.strings →
      ¬ (string <+: '-' :: c :: rest ∨ '-' :: c :: rest <+: string) := by
    intro string dest listed common
    rw [letter_of_common regular noDash listed common] at listed
    exact unlisted dest listed
  constructor
  · have head : ('-' :: c :: rest).head? = some '-' := rfl
    have length : ('-' :: c :: rest).length ≠ 1 := by simp
    have whole : parser.find ('-' :: c :: rest) = none :=
      find_eq_none_iff.mpr fun dest listed => apart _ dest listed (.inl (List.prefix_refl _))
    unfold parseOptional
    rw [if_pos head, whole]
    dsimp only
    rw [if_neg length]
    cases cut : partition ('-' :: c :: rest) with
    | none => rfl
    | some pieces =>
        obtain ⟨same, -⟩ := partition_eq_some cut
        have before : parser.find pieces.1 = none :=
          find_eq_none_iff.mpr fun dest listed => apart _ dest listed (.inl ⟨_, same.symm⟩)
        simp only [before]
  · have short : isShort ('-' :: c :: rest) = true := by simpa [isShort] using noDash
    unfold optionTuples
    rw [if_pos short, List.filterMap_eq_nil_iff]
    intro entry listed
    obtain ⟨string, dest⟩ := entry
    have other : string ≠ ('-' :: c :: rest).take 2 := by
      intro same
      exact apart string dest listed (.inl (same ▸ List.take_prefix 2 _))
    dsimp only
    rw [if_neg other, if_neg fun begins => apart string dest listed (.inr begins)]

/-- An argument with one dash begins with the letter of an option. -/
theorem letter_of_parseOptional (regular : parser.Regular) {c : Char} (noDash : c ≠ '-')
    {rest : Arg} {reading : Reading D}
    (read : parser.parseOptional ('-' :: c :: rest) = .option reading) :
    ∃ dest, (['-', c], dest) ∈ parser.strings := by
  by_contra unlisted
  obtain ⟨searched, nothing⟩ :=
    parseOptional_unlisted regular noDash (fun dest listed => unlisted ⟨dest, listed⟩) rest
  rw [searched] at read
  rw [of_search read] at nothing
  cases nothing

/-- What is read as an option has a dash and something behind it. -/
theorem exists_of_parseOptional (regular : parser.Regular) {word : Arg} {reading : Reading D}
    (read : parser.parseOptional word = .option reading) : ∃ c rest, word = '-' :: c :: rest := by
  have head : word.head? = some '-' := by
    by_contra other
    unfold parseOptional at read
    rw [if_neg other] at read
    cases read
  match word with
  | [] => cases head
  | [d] =>
      have unlisted : parser.find [d] = none := by
        rw [find_eq_none_iff]
        intro dest listed
        have := length_ge regular listed
        simp at this
      unfold parseOptional at read
      rw [if_pos head, unlisted] at read
      cases read
  | d :: c :: rest => exact ⟨c, rest, by rw [Option.some.inj (head : some d = some '-')]⟩

theorem search_ne_ambiguous {arg : Arg} (nothing : parser.optionTuples arg = []) :
    parser.search arg ≠ .ambiguous := by
  unfold search
  rw [nothing]
  dsimp only
  split
  · simp
  · split
    · simp
    · simp

/-- Without abbreviations nothing is ambiguous. -/
theorem parseOptional_ne_ambiguous (regular : parser.Regular) (whole : parser.allowAbbrev = false)
    (arg : Arg) : parser.parseOptional arg ≠ .ambiguous := by
  by_cases letter : ∃ c dest rest, arg = '-' :: c :: rest ∧ c ≠ '-' ∧ (['-', c], dest) ∈ parser.strings
  · obtain ⟨c, dest, rest, rfl, -, listed⟩ := letter
    obtain ⟨reading, read, -⟩ := parseOptional_short regular listed rest
    rw [read]
    simp
  · have searched : ∀ c rest, arg = '-' :: c :: rest → parser.search arg ≠ .ambiguous := by
      intro c rest same
      apply search_ne_ambiguous
      by_cases dash : c = '-'
      · have long : ¬ isShort arg = true := by rw [same, dash]; simp [isShort]
        unfold optionTuples
        rw [if_neg long, whole]
        rfl
      · rw [same]
        exact (parseOptional_unlisted regular dash
          (fun dest listed => letter ⟨c, dest, rest, same, dash, listed⟩) rest).2
    unfold parseOptional
    split
    · rename_i head
      split
      · simp
      · split
        · simp
        · rename_i length
          have two : ∃ c rest, arg = '-' :: c :: rest := by
            match arg, head, length with
            | d :: c :: rest, head, _ => exact ⟨c, rest, by rw [Option.some.inj (head : some d = some '-')]⟩
            | [_], _, length => exact absurd rfl length
          obtain ⟨c, rest, same⟩ := two
          split
          · split
            · simp
            · exact searched c rest same
          · exact searched c rest same
    · simp

/-- A text behind an equals sign is the argument of an option that takes one, and nothing
can be made of it otherwise. -/
theorem reads_equals_iff {dest : D} {text : Arg} {following : List Arg}
    {taken : List (D × Option Arg)} :
    parser.Reads following taken (parser.spelled ⟨dest, false, some (true, text)⟩) ↔
      parser.kind dest = .value ∧ following = [] ∧ taken = [(dest, some text)] := by
  unfold spelled
  cases kind : parser.kind dest with
  | value =>
      have done : parser.spell dest false true text = .done [(dest, some text)] [] := by
        cases text <;> simp only [spell, kind]
      simp [done, Reads, helps, kind]
  | flag =>
      have error : parser.spell dest false true text = .error := by
        cases text <;> simp [spell, kind]
      simp [error, Reads]
  | help =>
      have error : parser.spell dest false true text = .error := by
        cases text <;> simp [spell, kind]
      simp [error, Reads]

/-- The grammar of one option is what the parser reads as one. -/
theorem chunk_iff (regular : parser.Regular) {word : Arg} {following : List Arg}
    {taken : List (D × Option Arg)} :
    parser.Chunk word following taken ↔
      word ≠ doubleDash ∧ ∃ reading, parser.parseOptional word = .option reading ∧
        parser.Reads following taken (parser.spelled reading) := by
  have bare : ∀ dest, parser.spelled ⟨dest, false, none⟩ = parser.bare dest := fun _ => rfl
  constructor
  · intro chunk
    cases chunk with
    | long long noDashes kind =>
        exact ⟨noDashes, _, (parseOptional_long regular long).1, reads_bare.mpr (.flag kind)⟩
    | longNext long noDashes kind plain =>
        exact ⟨noDashes, _, (parseOptional_long regular long).1, reads_bare.mpr (.next kind plain)⟩
    | @longEquals word dest long kind text =>
        refine ⟨?_, _, (parseOptional_long regular long).2 text, ?_⟩
        · intro same
          have member : '=' ∈ doubleDash := same ▸ List.mem_append_right _ (List.mem_cons_self ..)
          simp [doubleDash] at member
        · exact reads_equals_iff.mpr ⟨kind, rfl, rfl⟩
    | @short c dest listed rest _ _ tail =>
        obtain ⟨reading, read, spelled⟩ := parseOptional_short regular listed rest
        refine ⟨?_, reading, read, ?_⟩
        · intro same
          exact (letter_ne regular listed).1 (List.cons.inj (List.cons.inj same).2).1
        · rw [spelled]
          exact (reads_resume_iff regular).mpr tail
  · intro given
    obtain ⟨noDashes, reading, read, reads⟩ := given
    obtain ⟨c, rest, rfl⟩ := exists_of_parseOptional regular read
    by_cases dash : c = '-'
    · subst dash
      obtain ⟨word, long, written⟩ := Long.of_parseOptional read
      rcases written with ⟨whole, same⟩ | ⟨text, whole, same⟩
      · rw [same, bare] at reads
        rw [whole] at noDashes ⊢
        cases reads_bare.mp reads with
        | flag kind => exact .long long noDashes kind
        | next kind plain => exact .longNext long noDashes kind plain
      · rw [same] at reads
        obtain ⟨kind, rfl, rfl⟩ := reads_equals_iff.mp reads
        rw [whole]
        exact .longEquals long kind text
    · obtain ⟨dest, listed⟩ := letter_of_parseOptional regular dash read
      obtain ⟨reading', read', spelled⟩ := parseOptional_short regular listed rest
      rw [read] at read'
      cases read'
      rw [spelled] at reads
      exact .short listed ((reads_resume_iff regular).mp reads)

/-! ## The arguments one after another -/

/-- The parser takes the arguments for these options, and leaves nothing unrecognised. -/
def Accepts (parser : Parser D) (args : List Arg) (taken : List (D × Option Arg)) : Prop :=
  ∃ ts, parser.tokens args = some ts ∧ parser.run ts = .ok ⟨taken, []⟩

theorem accepts_nil {taken : List (D × Option Arg)} : parser.Accepts [] taken ↔ taken = [] := by
  constructor
  · intro given
    obtain ⟨ts, tokens, run⟩ := given
    cases tokens
    cases run
    rfl
  · intro none
    exact ⟨[], rfl, by rw [none]; rfl⟩

theorem after_eq_ok_iff {now : List (D × Option Arg)} {extras : List Arg}
    {outcome : Except Exit (Result D)} {taken : List (D × Option Arg)} :
    outcome.map (Result.after now extras) = .ok ⟨taken, []⟩ ↔
      extras = [] ∧ ∃ later, outcome = .ok ⟨later, []⟩ ∧ taken = now ++ later := by
  cases outcome with
  | error exit => simp [Except.map]
  | ok result =>
      obtain ⟨later, extras'⟩ := result
      simp only [Except.map, Result.after, Except.ok.injEq, Result.mk.injEq, List.append_eq_nil_iff]
      constructor
      · intro given
        obtain ⟨same, here, there⟩ := given
        exact ⟨here, later, ⟨rfl, there⟩, same.symm⟩
      · intro given
        obtain ⟨here, later', ⟨same, there⟩, equal⟩ := given
        exact ⟨by rw [same, equal], here, there⟩

/-- An argument an option can take, in front of others. -/
theorem tokens_arg_iff {args : List Arg} {text : Arg} {ts : List (Token D)} :
    parser.tokens args = some (.arg text :: ts) ↔
      ∃ rest, args = text :: rest ∧ parser.Plain text ∧ parser.tokens rest = some ts := by
  constructor
  · intro tokens
    cases args with
    | nil => cases tokens
    | cons arg rest =>
        unfold Parser.tokens at tokens
        by_cases noDashes : arg = doubleDash
        · rw [if_pos noDashes] at tokens
          cases tokens
        · rw [if_neg noDashes] at tokens
          cases read : parser.parseOptional arg with
          | positional =>
              rw [read] at tokens
              obtain ⟨ts', tokens', same⟩ := Option.map_eq_some_iff.mp tokens
              obtain ⟨text', rfl⟩ := List.cons.inj same
              cases text'
              exact ⟨rest, rfl, ⟨read, noDashes⟩, tokens'⟩
          | option reading =>
              rw [read] at tokens
              obtain ⟨ts', -, same⟩ := Option.map_eq_some_iff.mp tokens
              cases (List.cons.inj same).1
          | unknown =>
              rw [read] at tokens
              obtain ⟨ts', -, same⟩ := Option.map_eq_some_iff.mp tokens
              cases (List.cons.inj same).1
          | ambiguous =>
              rw [read] at tokens
              cases tokens
  · intro given
    obtain ⟨rest, same, plain, tokens⟩ := given
    rw [same, Parser.tokens, if_neg plain.noDashes, plain.positional, tokens]
    rfl

/-- The first argument. -/
theorem accepts_cons_iff (regular : parser.Regular) {word : Arg} {args : List Arg}
    {taken : List (D × Option Arg)} :
    parser.Accepts (word :: args) taken ↔
      ∃ following rest now later, args = following ++ rest ∧ parser.Chunk word following now ∧
        parser.Accepts rest later ∧ taken = now ++ later := by
  simp only [chunk_iff regular]
  constructor
  · intro given
    obtain ⟨ts, tokens, run⟩ := given
    unfold Parser.tokens at tokens
    by_cases noDashes : word = doubleDash
    · rw [if_pos noDashes] at tokens
      cases tokens
      cases (after_eq_ok_iff.mp run).1
    · rw [if_neg noDashes] at tokens
      cases read : parser.parseOptional word with
      | positional =>
          rw [read] at tokens
          obtain ⟨ts', -, rfl⟩ := Option.map_eq_some_iff.mp tokens
          cases (after_eq_ok_iff.mp run).1
      | unknown =>
          rw [read] at tokens
          obtain ⟨ts', -, rfl⟩ := Option.map_eq_some_iff.mp tokens
          cases (after_eq_ok_iff.mp run).1
      | ambiguous =>
          rw [read] at tokens
          cases tokens
      | option reading =>
          rw [read] at tokens
          obtain ⟨ts', tokens', rfl⟩ := Option.map_eq_some_iff.mp tokens
          unfold Parser.run at run
          cases spelled : parser.spelled reading with
          | error => rw [spelled] at run; cases run
          | done now extra =>
              rw [spelled] at run
              dsimp only at run
              cases helps : parser.helps now with
              | true => rw [helps] at run; cases run
              | false =>
                  rw [helps] at run
                  obtain ⟨rfl, later, run', same⟩ := after_eq_ok_iff.mp run
                  have reads : parser.Reads [] now (.done now []) := ⟨rfl, rfl, helps, rfl⟩
                  rw [← spelled] at reads
                  exact ⟨[], args, now, later, rfl, ⟨noDashes, reading, rfl, reads⟩,
                    ⟨ts', tokens', run'⟩, same⟩
          | wants now dest =>
              rw [spelled] at run
              cases ts' with
              | nil => cases run
              | cons t rest' =>
                  cases t with
                  | opt text reading => cases run
                  | dashes => cases run
                  | arg text =>
                      dsimp only at run
                      cases helps : parser.helps now with
                      | true => rw [helps] at run; cases run
                      | false =>
                          rw [helps] at run
                          obtain ⟨-, later, run', same⟩ := after_eq_ok_iff.mp run
                          obtain ⟨rest, rfl, plain, tokens''⟩ := tokens_arg_iff.mp tokens'
                          have reads : parser.Reads [text] (now ++ [(dest, some text)])
                              (.wants now dest) := ⟨text, rfl, plain, helps, rfl⟩
                          rw [← spelled] at reads
                          exact ⟨[text], rest, _, later, rfl, ⟨noDashes, reading, rfl, reads⟩,
                            ⟨rest', tokens'', run'⟩, same⟩
  · intro given
    obtain ⟨following, rest, now, later, split, chunk, accepts, same⟩ := given
    obtain ⟨noDashes, reading, read, reads⟩ := chunk
    obtain ⟨ts, tokens, run⟩ := accepts
    cases spelled : parser.spelled reading with
    | error => rw [spelled] at reads; exact reads.elim
    | done now' extra =>
        rw [spelled] at reads
        obtain ⟨rfl, rfl, helps, rfl⟩ := reads
        refine ⟨.opt word (some reading) :: ts, ?_, ?_⟩
        · rw [split, List.nil_append, Parser.tokens, if_neg noDashes, read, tokens]
          rfl
        · rw [Parser.run, spelled]
          dsimp only
          rw [helps]
          exact after_eq_ok_iff.mpr ⟨rfl, later, run, same⟩
    | wants now' dest =>
        rw [spelled] at reads
        obtain ⟨text, rfl, plain, helps, rfl⟩ := reads
        refine ⟨.opt word (some reading) :: .arg text :: ts, ?_, ?_⟩
        · rw [Parser.tokens, if_neg noDashes, read]
          rw [tokens_arg_iff.mpr ⟨rest, split, plain, tokens⟩]
          rfl
        · rw [Parser.run, spelled]
          dsimp only
          rw [helps]
          exact after_eq_ok_iff.mpr ⟨rfl, later, run, same⟩

/-- The accepted arguments are those that write options. -/
theorem accepts_iff (regular : parser.Regular) {args : List Arg} {taken : List (D × Option Arg)} :
    parser.Accepts args taken ↔ parser.Writes args taken := by
  constructor
  · intro accepts
    -- every option takes at least its own argument
    induction size : args.length using Nat.strongRecOn generalizing args taken with
    | ind size ih =>
        cases args with
        | nil =>
            rw [accepts_nil.mp accepts]
            exact .nil
        | cons word args =>
            obtain ⟨following, rest, now, later, rfl, chunk, accepts', rfl⟩ :=
              (accepts_cons_iff regular).mp accepts
            apply Writes.cons chunk
            apply ih rest.length _ accepts' rfl
            simp only [List.length_cons, List.length_append] at size
            omega
  · intro writes
    induction writes with
    | nil => exact accepts_nil.mpr rfl
    | cons chunk _ ih => exact (accepts_cons_iff regular).mpr ⟨_, _, _, _, rfl, chunk, ih, rfl⟩

/-- A parser leaves nothing unrecognised on exactly the arguments that write options, the
required ones among them, and reads what was written. -/
theorem parseKnownArgs_iff [DecidableEq D] (regular : parser.Regular) {args : List Arg}
    {taken : List (D × Option Arg)} :
    parser.parseKnownArgs args = .ok ⟨taken, []⟩ ↔
      parser.Writes args taken ∧ ∀ dest ∈ parser.required, ∃ entry ∈ taken, entry.1 = dest := by
  rw [← accepts_iff regular]
  have covered : (parser.required.all fun dest => taken.any fun entry => entry.1 = dest) = true ↔
      ∀ dest ∈ parser.required, ∃ entry ∈ taken, entry.1 = dest := by
    simp
  rw [← covered]
  unfold parseKnownArgs Accepts
  cases parser.tokens args with
  | none => simp
  | some ts =>
      cases run : parser.run ts with
      | error exit => simp [run]
      | ok result =>
          simp only [Option.some.injEq, exists_eq_left', run, Except.ok.injEq]
          constructor
          · intro ok
            split at ok
            · rename_i all
              cases ok
              exact ⟨rfl, all⟩
            · cases ok
          · intro given
            obtain ⟨same, all⟩ := given
            rw [same]
            exact if_pos all

end Argparse.Parser
