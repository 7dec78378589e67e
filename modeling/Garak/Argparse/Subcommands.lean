import Garak.Argparse.Written

/-!
# The command lines a parser with subcommands accepts

When the options of the parser itself all ask for help, it accepts nothing at all, or the
name of a subcommand with arguments that the parser of the subcommand accepts.
-/

namespace Argparse

variable {D : Type}

/-! ## The arguments behind a subcommand -/

theorem Parser.text_of_tokens {parser : Parser D} {args : List Arg} {ts : List (Token D)}
    (tokens : parser.tokens args = some ts) : ts.map Token.text = args := by
  induction args generalizing ts with
  | nil =>
      cases tokens
      rfl
  | cons arg args ih =>
      unfold Parser.tokens at tokens
      by_cases dashes : arg = doubleDash
      · rw [if_pos dashes] at tokens
        cases tokens
        rw [List.map_cons, List.map_map, dashes]
        exact congrArg _ (List.map_id args)
      · rw [if_neg dashes] at tokens
        cases read : parser.parseOptional arg with
        | positional =>
            rw [read] at tokens
            obtain ⟨ts', tokens', rfl⟩ := Option.map_eq_some_iff.mp tokens
            rw [List.map_cons, ih tokens']
            rfl
        | option reading =>
            rw [read] at tokens
            obtain ⟨ts', tokens', rfl⟩ := Option.map_eq_some_iff.mp tokens
            rw [List.map_cons, ih tokens']
            rfl
        | unknown =>
            rw [read] at tokens
            obtain ⟨ts', tokens', rfl⟩ := Option.map_eq_some_iff.mp tokens
            rw [List.map_cons, ih tokens']
            rfl
        | ambiguous =>
            rw [read] at tokens
            cases tokens

/-- Without abbreviations every argument is classified. -/
theorem Parser.exists_tokens {parser : Parser D} (regular : parser.Regular)
    (whole : parser.allowAbbrev = false) (args : List Arg) : ∃ ts, parser.tokens args = some ts := by
  induction args with
  | nil => exact ⟨[], rfl⟩
  | cons arg args ih =>
      obtain ⟨ts, tokens⟩ := ih
      unfold Parser.tokens
      by_cases dashes : arg = doubleDash
      · rw [if_pos dashes]
        exact ⟨_, rfl⟩
      · rw [if_neg dashes, tokens]
        cases read : parser.parseOptional arg with
        | positional => exact ⟨_, rfl⟩
        | option reading => exact ⟨_, rfl⟩
        | unknown => exact ⟨_, rfl⟩
        | ambiguous => exact absurd read (Parser.parseOptional_ne_ambiguous regular whole arg)

/-- A parser whose options all ask for help takes none of them. -/
theorem Parser.not_chunk_of_help {parser : Parser D}
    (help : ∀ entry ∈ parser.strings, parser.kind entry.2 = .help) {word : Arg}
    {following : List Arg} {taken : List (D × Option Arg)} :
    ¬ parser.Chunk word following taken := by
  have long : ∀ {word dest}, parser.Long word dest → parser.kind dest = .help := by
    intro word dest long
    cases long with
    | full listed _ => exact help _ listed
    | abbreviated abbreviates =>
        obtain ⟨string, listed, -⟩ := abbreviates.begins
        exact help _ listed
  intro chunk
  cases chunk with
  | long named _ kind => simp [long named] at kind
  | longNext named _ kind _ => simp [long named] at kind
  | longEquals named kind _ => simp [long named] at kind
  | short listed tail =>
      have kind := help _ listed
      cases tail <;> simp_all

namespace Commands

/-- What is accepted in the end has nothing unrecognised in front. -/
theorem extras_of_after {now : List (D × Option Arg)} {extras : List Arg}
    {outcome : Except Exit (Result D × Command D)} {taken : List (D × Option Arg)}
    {used : Command D}
    (ok : (outcome.map fun x => (Result.after now extras x.1, x.2)) = .ok (⟨taken, []⟩, used)) :
    extras = [] := by
  cases outcome with
  | error exit => cases ok
  | ok result =>
      have same := congrArg (fun x => x.1.extras) (Except.ok.inj ok)
      exact (List.append_eq_nil_iff.mp same).1

variable [DecidableEq D] {commands : Commands D}

/-- A parser that asks nothing of the command line but a subcommand. -/
structure OnlyHelps (commands : Commands D) : Prop where
  regular : commands.top.Regular
  help : ∀ entry ∈ commands.top.strings, commands.top.kind entry.2 = .help
  required : commands.top.required = []
  whole : commands.top.allowAbbrev = false
  /-- the names of the subcommands are arguments -/
  names : ∀ entry ∈ commands.parsers, commands.top.Plain entry.1
  distinct : (commands.parsers.map Prod.fst).Nodup

theorem command_eq_ok_iff (plain : commands.OnlyHelps) {name : Arg} {rest : List Arg}
    {taken : List (D × Option Arg)} {used : Command D} :
    commands.command name rest = .ok (⟨taken, []⟩, used) ↔
      taken = [] ∧ ∃ parser opts, (name, parser) ∈ commands.parsers ∧
        parser.parseKnownArgs rest = .ok ⟨opts, []⟩ ∧ used = some (name, opts) := by
  have found : ∀ parser, (commands.parsers.find? fun entry => entry.1 = name) = some (name, parser) ↔
      (name, parser) ∈ commands.parsers := by
    intro parser
    rw [← Lists.find?_key_iff plain.distinct]
    constructor
    · intro hit
      rw [hit]
      rfl
    · intro hit
      obtain ⟨entry, hit, same⟩ := Option.map_eq_some_iff.mp hit
      have key := List.find?_some hit
      simp only [decide_eq_true_eq] at key
      rw [hit, ← key, ← same]
  unfold command
  constructor
  · intro accepted
    cases hit : commands.parsers.find? fun entry => entry.1 = name with
    | none =>
        rw [hit] at accepted
        cases accepted
    | some entry =>
        obtain ⟨name', parser⟩ := entry
        have same := List.find?_some hit
        simp only [decide_eq_true_eq] at same
        rw [hit, same] at accepted
        rw [same] at hit
        dsimp only at accepted
        cases parsed : parser.parseKnownArgs rest with
        | error exit =>
            rw [parsed] at accepted
            cases accepted
        | ok result =>
            obtain ⟨opts, extras⟩ := result
            rw [parsed] at accepted
            cases accepted
            exact ⟨rfl, parser, opts, (found parser).mp hit, parsed, rfl⟩
  · intro given
    obtain ⟨nothing, parser, opts, listed, parsed, same⟩ := given
    rw [(found parser).mpr listed, nothing, same]
    dsimp only
    rw [parsed]
    rfl

/-- Nothing but a subcommand can come first. -/
theorem run_cons_iff (plain : commands.OnlyHelps) {name : Arg} {rest : List Arg}
    {ts : List (Token D)} (tokens : commands.top.tokens (name :: rest) = some ts)
    {taken : List (D × Option Arg)} {used : Command D} :
    commands.run ts = .ok (⟨taken, []⟩, used) ↔
      commands.command name rest = .ok (⟨taken, []⟩, used) := by
  have text := Parser.text_of_tokens tokens
  -- an option would be one that does not ask for help
  have notChunk := @Parser.not_chunk_of_help D commands.top plain.help
  constructor
  · intro ran
    unfold Parser.tokens at tokens
    by_cases dashes : name = doubleDash
    · rw [if_pos dashes] at tokens
      cases tokens
      rw [dashes]
      cases rest with
      | nil => cases ran
      | cons arg rest =>
          rw [List.map_cons, List.map_cons] at text
          rw [List.map_cons, run, ← List.map_cons] at ran
          rw [List.map_cons, (List.cons.inj text).2] at ran
          exact ran
    · rw [if_neg dashes] at tokens
      cases read : commands.top.parseOptional name with
      | positional =>
          rw [read] at tokens
          obtain ⟨ts', tokens', rfl⟩ := Option.map_eq_some_iff.mp tokens
          rw [run, Parser.text_of_tokens tokens'] at ran
          exact ran
      | unknown =>
          rw [read] at tokens
          obtain ⟨ts', -, rfl⟩ := Option.map_eq_some_iff.mp tokens
          cases extras_of_after ran
      | ambiguous =>
          rw [read] at tokens
          cases tokens
      | option reading =>
          rw [read] at tokens
          obtain ⟨ts', tokens', rfl⟩ := Option.map_eq_some_iff.mp tokens
          unfold run at ran
          cases spelled : commands.top.spelled reading with
          | error => rw [spelled] at ran; cases ran
          | done now extra =>
              rw [spelled] at ran
              dsimp only at ran
              cases helps : commands.top.helps now with
              | true => rw [helps] at ran; cases ran
              | false =>
                  rw [helps] at ran
                  have extras := extras_of_after ran
                  have reads : commands.top.Reads [] now (.done now extra) :=
                    ⟨rfl, extras, helps, rfl⟩
                  rw [← spelled] at reads
                  exact absurd ((Parser.chunk_iff plain.regular).mpr ⟨dashes, reading, read, reads⟩)
                    notChunk
          | wants now dest =>
              rw [spelled] at ran
              cases ts' with
              | nil => cases ran
              | cons t rest' =>
                  cases t with
                  | opt _ _ => cases ran
                  | dashes => cases ran
                  | arg argText =>
                      dsimp only at ran
                      cases helps : commands.top.helps now with
                      | true => rw [helps] at ran; cases ran
                      | false =>
                          obtain ⟨_, -, argument, -⟩ := Parser.tokens_arg_iff.mp tokens'
                          have reads : commands.top.Reads [argText] (now ++ [(dest, some argText)])
                              (.wants now dest) := ⟨argText, rfl, argument, helps, rfl⟩
                          rw [← spelled] at reads
                          exact absurd
                            ((Parser.chunk_iff plain.regular).mpr ⟨dashes, reading, read, reads⟩)
                            notChunk
  · intro accepted
    obtain ⟨-, parser, opts, listed, -⟩ := (command_eq_ok_iff plain).mp accepted
    have argument := plain.names _ listed
    obtain ⟨ts', tokens'⟩ := Parser.exists_tokens plain.regular plain.whole rest
    have again := Parser.tokens_arg_iff.mpr ⟨rest, rfl, argument, tokens'⟩
    rw [tokens] at again
    rw [Option.some.inj again, run, Parser.text_of_tokens tokens']
    exact accepted

/-- The accepted command lines. -/
theorem parseArgs_iff (plain : commands.OnlyHelps)
    (regular : ∀ entry ∈ commands.parsers, entry.2.Regular) {args : List Arg}
    {taken : List (D × Option Arg)} {used : Command D} :
    commands.parseArgs args = .ok (taken, used) ↔
      taken = [] ∧ (args = [] ∧ used = none ∨
        ∃ name rest parser opts, args = name :: rest ∧ (name, parser) ∈ commands.parsers ∧
          (parser.Writes rest opts ∧ ∀ dest ∈ parser.required, ∃ entry ∈ opts, entry.1 = dest) ∧
          used = some (name, opts)) := by
  obtain ⟨ts, tokens⟩ := Parser.exists_tokens plain.regular plain.whole args
  have ran : commands.parseArgs args = .ok (taken, used) ↔
      commands.run ts = .ok (⟨taken, []⟩, used) := by
    unfold parseArgs
    rw [tokens]
    dsimp only
    cases run : commands.run ts with
    | error exit => simp
    | ok outcome =>
        obtain ⟨⟨taken', extras⟩, used'⟩ := outcome
        simp only [plain.required, List.all_nil, and_true]
        constructor
        · intro accepted
          split at accepted
          · rename_i nothing
            cases accepted
            rw [nothing]
          · cases accepted
        · intro same
          cases same
          rfl
  rw [ran]
  cases args with
  | nil =>
      cases tokens
      constructor
      · intro same
        cases same
        exact ⟨rfl, .inl ⟨rfl, rfl⟩⟩
      · intro given
        obtain ⟨nothing, accepted⟩ := given
        rcases accepted with ⟨-, none⟩ | ⟨name, rest, parser, opts, same, -⟩
        · rw [nothing, none]
          rfl
        · cases same
  | cons name rest =>
      rw [run_cons_iff plain tokens, command_eq_ok_iff plain]
      constructor
      · intro given
        obtain ⟨nothing, parser, opts, listed, parsed, same⟩ := given
        exact ⟨nothing, .inr ⟨name, rest, parser, opts, rfl, listed,
          (Parser.parseKnownArgs_iff (regular _ listed)).mp parsed, same⟩⟩
      · intro given
        obtain ⟨nothing, accepted⟩ := given
        rcases accepted with ⟨none, -⟩ | ⟨name', rest', parser, opts, whole, listed, written, same⟩
        · cases none
        · obtain ⟨rfl, rfl⟩ := List.cons.inj whole
          exact ⟨nothing, parser, opts, listed,
            (Parser.parseKnownArgs_iff (regular _ listed)).mpr written, same⟩

end Commands

end Argparse
