import Garak.Argparse.Subcommands
import Garak.Tooling.CommandLine
import Garak.Tooling.Proofs.Main

/-!
# The command lines of `devkit`

`Cli.Written isDecimal args cli`: the arguments are one of the ways to ask for `cli`. The
parsers accept these and no others, and with them `devkit` does what `main` does; with any
other arguments it launches nothing.
-/

namespace Tooling

open Pathlib Argparse

variable {isDecimal : Char → Bool}

/-! ## The parsers -/

/-- The text of an option string: a dash and a letter, or two dashes and a name. -/
def isOptionString : Arg → Bool
  | ['-', c] => c != '-' && c != '='
  | '-' :: '-' :: name => name != [] && !name.contains '='
  | _ => false

theorem regular_of_strings {parser : Parser Opt}
    (shape : (parser.strings.all fun entry => isOptionString entry.1) = true)
    (distinct : (parser.strings.map Prod.fst).Nodup) : parser.Regular := by
  refine ⟨fun entry member => ?_, distinct⟩
  have valid := List.all_eq_true.mp shape entry member
  obtain ⟨string, dest⟩ := entry
  dsimp only at valid ⊢
  unfold isOptionString at valid
  split at valid
  · rename_i c
    simp only [Bool.and_eq_true, bne_iff_ne] at valid
    exact .inl ⟨c, rfl, valid⟩
  · rename_i name _
    simp only [Bool.and_eq_true, bne_iff_ne, Bool.not_eq_true', List.contains_eq_mem,
      decide_eq_false_iff_not] at valid
    exact .inr ⟨name, rfl, valid⟩
  · cases valid

theorem clangCommands_regular : (clangCommands isDecimal).Regular := by
  apply regular_of_strings
  · dsimp only [clangCommands]
    decide
  · dsimp only [clangCommands]
    decide

theorem packagerCommands_regular : (packagerCommands isDecimal).Regular := by
  apply regular_of_strings
  · dsimp only [packagerCommands]
    decide
  · dsimp only [packagerCommands]
    decide

theorem compilerCommands_regular : (compilerCommands isDecimal).Regular := by
  apply regular_of_strings
  · dsimp only [compilerCommands]
    decide
  · dsimp only [compilerCommands]
    decide

theorem cliParser_onlyHelps : (cliParser isDecimal).OnlyHelps where
  regular := by
    apply regular_of_strings
    · dsimp only [cliParser]
      decide
    · dsimp only [cliParser]
      decide
  help := by
    intro entry member
    simp only [cliParser, helpStrings, List.mem_cons, List.not_mem_nil, or_false] at member
    rcases member with rfl | rfl <;> rfl
  required := rfl
  whole := rfl
  names := by
    intro entry member
    simp only [cliParser, List.mem_cons, List.not_mem_nil, or_false] at member
    rcases member with rfl | rfl | rfl
    · exact ⟨rfl, by dsimp only; decide⟩
    · exact ⟨rfl, by dsimp only; decide⟩
    · exact ⟨rfl, by dsimp only; decide⟩
  distinct := by
    show ["clang".toList, "package".toList, "compile".toList].Nodup
    decide

/-! ## The ways to write a command -/

/-- The arguments ask for `cli`. -/
inductive Cli.Written (isDecimal : Char → Bool) : List Arg → Cli → Prop
  | noCommand : Written isDecimal [] .noCommand
  | clang {rest taken} (writes : (clangCommands isDecimal).Writes rest taken) :
      Written isDecimal ("clang".toList :: rest) (.clang (given taken .format) (given taken .lint))
  | compile {rest taken} (writes : (compilerCommands isDecimal).Writes rest taken) :
      Written isDecimal ("compile".toList :: rest) (.compile (given taken .clang) (given taken .gnu))
  | package {rest taken name version} (writes : (packagerCommands isDecimal).Writes rest taken)
      (named : stored taken .name = some name) (versioned : stored taken .version = some version) :
      Written isDecimal ("package".toList :: rest)
        (.package name version (stored taken .type) (stored taken .buildDir))

/-- An option that takes an argument is read with one. -/
theorem arguments_of_writes {parser : Parser Opt} {args : List Arg}
    {taken : List (Opt × Option Arg)} (writes : parser.Writes args taken) :
    ∀ entry ∈ taken, parser.kind entry.1 = .value → entry.2.isSome := by
  have ofTail : ∀ {dest rest following now}, parser.Tail dest rest following now →
      ∀ entry ∈ now, parser.kind entry.1 = .value → entry.2.isSome := by
    intro dest rest following now tail
    induction tail with
    | flag kind => simp [kind]
    | next _ _ => simp
    | equals _ _ => simp
    | joined _ _ _ => simp
    | letter kind _ _ ih => simpa [kind] using ih
  have ofChunk : ∀ {word following now}, parser.Chunk word following now →
      ∀ entry ∈ now, parser.kind entry.1 = .value → entry.2.isSome := by
    intro word following now chunk
    cases chunk with
    | long _ _ kind => simp [kind]
    | longNext _ _ _ _ => simp
    | longEquals _ _ _ => simp
    | short _ tail => exact ofTail tail
  induction writes with
  | nil => simp
  | cons chunk _ ih =>
      intro entry member
      rcases List.mem_append.mp member with now | later
      · exact ofChunk chunk entry now
      · exact ih entry later

theorem exists_of_stored {taken : List (Opt × Option Arg)} {dest : Opt} {text : String}
    (given : stored taken dest = some text) : ∃ entry ∈ taken, entry.1 = dest := by
  by_contra none
  have nothing : (taken.filterMap fun entry => if entry.1 = dest then entry.2 else Option.none) = [] := by
    rw [List.filterMap_eq_nil_iff]
    intro entry member
    rw [if_neg fun same => none ⟨entry, member, same⟩]
  rw [stored, nothing] at given
  cases given

/-- An option that was given with an argument is stored. -/
theorem exists_stored {taken : List (Opt × Option Arg)} {dest : Opt}
    (arguments : ∀ entry ∈ taken, entry.1 = dest → entry.2.isSome)
    (given : ∃ entry ∈ taken, entry.1 = dest) : ∃ text, stored taken dest = some text := by
  obtain ⟨entry, member, same⟩ := given
  unfold stored
  rw [← Option.isSome_iff_exists, Option.isSome_map, List.getLast?_isSome]
  intro none
  have nothing := List.filterMap_eq_nil_iff.mp none entry member
  have argument := arguments entry member same
  rw [if_pos same] at nothing
  rw [nothing] at argument
  cases argument

/-- The parsers accept what is written, and nothing else. -/
theorem init_eq_ok_iff {argv : List String} {cli : Cli} :
    Cli.init isDecimal argv = .ok cli ↔ Cli.Written isDecimal (argv.map String.toList) cli := by
  have regular : ∀ entry ∈ (cliParser isDecimal).parsers, entry.2.Regular := by
    intro entry member
    simp only [cliParser, List.mem_cons, List.not_mem_nil, or_false] at member
    rcases member with rfl | rfl | rfl
    · exact clangCommands_regular
    · exact packagerCommands_regular
    · exact compilerCommands_regular
  have parsed : Cli.init isDecimal argv = .ok cli ↔
      ∃ used, (cliParser isDecimal).parseArgs (argv.map String.toList) = .ok ([], used) ∧
        cli = Cli.ofCommand used := by
    unfold Cli.init
    cases result : (cliParser isDecimal).parseArgs (argv.map String.toList) with
    | error exit => simp [Except.map]
    | ok outcome =>
        obtain ⟨taken, used⟩ := outcome
        obtain ⟨rfl, -⟩ := (Commands.parseArgs_iff cliParser_onlyHelps regular).mp result
        simp [Except.map, eq_comm]
  rw [parsed]
  simp only [Commands.parseArgs_iff cliParser_onlyHelps regular, true_and]
  constructor
  · intro given
    obtain ⟨used, accepted, same⟩ := given
    rcases accepted with ⟨empty, rfl⟩ | ⟨name, rest, parser, opts, whole, listed, ⟨writes, required⟩, rfl⟩
    · rw [same, empty]
      exact .noCommand
    · simp only [cliParser, List.mem_cons, List.not_mem_nil, or_false, Prod.mk.injEq] at listed
      rw [same, whole]
      rcases listed with ⟨rfl, rfl⟩ | ⟨rfl, rfl⟩ | ⟨rfl, rfl⟩
      · exact .clang writes
      · have stored' : ∀ dest, Opt.kind dest = .value → (∃ entry ∈ opts, entry.1 = dest) →
            ∃ text, stored opts dest = some text := by
          intro dest kind given
          apply exists_stored _ given
          intro entry member same
          exact arguments_of_writes writes entry member (same ▸ kind)
        obtain ⟨name, named⟩ := stored' .name rfl (required .name (by simp [packagerCommands]))
        obtain ⟨version, versioned⟩ :=
          stored' .version rfl (required .version (by simp [packagerCommands]))
        have command : Cli.ofCommand (some ("package".toList, opts)) =
            .package ((stored opts .name).getD "") ((stored opts .version).getD "")
              (stored opts .type) (stored opts .buildDir) := rfl
        rw [command, named, versioned]
        exact .package writes named versioned
      · exact .compile writes
  · generalize argv.map String.toList = args
    intro written
    cases written with
    | noCommand => exact ⟨none, .inl ⟨rfl, rfl⟩, rfl⟩
    | @clang rest taken writes =>
        refine ⟨_, .inr ⟨_, rest, clangCommands isDecimal, taken, rfl, ?_, ⟨writes, ?_⟩, rfl⟩, rfl⟩
        · exact List.mem_cons_self ..
        · intro dest required
          cases required
    | @compile rest taken writes =>
        refine ⟨_, .inr ⟨_, rest, compilerCommands isDecimal, taken, rfl, ?_, ⟨writes, ?_⟩, rfl⟩, rfl⟩
        · exact List.mem_cons_of_mem _ (List.mem_cons_of_mem _ (List.mem_cons_self ..))
        · intro dest required
          cases required
    | @package rest taken name version writes named versioned =>
        refine ⟨_, .inr ⟨_, rest, packagerCommands isDecimal, taken, rfl, ?_, ⟨writes, ?_⟩, rfl⟩, ?_⟩
        · exact List.mem_cons_of_mem _ (List.mem_cons_self ..)
        · intro dest required
          simp only [packagerCommands, List.mem_cons, List.not_mem_nil, or_false] at required
          rcases required with rfl | rfl
          · exact exists_of_stored named
          · exact exists_of_stored versioned
        · rw [show Cli.ofCommand (some ("package".toList, taken)) =
            .package ((stored taken .name).getD "") ((stored taken .version).getD "")
              (stored taken .type) (stored taken .buildDir) from rfl, named, versioned]
          rfl

/-! ## One way to write every command -/

/-- A flag with two dashes, when it is set. -/
def flagArgs (set : Bool) (string : String) : List String := if set then [string] else []

/-- An option with its argument behind an equals sign. -/
def optionArgs (string : String) (argument : Option String) : List String :=
  match argument with
  | some text => [string ++ "=" ++ text]
  | none => []

/-- The arguments that ask for `cli`, spelled out. -/
def Cli.argv : Cli → List String
  | .noCommand => []
  | .clang format lint => "clang" :: (flagArgs format "--format" ++ flagArgs lint "--lint")
  | .compile useClang gnu => "compile" :: (flagArgs useClang "--clang" ++ flagArgs gnu "--gnu")
  | .package name version type buildDir =>
      "package" ::
        (optionArgs "--name" (some name) ++ optionArgs "--version" (some version) ++
          optionArgs "--type" type ++ optionArgs "--build-dir" buildDir)

/-- What the arguments of an option are read as. -/
def entryOf (dest : Opt) (argument : Option String) : List (Opt × Option Arg) :=
  match argument with
  | some text => [(dest, some text.toList)]
  | none => []

/-- What a flag is read as. -/
def entryOfFlag (set : Bool) (dest : Opt) : List (Opt × Option Arg) :=
  if set then [(dest, none)] else []

section Writing

variable {parser : Parser Opt} {string : String} {dest : Opt}

theorem writes_flagArgs (listed : (string.toList, dest) ∈ parser.strings)
    (long : isShort string.toList = false) (named : string.toList ≠ doubleDash)
    (kind : parser.kind dest = .flag) (set : Bool) {args : List Arg}
    {taken : List (Opt × Option Arg)} (writes : parser.Writes args taken) :
    parser.Writes ((flagArgs set string).map String.toList ++ args)
      (entryOfFlag set dest ++ taken) := by
  cases set with
  | false => exact writes
  | true => exact .cons (.long (.full listed long) named kind) writes

theorem writes_optionArgs (listed : (string.toList, dest) ∈ parser.strings)
    (long : isShort string.toList = false) (kind : parser.kind dest = .value)
    (argument : Option String) {args : List Arg} {taken : List (Opt × Option Arg)}
    (writes : parser.Writes args taken) :
    parser.Writes ((optionArgs string argument).map String.toList ++ args)
      (entryOf dest argument ++ taken) := by
  cases argument with
  | none => exact writes
  | some text =>
      have split : (string ++ "=" ++ text).toList = string.toList ++ '=' :: text.toList := by
        simp
      show parser.Writes ((string ++ "=" ++ text).toList :: ([] ++ args)) _
      rw [split]
      exact .cons (.longEquals (.full listed long) kind text.toList) writes

end Writing

theorem given_entries (first second : Bool) {a b : Opt} (apart : a ≠ b) :
    given (entryOfFlag first a ++ entryOfFlag second b) a = first ∧
      given (entryOfFlag first a ++ entryOfFlag second b) b = second := by
  cases first <;> cases second <;> simp [given, entryOfFlag, apart, Ne.symm apart]

/-- Two flags, each at most once. -/
theorem writes_flags {parser : Parser Opt} {first second : String} {a b : Opt}
    (listedFirst : (first.toList, a) ∈ parser.strings)
    (listedSecond : (second.toList, b) ∈ parser.strings)
    (long : isShort first.toList = false ∧ isShort second.toList = false)
    (named : first.toList ≠ doubleDash ∧ second.toList ≠ doubleDash)
    (kind : parser.kind a = .flag ∧ parser.kind b = .flag) (useFirst useSecond : Bool) :
    parser.Writes ((flagArgs useFirst first ++ flagArgs useSecond second).map String.toList)
      (entryOfFlag useFirst a ++ entryOfFlag useSecond b) := by
  have last := writes_flagArgs listedSecond long.2 named.2 kind.2 useSecond .nil
  have both := writes_flagArgs listedFirst long.1 named.1 kind.1 useFirst last
  rw [List.append_nil, List.append_nil] at both
  rw [List.map_append]
  exact both

theorem stored_entries (name version : String) (type buildDir : Option String) :
    let taken := entryOf .name (some name) ++ (entryOf .version (some version) ++
      (entryOf .type type ++ (entryOf .buildDir buildDir ++ [])))
    stored taken .name = some name ∧ stored taken .version = some version ∧
      stored taken .type = type ∧ stored taken .buildDir = buildDir := by
  cases type <;> cases buildDir <;> simp [stored, entryOf]

/-- Every command has a command line. -/
theorem written_argv (cli : Cli) : Cli.Written isDecimal (cli.argv.map String.toList) cli := by
  cases cli with
  | noCommand => exact Cli.Written.noCommand
  | clang format lint =>
      have writes : (clangCommands isDecimal).Writes
          ((flagArgs format "--format" ++ flagArgs lint "--lint").map String.toList)
          (entryOfFlag format .format ++ entryOfFlag lint .lint) :=
        writes_flags (by simp [clangCommands]) (by simp [clangCommands]) ⟨rfl, rfl⟩
          ⟨by decide, by decide⟩ ⟨rfl, rfl⟩ format lint
      obtain ⟨first, second⟩ := @given_entries format lint .format .lint (by decide)
      have written := Cli.Written.clang writes
      rw [first, second] at written
      exact written
  | compile useClang gnu =>
      have writes : (compilerCommands isDecimal).Writes
          ((flagArgs useClang "--clang" ++ flagArgs gnu "--gnu").map String.toList)
          (entryOfFlag useClang .clang ++ entryOfFlag gnu .gnu) :=
        writes_flags (by simp [compilerCommands]) (by simp [compilerCommands]) ⟨rfl, rfl⟩
          ⟨by decide, by decide⟩ ⟨rfl, rfl⟩ useClang gnu
      obtain ⟨first, second⟩ := @given_entries useClang gnu .clang .gnu (by decide)
      have written := Cli.Written.compile writes
      rw [first, second] at written
      exact written
  | package name version type buildDir =>
      have writes : (packagerCommands isDecimal).Writes
          ((optionArgs "--name" (some name)).map String.toList ++
            ((optionArgs "--version" (some version)).map String.toList ++
              ((optionArgs "--type" type).map String.toList ++
                ((optionArgs "--build-dir" buildDir).map String.toList ++ []))))
          (entryOf .name (some name) ++ (entryOf .version (some version) ++
            (entryOf .type type ++ (entryOf .buildDir buildDir ++ [])))) := by
        apply writes_optionArgs (by simp [packagerCommands]) rfl rfl
        apply writes_optionArgs (by simp [packagerCommands]) rfl rfl
        apply writes_optionArgs (by simp [packagerCommands]) rfl rfl
        apply writes_optionArgs (by simp [packagerCommands]) rfl rfl
        exact .nil
      obtain ⟨named, versioned, typed, placed⟩ := stored_entries name version type buildDir
      have written := Cli.Written.package writes named versioned
      rw [typed, placed] at written
      have arguments : (Cli.package name version type buildDir).argv.map String.toList =
          "package".toList :: ((optionArgs "--name" (some name)).map String.toList ++
            ((optionArgs "--version" (some version)).map String.toList ++
              ((optionArgs "--type" type).map String.toList ++
                ((optionArgs "--build-dir" buildDir).map String.toList ++ [])))) := by
        simp [Cli.argv]
      rw [arguments]
      exact written

/-- What is written out is read back: every command can be asked for. -/
theorem init_argv (cli : Cli) : Cli.init isDecimal cli.argv = .ok cli :=
  init_eq_ok_iff.mpr (written_argv cli)

/-! ## The process -/

/-- The process passes `preflight`. -/
def Machine.Ready (settings : Settings) (machine : Machine) : Prop :=
  Tooling.Ready settings machine.toHost ∧ machine.bash = true

instance (settings : Settings) (machine : Machine) : Decidable (machine.Ready settings) :=
  inferInstanceAs (Decidable (_ ∧ _))

variable {settings : Settings} {fs : FileSystem} {machine : Machine}

theorem exec_machine_checkProgram (item : String × Program) (trace : Trace) :
    (machine.checkProgram item).Checks
      ((item.2.name ≠ "" ∧ machine.installed item.2.name = true) ∧ machine.bash = true) trace := by
  unfold Machine.checkProgram
  by_cases raises : item.2.name ≠ "" ∧ machine.bash = false
  · rw [if_pos raises]
    exact .inr ⟨fun ok => by simp [raises.2] at ok, _, rfl⟩
  · rw [if_neg raises]
    rcases @exec_checkProgram machine.toHost item trace with ⟨ok, ran⟩ | ⟨no, e, raised⟩
    · have bash : machine.bash = true := by
        by_contra off
        exact raises ⟨ok.1, Bool.eq_false_iff.mpr off⟩
      exact .inl ⟨⟨ok, bash⟩, ran⟩
    · exact .inr ⟨fun ok => no ok.1, e, raised⟩

theorem exec_machine_preflight (trace : Trace) :
    (machine.preflight settings).Checks (machine.Ready settings) trace := by
  unfold Machine.preflight Machine.Ready Tooling.Ready
  by_cases linux : machine.platform = "linux"
  · rw [if_neg (not_not_intro linux)]
    rcases Proc.forM_checks exec_machine_checkProgram settings.cmakePrograms.items trace with
      ⟨all, ran⟩ | ⟨some, e, raised⟩
    · have bash := (all _ (List.mem_cons_self ..)).2
      exact .inl ⟨⟨⟨linux, fun item member => (all item member).1⟩, bash⟩, ran⟩
    · exact .inr ⟨fun ready => some fun item member => ⟨ready.1.2 item member, ready.2⟩, e, raised⟩
  · rw [if_pos linux]
    exact .inr ⟨fun ready => linux ready.1.1, _, Proc.exec_bind_error (Proc.exec_throw _ trace)⟩

theorem exec_preflight_of_ready (ready : machine.Ready settings) (trace : Trace) :
    (machine.preflight settings).exec trace = (.ok (), trace) := by
  rcases @exec_machine_preflight settings machine trace with ⟨-, ran⟩ | ⟨no, -⟩
  · exact ran
  · exact absurd ready no

theorem exec_bind_congr {α β : Type} {p q : Proc α} {f : α → Proc β} {trace : Trace}
    (same : p.exec trace = q.exec trace) : (p >>= f).exec trace = (q >>= f).exec trace := by
  rw [Proc.exec_bind, Proc.exec_bind, same]

/-- What the process does with a command line that asks for `cli`: what `main` does. -/
theorem exec_devkit_written (ready : machine.Ready settings) {argv : List String} {cli : Cli}
    (asked : Cli.init machine.isDecimal argv = .ok cli) (trace : Trace) :
    (devkit settings fs machine argv).exec trace = (main settings fs machine.toHost cli).exec trace := by
  have passed := exec_preflight_of_ready ready trace
  have passed' : (preflight settings machine.toHost).exec trace = (.ok (), trace) := by
    rcases @exec_preflight settings machine.toHost trace with ⟨-, ran⟩ | ⟨no, -⟩
    · exact ran
    · exact absurd ready.1 no
  have attempted : (machine.attempt settings fs argv).exec trace =
      (attempt settings fs machine.toHost cli).exec trace := by
    unfold Machine.attempt attempt
    rw [Proc.exec_catch, Proc.exec_catch, Proc.exec_bind_ok passed, Proc.exec_bind_ok passed', asked]
  exact exec_bind_congr attempted

/-- The process ends in `sys.exit` when the arguments ask for nothing: it has launched
nothing by then. -/
theorem exec_devkit_refused (ready : machine.Ready settings) {argv : List String} {exit : Exit}
    (refused : Cli.init machine.isDecimal argv = .error exit) (trace : Trace) :
    (devkit settings fs machine argv).exec trace = (.ok exit.status, trace) := by
  have passed := exec_preflight_of_ready ready trace
  have attempted : (machine.attempt settings fs argv).exec trace = (.ok (some exit.status), trace) := by
    unfold Machine.attempt
    rw [Proc.exec_catch, Proc.exec_bind_ok passed, refused]
    rfl
  unfold devkit
  rw [Proc.exec_bind_ok attempted]
  rfl

/-- A process that fails the preflight checks never looks at its arguments. -/
theorem exec_devkit_not_ready (notReady : ¬ machine.Ready settings) (argv : List String)
    (trace : Trace) :
    ∃ text, (devkit settings fs machine argv).exec trace = (.ok 1, trace.say .error text) := by
  rcases @exec_machine_preflight settings machine trace with
    ⟨ready, -⟩ | ⟨-, e, raised⟩
  · exact absurd ready notReady
  · have attempted : (machine.attempt settings fs argv).exec trace =
        (.ok (some 1), trace.say .error (e.text machine.toHost)) := by
      unfold Machine.attempt
      rw [Proc.exec_catch, Proc.exec_bind_error raised]
      rfl
    refine ⟨e.text machine.toHost, ?_⟩
    unfold devkit
    rw [Proc.exec_bind_ok attempted]
    rfl

/-- A process whose arguments ask for a command launches its plan, if it starts at all. -/
theorem commands_of_init (settings : Settings) (fs : FileSystem) {machine : Machine}
    {argv : List String} {cli : Cli} (asks : Cli.init machine.isDecimal argv = .ok cli) :
    ((devkit settings fs machine argv).exec Trace.empty).2.commands =
      if machine.Ready settings then plan settings fs machine.toHost cli else [] := by
  split
  · rename_i ready
    obtain ⟨after, ended, launched⟩ := @issues_main settings fs machine.toHost ready.1 cli
      Trace.empty
    rw [exec_devkit_written ready asks, ended, Trace.commands, launched]
    exact launches_command machine.toHost 0 _
  · rename_i notReady
    obtain ⟨text, ended⟩ := @exec_devkit_not_ready settings fs machine notReady argv Trace.empty
    rw [ended]
    rfl

/-- A process launches the plan of a command that its arguments ask for, or nothing. -/
theorem devkit_ends (settings : Settings) (fs : FileSystem) (machine : Machine)
    (argv : List String) :
    ∃ code after, (devkit settings fs machine argv).exec Trace.empty = (.ok code, after) ∧
      ((machine.Ready settings ∧ ∃ cli,
          Cli.Written machine.isDecimal (argv.map String.toList) cli ∧
            code = exitCode settings fs machine.toHost cli ∧
            after.commands = plan settings fs machine.toHost cli) ∨
        (machine.Ready settings ∧
          (∀ cli, ¬ Cli.Written machine.isDecimal (argv.map String.toList) cli) ∧
            (code = 0 ∨ code = 2) ∧ after = Trace.empty) ∨
        (¬ machine.Ready settings ∧ code = 1 ∧ after.commands = [])) := by
  by_cases ready : machine.Ready settings
  · cases asked : Cli.init machine.isDecimal argv with
    | ok cli =>
        obtain ⟨after, ended, launched⟩ :=
          @issues_main _ fs _ ready.1 cli Trace.empty
        refine ⟨_, after, (exec_devkit_written ready asked _).trans ended, .inl ⟨ready, cli,
          init_eq_ok_iff.mp asked, rfl, ?_⟩⟩
        rw [Trace.commands, launched]
        exact launches_command machine.toHost 0 _
    | error exit =>
        refine ⟨_, _, exec_devkit_refused ready asked _, .inr (.inl ⟨ready, ?_, ?_, rfl⟩)⟩
        · intro cli written
          rw [init_eq_ok_iff.mpr written] at asked
          cases asked
        · cases exit with
          | help => exact .inl rfl
          | usage => exact .inr rfl
  · obtain ⟨text, ended⟩ := @exec_devkit_not_ready _ fs _ ready argv Trace.empty
    exact ⟨_, _, ended, .inr (.inr ⟨ready, rfl, rfl⟩)⟩

end Tooling
