import Garak.Build.Proofs.Configure
import Garak.Build.Workspace
import Garak.Tooling.Proofs.CommandLine
import Garak.Tooling.Proofs.CompileText
import Garak.Version.Proofs.Agreement

/-!
# Whole sessions

`Account` is what there is to know about a checkout without looking into it: which run of
`devkit` made the build directory and with which header, and which headers the build steps in
it have met. A session of the checkout is one of the account (`run_describes`), and
`sessions_end` says what library it leaves.
-/

namespace Build

open Cmake Pathlib Path Posix.Shell Tooling

/-! ## The account of a checkout -/

/-- The build directory. -/
structure Made where
  configuredBy : Invocation
  configuredFrom : Version.Header
  /-- the headers of the build steps in it, the latest first -/
  built : List Version.Header

/-- The checkout. -/
structure Account where
  header : Version.Header
  made : Option Made

/-- The entries `devkit` gives a configure step. -/
def compilerDefines (gnu : Bool) : List (String × String) :=
  [("CMAKE_CXX_COMPILER", (Compiler.compilersFor gnu).1),
    ("CMAKE_C_COMPILER", (Compiler.compilersFor gnu).2)]

/-- What the configure step generated. -/
def Made.generated (root : Path) (m : Made) : Option State :=
  generate m.configuredBy.tools.externals m.configuredBy.tools.files root
    (cacheOf (compilerDefines m.configuredBy.gnu)) m.configuredFrom

/-- One event. Only the first of several compilations configures. -/
def Account.step (settings : Settings) (a : Account) : Event → Account
  | .compile invocation =>
      if invocation.machine.Ready settings then
        let m := a.made.getD ⟨invocation, a.header, []⟩
        { a with made := some { m with built := a.header :: m.built } }
      else a
  | .edit header => { a with header := header }
  | .delete => { a with made := none }

/-- The build directory is as the account says. A library in it is that of one of the build
steps, and there was something to build it with. -/
structure Made.Describes (root : Path) (m : Made) (tree : Tree) : Prop where
  generated : tree.generated = m.generated root
  library : ∀ header, tree.library = some header → header ∈ m.built ∧ tree.generated.isSome

/-- So is the checkout. -/
structure Account.Describes (root : Path) (a : Account) (w : Workspace) : Prop where
  header : w.header = a.header
  tree : Option.Rel (Made.Describes root) a.made w.tree

theorem Account.Describes.tree_cases {root : Path} {a : Account} {w : Workspace}
    (described : a.Describes root w) :
    (a.made = none ∧ w.tree = none) ∨
      ∃ m tree, a.made = some m ∧ w.tree = some tree ∧ m.Describes root tree := by
  have related := described.tree
  cases made : a.made with
  | none =>
      cases found : w.tree with
      | none => exact .inl ⟨rfl, rfl⟩
      | some tree =>
          rw [made, found] at related
          cases related
  | some m =>
      cases found : w.tree with
      | none =>
          rw [made, found] at related
          cases related
      | some tree =>
          rw [made, found] at related
          cases related with
          | some describes => exact .inr ⟨m, tree, rfl, rfl, describes⟩

/-! ## One event -/

section Steps

variable {root : Path} {codename version : String}

/-- `devkit` sees whether there is a build directory. -/
theorem pathExists_workspace (root : Path) (w : Workspace) :
    (w.fs root).pathExists (projectBuildDir root) = .ok w.tree.isSome := by
  unfold Workspace.fs
  cases w.tree with
  | none => rfl
  | some tree => simp [Compiler.Disk.fs]

/-- The command that configures does what cmake is documented to do. -/
theorem runCommand_initBuild (invocation : Invocation)
    (documented : invocation.tools.AsDocumented root) {w : Workspace} (missing : w.tree = none) :
    runCommand invocation.env invocation.tools.runs w
        ((newCompiler (shipped root codename version) invocation.machine.toHost invocation.clang
          invocation.gnu).initBuildCommand (shipped root codename version)) =
      some { w with
        tree := some ⟨(Made.mk invocation w.header []).generated root, none⟩ } := by
  have words : Compiler.initBuildInvocation invocation.gnu =
      ["cmake", "-B", "build"] ++ defineWords (compilerDefines invocation.gnu) := by
    cases invocation.gnu <;> rfl
  have names : ∀ entry ∈ compilerDefines invocation.gnu, isEntryName entry.1 = true := by
    cases invocation.gnu <;> decide +kernel
  rw [runCommand_of_runsAs Compiler.initBuild_runsAs, words,
    documented.configures w _ missing names]
  rfl

/-- After a build step the build directory is as the account says that takes note of it. -/
theorem runCommand_make (invocation : Invocation)
    (documented : invocation.tools.AsDocumented root) {w : Workspace} {m : Made} {tree : Tree}
    (there : w.tree = some tree) (described : m.Describes root tree) :
    ∃ after, runCommand invocation.env invocation.tools.runs w
        ((newCompiler (shipped root codename version) invocation.machine.toHost invocation.clang
          invocation.gnu).makeCommand (shipped root codename version)) =
        some { w with tree := some after } ∧
      Made.Describes root { m with built := w.header :: m.built } after := by
  obtain ⟨library, outcome, ran⟩ := documented.builds w tree invocation.machine.nproc there
  refine ⟨⟨tree.generated, library⟩, ?_, described.generated, fun header found => ?_⟩
  · rw [runCommand_of_runsAs (Compiler.make_runsAs_iff.mpr invocation.plain)]
    exact congrArg some ran
  · dsimp only at found ⊢
    rcases outcome with same | ⟨generated, now⟩
    · obtain ⟨earlier, generated⟩ := described.library header (same ▸ found)
      exact ⟨List.mem_cons_of_mem _ earlier, generated⟩
    · obtain rfl := Option.some.inj (now.symm.trans found)
      exact ⟨List.mem_cons_self .., generated⟩

section Fold

variable {α β : Type} {f : β → α → Option β} {b b₁ b₂ : β} {a₁ a₂ : α}

theorem foldlM_single (first : f b a₁ = some b₁) : [a₁].foldlM f b = some b₁ := by
  rw [List.foldlM_cons, first]
  rfl

theorem foldlM_pair (first : f b a₁ = some b₁) (second : f b₁ a₂ = some b₂) :
    [a₁, a₂].foldlM f b = some b₂ := by
  rw [List.foldlM_cons, first]
  exact foldlM_single second

end Fold

/-- Cmake is as documented when the event starts it. -/
def Event.Documented (root : Path) : Event → Prop
  | .compile invocation => invocation.tools.AsDocumented root
  | .edit _ => True
  | .delete => True

/-- The checkout follows its account. -/
theorem step_describes {a : Account} {w : Workspace} (described : a.Describes root w) (event : Event)
    (documented : event.Documented root) :
    ∃ after, step (shipped root codename version) w event = some after ∧
      (a.step (shipped root codename version) event).Describes root after := by
  cases event with
  | edit header => exact ⟨_, rfl, rfl, described.tree⟩
  | delete => exact ⟨_, rfl, described.header, .none⟩
  | compile invocation =>
      have present : (w.fs (shipped root codename version).projectRoot).pathExists
          (shipped root codename version).projectBuildDir = .ok w.tree.isSome :=
        pathExists_workspace root w
      rw [step, commands_of_init _ _ invocation.asks, Account.step]
      split
      · rw [plan, compilePlan, present]
        rcases described.tree_cases with ⟨missing, absent⟩ | ⟨m, tree, made, there, describes⟩
        · have empty : Made.Describes root ⟨invocation, a.header, []⟩
              ⟨(Made.mk invocation w.header []).generated root, none⟩ :=
            ⟨by rw [described.header], fun header none => by cases none⟩
          have first := @runCommand_initBuild root codename version invocation documented w absent
          obtain ⟨after, second, describes⟩ := @runCommand_make root codename version invocation
            documented { w with tree := some ⟨(Made.mk invocation w.header []).generated root, none⟩ }
            _ _ rfl empty
          rw [missing, absent]
          exact ⟨_, foldlM_pair first second, described.header, .some (described.header ▸ describes)⟩
        · obtain ⟨after, ran, describes'⟩ := @runCommand_make root codename version invocation
            documented w m tree there describes
          rw [made, there]
          exact ⟨_, foldlM_single ran, described.header, .some (described.header ▸ describes')⟩
      · exact ⟨w, rfl, described⟩

/-- A whole session: the checkout follows its account, and nothing `devkit` hands to a shell
is more than the model knows. -/
theorem run_describes {a : Account} {w : Workspace} (described : a.Describes root w)
    {events : List Event} (documented : ∀ event ∈ events, event.Documented root) :
    ∃ after, run (shipped root codename version) w events = some after ∧
      (Runs.run (Account.step (shipped root codename version)) a events).Describes root after := by
  induction events generalizing a w with
  | nil => exact ⟨w, rfl, described⟩
  | cons event events ih =>
      obtain ⟨here, later⟩ := List.forall_mem_cons.mp documented
      obtain ⟨middle, first, described'⟩ :=
        @step_describes root codename version a w described event here
      obtain ⟨after, rest, described''⟩ := ih described' later
      refine ⟨after, ?_, described''⟩
      rw [run, List.foldlM_cons, first]
      exact rest

end Steps

/-! ## The library a session leaves -/

section Library

variable {root : Path} {settings : Settings}

/-- What a configure step generates. -/
theorem generate_spec {externals : Externals} {files : String → Option String} {cache : Entries}
    {header : Version.Header} {s : State}
    (generated : generate externals files root cache header = some s) :
    ∃ id vars, externals.identify (cache "CMAKE_CXX_COMPILER") = .ok id ∧
      Version.Cmake.getVersion header.text = .ok vars ∧
      Holds (colours id) (projectTargets root (projectBuildDir root) cache id vars)
        (garakInstalls root) (garakTests cache) s := by
  have present : Function.update files (headerFile root) (some header.text)
      (garakDir root ++ "/include/garak/version.hpp") = some header.text :=
    Function.update_self ..
  have ends := @projectLists_ends root (projectBuildDir root) cache _ _ externals present
  unfold generate at generated
  rcases exec_cases (projectLists externals) (initial root.str (projectBuildDir root).str
    cache (Function.update files (headerFile root) (some header.text)))
    with ⟨a, s', ran⟩ | ⟨e, s', ran⟩
  · rw [ran] at generated
    obtain ⟨id, vars, identified, read, -, holds⟩ := (ends_ok_iff ran).mp ends
    refine ⟨id, vars, identified, read, ?_⟩
    dsimp only at generated
    split at generated
    · cases generated
    · cases generated
      exact holds
  · rw [ran] at generated
    cases generated

theorem projectTargets_garak (source binary : Path) (cache : Entries) (id : String)
    (vars : Version.Cmake.Variables) :
    projectTargets source binary cache id vars "garak" =
      some (libraryTarget source binary (colours id) vars) := by
  unfold projectTargets garakTargets putIf
  split
  · rw [Function.update_of_ne (by decide), Function.update_self]
  · rw [Function.update_self]

/-- The file the library is in and the name it is loaded by go back to the header of the
configure step. -/
theorem fileVersion_of_generated {m : Made} {s : State} (generated : m.generated root = some s)
    {w : Workspace} {tree : Tree} (there : w.tree = some tree) (same : tree.generated = some s) :
    ∃ vars, Version.Cmake.getVersion m.configuredFrom.text = .ok vars ∧
      w.fileVersion = some vars.version ∧ w.soVersion = some vars.vmajor := by
  obtain ⟨id, vars, -, read, holds⟩ := generate_spec generated
  have library : s.targets "garak" = some (libraryTarget root (projectBuildDir root) (colours id)
      vars) :=
    (holds.targets _ (by decide)).trans (projectTargets_garak ..)
  refine ⟨vars, read, ?_, ?_⟩
  · simp [Workspace.fileVersion, there, same, library, libraryTarget]
  · have found : [("VERSION", vars.version), ("SOVERSION", vars.vmajor)].lookup "SOVERSION" =
        some vars.vmajor := rfl
    simp [Workspace.soVersion, there, same, library, libraryTarget, found]

theorem reports_of_tree {w : Workspace} {tree : Tree} (there : w.tree = some tree) :
    w.reports = tree.library.map Version.Garak.getVersion := by
  cases library : tree.library <;> simp [Workspace.reports, there, library]

/-- An existing build directory is only compiled in while the header is the one it was
configured from. -/
def Fresh (a : Account) : Event → Prop
  | .compile _ => ∀ m, a.made = some m → m.configuredFrom = a.header
  | .edit _ => True
  | .delete => True

theorem fresh_of_missing {a : Account} (missing : a.made = none) (invocation : Invocation) :
    Fresh a (.compile invocation) := by
  intro m made
  rw [missing] at made
  cases made

/-- The two readers agree on all headers the account knows, and the build steps have met the
header the build directory was configured from, and no other. -/
structure Account.Current (a : Account) : Prop where
  header : Version.Agreement a.header
  configured : ∀ m, a.made = some m → Version.Agreement m.configuredFrom
  built : ∀ m, a.made = some m → ∀ header ∈ m.built, header = m.configuredFrom

theorem current_start {start : Version.Header} (readable : Version.Agreement start) :
    (Account.mk start none).Current where
  header := readable
  configured m made := by cases made
  built m made := by cases made

theorem current_step (a : Account) (event : Event) (current : a.Current)
    (allowed : Fresh a event ∧ ∀ header, event = .edit header → Version.Agreement header) :
    (a.step settings event).Current := by
  obtain ⟨fresh, readable⟩ := allowed
  cases event with
  | edit header => exact ⟨readable header rfl, current.configured, current.built⟩
  | delete =>
      have nothing : ∀ m : Made, (a.step settings .delete).made ≠ some m :=
        fun _ => Option.some_ne_none _ ∘ Eq.symm
      exact ⟨current.header, fun m made => absurd made (nothing m),
        fun m made => absurd made (nothing m)⟩
  | compile invocation =>
      rw [Account.step]
      split
      · refine ⟨current.header, fun m made => ?_, fun m made header built => ?_⟩
        · obtain rfl := Option.some.inj made
          cases existing : a.made with
          | none => exact current.header
          | some m => exact current.configured m existing
        · obtain rfl := Option.some.inj made
          rcases List.mem_cons.mp built with rfl | earlier
          · cases existing : a.made with
            | none => rfl
            | some m => exact (fresh m existing).symm
          · cases existing : a.made with
            | none =>
                rw [existing] at earlier
                cases earlier
            | some m =>
                rw [existing] at earlier
                exact current.built m existing header earlier
      · exact current

end Library

/-! ## Sessions -/

section Sessions

variable (root : Path) (codename version : String) (start : Version.Header)

/-- The account after a session that began without a build directory. -/
def accountOf (settings : Settings) (events : List Event) : Account :=
  Runs.run (Account.step settings) ⟨start, none⟩ events

/-- Every session, with any edits, deletions and runs of `devkit`, each with its own machine
and tools: what it leaves behind goes back to the header and the run that made the build
directory. Names and targets of the library are theirs; what it reports is a header that a
build step has met since. After a configure step that failed there is no library, whatever is
run before the next deletion. -/
theorem sessions_end (events : List Event)
    (documented : ∀ event ∈ events, event.Documented root) :
    ∃ w, run (shipped root codename version) ⟨start, none⟩ events = some w ∧
      w.header = (accountOf start (shipped root codename version) events).header ∧
      (w.tree.isSome ↔ (accountOf start (shipped root codename version) events).made.isSome) ∧
      ∀ m, (accountOf start (shipped root codename version) events).made = some m →
        (∀ reported, w.reports = some reported →
          ∃ header ∈ m.built, reported = Version.Garak.getVersion header) ∧
        ((m.generated root = none ∧ w.fileVersion = none ∧ w.reports = none) ∨
          ∃ s id vars, w.tree.bind Tree.generated = some s ∧
            m.configuredBy.tools.externals.identify
              (some (Compiler.compilersFor m.configuredBy.gnu).1) = .ok id ∧
            Version.Cmake.getVersion m.configuredFrom.text = .ok vars ∧
            w.fileVersion = some vars.version ∧ w.soVersion = some vars.vmajor ∧
            ∀ name ∈ own.targets, s.targets name =
              projectTargets root (projectBuildDir root)
                (cacheOf (compilerDefines m.configuredBy.gnu)) id vars name) := by
  obtain ⟨w, ended, described⟩ := @run_describes root codename version ⟨start, none⟩
    ⟨start, none⟩ ⟨rfl, .none⟩ events documented
  refine ⟨w, ended, described.header, ?_, fun m made => ?_⟩
  · unfold accountOf
    rcases described.tree_cases with ⟨missing, absent⟩ | ⟨m, tree, made, there, -⟩
    · simp [missing, absent]
    · simp [made, there]
  unfold accountOf at made
  rcases described.tree_cases with ⟨missing, -⟩ | ⟨m', tree, made', there, describes⟩
  · rw [missing] at made
    cases made
  obtain rfl := Option.some.inj (made.symm.trans made')
  refine ⟨fun reported reads => ?_, ?_⟩
  · rw [reports_of_tree there] at reads
    obtain ⟨header, library, rfl⟩ := Option.map_eq_some_iff.mp reads
    exact ⟨header, (describes.library header library).1, rfl⟩
  · cases generated : m.generated root with
    | none =>
        have nothing : tree.generated = none := describes.generated.trans generated
        have unbuilt : tree.library = none := by
          cases built : tree.library with
          | none => rfl
          | some header =>
              have there := (describes.library header built).2
              rw [nothing] at there
              cases there
        refine .inl ⟨rfl, ?_, ?_⟩
        · simp [Workspace.fileVersion, there, nothing]
        · rw [reports_of_tree there, unbuilt]
          rfl
    | some s =>
        have same : tree.generated = some s := describes.generated.trans generated
        obtain ⟨id, vars, identified, read, holds⟩ := generate_spec generated
        obtain ⟨vars', read', file, so⟩ := fileVersion_of_generated generated there same
        obtain rfl := Except.ok.inj (read.symm.trans read')
        have kept : w.tree.bind Tree.generated = some s := by rw [there]; exact same
        exact .inr ⟨s, id, vars, kept, identified, read, file, so, holds.targets⟩

/-- Where the readers agree on every header of the session, and the build directory is deleted
before a compilation that would meet another header than the one it was configured from, the
names of the library are those of the version it reports. -/
theorem fresh_sessions_agree (events : List Event)
    (documented : ∀ event ∈ events, event.Documented root)
    (fresh : Runs.Along (Account.step (shipped root codename version)) Fresh ⟨start, none⟩ events)
    (readable : Version.Agreement start ∧ ∀ header, Event.edit header ∈ events →
      Version.Agreement header) :
    ∃ w, run (shipped root codename version) ⟨start, none⟩ events = some w ∧
      ∀ reported, w.reports = some reported → w.fileVersion = some reported ∧
        ∃ header, reported = Version.Garak.getVersion header ∧
          w.soVersion = some (Version.Garak.toStdString (header.value .vmajor)) := by
  obtain ⟨w, ended, described⟩ := @run_describes root codename version ⟨start, none⟩
    ⟨start, none⟩ ⟨rfl, .none⟩ events documented
  refine ⟨w, ended, fun reported reports => ?_⟩
  have current : (Runs.run (Account.step (shipped root codename version)) ⟨start, none⟩
      events).Current := by
    refine Runs.invariant current_step (current_start readable.1) fun earlier event later split => ?_
    refine ⟨fresh earlier event later split, fun header edits => readable.2 header ?_⟩
    rw [split, ← edits]
    exact List.mem_append_right _ (List.mem_cons_self ..)
  rcases described.tree_cases with ⟨-, absent⟩ | ⟨m, tree, made, there, describes⟩
  · simp [Workspace.reports, absent] at reports
  rw [reports_of_tree there] at reports
  obtain ⟨header, library, rfl⟩ := Option.map_eq_some_iff.mp reports
  obtain ⟨built, generated⟩ := describes.library header library
  obtain rfl := current.built m made header built
  obtain ⟨s, same⟩ := Option.isSome_iff_exists.mp generated
  obtain ⟨vars, read, file, so⟩ := fileVersion_of_generated (describes.generated.symm.trans same)
    there same
  obtain ⟨versions, majors⟩ := current.configured m made vars read
  exact ⟨versions ▸ file, m.configuredFrom, rfl, majors ▸ so⟩

end Sessions

theorem unsuffixed : "" ∈ Version.suffixes := by decide

/-- A header with a major version and nothing else to it. -/
def sampleVersion (major : Fin 9) : Version.Header where
  literal m :=
    if m = .vmajor then ⟨.decimal major [], "", unsuffixed⟩ else ⟨.octal [], "", unsuffixed⟩
  layout _ := .plain
  lines := [.define .vmajor, .define .vminor, .define .vpatch]
  fits m := by
    cases m with
    | vmajor => exact Nat.le_trans major.isLt (by decide)
    | vminor => exact Nat.zero_le _
    | vpatch => exact Nat.zero_le _
  once m := by cases m <;> decide

theorem sampleVersion_agreement (major : Fin 9) : Version.Agreement (sampleVersion major) := by
  have read : ∀ major, Version.Cmake.getVersion (sampleVersion major).text =
      .ok ⟨Version.Garak.toStdString ((sampleVersion major).value .vmajor), "0", "0",
        Version.Garak.getVersion (sampleVersion major)⟩ := by
    decide +kernel
  intro vars result
  obtain rfl := Except.ok.inj ((read major).symm.trans result)
  exact ⟨rfl, rfl⟩

/-- The entries of words that give them. -/
def definesOf (entries : Entries) : List String → Entries
  | "-D" :: word :: words =>
      definesOf
        (Function.update entries (String.ofList (word.toList.takeWhile (· ≠ '=')))
          (some (String.ofList ((word.toList.dropWhile (· ≠ '=')).drop 1)))) words
  | _ => entries

theorem definesOf_defineWords {entries : List (String × String)}
    (names : ∀ entry ∈ entries, isEntryName entry.1 = true) (cache : Entries) :
    definesOf cache (defineWords entries) =
      entries.foldl (fun (cache : Entries) entry =>
        Function.update cache entry.1 (some entry.2)) cache := by
  induction entries generalizing cache with
  | nil => rfl
  | cons entry entries ih =>
      obtain ⟨named, rest⟩ := List.forall_mem_cons.mp names
      obtain ⟨key, value⟩ := entry
      simp only [isEntryName, Bool.and_eq_true, List.all_eq_true] at named
      have kept : ∀ c ∈ key.toList, decide (c ≠ '=') = true := by
        intro c member
        refine decide_eq_true ?_
        rintro rfl
        exact absurd (named.2 '=' member) (by decide)
      have words : defineWords ((key, value) :: entries) =
          "-D" :: (key ++ "=" ++ value) :: defineWords entries := rfl
      have before : (key ++ "=" ++ value).toList.takeWhile (· ≠ '=') = key.toList ∧
          ((key ++ "=" ++ value).toList.dropWhile (· ≠ '=')).drop 1 = value.toList := by
        simp only [String.toList_append, List.append_assoc]
        rw [List.takeWhile_append_of_pos kept, List.dropWhile_append_of_pos kept]
        exact ⟨List.append_nil _, rfl⟩
      rw [words, definesOf, before.1, before.2, String.ofList_toList, String.ofList_toList, ih rest]
      rfl

/-- Tools that build whatever they are given, to the end. -/
def sampleTools (root : Path) : Toolchain where
  externals := sampleExternals
  files _ := none
  runs words w :=
    match words with
    | "cmake" :: "-B" :: "build" :: rest =>
        if w.tree.isNone then
          { w with
            tree := some ⟨generate sampleExternals (fun _ => none) root
              (definesOf (fun _ => none) rest) w.header, none⟩ }
        else w
    | "cmake" :: "--build" :: "build" :: _ =>
        { w with
          tree := w.tree.map fun tree =>
            if tree.generated.isSome then { tree with library := some w.header } else tree }
    | _ => w

theorem sampleTools_documented (root : Path) : (sampleTools root).AsDocumented root where
  configures w entries missing names := by
    have isNew : w.tree.isNone = true := by rw [missing]; rfl
    have cache := definesOf_defineWords names fun _ => none
    simp only [sampleTools, List.cons_append, List.nil_append, isNew, if_true, cache]
    rfl
  builds w tree jobs there := by
    by_cases generated : tree.generated.isSome = true
    · refine ⟨some w.header, .inr ⟨generated, rfl⟩, ?_⟩
      simp [sampleTools, there, generated]
    · refine ⟨tree.library, .inl rfl, ?_⟩
      simp [sampleTools, there, generated]

/-- `devkit compile --gnu` -/
def sampleInvocation : Invocation where
  machine := { workstation with bash := true, isDecimal := Char.isDigit }
  argv := (Cli.compile false true).argv
  clang := false
  gnu := true
  asks := init_eq_ok_iff.mpr (written_argv _)
  plain := isPlain_iff.mp (by decide)
  env _ := emptyEnv
  tools := sampleTools (parse "/srv/libgarak")

/-- The header is edited, and the build directory deleted before the next compilation. -/
def sampleEvents : List Event :=
  [.compile sampleInvocation, .edit (sampleVersion (Fin.last 8)), .delete, .compile sampleInvocation]

theorem sampleEvents_documented :
    ∀ event ∈ sampleEvents, event.Documented (parse "/srv/libgarak") := by
  have tools := sampleTools_documented (parse "/srv/libgarak")
  simp only [sampleEvents, List.forall_mem_cons]
  exact ⟨tools, trivial, trivial, tools, List.forall_mem_nil _⟩

theorem sessions_end_sample :
    ∃ w, run (shipped (parse "/srv/libgarak") "jammy" "22.04") ⟨sampleVersion 0, none⟩ sampleEvents =
        some w ∧
      ∀ m, (accountOf (sampleVersion 0) (shipped (parse "/srv/libgarak") "jammy" "22.04")
          sampleEvents).made = some m →
        ∀ reported, w.reports = some reported →
          ∃ header ∈ m.built, reported = Version.Garak.getVersion header := by
  obtain ⟨w, ended, -, -, left⟩ := sessions_end (parse "/srv/libgarak") "jammy" "22.04"
    (sampleVersion 0) sampleEvents sampleEvents_documented
  exact ⟨w, ended, fun m made => (left m made).1⟩

theorem fresh_sessions_agree_sample :
    ∃ w, run (shipped (parse "/srv/libgarak") "jammy" "22.04") ⟨sampleVersion 0, none⟩ sampleEvents =
        some w ∧
      ∀ reported, w.reports = some reported → w.fileVersion = some reported ∧
        ∃ header, reported = Version.Garak.getVersion header ∧
          w.soVersion = some (Version.Garak.toStdString (header.value .vmajor)) := by
  refine fresh_sessions_agree (parse "/srv/libgarak") "jammy" "22.04" (sampleVersion 0) _
    sampleEvents_documented ?_ ⟨sampleVersion_agreement 0, ?_⟩
  · refine Runs.along_cons.mpr ⟨fresh_of_missing rfl _, ?_⟩
    refine Runs.along_cons.mpr ⟨trivial, Runs.along_cons.mpr ⟨trivial, ?_⟩⟩
    exact Runs.along_cons.mpr ⟨fresh_of_missing rfl _, Runs.along_nil _⟩
  · intro header edited
    obtain rfl : header = sampleVersion (Fin.last 8) := by simpa [sampleEvents] using edited
    exact sampleVersion_agreement (Fin.last 8)

end Build
