import Garak.Tooling.Proofs.Calls
import Garak.Tooling.Proofs.Selection
import Std.Data.String.ToNat

/-!
# Several calls on one object

The three lists of a `Clang` object are never emptied, so a call works on what every
earlier call collected as well. `reuseLaw_iff` says for which trees, settings and
sequences of calls nobody can tell.
-/

namespace Tooling.Clang

open Pathlib Path

variable {settings : Settings} {fs : FileSystem} {host : Host}

/-- A call of one of the two public methods. -/
inductive Call
  | format
  | lint
deriving DecidableEq

/-- The ignore type a method asks for. -/
def Call.tool : Call → IgnoreType
  | .format => .clangFormat
  | .lint => .clangTidy

/-- Make a call. -/
def call (settings : Settings) (fs : FileSystem) (host : Host) (self : Clang) : Call → Proc Clang
  | .format => self.format settings fs host
  | .lint => self.lint settings fs host

/-- Make calls in order, on one object. -/
def session (settings : Settings) (fs : FileSystem) (host : Host) (self : Clang)
    (calls : List Call) : Proc Clang :=
  calls.foldlM (call settings fs host) self

/-- What one call shows: the commands it issued and the warnings it wrote, which are
its count of ignored files. -/
structure Report where
  commands : List String
  warnings : List String
deriving DecidableEq

/-- The report of a call made after others on one object, with the object it leaves. -/
def observe (settings : Settings) (fs : FileSystem) (host : Host) (self : Clang)
    (earlier : List Call) (c : Call) : Except PyError (Clang × Report) :=
  match (session settings fs host self earlier).exec Trace.empty with
  | (.error e, _) => .error e
  | (.ok self, before) =>
      match (call settings fs host self c).exec before with
      | (.error e, _) => .error e
      | (.ok self, after) =>
          .ok (self,
            { commands := after.commands.drop before.commands.length
              warnings := after.warnings.drop before.warnings.length })

/-! ## One call, then a sequence -/

/-- The commands a call runs on the object it leaves. -/
def callCommands (self : Clang) : Call → List String
  | .format => self.formatCommands
  | .lint => [self.lintCommand]

/-- A call always returns, and adds its commands and one warning. -/
theorem exec_call (self : Clang) (c : Call) (trace : Trace) :
    ∃ after, (call settings fs host self c).exec trace =
        (.ok (aggregated settings fs c.tool self), after) ∧
      after.commands = trace.commands ++ (aggregated settings fs c.tool self).callCommands c ∧
      after.warnings = trace.warnings ++ [(aggregated settings fs c.tool self).ignoredText] := by
  cases c with
  | format =>
      refine ⟨_, exec_format self trace, ?_, ?_⟩
      · rw [Trace.say_commands, Trace.issueAll_commands, Trace.say_commands]
        rfl
      · rw [Trace.warn_warnings, Trace.issueAll_warnings, Trace.say_warnings _ (by decide)]
        rfl
  | lint =>
      refine ⟨_, exec_lint self trace, ?_, ?_⟩
      · rw [Trace.say_commands, Trace.issueAll_commands, Trace.say_commands]
        rfl
      · rw [Trace.warn_warnings, Trace.issueAll_warnings, Trace.say_warnings _ (by decide)]
        rfl

/-- The object after a sequence of calls: every call has appended its own files. -/
def afterCalls (settings : Settings) (fs : FileSystem) (self : Clang) (calls : List Call) : Clang :=
  self.extend (calls.flatMap fun c => addedSources settings fs c.tool)
    (calls.flatMap fun c => addedCmakes settings fs c.tool)
    (calls.flatMap fun c => addedIgnored settings fs c.tool)

theorem afterCalls_concat (self : Clang) (calls : List Call) (c : Call) :
    aggregated settings fs c.tool (afterCalls settings fs self calls) =
      afterCalls settings fs self (calls ++ [c]) := by
  simp [afterCalls, aggregated, extend_extend]

theorem exec_session (self : Clang) (calls : List Call) (trace : Trace) :
    ∃ after, (session settings fs host self calls).exec trace =
      (.ok (afterCalls settings fs self calls), after) := by
  induction calls generalizing self trace with
  | nil => exact ⟨trace, by simp [session, afterCalls]⟩
  | cons c calls ih =>
      obtain ⟨middle, first, -, -⟩ := @exec_call settings fs host self c trace
      obtain ⟨after, rest⟩ := ih (aggregated settings fs c.tool self) middle
      refine ⟨after, ?_⟩
      have first' : (call settings fs host self c).exec trace =
          (.ok (aggregated settings fs c.tool self), middle) := first
      unfold session at rest ⊢
      rw [List.foldlM_cons, Proc.exec_bind_ok first', rest]
      simp [afterCalls, aggregated, extend_extend]

/-- A report in terms of the object the call leaves. -/
theorem observe_eq (self : Clang) (earlier : List Call) (c : Call) :
    observe settings fs host self earlier c =
      .ok (afterCalls settings fs self (earlier ++ [c]),
        { commands := (afterCalls settings fs self (earlier ++ [c])).callCommands c
          warnings := [(afterCalls settings fs self (earlier ++ [c])).ignoredText] }) := by
  obtain ⟨before, ran⟩ := @exec_session settings fs host self earlier Trace.empty
  obtain ⟨after, called, commands, warnings⟩ :=
    @exec_call settings fs host (afterCalls settings fs self earlier) c before
  unfold observe
  rw [ran]
  simp only
  rw [called]
  simp only [commands, warnings, List.drop_left, afterCalls_concat]

/-! ## What a report gives away -/

/-- The call `before` collects nothing that a later call `c` on the same object shows:
there are no C++ files at all, `before` ignores no text file, and where `c` formats
there are no text files either. -/
def Quiet (settings : Settings) (fs : FileSystem) (before c : Call) : Prop :=
  ∀ project ∈ settings.projects,
    fs.rglob project ".cpp" = [] ∧ fs.rglob project ".hpp" = [] ∧
      (∀ file ∈ fs.rglob project ".txt", legal settings before.tool project file = true) ∧
      (c = .format → fs.rglob project ".txt" = [])

theorem quiet_iff (before c : Call) :
    Quiet settings fs before c ↔
      addedSources settings fs before.tool = [] ∧ addedIgnored settings fs before.tool = [] ∧
        (c = .format → addedCmakes settings fs before.tool = []) := by
  constructor
  · intro quiet
    refine ⟨?_, ?_, fun formats => ?_⟩
    · apply List.flatMap_eq_nil_iff.mpr
      intro project member
      obtain ⟨cpp, hpp, -, -⟩ := quiet project member
      simp [projectSources, cpp, hpp]
    · apply List.flatMap_eq_nil_iff.mpr
      intro project member
      obtain ⟨cpp, hpp, txt, -⟩ := quiet project member
      simpa [projectIgnored, projectEntries, cpp, hpp] using txt
    · apply List.flatMap_eq_nil_iff.mpr
      intro project member
      obtain ⟨-, -, -, none⟩ := quiet project member
      simp [projectCmakes, none formats]
  · rintro ⟨sources, ignored, cmakes⟩ project member
    -- what is neither kept nor ignored was never enumerated
    have kept : projectSources settings fs before.tool project = [] :=
      List.flatMap_eq_nil_iff.mp sources project member
    have none : projectIgnored settings fs before.tool project = [] :=
      List.flatMap_eq_nil_iff.mp ignored project member
    have legalAll : ∀ file ∈ projectEntries fs project,
        legal settings before.tool project file = true := by
      intro file entry
      simpa using List.filter_eq_nil_iff.mp none file entry
    have noSource : fs.rglob project ".cpp" ++ fs.rglob project ".hpp" = [] := by
      apply List.eq_nil_iff_forall_not_mem.mpr
      intro file listed
      exact List.filter_eq_nil_iff.mp kept file listed
        (legalAll file (List.mem_append_left _ listed))
    obtain ⟨cpp, hpp⟩ := List.append_eq_nil_iff.mp noSource
    refine ⟨cpp, hpp, fun file listed => legalAll file (List.mem_append_right _ listed), ?_⟩
    intro formats
    have keptTxt : projectCmakes settings fs before.tool project = [] :=
      List.flatMap_eq_nil_iff.mp (cmakes formats) project member
    apply List.eq_nil_iff_forall_not_mem.mpr
    intro file listed
    exact List.filter_eq_nil_iff.mp keptTxt file listed
      (legalAll file (List.mem_append_right _ listed))

/-- The list of files is longer, the more files it names. -/
theorem lintFiles_append_cancel {before own after : List Path}
    (same : lintFiles (before ++ own ++ after) = lintFiles (before ++ after)) : own = [] := by
  have length := congrArg (fun text => text.toList.length) same
  simp only [lintFiles_toList, List.flatMap_append, List.length_append] at length
  have atLeast := length_le_lintFiles own
  rw [← String.length_toList, lintFiles_toList] at atLeast
  exact List.eq_nil_of_length_eq_zero (by omega)

theorem ignoredText_inj {first second : Clang} (same : first.ignoredText = second.ignoredText) :
    first.ignoredFiles.length = second.ignoredFiles.length := by
  have chars := congrArg String.toList same
  simp only [ignoredText, String.toList_append, List.append_cancel_right_eq,
    List.append_cancel_left_eq] at chars
  exact Nat.repr_inj.mp (String.toList_inj.mp chars)

/-- A call reports what it reports on the object as it was exactly when nothing the
calls in between collected shows. -/
theorem report_eq_iff (self : Clang) (earlier : List Call) (c : Call) :
    (observe settings fs host self earlier c).map Prod.snd =
        (observe settings fs host self [] c).map Prod.snd ↔
      ∀ before ∈ earlier, Quiet settings fs before c := by
  rw [observe_eq, observe_eq]
  simp only [Except.map, Except.ok.injEq, Report.mk.injEq, List.cons.injEq, and_true,
    List.nil_append]
  constructor
  · intro given
    obtain ⟨commands, warnings⟩ := given
    have ignored := ignoredText_inj warnings
    simp only [afterCalls, extend_ignoredFiles, List.flatMap_append, List.flatMap_singleton,
      List.length_append] at ignored
    have noIgnored : (earlier.flatMap fun c => addedIgnored settings fs c.tool) = [] :=
      List.eq_nil_of_length_eq_zero (by omega)
    have noFiles : (earlier.flatMap fun c => addedSources settings fs c.tool) = [] ∧
        (c = .format → (earlier.flatMap fun c => addedCmakes settings fs c.tool) = []) := by
      cases c with
      | format =>
          have length := congrArg List.length commands
          simp only [callCommands, formatCommands, afterCalls, extend_sourceFiles,
            extend_cmakeFiles, List.flatMap_append, List.flatMap_singleton, List.length_append,
            List.length_map] at length
          exact ⟨List.eq_nil_of_length_eq_zero (by omega),
            fun _ => List.eq_nil_of_length_eq_zero (by omega)⟩
      | lint =>
          refine ⟨?_, fun formats => by cases formats⟩
          have text := congrArg String.toList (List.head_eq_of_cons_eq commands)
          simp only [lintCommand, String.toList_append, List.append_cancel_left_eq, afterCalls,
            extend, List.flatMap_append, List.flatMap_singleton] at text
          rw [← List.append_assoc] at text
          exact lintFiles_append_cancel (String.toList_inj.mp text)
    intro before member
    refine (quiet_iff before c).mpr ⟨?_, ?_, fun formats => ?_⟩
    · exact List.flatMap_eq_nil_iff.mp noFiles.1 before member
    · exact List.flatMap_eq_nil_iff.mp noIgnored before member
    · exact List.flatMap_eq_nil_iff.mp (noFiles.2 formats) before member
  · intro quiet
    have sources : (earlier.flatMap fun c => addedSources settings fs c.tool) = [] :=
      List.flatMap_eq_nil_iff.mpr fun before member => ((quiet_iff _ _).mp (quiet before member)).1
    have ignored : (earlier.flatMap fun c => addedIgnored settings fs c.tool) = [] :=
      List.flatMap_eq_nil_iff.mpr fun before member =>
        ((quiet_iff _ _).mp (quiet before member)).2.1
    have cmakes : c = .format → (earlier.flatMap fun c => addedCmakes settings fs c.tool) = [] :=
      fun formats => List.flatMap_eq_nil_iff.mpr fun before member =>
        ((quiet_iff _ _).mp (quiet before member)).2.2 formats
    constructor
    · cases c with
      | format =>
          simp [callCommands, formatCommands, afterCalls, extend, sources, cmakes rfl, ignored]
      | lint =>
          simp [callCommands, lintCommand, afterCalls, extend, sources]
    · simp [ignoredText, afterCalls, ignored]

/-! ## The law of reuse -/

/-- The ignore lists of a tool name the file, or a directory between it and the
project. -/
def Excluded (settings : Settings) (ignoreType : IgnoreType) (project file : Path) : Prop :=
  file ∈ ignoreFile settings ignoreType ∨ InDir (ignoreDir settings ignoreType) project file

/-- What a developer may expect of calls made in a row on a new object. -/
structure ReuseLaw (settings : Settings) (fs : FileSystem) (host : Host) (clang : Clang)
    (calls : List Call) : Prop where
  /-- every call reports what it would report on a new object -/
  sameAsFresh : ∀ earlier c later, calls = earlier ++ c :: later →
    (observe settings fs host clang earlier c).map Prod.snd =
      (observe settings fs host clang [] c).map Prod.snd
  /-- `devkit clang --format --lint` lints the files legal for the linter, each once -/
  lintAfterFormat : calls = [.format, .lint] →
    ∃ after report, observe settings fs host clang [.format] .lint = .ok (after, report) ∧
      report.commands = [after.lintCommand] ∧ after.sourceFiles.Nodup ∧
      ∀ file, file ∈ after.sourceFiles ↔ ∃ project ∈ settings.projects,
        file ∈ fs.rglob project ".cpp" ++ fs.rglob project ".hpp" ∧
          legal settings .clangTidy project file = true
  /-- no `format` rewrites a file that the lists of the formatter exclude -/
  formatKeepsOff : ∀ earlier later, calls = earlier ++ .format :: later →
    ∃ after report, observe settings fs host clang earlier .format = .ok (after, report) ∧
      report.commands = after.formatCommands ∧
      ∀ file ∈ after.sourceFiles ++ after.cmakeFiles, ∀ project ∈ settings.projects,
        file ∈ projectEntries fs project → ¬ Excluded settings .clangFormat project file

/-- No file that the lists of the formatter exclude, seen from one project, is let
through when it is visited from another. -/
def NeverOverruled (settings : Settings) (fs : FileSystem) : Prop :=
  ∀ project ∈ settings.projects, ∀ other ∈ settings.projects,
    ∀ file ∈ projectEntries fs project, file ∈ projectEntries fs other →
      legal settings .clangFormat project file = true →
        ¬ Excluded settings .clangFormat other file

theorem mem_added_iff {ignoreType : IgnoreType} {file : Path} :
    file ∈ addedSources settings fs ignoreType ++ addedCmakes settings fs ignoreType ↔
      ∃ project ∈ settings.projects, file ∈ projectEntries fs project ∧
        legal settings ignoreType project file = true := by
  simp only [addedSources, addedCmakes, projectSources, projectCmakes, projectEntries,
    List.mem_append, List.mem_flatMap, List.mem_filter]
  constructor
  · rintro (⟨project, member, listed, ok⟩ | ⟨project, member, listed, ok⟩)
    · exact ⟨project, member, .inl listed, ok⟩
    · exact ⟨project, member, .inr listed, ok⟩
  · rintro ⟨project, member, listed | listed, ok⟩
    · exact .inl ⟨project, member, listed, ok⟩
    · exact .inr ⟨project, member, listed, ok⟩

/-- Projects that share no entries overrule nothing. -/
theorem neverOverruled_of_separate (separate : Separate settings.projects) :
    NeverOverruled settings fs := by
  intro project member other memberOther file entry entryOther ok excluded
  have below := below_of_mem_projectEntries entry
  obtain rfl := project_unique separate member memberOther below
    (below_of_mem_projectEntries entryOther)
  obtain ⟨outside, notIgnored⟩ := (legal_iff below).mp ok
  rcases excluded with inFile | inDir
  · exact outside inFile
  · exact notIgnored ((@dirIgnored_iff _ .clangFormat _ _).mpr (.inl inDir))

/-- A new object may be used for a sequence of calls exactly when every call before
another one is quiet for it, and no project overrules another in what is formatted. -/
theorem reuseLaw_iff (settings : Settings) (fs : FileSystem) (host : Host)
    (cxxFormatter cmakeFormatter linter : Program) (calls : List Call) :
    ReuseLaw settings fs host (init cxxFormatter cmakeFormatter linter) calls ↔
      (∀ earlier c later, calls = earlier ++ c :: later →
        ∀ before ∈ earlier, Quiet settings fs before c) ∧
      (.format ∈ calls → NeverOverruled settings fs) := by
  constructor
  · intro law
    refine ⟨fun earlier c later split => ?_, fun formats => ?_⟩
    · exact (report_eq_iff _ earlier c).mp (law.sameAsFresh earlier c later split)
    · obtain ⟨earlier, later, split⟩ := List.append_of_mem formats
      obtain ⟨after, report, observed, -, keepsOff⟩ := law.formatKeepsOff earlier later split
      rw [observe_eq] at observed
      obtain ⟨rfl, -⟩ := Prod.mk.inj (Except.ok.inj observed)
      intro project member other memberOther file entry entryOther ok
      refine keepsOff file ?_ other memberOther entryOther
      have added := mem_added_iff.mpr ⟨project, member, entry, ok⟩
      simp only [afterCalls, extend, List.flatMap_append, List.flatMap_singleton, Call.tool]
      rcases List.mem_append.mp added with source | cmake
      · exact List.mem_append_left _ (List.mem_append_right _ (List.mem_append_right _ source))
      · exact List.mem_append_right _ (List.mem_append_right _ (List.mem_append_right _ cmake))
  · intro given
    obtain ⟨quiet, neverOverruled⟩ := given
    refine ⟨fun earlier c later split => ?_, fun both => ?_, fun earlier later split => ?_⟩
    · exact (report_eq_iff _ earlier c).mpr (quiet earlier c later split)
    · -- `format` is quiet for `lint`, so there is nothing to lint
      have empty : Quiet settings fs .format .lint :=
        quiet [.format] .lint [] both .format (List.mem_singleton_self _)
      have none : ∀ tool, addedSources settings fs tool = [] := by
        intro tool
        apply List.flatMap_eq_nil_iff.mpr
        intro project member
        simp [projectSources, (empty project member).1, (empty project member).2.1]
      refine ⟨_, _, observe_eq _ _ _, rfl, ?_, fun file => ?_⟩
      · simp [afterCalls, init, none]
      · constructor
        · intro listed
          simp [afterCalls, init, none] at listed
        · intro given
          obtain ⟨project, member, listed, -⟩ := given
          simp [(empty project member).1, (empty project member).2.1] at listed
    · refine ⟨_, _, observe_eq _ _ _, rfl, ?_⟩
      intro file listed other memberOther entryOther
      have quietBefore := quiet earlier .format later split
      have sources : (earlier.flatMap fun c => addedSources settings fs c.tool) = [] :=
        List.flatMap_eq_nil_iff.mpr fun before member =>
          ((quiet_iff _ _).mp (quietBefore before member)).1
      have cmakes : (earlier.flatMap fun c => addedCmakes settings fs c.tool) = [] :=
        List.flatMap_eq_nil_iff.mpr fun before member =>
          ((quiet_iff _ _).mp (quietBefore before member)).2.2 rfl
      simp only [afterCalls, extend, init, List.flatMap_append, List.flatMap_singleton, sources,
        cmakes, List.nil_append] at listed
      obtain ⟨project, member, entry, ok⟩ := mem_added_iff.mp listed
      have formats : .format ∈ calls := by
        rw [split]
        exact List.mem_append_right _ (List.mem_cons_self ..)
      exact neverOverruled formats project member other memberOther file entry entryOther ok

/-- A machine on which every command succeeds. -/
def sampleHost : Host where
  exitStatus _ _ := 0
  installed _ := true
  nproc := "8"
  user := some "root"
  platform := "linux"
  isPrintable _ := true

/-- With the shipped settings the linter of `devkit clang --format --lint` gets every
file twice, and with them the test it should leave alone. -/
theorem format_then_lint_not_reuseLaw :
    ¬ ReuseLaw sampleSettings sampleTree sampleHost
      (init sampleSettings.cmakePrograms.clangFormatter sampleSettings.cmakePrograms.cmakeFormatter
        sampleSettings.cmakePrograms.clangAnalyzer)
      [.format, .lint] := by
  intro law
  have same := law.sameAsFresh [.format] .lint [] rfl
  revert same
  decide +kernel

end Tooling.Clang
