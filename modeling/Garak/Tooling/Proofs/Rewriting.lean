import Garak.Tooling.Proofs.CommandText
import Garak.Tooling.Proofs.Selection
import Garak.Tooling.Proofs.Traversal
import Mathlib.Data.List.Flatten

/-!
# What `devkit clang` does to the files

The commands of a run are texts for a shell, and what the shell runs for them rewrites
files. What the programs do is a parameter: `AsDocumented` says what is relied on.
`devkit_formats` puts the two together: where no path holds anything a shell takes apart, a
run with `--format` hands each file of the projects that is not ignored to its formatter once
and leaves every other file alone.
-/

namespace Tooling

open Pathlib Path Posix.Shell

variable {C : Type}

/-! ## Programs that rewrite files -/

/-- What the formatters make of a file, given its path and its content. -/
structure Formatters (C : Type) where
  clangFormat : Path → C → C
  cmakeFormat : Path → C → C

/-- One file, where there is one, gets a new content. -/
def rewrite (f : Path → C → C) (volume : Volume C) (file : Path) : Volume C :=
  volume.mapFiles fun path content => if path = file then f path content else content

/-- What a program started in a directory with the given words makes of the files. -/
abbrev Programs (C : Type) := Path → List String → Volume C → Volume C

/-- A file that `devkit clang` may collect. -/
def isSource (path : Path) : Bool :=
  decide (endsWith path.name ".cpp" ∨ endsWith path.name ".hpp" ∨ endsWith path.name ".txt")

/-- The files are the same but for what is in the sources: so are the files that tell the
programs about style. -/
def SameStyle (start volume : Volume C) : Prop :=
  ∃ f : Path → C → C, (∀ path, isSource path = false → ∀ content, f path content = content) ∧
    volume = start.mapFiles f

/-- What the manuals of the three programs of a `clang` run say, as far as it is relied on, in
a checkout whose style files stay as they are at the start. A path with an anchor is neither
an option nor relative to where the program is started. -/
structure AsDocumented (start : Volume C) (formatters : Formatters C) (programs : Programs C) :
    Prop where
  /-- with `-i`, `clang-format` edits the file it is given in place -/
  clangFormat : ∀ cwd volume (file : Path), SameStyle start volume → file.anchor ≠ .relative →
    programs cwd ["clang-format", "-i", file.str] volume = rewrite formatters.clangFormat volume file
  /-- so does `cmake-format` -/
  cmakeFormat : ∀ cwd volume (file : Path), SameStyle start volume → file.anchor ≠ .relative →
    programs cwd ["cmake-format", "-i", file.str] volume = rewrite formatters.cmakeFormat volume file
  /-- without an option that applies or exports fixes, `clang-tidy` only reports -/
  clangTidy : ∀ cwd volume (build config : Path) (files : List Path), build.anchor ≠ .relative →
    (∀ file ∈ files, file.anchor ≠ .relative) →
    programs cwd (["clang-tidy", "-p", build.str, "--config-file=" ++ config.str] ++
      files.map Path.str) volume = volume

/-- What a shell makes of the files for one text after another. -/
def runTexts (env : Volume C → Env) (programs : Programs C) (cwd : Path) (volume : Volume C)
    (commands : List String) : Option (Volume C) :=
  commands.foldlM (runCommand env (programs cwd)) volume

/-- What is to happen to a file. -/
def formatting (settings : Settings) (formatters : Formatters C) (path : Path) (content : C) : C :=
  if settings.projects.any fun project =>
      decide (Below project path) && Clang.legal settings .clangFormat project path then
    if endsWith path.name ".cpp" ∨ endsWith path.name ".hpp" then
      formatters.clangFormat path content
    else if endsWith path.name ".txt" then formatters.cmakeFormat path content
    else content
  else content

section Rewriting

variable {start : Volume C} {env : Volume C → Env} {programs : Programs C} {cwd : Path}

theorem SameStyle.refl (volume : Volume C) : SameStyle volume volume :=
  ⟨fun _ content => content, fun _ _ _ => rfl, (Volume.mapFiles_id volume).symm⟩

/-- Changing sources only. -/
theorem SameStyle.mapFiles {volume : Volume C} (same : SameStyle start volume) {g : Path → C → C}
    (sources : ∀ path, isSource path = false → ∀ content, g path content = content) :
    SameStyle start (volume.mapFiles g) := by
  obtain ⟨f, kept, rfl⟩ := same
  refine ⟨fun path content => g path (f path content), fun path other content => ?_,
    Volume.mapFiles_mapFiles ..⟩
  exact (sources path other _).trans (kept path other content)

theorem SameStyle.rewrite {volume : Volume C} (same : SameStyle start volume) (f : Path → C → C)
    {file : Path} (source : isSource file = true) : SameStyle start (rewrite f volume file) := by
  apply same.mapFiles
  intro path other content
  refine if_neg ?_
  rintro rfl
  exact absurd (source.symm.trans other) (by decide)

theorem SameStyle.foldl_rewrite {volume : Volume C} (same : SameStyle start volume)
    (f : Path → C → C) {files : List Path} (sources : ∀ file ∈ files, isSource file = true) :
    SameStyle start (files.foldl (Tooling.rewrite f) volume) := by
  induction files generalizing volume with
  | nil => exact same
  | cons file files ih =>
      obtain ⟨here, later⟩ := List.forall_mem_cons.mp sources
      exact ih (same.rewrite f here) later

/-- Rewriting each of some files. -/
theorem foldl_rewrite (f : Path → C → C) {files : List Path} (distinct : files.Nodup)
    (volume : Volume C) :
    files.foldl (rewrite f) volume =
      volume.mapFiles fun path content => if path ∈ files then f path content else content := by
  induction files generalizing volume with
  | nil => simp [Volume.mapFiles_id]
  | cons file files ih =>
      obtain ⟨fresh, distinct'⟩ := List.nodup_cons.mp distinct
      rw [List.foldl_cons, ih distinct', rewrite, Volume.mapFiles_mapFiles]
      congr 1
      funext path content
      by_cases same : path = file
      · simp [same, fresh]
      · simp [same]

theorem runTexts_append (volume : Volume C) (first second : List String) :
    runTexts env programs cwd volume (first ++ second) =
      (runTexts env programs cwd volume first).bind fun volume =>
        runTexts env programs cwd volume second :=
  List.foldlM_append

/-- The commands of a loop of `format`, one for each file. -/
theorem runTexts_formatter {name : String} {f : Path → C → C}
    (edits : ∀ cwd volume (file : Path), SameStyle start volume → file.anchor ≠ .relative →
      programs cwd [name, "-i", file.str] volume = rewrite f volume file)
    {render : Path → String} {files : List Path}
    (runs : ∀ file ∈ files, RunsAs (render file) [[name, "-i", file.str]])
    (sources : ∀ file ∈ files, file.anchor ≠ .relative ∧ isSource file = true) {volume : Volume C}
    (same : SameStyle start volume) :
    runTexts env programs cwd volume (files.map render) = some (files.foldl (rewrite f) volume) := by
  induction files generalizing volume with
  | nil => rfl
  | cons file files ih =>
      obtain ⟨here, later⟩ := List.forall_mem_cons.mp runs
      obtain ⟨⟨anchor, source⟩, rest⟩ := List.forall_mem_cons.mp sources
      have first : runCommand env (programs cwd) volume (render file) =
          some (rewrite f volume file) := by
        rw [runCommand_of_runsAs here, edits cwd volume file same anchor]
      unfold runTexts at ih ⊢
      rw [List.map_cons, List.foldlM_cons, first]
      exact ih later rest (same.rewrite f source)

end Rewriting

/-! ## The files of a run -/

/-- Nothing in a path is special to a shell. -/
structure Inoffensive (settings : Settings) (volume : Volume C) : Prop where
  files : ∀ project ∈ settings.projects, ∀ file ∈ Clang.projectEntries volume.fs project,
    Inert file.str.toList
  build : Inert settings.projectBuildDir.str.toList
  config : Plain (tidyConfig settings.projectRoot).str.toList

section Files

variable {settings : Settings} {volume : Volume C}

theorem added_nodup {fs : FileSystem} (separate : Clang.Separate settings.projects)
    (ignoreType : IgnoreType) :
    (Clang.addedSources settings fs ignoreType).Nodup ∧
      (Clang.addedCmakes settings fs ignoreType).Nodup := by
  have all := @Clang.entries_nodup fs _ separate
  constructor
  · refine List.Nodup.sublist (List.Sublist.flatMap_right _ fun project _ => ?_) all
    exact (List.filter_sublist ..).trans (List.sublist_append_left _ _)
  · refine List.Nodup.sublist (List.Sublist.flatMap_right _ fun project _ => ?_) all
    exact (List.filter_sublist ..).trans (List.sublist_append_right _ _)

theorem mem_entries_of_added {fs : FileSystem} {ignoreType : IgnoreType} {file : Path}
    (added : file ∈ Clang.addedSources settings fs ignoreType ++
      Clang.addedCmakes settings fs ignoreType) :
    ∃ project ∈ settings.projects, file ∈ Clang.projectEntries fs project := by
  rcases List.mem_append.mp added with source | cmake
  · obtain ⟨project, member, inProject⟩ := List.mem_flatMap.mp source
    exact ⟨project, member, List.mem_append_left _ (List.mem_filter.mp inProject).1⟩
  · obtain ⟨project, member, inProject⟩ := List.mem_flatMap.mp cmake
    exact ⟨project, member, List.mem_append_right _ (List.mem_filter.mp inProject).1⟩

/-- What is collected are sources, anchored when the projects are. -/
theorem added_sources (anchored : ∀ project ∈ settings.projects, project.anchor ≠ .relative)
    (ignoreType : IgnoreType) :
    ∀ file ∈ Clang.addedSources settings volume.fs ignoreType ++
      Clang.addedCmakes settings volume.fs ignoreType,
        file.anchor ≠ .relative ∧ isSource file = true := by
  intro file added
  obtain ⟨project, member, inProject⟩ := mem_entries_of_added added
  constructor
  · rw [← (Clang.below_of_mem_projectEntries inProject).1.1]
    exact anchored project member
  · refine decide_eq_true ?_
    rcases List.mem_append.mp inProject with source | cmake
    · rcases List.mem_append.mp source with cpp | hpp
      · exact .inl (volume.fs.rglob_endsWith _ _ _ cpp)
      · exact .inr (.inl (volume.fs.rglob_endsWith _ _ _ hpp))
    · exact .inr (.inr (volume.fs.rglob_endsWith _ _ _ cmake))

theorem added_inert (inoffensive : Inoffensive settings volume) (ignoreType : IgnoreType) :
    ∀ file ∈ Clang.addedSources settings volume.fs ignoreType ++
      Clang.addedCmakes settings volume.fs ignoreType, Inert file.str.toList := by
  intro file added
  obtain ⟨project, member, inProject⟩ := mem_entries_of_added added
  exact inoffensive.files project member file inProject

/-- A file that is there is collected exactly when it is legal. -/
theorem mem_added_iff (inside : ∀ project ∈ settings.projects, Under volume.top project)
    {path : Path} {content : C} (node : volume.node path = .ok (.file content))
    (ignoreType : IgnoreType) :
    (path ∈ Clang.addedSources settings volume.fs ignoreType ↔
      (∃ project ∈ settings.projects,
        Below project path ∧ Clang.legal settings ignoreType project path = true) ∧
        (endsWith path.name ".cpp" ∨ endsWith path.name ".hpp")) ∧
    (path ∈ Clang.addedCmakes settings volume.fs ignoreType ↔
      (∃ project ∈ settings.projects,
        Below project path ∧ Clang.legal settings ignoreType project path = true) ∧
        endsWith path.name ".txt") := by
  have found : ∀ project ∈ settings.projects, ∀ suffix,
      path ∈ volume.fs.rglob project suffix ↔ Below project path ∧ endsWith path.name suffix :=
    fun project member suffix => Volume.mem_rglob_iff (inside project member) node
  constructor
  · simp only [Clang.addedSources, Clang.projectSources, List.mem_flatMap, List.mem_filter,
      List.mem_append]
    constructor
    · intro given
      obtain ⟨project, member, inEither, legal⟩ := given
      rw [found project member, found project member, ← and_or_left] at inEither
      exact ⟨⟨project, member, inEither.1, legal⟩, inEither.2⟩
    · intro given
      obtain ⟨⟨project, member, below, legal⟩, ends⟩ := given
      refine ⟨project, member, ?_, legal⟩
      rw [found project member, found project member, ← and_or_left]
      exact ⟨below, ends⟩
  · simp only [Clang.addedCmakes, Clang.projectCmakes, List.mem_flatMap, List.mem_filter]
    constructor
    · intro given
      obtain ⟨project, member, inText, legal⟩ := given
      rw [found project member] at inText
      exact ⟨⟨project, member, inText.1, legal⟩, inText.2⟩
    · intro given
      obtain ⟨⟨project, member, below, legal⟩, ends⟩ := given
      exact ⟨project, member, (found project member ".txt").mpr ⟨below, ends⟩, legal⟩

/-- Rewriting what was collected is formatting. -/
theorem mapFiles_added (formatters : Formatters C)
    (inside : ∀ project ∈ settings.projects, Under volume.top project) :
    ((volume.mapFiles fun path content =>
        if path ∈ Clang.addedSources settings volume.fs .clangFormat then
          formatters.clangFormat path content else content).mapFiles fun path content =>
        if path ∈ Clang.addedCmakes settings volume.fs .clangFormat then
          formatters.cmakeFormat path content else content) =
      volume.mapFiles (formatting settings formatters) := by
  rw [Volume.mapFiles_mapFiles]
  apply Volume.mapFiles_congr
  intro path content node
  obtain ⟨sources, cmakes⟩ := mem_added_iff inside node .clangFormat
  have texts : endsWith path.name ".txt" →
      ¬ (endsWith path.name ".cpp" ∨ endsWith path.name ".hpp") := by
    intro text other
    rcases other with cpp | hpp
    · exact absurd (endsWith_unique (by decide) text cpp) (by decide)
    · exact absurd (endsWith_unique (by decide) text hpp) (by decide)
  have legal : (settings.projects.any fun project =>
      decide (Below project path) && Clang.legal settings .clangFormat project path) = true ↔
      ∃ project ∈ settings.projects,
        Below project path ∧ Clang.legal settings .clangFormat project path = true := by
    simp
  unfold formatting
  simp only [sources, cmakes, legal]
  by_cases isLegal : ∃ project ∈ settings.projects,
      Below project path ∧ Clang.legal settings .clangFormat project path = true
  · simp only [isLegal, true_and, if_true]
    by_cases source : endsWith path.name ".cpp" ∨ endsWith path.name ".hpp"
    · have noText : ¬ endsWith path.name ".txt" := fun text => texts text source
      rw [if_pos source, if_pos source, if_neg noText]
    · rw [if_neg source, if_neg source]
  · simp only [isLegal, false_and, if_false]

end Files

/-- Formatting a formatted content, with formatters that leave such contents alone. -/
theorem formatting_settles {settings : Settings} {first second : Formatters C}
    (cxxSettles : ∀ path content, second.clangFormat path (first.clangFormat path content) =
      first.clangFormat path content)
    (cmakeSettles : ∀ path content, second.cmakeFormat path (first.cmakeFormat path content) =
      first.cmakeFormat path content) (path : Path) (content : C) :
    formatting settings second path (formatting settings first path content) =
      formatting settings first path content := by
  unfold formatting
  split
  · split
    · exact cxxSettles path content
    · split
      · exact cmakeSettles path content
      · rfl
  · rfl

/-- Formatting changes sources only. -/
theorem formatting_of_other {settings : Settings} {formatters : Formatters C} {path : Path}
    (other : isSource path = false) (content : C) :
    formatting settings formatters path content = content := by
  have names := of_decide_eq_false other
  unfold formatting
  split
  · rw [if_neg fun source => names (source.imp_right Or.inl),
      if_neg fun text => names (.inr (.inr text))]
  · rfl

/-- A process that is asked for a command launches its plan. -/
theorem commands_of_written {settings : Settings} {fs : FileSystem} {machine : Machine}
    (ready : machine.Ready settings) {argv : List String} {cli : Cli}
    (asked : Cli.Written machine.isDecimal (argv.map String.toList) cli) :
    ((devkit settings fs machine argv).exec Trace.empty).2.commands =
      plan settings fs machine.toHost cli := by
  rw [commands_of_init settings fs (init_eq_ok_iff.mpr asked), if_pos ready]

/-! ## The shipped settings -/

section Shipped

variable {projectRoot : Path} {codename version : String} {volume : Volume C}
  {env : Volume C → Env} {formatters : Formatters C} {programs : Programs C} {cwd : Path}

/-- The projects of the shipped settings. -/
theorem shipped_separate : Clang.Separate (shipped projectRoot codename version).projects :=
  List.pairwise_singleton _ _

/-- The commands of `format`. -/
theorem runTexts_format {start : Volume C} (documented : AsDocumented start formatters programs)
    (same : SameStyle start volume)
    (anchored : projectRoot.anchor ≠ .relative)
    (inside : ∀ project ∈ (shipped projectRoot codename version).projects,
      Under volume.top project)
    (inoffensive : Inoffensive (shipped projectRoot codename version) volume) :
    runTexts env programs cwd volume
        (Clang.aggregated (shipped projectRoot codename version) volume.fs .clangFormat
          (newClang (shipped projectRoot codename version))).formatCommands =
      some (volume.mapFiles (formatting (shipped projectRoot codename version) formatters)) := by
  have constants := inert_constants
  have names := command_names
  simp only [constantWords, commandNames, List.forall_mem_cons] at constants names
  obtain ⟨distinctSources, distinctCmakes⟩ :=
    @added_nodup (shipped projectRoot codename version) volume.fs shipped_separate .clangFormat
  have collected := @added_sources C (shipped projectRoot codename version) volume
    (by simpa [shipped] using anchored) .clangFormat
  have sourceFiles : ∀ file ∈ Clang.addedSources (shipped projectRoot codename version) volume.fs
      .clangFormat, file.anchor ≠ .relative ∧ isSource file = true :=
    fun file member => collected file (List.mem_append_left _ member)
  have inert := @added_inert C (shipped projectRoot codename version) volume inoffensive .clangFormat
  have sources : (Clang.aggregated (shipped projectRoot codename version) volume.fs .clangFormat
      (newClang (shipped projectRoot codename version))).sourceFiles =
        Clang.addedSources (shipped projectRoot codename version) volume.fs .clangFormat :=
    List.nil_append _
  have cmakes : (Clang.aggregated (shipped projectRoot codename version) volume.fs .clangFormat
      (newClang (shipped projectRoot codename version))).cmakeFiles =
        Clang.addedCmakes (shipped projectRoot codename version) volume.fs .clangFormat :=
    List.nil_append _
  have cxx : ∀ file ∈ Clang.addedSources (shipped projectRoot codename version) volume.fs
      .clangFormat, RunsAs ("clang-format" ++ " " ++ "-i" ++ " " ++ file.str)
        [["clang-format", "-i", file.str]] := fun file member =>
    (Clang.formatter_runsAs_iff constants.1 names.1 file).mpr
      (inert file (List.mem_append_left _ member))
  have cmake : ∀ file ∈ Clang.addedCmakes (shipped projectRoot codename version) volume.fs
      .clangFormat, RunsAs ("cmake-format" ++ " " ++ "-i" ++ " " ++ file.str)
        [["cmake-format", "-i", file.str]] := fun file member =>
    (Clang.formatter_runsAs_iff constants.2.1 names.2.1 file).mpr
      (inert file (List.mem_append_right _ member))
  rw [Clang.formatCommands, runTexts_append, sources, cmakes]
  have first := @runTexts_formatter C start env programs cwd _ _ documented.clangFormat _ _ cxx
    sourceFiles volume same
  have second := @runTexts_formatter C start env programs cwd _ _ documented.cmakeFormat _ _ cmake
    (fun file member => collected file (List.mem_append_right _ member)) _
    (same.foldl_rewrite formatters.clangFormat fun file member => (sourceFiles file member).2)
  refine (congrArg (Option.bind · _) first).trans (second.trans ?_)
  rw [foldl_rewrite _ distinctSources, foldl_rewrite _ distinctCmakes, mapFiles_added formatters inside]

/-- The command of `lint`, whatever files the object holds, rewrites nothing. -/
theorem runTexts_lint {start : Volume C} (documented : AsDocumented start formatters programs)
    (anchored : projectRoot.anchor ≠ .relative)
    (inoffensive : Inoffensive (shipped projectRoot codename version) volume)
    {self : Clang}
    (files : ∀ file ∈ self.sourceFiles, file.anchor ≠ .relative ∧ Inert file.str.toList)
    (name : self.linter = "clang-tidy")
    (flags : self.linterFlags = "-p " ++ (projectBuildDir projectRoot).str ++ " --config-file=" ++
      (tidyConfig projectRoot).str) (volume' : Volume C) :
    runTexts env programs cwd volume' [self.lintCommand] = some volume' := by
  have runs := (Clang.linter_runsAs_iff (projectBuildDir projectRoot) (tidyConfig projectRoot)
    self.sourceFiles).mpr ⟨inoffensive.build, inoffensive.config, fun file member =>
      (files file member).2⟩
  have command : self.lintCommand = "clang-tidy" ++ " " ++
      ("-p " ++ (projectBuildDir projectRoot).str ++ " --config-file=" ++
        (tidyConfig projectRoot).str) ++ " " ++ Clang.lintFiles self.sourceFiles := by
    rw [Clang.lintCommand, name, flags]
  unfold runTexts
  rw [List.foldlM_cons, command, runCommand_of_runsAs runs,
    documented.clangTidy cwd volume' (projectBuildDir projectRoot) (tidyConfig projectRoot)
      self.sourceFiles anchored fun file member => (files file member).1]
  rfl

/-- The commands of a `clang` run. -/
theorem runTexts_clangPlan {start : Volume C} (documented : AsDocumented start formatters programs)
    (same : SameStyle start volume)
    (anchored : projectRoot.anchor ≠ .relative)
    (inside : ∀ project ∈ (shipped projectRoot codename version).projects,
      Under volume.top project)
    (inoffensive : Inoffensive (shipped projectRoot codename version) volume)
    (format lint : Bool) :
    runTexts env programs cwd volume
        (clangPlan (shipped projectRoot codename version) volume.fs format lint) =
      some (if format then
          volume.mapFiles (formatting (shipped projectRoot codename version) formatters)
        else volume) := by
  have inert : ∀ ignoreType, ∀ file ∈ Clang.addedSources (shipped projectRoot codename version)
      volume.fs ignoreType, file.anchor ≠ .relative ∧ Inert file.str.toList :=
    fun ignoreType file member =>
      ⟨(@added_sources C (shipped projectRoot codename version) volume
          (by simpa [shipped] using anchored) ignoreType file (List.mem_append_left _ member)).1,
        added_inert inoffensive ignoreType file (List.mem_append_left _ member)⟩
  have lintOrNot : ∀ (self : Clang) (volume' : Volume C),
      (∀ file ∈ self.sourceFiles, file.anchor ≠ .relative ∧ Inert file.str.toList) →
      self.linter = "clang-tidy" →
      self.linterFlags = "-p " ++ (projectBuildDir projectRoot).str ++ " --config-file=" ++
        (tidyConfig projectRoot).str →
      runTexts env programs cwd volume'
        (if lint then
          [(Clang.aggregated (shipped projectRoot codename version) volume.fs .clangTidy
            self).lintCommand]
        else []) = some volume' := by
    intro self volume' files name flags
    cases lint with
    | false => rfl
    | true =>
        rw [if_pos rfl]
        have name' : (Clang.aggregated (shipped projectRoot codename version) volume.fs .clangTidy
            self).linter = "clang-tidy" := name
        apply runTexts_lint documented anchored inoffensive _ name' flags
        intro file member
        rcases List.mem_append.mp member with before | added
        · exact files file before
        · exact inert .clangTidy file added
  unfold clangPlan
  rw [runTexts_append]
  cases format with
  | false =>
      simp only [Bool.false_eq_true, if_false]
      refine lintOrNot _ volume ?_ rfl rfl
      exact List.forall_mem_nil _
  | true =>
      simp only [if_true]
      rw [runTexts_format documented same anchored inside inoffensive, Option.bind_some]
      exact lintOrNot _ _ (inert .clangFormat) rfl rfl

/-- A run of `devkit clang` formats every file of the projects that is not ignored, with the
formatter for its name and once, when `--format` is given. It changes no other file, and
without `--format` none. -/
theorem devkit_formats (documented : AsDocumented volume formatters programs)
    (anchored : projectRoot.anchor ≠ .relative)
    (inside : ∀ project ∈ (shipped projectRoot codename version).projects,
      Under volume.top project)
    (inoffensive : Inoffensive (shipped projectRoot codename version) volume)
    {machine : Machine} (ready : machine.Ready (shipped projectRoot codename version))
    {argv : List String} {format lint : Bool}
    (asked : Cli.Written machine.isDecimal (argv.map String.toList) (.clang format lint))
    (env : Volume C → Env) (cwd : Path) :
    runTexts env programs cwd volume
        ((devkit (shipped projectRoot codename version) volume.fs machine argv).exec
          Trace.empty).2.commands =
      some (if format then
          volume.mapFiles (formatting (shipped projectRoot codename version) formatters)
        else volume) := by
  rw [commands_of_written ready asked]
  exact runTexts_clangPlan documented (.refl volume) anchored inside inoffensive format lint

/-- With formatters that leave formatted files alone, a second run changes nothing. The two
runs may be on different machines, with different programs. -/
theorem devkit_formats_twice {first second : Formatters C} {programs programs' : Programs C}
    (documented : AsDocumented volume first programs)
    (documented' : AsDocumented volume second programs')
    (cxxSettles : ∀ path content, second.clangFormat path (first.clangFormat path content) =
      first.clangFormat path content)
    (cmakeSettles : ∀ path content, second.cmakeFormat path (first.cmakeFormat path content) =
      first.cmakeFormat path content)
    (anchored : projectRoot.anchor ≠ .relative)
    (inside : ∀ project ∈ (shipped projectRoot codename version).projects,
      Under volume.top project)
    (inoffensive : Inoffensive (shipped projectRoot codename version) volume)
    {machine machine' : Machine} (ready : machine.Ready (shipped projectRoot codename version))
    (ready' : machine'.Ready (shipped projectRoot codename version))
    {argv argv' : List String} {format lint lint' : Bool}
    (asked : Cli.Written machine.isDecimal (argv.map String.toList) (.clang true lint))
    (asked' : Cli.Written machine'.isDecimal (argv'.map String.toList) (.clang format lint'))
    (env env' : Volume C → Env) (cwd cwd' : Path) :
    ∃ formatted,
      runTexts env programs cwd volume
          ((devkit (shipped projectRoot codename version) volume.fs machine argv).exec
            Trace.empty).2.commands = some formatted ∧
        runTexts env' programs' cwd' formatted
          ((devkit (shipped projectRoot codename version) formatted.fs machine' argv').exec
            Trace.empty).2.commands = some formatted := by
  have settles : (volume.mapFiles (formatting (shipped projectRoot codename version)
      first)).mapFiles (formatting (shipped projectRoot codename version) second) =
      volume.mapFiles (formatting (shipped projectRoot codename version) first) := by
    rw [Volume.mapFiles_mapFiles]
    congr 1
    funext path content
    exact formatting_settles cxxSettles cmakeSettles path content
  have inoffensive' : Inoffensive (shipped projectRoot codename version)
      (volume.mapFiles (formatting (shipped projectRoot codename version) first)) := by
    refine ⟨?_, inoffensive.build, inoffensive.config⟩
    rw [Volume.fs_mapFiles]
    exact inoffensive.files
  have sameStyle : SameStyle volume
      (volume.mapFiles (formatting (shipped projectRoot codename version) first)) :=
    (SameStyle.refl volume).mapFiles fun _ other => formatting_of_other other
  refine ⟨volume.mapFiles (formatting (shipped projectRoot codename version) first), ?_, ?_⟩
  · rw [commands_of_written ready asked]
    exact runTexts_clangPlan documented (.refl volume) anchored inside inoffensive true lint
  · rw [commands_of_written ready' asked']
    have again := @runTexts_clangPlan C projectRoot codename version
      (volume.mapFiles (formatting (shipped projectRoot codename version) first)) env' second
      programs' cwd' volume documented' sameStyle anchored inside inoffensive' format lint'
    rw [settles, ite_self] at again
    exact again

end Shipped

/-! ## A checkout -/

/-- Formatters that know one thing to be done. -/
def sampleFormatters : Formatters String where
  clangFormat _ text := if text = "int  major;" then "int major;" else text
  cmakeFormat _ text := if text = "project( garak )" then "project(garak)" else text

/-- Programs that call them, and do nothing else. -/
def samplePrograms : Programs String := fun cwd words volume =>
  match words with
  | name :: "-i" :: files =>
      let edit : Option (Path → String → String) :=
        if name = "clang-format" then some sampleFormatters.clangFormat
        else if name = "cmake-format" then some sampleFormatters.cmakeFormat
        else none
      match edit with
      | some f => files.foldl (fun volume file => rewrite f volume (cwd.join (parse file))) volume
      | none => volume
  | _ => volume

/-- An anchored path is found from anywhere. -/
theorem join_parse_str {cwd path : Path} (anchored : path.anchor ≠ .relative) :
    cwd.join (parse path.str) = path := by
  rw [parse_str]
  unfold join
  split
  · rename_i relative
    exact absurd relative anchored
  · rfl

theorem samplePrograms_documented (start : Volume String) :
    AsDocumented start sampleFormatters samplePrograms where
  clangFormat cwd volume file _ anchored := by
    have found := @join_parse_str cwd file anchored
    simp only [samplePrograms, if_true, List.foldl_cons, List.foldl_nil, found]
  cmakeFormat cwd volume file _ anchored := by
    have found := @join_parse_str cwd file anchored
    have other : ¬ "cmake-format" = "clang-format" := by decide
    simp only [samplePrograms, other, if_false, if_true, List.foldl_cons, List.foldl_nil, found]
  clangTidy cwd volume build config files _ _ := rfl

theorem inside_sample :
    ∀ project ∈ Clang.sampleSettings.projects, Under Clang.sampleVolume.top project := by
  intro project member
  rw [List.mem_singleton.mp member]
  decide +kernel

theorem inoffensive_sample : Inoffensive Clang.sampleSettings Clang.sampleVolume := by
  refine ⟨?_, by decide +kernel, by decide +kernel⟩
  intro project member
  rw [List.mem_singleton.mp member]
  have all : ((Clang.projectEntries Clang.sampleVolume.fs
      (parse "/srv/libgarak/garak")).all fun file => isInert file.str.toList) = true := by
    decide +kernel
  intro file inProject
  exact isInert_iff.mp (List.all_eq_true.mp all file inProject)

theorem devkit_formats_sample :
    runTexts (fun _ => emptyEnv) samplePrograms (parse "/srv/libgarak") Clang.sampleVolume
        ((devkit Clang.sampleSettings Clang.sampleVolume.fs Clang.sampleMachine
          ["clang", "-fl"]).exec Trace.empty).2.commands =
      some (Clang.sampleVolume.mapFiles (formatting Clang.sampleSettings sampleFormatters)) :=
  devkit_formats (samplePrograms_documented _) (by decide) inside_sample inoffensive_sample
    (by decide +kernel) Clang.written_sample _ _

theorem devkit_formats_twice_sample :
    ∃ formatted,
      runTexts (fun _ => emptyEnv) samplePrograms (parse "/srv/libgarak") Clang.sampleVolume
          ((devkit Clang.sampleSettings Clang.sampleVolume.fs Clang.sampleMachine
            ["clang", "-fl"]).exec Trace.empty).2.commands = some formatted ∧
        runTexts (fun _ => emptyEnv) samplePrograms (parse "/srv/libgarak") formatted
          ((devkit Clang.sampleSettings formatted.fs Clang.sampleMachine ["clang", "-fl"]).exec
            Trace.empty).2.commands = some formatted := by
  apply devkit_formats_twice (samplePrograms_documented _) (samplePrograms_documented _) _ _
    (by decide) inside_sample inoffensive_sample (by decide +kernel) (by decide +kernel) Clang.written_sample
    Clang.written_sample
  · intro path text
    by_cases loose : text = "int  major;"
    · rw [loose]
      rfl
    · simp [sampleFormatters, loose]
  · intro path text
    by_cases loose : text = "project( garak )"
    · rw [loose]
      rfl
    · simp [sampleFormatters, loose]

end Tooling
