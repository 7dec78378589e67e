import Garak.Misc.Lists
import Garak.Tooling.Proofs.Aggregate
import Mathlib.Data.List.Pairwise

/-!
# Which files a tool gets

Two results about `_aggregate_files` on a new object. With both directory lists the
same, every enumerated entry ends up in one list, the one its name and the tool's
ignore lists call for. In general the other tool's directory list leaks in, and
`aggregateFiles_independent_iff` says exactly when that shows.
-/

namespace Tooling.Clang

open Pathlib Path

variable {settings : Settings} {fs : FileSystem} {ignoreType : IgnoreType}

/-- The suffixes of the three loops. -/
def suffixes : List String := [".cpp", ".hpp", ".txt"]

/-- No project lies at or below another, and none is listed twice. -/
def Separate (projects : List Path) : Prop :=
  projects.Pairwise fun a b => ¬ Under a b ∧ ¬ Under b a

theorem mem_projectEntries {project file : Path} :
    file ∈ projectEntries fs project ↔ ∃ suffix ∈ suffixes, file ∈ fs.rglob project suffix := by
  simp [projectEntries, suffixes]

theorem below_of_mem_projectEntries {project file : Path}
    (member : file ∈ projectEntries fs project) : Below project file := by
  obtain ⟨suffix, -, listed⟩ := mem_projectEntries.mp member
  exact fs.rglob_below project suffix file listed

/-- The three loops of a project visit different entries. -/
theorem rglob_disjoint {project : Path} {s t : String} (length : s.length = t.length)
    (different : s ≠ t) : (fs.rglob project s).Disjoint (fs.rglob project t) := by
  intro file inS inT
  exact different (endsWith_unique length (fs.rglob_endsWith project s file inS)
    (fs.rglob_endsWith project t file inT))

theorem projectEntries_nodup (fs : FileSystem) (project : Path) :
    (projectEntries fs project).Nodup := by
  have cppHpp : (fs.rglob project ".cpp").Disjoint (fs.rglob project ".hpp") :=
    rglob_disjoint (by decide) (by decide)
  have cppTxt : (fs.rglob project ".cpp").Disjoint (fs.rglob project ".txt") :=
    rglob_disjoint (by decide) (by decide)
  have hppTxt : (fs.rglob project ".hpp").Disjoint (fs.rglob project ".txt") :=
    rglob_disjoint (by decide) (by decide)
  unfold projectEntries
  refine List.Nodup.append (List.Nodup.append (fs.rglob_nodup _ _) (fs.rglob_nodup _ _) cppHpp)
    (fs.rglob_nodup _ _) ?_
  exact List.disjoint_append_left.mpr ⟨cppTxt, hppTxt⟩

/-- Projects that share an entry are comparable, so separate ones share none. -/
theorem project_unique {projects : List Path} (separate : Separate projects) {p q file : Path}
    (hp : p ∈ projects) (hq : q ∈ projects) (inP : Below p file) (inQ : Below q file) : p = q := by
  by_contra different
  have symmetric : Std.Symm fun a b : Path => ¬ Under a b ∧ ¬ Under b a :=
    ⟨fun _ _ h => ⟨h.2, h.1⟩⟩
  have apart := separate.forall hp hq different
  rcases under_total inP.1 inQ.1 with h | h
  · exact apart.1 h
  · exact apart.2 h

theorem entries_nodup {projects : List Path} (separate : Separate projects) :
    (projects.flatMap (projectEntries fs)).Nodup := by
  refine List.nodup_flatMap.mpr ⟨fun project _ => projectEntries_nodup fs project, ?_⟩
  apply separate.imp
  intro _ _ apart file inA inB
  rcases under_total (below_of_mem_projectEntries inA).1 (below_of_mem_projectEntries inB).1
    with h | h
  · exact apart.1 h
  · exact apart.2 h

/-- Over all projects, what a call appends is what its loops visit, each entry as
often as it is visited. -/
theorem added_count (file : Path) :
    (addedSources settings fs ignoreType).count file + (addedCmakes settings fs ignoreType).count file
        + (addedIgnored settings fs ignoreType).count file =
      (settings.projects.flatMap (projectEntries fs)).count file := by
  unfold addedSources addedCmakes addedIgnored
  induction settings.projects with
  | nil => simp
  | cons project projects ih =>
      have here := (@project_perm settings fs ignoreType project).count_eq file
      simp only [List.flatMap_cons, List.count_append] at here ih ⊢
      omega

theorem mem_addedIgnored {file : Path} :
    file ∈ addedIgnored settings fs ignoreType ↔
      ∃ project ∈ settings.projects, file ∈ projectEntries fs project ∧
        legal settings ignoreType project file = false := by
  simp only [addedIgnored, projectIgnored, List.mem_flatMap, List.mem_filter,
    Bool.not_eq_true']

/-- With the same members in both directory lists, a legal entry is one the tool's own
two lists leave in. -/
theorem legal_iff_own {project file : Path} (below : Below project file)
    (sameDirs : ∀ dir, dir ∈ settings.clangFormatIgnoreDir ↔ dir ∈ settings.clangTidyIgnoreDir) :
    legal settings ignoreType project file = true ↔
      file ∉ ignoreFile settings ignoreType ∧
        ¬ InDir (ignoreDir settings ignoreType) project file := by
  have same : ∀ dir, dir ∈ eitherIgnoreDir settings ↔ dir ∈ ignoreDir settings ignoreType := by
    intro dir
    rw [mem_eitherIgnoreDir]
    cases ignoreType with
    | clangFormat => simp [ignoreDir, sameDirs]
    | clangTidy => simp [ignoreDir, sameDirs]
  rw [legal_iff below]
  simp only [DirIgnored, InDir, same]

/-- A small checkout: sources to format, a generated file, a test and a vendored
header. -/
def sampleTree : FileSystem :=
  FileSystem.ofEntries
    [(parse "/srv/libgarak/garak/src/version.cpp", .file),
      (parse "/srv/libgarak/garak/gen", .dir),
      (parse "/srv/libgarak/garak/gen/table.cpp", .file),
      (parse "/srv/libgarak/garak/tests/version_test.cpp", .file),
      (parse "/srv/libgarak/garak/include/asio/io.hpp", .file),
      (parse "/srv/libgarak/garak/CMakeLists.txt", .file)] (by decide +kernel)

/-- The shipped settings, for a checkout in `/srv`. -/
def sampleSettings : Settings := shipped (parse "/srv/libgarak") "jammy" "22.04"

/-- What `_aggregate_files` is for. The walk from every enumerated entry ends, within
any recursion limit above its number of components; the entry is in exactly one of the
three lists, once: the ignored ones when the tool's own file list has it or its
directory list has it or a directory between it and its project, and otherwise the
list of its suffix. -/
def Classified (settings : Settings) (fs : FileSystem) (ignoreType : IgnoreType)
    (self : Clang) : Prop :=
  ∀ project ∈ settings.projects, ∀ suffix ∈ suffixes, ∀ file ∈ fs.rglob project suffix,
    (∀ depth, file.parts.length < depth →
      ∃ ignored, walk settings project ignoreType depth file = .ok ignored) ∧
    self.sourceFiles.count file + self.cmakeFiles.count file + self.ignoredFiles.count file = 1 ∧
    (file ∈ self.ignoredFiles ↔
      file ∈ ignoreFile settings ignoreType ∨
        InDir (ignoreDir settings ignoreType) project file) ∧
    (file ∉ self.ignoredFiles →
      file ∈ if suffix = ".txt" then self.cmakeFiles else self.sourceFiles)

/-- One call on a new object sorts every enumerated entry. -/
theorem aggregateFiles_classifies (settings : Settings) (fs : FileSystem) (ignoreType : IgnoreType)
    (cxxFormatter cmakeFormatter linter : Program) (separate : Separate settings.projects)
    (sameDirs : ∀ dir, dir ∈ settings.clangFormatIgnoreDir ↔ dir ∈ settings.clangTidyIgnoreDir) :
    ∃ self : Clang,
      aggregateFiles settings fs ignoreType (init cxxFormatter cmakeFormatter linter) = .ok self ∧
      Classified settings fs ignoreType self := by
  refine ⟨_, aggregateFiles_eq _, ?_⟩
  intro project inProjects suffix inSuffixes file listed
  have entry : file ∈ projectEntries fs project :=
    mem_projectEntries.mpr ⟨suffix, inSuffixes, listed⟩
  have below := below_of_mem_projectEntries entry
  have ignoredIff : file ∈ addedIgnored settings fs ignoreType ↔
      legal settings ignoreType project file = false := by
    rw [mem_addedIgnored]
    constructor
    · intro given
      obtain ⟨other, inOther, entryOther, illegal⟩ := given
      obtain rfl := project_unique separate inOther inProjects
        (below_of_mem_projectEntries entryOther) below
      exact illegal
    · exact fun illegal => ⟨project, inProjects, entry, illegal⟩
  simp only [aggregated, extend_sourceFiles, extend_cmakeFiles, extend_ignoredFiles, init,
    List.nil_append]
  refine ⟨?_, ?_, ?_, ?_⟩
  · intro depth enough
    obtain ⟨ignored, result, -⟩ := @walk_eq settings ignoreType project depth file
      below.1 enough
    exact ⟨ignored, result⟩
  · rw [added_count]
    exact List.count_eq_one_of_mem (entries_nodup separate)
      (List.mem_flatMap.mpr ⟨project, inProjects, entry⟩)
  · rw [ignoredIff, ← Bool.not_eq_true, legal_iff_own below sameDirs]
    tauto
  · intro kept
    have ok : legal settings ignoreType project file = true := by
      simpa [ignoredIff] using kept
    split
    · rename_i txt
      exact List.mem_flatMap.mpr ⟨project, inProjects,
        List.mem_filter.mpr ⟨txt ▸ listed, ok⟩⟩
    · rename_i notTxt
      have cppOrHpp : file ∈ fs.rglob project ".cpp" ++ fs.rglob project ".hpp" := by
        simp only [suffixes, List.mem_cons, List.not_mem_nil, or_false] at inSuffixes
        rcases inSuffixes with rfl | rfl | rfl
        · exact List.mem_append_left _ listed
        · exact List.mem_append_right _ listed
        · exact absurd rfl notTxt
      exact List.mem_flatMap.mpr ⟨project, inProjects, List.mem_filter.mpr ⟨cppOrHpp, ok⟩⟩

/-- The shipped settings meet both conditions, wherever the checkout lies. -/
theorem aggregateFiles_classifies_shipped :
    ∃ self : Clang,
      aggregateFiles sampleSettings sampleTree .clangTidy
        (init ⟨"clang-format", "-i"⟩ ⟨"cmake-format", "-i"⟩ ⟨"clang-tidy", ""⟩) = .ok self ∧
      Classified sampleSettings sampleTree .clangTidy self :=
  aggregateFiles_classifies _ sampleTree .clangTidy _ _ _ (List.pairwise_singleton _ _)
    fun _ => Iff.rfl

/-! ## The other tool's directory list -/

/-- The tool that was not asked for. -/
def IgnoreType.other : IgnoreType → IgnoreType
  | .clangFormat => .clangTidy
  | .clangTidy => .clangFormat

theorem dirIgnored_iff {project file : Path} :
    DirIgnored settings project file ↔
      InDir (ignoreDir settings ignoreType) project file ∨
        InDir (ignoreDir settings (IgnoreType.other ignoreType)) project file := by
  simp only [DirIgnored, InDir, mem_eitherIgnoreDir, ← exists_or, ← and_or_left]
  cases ignoreType with
  | clangFormat => rfl
  | clangTidy => simp only [ignoreDir, IgnoreType.other, or_comm]

/-- Seen from a project further up, a path has more directories above it. -/
theorem inDir_mono {dirs : List Path} {upper lower file : Path} (under : Under upper lower)
    (inside : InDir dirs lower file) : InDir dirs upper file := by
  obtain ⟨dir, below, above, member⟩ := inside
  refine ⟨dir, ⟨under_trans under below.1, ?_⟩, above, member⟩
  rintro rfl
  exact below.2 (under_antisymm below.1 under)

/-- Where two settings disagree about an entry, the one that ignores it ignores it
more often: over nested projects, ignoring from a lower one implies ignoring from every
upper one. -/
theorem ignored_count_lt {settings₁ settings₂ : Settings}
    (projects : settings₂.projects = settings₁.projects)
    {project file : Path} (inProjects : project ∈ settings₁.projects)
    (entry : file ∈ projectEntries fs project)
    (illegal₁ : legal settings₁ ignoreType project file = false)
    (legal₂ : legal settings₂ ignoreType project file = true) :
    (addedIgnored settings₂ fs ignoreType).count file <
      (addedIgnored settings₁ fs ignoreType).count file := by
  have below := below_of_mem_projectEntries entry
  have keep : ∀ other, file ∈ projectEntries fs other →
      legal settings₁ ignoreType other file = true →
      legal settings₂ ignoreType other file = true := by
    intro other entryOther legal₁
    have belowOther := below_of_mem_projectEntries entryOther
    rw [legal_iff belowOther] at legal₁ ⊢
    obtain ⟨ownFile, ownDir⟩ := (legal_iff below).mp legal₂
    refine ⟨ownFile, fun inside => ?_⟩
    rcases under_total below.1 belowOther.1 with above | above
    · exact ownDir (inDir_mono above inside)
    · have legal : legal settings₁ ignoreType project file = true :=
        (legal_iff below).mpr ⟨legal₁.1, fun inside => legal₁.2 (inDir_mono above inside)⟩
      simp [illegal₁] at legal
  unfold addedIgnored
  rw [projects]
  refine Lists.count_flatMap_lt _ _ _ (fun other _ => ?_) ⟨project, inProjects, ?_⟩
  · by_cases entryOther : file ∈ projectEntries fs other
    · cases legal₁ : legal settings₁ ignoreType other file with
      | false =>
          calc
            (projectIgnored settings₂ fs ignoreType other).count file
                ≤ (projectEntries fs other).count file := List.Sublist.count_le _ List.filter_sublist
            _ = (projectIgnored settings₁ fs ignoreType other).count file :=
                (List.count_filter (by simp [legal₁])).symm
      | true =>
          have legal₂ := keep other entryOther legal₁
          rw [List.count_eq_zero_of_not_mem (by simp [projectIgnored, legal₂])]
          exact Nat.zero_le _
    · rw [List.count_eq_zero_of_not_mem (by simp [projectIgnored, entryOther])]
      exact Nat.zero_le _
  · rw [List.count_eq_zero_of_not_mem (by simp [projectIgnored, legal₂])]
    exact List.count_pos_iff.mpr (by simp [projectIgnored, illegal₁, entry])

/-- Two settings with the same projects select the same files exactly when the guards
agree on every entry. -/
theorem aggregateFiles_eq_iff_legal {settings₁ settings₂ : Settings}
    (projects : settings₂.projects = settings₁.projects) (self : Clang) :
    aggregateFiles settings₁ fs ignoreType self = aggregateFiles settings₂ fs ignoreType self ↔
      ∀ project ∈ settings₁.projects, ∀ file ∈ projectEntries fs project,
        legal settings₁ ignoreType project file = legal settings₂ ignoreType project file := by
  rw [aggregateFiles_eq, aggregateFiles_eq]
  constructor
  · intro same project inProjects file entry
    have ignored : addedIgnored settings₁ fs ignoreType = addedIgnored settings₂ fs ignoreType := by
      have := congrArg ignoredFiles (Except.ok.inj same)
      simpa [aggregated] using this
    cases h₁ : legal settings₁ ignoreType project file <;>
      cases h₂ : legal settings₂ ignoreType project file
    · rfl
    · have := ignored_count_lt projects inProjects entry h₁ h₂
      rw [ignored] at this
      omega
    · have := ignored_count_lt projects.symm (projects ▸ inProjects) entry h₂ h₁
      rw [ignored] at this
      omega
    · rfl
  · intro agree
    have sources : addedSources settings₁ fs ignoreType = addedSources settings₂ fs ignoreType := by
      unfold addedSources
      rw [projects]
      apply List.flatMap_congr
      intro project inProjects
      refine List.filter_congr fun file member => agree project inProjects file ?_
      exact List.mem_append_left _ member
    have cmakes : addedCmakes settings₁ fs ignoreType = addedCmakes settings₂ fs ignoreType := by
      unfold addedCmakes
      rw [projects]
      apply List.flatMap_congr
      intro project inProjects
      refine List.filter_congr fun file member => agree project inProjects file ?_
      exact List.mem_append_right _ member
    have ignored : addedIgnored settings₁ fs ignoreType = addedIgnored settings₂ fs ignoreType := by
      unfold addedIgnored
      rw [projects]
      apply List.flatMap_congr
      intro project inProjects
      apply List.filter_congr
      intro file member
      rw [agree project inProjects file member]
    rw [aggregated, aggregated, sources, cmakes, ignored]

/-- A tool's selection is unaffected by a change of the other tool's two lists exactly
when the change moves no entry, that the tool's own lists leave in, into or out of the
other directory list. The other file list never matters. -/
theorem aggregateFiles_independent_iff (settings₁ settings₂ : Settings) (fs : FileSystem)
    (ignoreType : IgnoreType) (cxxFormatter cmakeFormatter linter : Program)
    (projects : settings₂.projects = settings₁.projects)
    (files : ignoreFile settings₂ ignoreType = ignoreFile settings₁ ignoreType)
    (dirs : ignoreDir settings₂ ignoreType = ignoreDir settings₁ ignoreType) :
    aggregateFiles settings₁ fs ignoreType (init cxxFormatter cmakeFormatter linter) =
        aggregateFiles settings₂ fs ignoreType (init cxxFormatter cmakeFormatter linter) ↔
      ∀ project ∈ settings₁.projects, ∀ file ∈ projectEntries fs project,
        file ∉ ignoreFile settings₁ ignoreType →
        ¬ InDir (ignoreDir settings₁ ignoreType) project file →
        (InDir (ignoreDir settings₁ (IgnoreType.other ignoreType)) project file ↔
          InDir (ignoreDir settings₂ (IgnoreType.other ignoreType)) project file) := by
  rw [aggregateFiles_eq_iff_legal projects]
  apply forall₄_congr
  intro project _ file entry
  have below := below_of_mem_projectEntries entry
  rw [Bool.eq_iff_iff, legal_iff below, legal_iff below, @dirIgnored_iff settings₁ ignoreType,
    @dirIgnored_iff settings₂ ignoreType, files, dirs]
  tauto

/-- A checkout whose formatter skips generated code. -/
def formatSkipsGen : Settings :=
  { sampleSettings with
    clangFormatIgnoreDir := [parse "/srv/libgarak/garak/gen"] }

theorem aggregateFiles_independent_sample :
    aggregateFiles formatSkipsGen sampleTree .clangTidy
          (init ⟨"clang-format", "-i"⟩ ⟨"cmake-format", "-i"⟩ ⟨"clang-tidy", ""⟩) =
        aggregateFiles sampleSettings sampleTree .clangTidy
          (init ⟨"clang-format", "-i"⟩ ⟨"cmake-format", "-i"⟩ ⟨"clang-tidy", ""⟩) ↔
      ∀ project ∈ formatSkipsGen.projects, ∀ file ∈ projectEntries sampleTree project,
        file ∉ ignoreFile formatSkipsGen .clangTidy →
        ¬ InDir (ignoreDir formatSkipsGen .clangTidy) project file →
        (InDir (ignoreDir formatSkipsGen .clangFormat) project file ↔
          InDir (ignoreDir sampleSettings .clangFormat) project file) :=
  aggregateFiles_independent_iff formatSkipsGen sampleSettings sampleTree .clangTidy _ _ _ rfl
    rfl rfl

/-- Telling the formatter alone to skip `gen` hides its sources from the linter: the two
settings differ in the formatter's directory list only. -/
theorem formatSkipsGen_changes_lint :
    formatSkipsGen.projects = sampleSettings.projects ∧
      ignoreFile formatSkipsGen .clangTidy =
        ignoreFile sampleSettings .clangTidy ∧
      ignoreDir formatSkipsGen .clangTidy =
        ignoreDir sampleSettings .clangTidy ∧
      aggregateFiles formatSkipsGen sampleTree .clangTidy
          (init ⟨"clang-format", "-i"⟩ ⟨"cmake-format", "-i"⟩ ⟨"clang-tidy", ""⟩) ≠
        aggregateFiles sampleSettings sampleTree .clangTidy
          (init ⟨"clang-format", "-i"⟩ ⟨"cmake-format", "-i"⟩ ⟨"clang-tidy", ""⟩) := by
  refine ⟨rfl, rfl, rfl, ?_⟩
  decide +kernel

end Tooling.Clang
