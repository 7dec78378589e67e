import Garak.Tooling.Proofs.Walk

/-!
# What one call of `_aggregate_files` adds

The three loops add to the three lists and never read them, so a call is described
by what it appends: for each project the entries the tool may touch, and those it
ignores. Everything later about `format` and `lint` is derived from
`aggregateFiles_eq`.
-/

namespace Tooling.Clang

open Pathlib Path

variable {settings : Settings} {fs : FileSystem} {ignoreType : IgnoreType}

/-- The tests that guard the two `append`s of a loop body let the file through. -/
def legal (settings : Settings) (ignoreType : IgnoreType) (project file : Path) : Bool :=
  !pathInFileIgnore settings file ignoreType &&
    match pathInDirectoryIgnore settings file project ignoreType with
    | .ok ignored => !ignored
    | .error _ => false

theorem legal_iff {project file : Path} (below : Below project file) :
    legal settings ignoreType project file = true ↔
      file ∉ ignoreFile settings ignoreType ∧ ¬ DirIgnored settings project file := by
  obtain ⟨ignored, result, meaning⟩ :=
    @pathInDirectoryIgnore_eq settings ignoreType _ _ below.1
  simp [legal, pathInFileIgnore, result, ← meaning]

/-- The object with entries appended to its three lists. -/
def extend (self : Clang) (sources cmakes ignored : List Path) : Clang :=
  { self with
    sourceFiles := self.sourceFiles ++ sources
    cmakeFiles := self.cmakeFiles ++ cmakes
    ignoredFiles := self.ignoredFiles ++ ignored }

@[simp] theorem extend_sourceFiles (self : Clang) (s c i : List Path) :
    (self.extend s c i).sourceFiles = self.sourceFiles ++ s := rfl

@[simp] theorem extend_cmakeFiles (self : Clang) (s c i : List Path) :
    (self.extend s c i).cmakeFiles = self.cmakeFiles ++ c := rfl

@[simp] theorem extend_ignoredFiles (self : Clang) (s c i : List Path) :
    (self.extend s c i).ignoredFiles = self.ignoredFiles ++ i := rfl

@[simp] theorem extend_nil (self : Clang) : self.extend [] [] [] = self := by
  simp [extend]

theorem extend_extend (self : Clang) (s c i s' c' i' : List Path) :
    (self.extend s c i).extend s' c' i' = self.extend (s ++ s') (c ++ c') (i ++ i') := by
  simp [extend]

/-! ## One loop -/

theorem sortFile_eq {project file : Path} (keep : Clang → Path → Clang) (self : Clang)
    (below : Below project file) :
    sortFile settings ignoreType project keep self file =
      .ok (if legal settings ignoreType project file then keep self file
        else self.appendIgnored file) := by
  obtain ⟨ignored, result, -⟩ :=
    @pathInDirectoryIgnore_eq settings ignoreType _ _ below.1
  unfold sortFile legal
  rw [result]
  by_cases inFile : pathInFileIgnore settings file ignoreType = true
  · simp [inFile, pure, Except.pure]
  · cases ignored <;> simp [inFile, pure, Except.pure, bind, Except.bind]

/-- A loop over entries below the project sorts them in order. `source` and `cmake`
say where the loop keeps a file. -/
theorem foldlM_sortFile_eq {project : Path} (source cmake : Path → List Path) (files : List Path)
    (self : Clang) (below : ∀ file ∈ files, Below project file) :
    files.foldlM
        (sortFile settings ignoreType project fun self file =>
          self.extend (source file) (cmake file) []) self =
      .ok (self.extend
        ((files.filter (legal settings ignoreType project)).flatMap source)
        ((files.filter (legal settings ignoreType project)).flatMap cmake)
        (files.filter fun file => !legal settings ignoreType project file)) := by
  induction files generalizing self with
  | nil => simp [pure, Except.pure]
  | cons file files ih =>
      have tail : ∀ file ∈ files, Below project file :=
        fun f member => below f (List.mem_cons_of_mem _ member)
      rw [List.foldlM_cons, sortFile_eq _ _ (below file (List.mem_cons_self ..))]
      show List.foldlM _ _ files = _
      rw [ih _ tail]
      by_cases ok : legal settings ignoreType project file = true
      · simp [ok, extend_extend]
      · simp [ok, extend, appendIgnored]

theorem appendSource_eq : appendSource = fun self file => self.extend [file] [] [] := by
  funext self file
  simp [appendSource, extend]

theorem appendCmake_eq : appendCmake = fun self file => self.extend [] [file] [] := by
  funext self file
  simp [appendCmake, extend]

/-! ## The whole call -/

/-- The entries the loops of one project visit. -/
def projectEntries (fs : FileSystem) (project : Path) : List Path :=
  fs.rglob project ".cpp" ++ fs.rglob project ".hpp" ++ fs.rglob project ".txt"

/-- What a call adds to `_source_files` for a project. -/
def projectSources (settings : Settings) (fs : FileSystem) (ignoreType : IgnoreType)
    (project : Path) : List Path :=
  (fs.rglob project ".cpp" ++ fs.rglob project ".hpp").filter (legal settings ignoreType project)

/-- What a call adds to `_cmake_files` for a project. -/
def projectCmakes (settings : Settings) (fs : FileSystem) (ignoreType : IgnoreType)
    (project : Path) : List Path :=
  (fs.rglob project ".txt").filter (legal settings ignoreType project)

/-- What a call adds to `_ignored_files` for a project. -/
def projectIgnored (settings : Settings) (fs : FileSystem) (ignoreType : IgnoreType)
    (project : Path) : List Path :=
  (projectEntries fs project).filter fun file => !legal settings ignoreType project file

theorem aggregateProject_eq (self : Clang) (project : Path) :
    aggregateProject settings fs ignoreType self project =
      .ok (self.extend (projectSources settings fs ignoreType project)
        (projectCmakes settings fs ignoreType project)
        (projectIgnored settings fs ignoreType project)) := by
  have below : ∀ suffix, ∀ file ∈ fs.rglob project suffix, Below project file :=
    fun suffix file member => fs.rglob_below project suffix file member
  unfold aggregateProject
  rw [appendSource_eq, appendCmake_eq, foldlM_sortFile_eq _ _ _ _ (below ".cpp")]
  simp only [bind, Except.bind]
  rw [foldlM_sortFile_eq _ _ _ _ (below ".hpp")]
  simp only
  rw [foldlM_sortFile_eq _ _ _ _ (below ".txt")]
  have dropped : ∀ files : List Path, (files.flatMap fun _ => ([] : List Path)) = [] :=
    fun files => List.flatMap_eq_nil_iff.mpr fun _ _ => rfl
  simp [extend_extend, projectSources, projectCmakes, projectIgnored, projectEntries,
    dropped]

/-- What a call adds to `_source_files`. -/
def addedSources (settings : Settings) (fs : FileSystem) (ignoreType : IgnoreType) : List Path :=
  settings.projects.flatMap (projectSources settings fs ignoreType)

/-- What a call adds to `_cmake_files`. -/
def addedCmakes (settings : Settings) (fs : FileSystem) (ignoreType : IgnoreType) : List Path :=
  settings.projects.flatMap (projectCmakes settings fs ignoreType)

/-- What a call adds to `_ignored_files`. -/
def addedIgnored (settings : Settings) (fs : FileSystem) (ignoreType : IgnoreType) : List Path :=
  settings.projects.flatMap (projectIgnored settings fs ignoreType)

/-- The object a call leaves. The call never raises: the walk from an enumerated
entry ends at its project. -/
def aggregated (settings : Settings) (fs : FileSystem) (ignoreType : IgnoreType) (self : Clang) :
    Clang :=
  self.extend (addedSources settings fs ignoreType) (addedCmakes settings fs ignoreType)
    (addedIgnored settings fs ignoreType)

theorem aggregateFiles_eq (self : Clang) :
    aggregateFiles settings fs ignoreType self = .ok (aggregated settings fs ignoreType self) := by
  unfold aggregateFiles aggregated addedSources addedCmakes addedIgnored
  induction settings.projects generalizing self with
  | nil => simp [pure, Except.pure]
  | cons project projects ih =>
      rw [List.foldlM_cons, aggregateProject_eq]
      show List.foldlM _ _ projects = _
      rw [ih, extend_extend]
      rfl

/-- Sorting the entries of a project loses none and makes none up. -/
theorem project_perm (project : Path) :
    (projectSources settings fs ignoreType project ++ projectCmakes settings fs ignoreType project
      ++ projectIgnored settings fs ignoreType project).Perm (projectEntries fs project) := by
  unfold projectSources projectCmakes projectIgnored projectEntries
  rw [← List.filter_append]
  exact List.filter_append_perm _ _

end Tooling.Clang
