import Garak.Pathlib.FileSystem

/-!
# Trees of files

A tree of directories and files with their contents. `FileTree.search` goes through it from
the top: the entries of a directory, then the directories in it one after another, leaving
out those it is told to prune. `rglob` is the search that prunes nothing. Symbolic links to
directories are not followed by `rglob` and count as files.
-/

namespace Pathlib

variable {C : Type}

mutual
/-- A file, or a directory. -/
inductive FileTree (C : Type) where
  | file (content : C)
  | dir (entries : Entries C)

/-- The entries of a directory, in the order of its listing. -/
inductive Entries (C : Type) where
  | nil
  | cons (name : Component) (tree : FileTree C) (rest : Entries C)
end

/-- The names in a directory. -/
def Entries.names : Entries C → List Component
  | .nil => []
  | .cons name _ rest => name :: rest.names

/-- The entry of a directory. -/
def Entries.find (name : Component) : Entries C → Option (FileTree C)
  | .nil => none
  | .cons n tree rest => if n = name then some tree else rest.find name

/-- What stands at a path below the top. -/
def FileTree.node : List Component → FileTree C → Except OSError (FileTree C)
  | [], tree => .ok tree
  | _ :: _, .file _ => .error .notADirectory
  | name :: names, .dir entries =>
      match entries.find name with
      | some tree => tree.node names
      | none => .error .fileNotFound

/-- The entries of a directory that are kept. -/
def Entries.here (keep : Path → Bool) (top : Path) : Entries C → List Path
  | .nil => []
  | .cons name _ rest =>
      if keep (top.child name) then top.child name :: rest.here keep top else rest.here keep top

mutual
/-- The entries below `top` that are kept, a directory before the directories in it. -/
def FileTree.search (skip keep : Path → Bool) (top : Path) : FileTree C → List Path
  | .file _ => []
  | .dir entries => entries.here keep top ++ entries.inside skip keep top

/-- The search in the directories among the entries. -/
def Entries.inside (skip keep : Path → Bool) (top : Path) : Entries C → List Path
  | .nil => []
  | .cons name tree rest =>
      (if skip (top.child name) then [] else tree.search skip keep (top.child name)) ++
        rest.inside skip keep top
end

mutual
/-- The tree with every file changed, by a function of its path and its content. -/
def FileTree.mapFiles (f : Path → C → C) (top : Path) : FileTree C → FileTree C
  | .file content => .file (f top content)
  | .dir entries => .dir (entries.mapFiles f top)

def Entries.mapFiles (f : Path → C → C) (top : Path) : Entries C → Entries C
  | .nil => .nil
  | .cons name tree rest =>
      .cons name (tree.mapFiles f (top.child name)) (rest.mapFiles f top)
end

mutual
/-- The names, without contents and without what is in the directories that are skipped. -/
def FileTree.outline (skip : Path → Bool) (top : Path) : FileTree C → FileTree Unit
  | .file _ => .file ()
  | .dir entries => .dir (entries.outline skip top)

def Entries.outline (skip : Path → Bool) (top : Path) : Entries C → Entries Unit
  | .nil => .nil
  | .cons name tree rest =>
      .cons name
        (if skip (top.child name) then .file () else tree.outline skip (top.child name))
        (rest.outline skip top)
end

mutual
/-- No directory holds two entries of one name. -/
def FileTree.Distinct : FileTree C → Prop
  | .file _ => True
  | .dir entries => entries.names.Nodup ∧ entries.Distinct

def Entries.Distinct : Entries C → Prop
  | .nil => True
  | .cons _ tree rest => tree.Distinct ∧ rest.Distinct
end

mutual
def FileTree.decidableDistinct : (tree : FileTree C) → Decidable tree.Distinct
  | .file _ => .isTrue trivial
  | .dir entries =>
      have := entries.decidableDistinct
      inferInstanceAs (Decidable (entries.names.Nodup ∧ entries.Distinct))

def Entries.decidableDistinct : (entries : Entries C) → Decidable entries.Distinct
  | .nil => .isTrue trivial
  | .cons _ tree rest =>
      have := tree.decidableDistinct
      have := rest.decidableDistinct
      inferInstanceAs (Decidable (tree.Distinct ∧ rest.Distinct))
end

instance (tree : FileTree C) : Decidable tree.Distinct := tree.decidableDistinct

/-! ## Paths into a tree -/

theorem Path.length_lt_of_below {top path : Path} (below : Path.Below top path) :
    top.parts.length < path.parts.length := by
  rcases Nat.lt_or_ge top.parts.length path.parts.length with shorter | longer
  · exact shorter
  · have parts := below.1.2.eq_of_length (Nat.le_antisymm below.1.2.length_le longer)
    exact absurd (Path.eq_of_parts below.1.1 parts) below.2

theorem Path.not_below_child (top : Path) (name name' : Component) :
    ¬ Path.Below (top.child name) (top.child name') := by
  intro below
  have lengths := Path.length_lt_of_below below
  simp at lengths

/-- A path goes through one entry of a directory. -/
theorem Path.child_inj_of_under {top path : Path} {name name' : Component}
    (under : Path.Under (top.child name) path) (under' : Path.Under (top.child name') path) :
    name = name' := by
  apply Path.child_inj
  by_contra apart
  rcases Path.under_total under under' with above | above
  · exact Path.not_below_child top name name' ⟨above, apart⟩
  · exact Path.not_below_child top name' name ⟨above, Ne.symm apart⟩

/-- Above an entry and below its directory there is only the entry itself. -/
theorem Path.eq_child_of_under {top path : Path} {name : Component} (below : Path.Below top path)
    (under : Path.Under path (top.child name)) : path = top.child name := by
  rcases Path.under_cases under with same | above
  · exact same
  · have parent : (top.child name).parent = top := Path.eq_of_parts rfl (by simp)
    rw [parent] at above
    exact absurd (Path.under_antisymm below.1 above) below.2

/-! ## What a search finds -/

theorem Entries.mem_here {keep : Path → Bool} {top path : Path} :
    ∀ entries : Entries C, path ∈ entries.here keep top ↔
      ∃ name ∈ entries.names, path = top.child name ∧ keep path = true
  | .nil => by simp [here, names]
  | .cons name tree rest => by
      have ih := @Entries.mem_here keep top path rest
      unfold here names
      simp only [List.mem_cons, exists_eq_or_imp]
      by_cases kept : keep (top.child name) = true
      · rw [if_pos kept, List.mem_cons, ih]
        constructor
        · intro found
          rcases found with equal | later
          · exact .inl ⟨equal, equal ▸ kept⟩
          · exact .inr later
        · intro found
          rcases found with ⟨equal, -⟩ | later
          · exact .inl equal
          · exact .inr later
      · rw [if_neg kept, ih]
        constructor
        · exact .inr
        · intro found
          rcases found with ⟨equal, kept'⟩ | later
          · exact absurd (equal ▸ kept') kept
          · exact later

mutual
/-- A search stays below its top and finds what is to be kept. -/
theorem FileTree.search_sound {skip keep : Path → Bool} {top path : Path} :
    ∀ tree : FileTree C, path ∈ tree.search skip keep top → Path.Below top path ∧ keep path = true
  | .file _, found => by
      unfold FileTree.search at found
      cases found
  | .dir entries, found => by
      unfold FileTree.search at found
      rcases List.mem_append.mp found with here | inside
      · obtain ⟨name, -, rfl, kept⟩ := entries.mem_here.mp here
        exact ⟨Path.below_child top name, kept⟩
      · obtain ⟨name, -, below, kept⟩ := entries.inside_sound inside
        exact ⟨Path.below_of_under_of_below (Path.below_child top name) below.1, kept⟩

theorem Entries.inside_sound {skip keep : Path → Bool} {top path : Path} :
    ∀ entries : Entries C, path ∈ entries.inside skip keep top →
      ∃ name ∈ entries.names, Path.Below (top.child name) path ∧ keep path = true
  | .nil, found => by
      unfold Entries.inside at found
      cases found
  | .cons name tree rest, found => by
      unfold Entries.inside at found
      rcases List.mem_append.mp found with first | later
      · split at first
        · cases first
        · exact ⟨name, List.mem_cons_self .., tree.search_sound first⟩
      · obtain ⟨name', member, sound⟩ := rest.inside_sound later
        exact ⟨name', List.mem_cons_of_mem _ member, sound⟩
end

theorem Entries.here_nodup {keep : Path → Bool} {top : Path} :
    ∀ entries : Entries C, entries.names.Nodup → (entries.here keep top).Nodup
  | .nil, _ => List.nodup_nil
  | .cons name tree rest, distinct => by
      obtain ⟨fresh, distinct'⟩ := List.nodup_cons.mp distinct
      have ih := @Entries.here_nodup keep top rest distinct'
      unfold here
      split
      · refine List.nodup_cons.mpr ⟨fun again => ?_, ih⟩
        obtain ⟨name', member, same, -⟩ := rest.mem_here.mp again
        rw [Path.child_inj same] at fresh
        exact fresh member
      · exact ih

mutual
/-- Nothing is found twice. -/
theorem FileTree.search_nodup {skip keep : Path → Bool} {top : Path} :
    ∀ tree : FileTree C, tree.Distinct → (tree.search skip keep top).Nodup
  | .file _, _ => by
      unfold FileTree.search
      exact List.nodup_nil
  | .dir entries, distinct => by
      unfold FileTree.search
      refine List.nodup_append.mpr ⟨entries.here_nodup distinct.1,
        entries.inside_nodup distinct.1 distinct.2, ?_⟩
      intro path here other inside same
      obtain ⟨name, -, rfl, -⟩ := entries.mem_here.mp here
      obtain ⟨name', -, below, -⟩ := entries.inside_sound inside
      rw [← same] at below
      exact Path.not_below_child top name' name below

theorem Entries.inside_nodup {skip keep : Path → Bool} {top : Path} :
    ∀ entries : Entries C, entries.names.Nodup → entries.Distinct →
      (entries.inside skip keep top).Nodup
  | .nil, _, _ => by
      unfold Entries.inside
      exact List.nodup_nil
  | .cons name tree rest, names, distinct => by
      obtain ⟨fresh, names'⟩ := List.nodup_cons.mp names
      unfold Entries.inside
      refine List.nodup_append.mpr ⟨?_, rest.inside_nodup names' distinct.2, ?_⟩
      · split
        · exact List.nodup_nil
        · exact tree.search_nodup distinct.1
      · intro path first other later same
        split at first
        · cases first
        · obtain ⟨below, -⟩ := tree.search_sound first
          obtain ⟨name', member, below', -⟩ := rest.inside_sound later
          rw [← same] at below'
          rw [Path.child_inj_of_under below'.1 below.1] at member
          exact fresh member
end

/-! ## Searching less -/

/-- A directory on the way from `top` down to `path` is skipped; the way ends with `path`
itself. -/
def Blocked (skip : Path → Bool) (top path : Path) : Prop :=
  ∃ dir, Path.Below top dir ∧ Path.Under dir path ∧ skip dir = true

theorem blocked_child_iff {skip : Path → Bool} {top path : Path} {name : Component}
    (under : Path.Under (top.child name) path) :
    Blocked skip top path ↔ skip (top.child name) = true ∨ Blocked skip (top.child name) path := by
  constructor
  · intro given
    obtain ⟨dir, below, above, skipped⟩ := given
    rcases Path.under_total above under with higher | lower
    · rw [Path.eq_child_of_under below higher] at skipped
      exact .inl skipped
    · by_cases same : top.child name = dir
      · exact .inl (same ▸ skipped)
      · exact .inr ⟨dir, ⟨lower, same⟩, above, skipped⟩
  · intro blocked
    rcases blocked with skipped | ⟨dir, below, above, skipped⟩
    · exact ⟨_, Path.below_child top name, under, skipped⟩
    · exact ⟨dir, Path.below_of_under_of_below (Path.below_child top name) below.1, above, skipped⟩

theorem blocked_entry_iff {skip : Path → Bool} {top : Path} {name : Component} :
    Blocked skip top (top.child name) ↔ skip (top.child name) = true := by
  rw [blocked_child_iff (Path.under_refl _), or_iff_left]
  intro blocked
  obtain ⟨dir, below, above, -⟩ := blocked
  exact below.2 (Path.under_antisymm below.1 above)

/-- The test `legal` lets through what `extra` does, except below skipped directories. -/
def Passes (skip extra legal : Path → Bool) (top : Path) : Prop :=
  ∀ path, Path.Below top path → (legal path = true ↔ extra path = true ∧ ¬ Blocked skip top path)

theorem Passes.child {skip extra legal : Path → Bool} {top : Path}
    (passes : Passes skip extra legal top) {name : Component}
    (entered : skip (top.child name) = false) : Passes skip extra legal (top.child name) := by
  intro path below
  rw [passes path (Path.below_of_under_of_below (Path.below_child top name) below.1),
    blocked_child_iff below.1, entered]
  simp

theorem Entries.filter_here {skip extra keep legal : Path → Bool} {top : Path}
    (passes : Passes skip extra legal top) :
    ∀ entries : Entries C, (entries.here keep top).filter legal =
      entries.here (fun path => keep path && extra path && !skip path) top
  | .nil => rfl
  | .cons name tree rest => by
      have ih := @Entries.filter_here skip extra keep legal top passes rest
      have test : legal (top.child name) = (extra (top.child name) && !skip (top.child name)) := by
        rw [Bool.eq_iff_iff, passes _ (Path.below_child top name), blocked_entry_iff]
        simp
      unfold here
      by_cases kept : keep (top.child name) = true
      · rw [if_pos kept, List.filter_cons, ih, test, kept]
        simp
      · rw [if_neg kept, ih, Bool.eq_false_iff.mpr kept]
        simp

mutual
/-- Sorting out afterwards what lies below skipped directories is not to go there in the
first place. -/
theorem FileTree.filter_search {skip extra keep legal : Path → Bool} {top : Path}
    (passes : Passes skip extra legal top) :
    ∀ tree : FileTree C, (tree.search (fun _ => false) keep top).filter legal =
      tree.search skip (fun path => keep path && extra path && !skip path) top
  | .file _ => by
      unfold FileTree.search
      rfl
  | .dir entries => by
      unfold FileTree.search
      rw [List.filter_append, entries.filter_here passes, entries.filter_inside passes]

theorem Entries.filter_inside {skip extra keep legal : Path → Bool} {top : Path}
    (passes : Passes skip extra legal top) :
    ∀ entries : Entries C, (entries.inside (fun _ => false) keep top).filter legal =
      entries.inside skip (fun path => keep path && extra path && !skip path) top
  | .nil => by
      unfold Entries.inside
      rfl
  | .cons name tree rest => by
      unfold Entries.inside
      rw [List.filter_append, rest.filter_inside passes, if_neg Bool.false_ne_true]
      congr 1
      cases entered : skip (top.child name) with
      | false =>
          rw [if_neg Bool.false_ne_true]
          exact tree.filter_search (passes.child entered)
      | true =>
          rw [if_pos rfl, List.filter_eq_nil_iff]
          intro path found legal'
          obtain ⟨below, -⟩ := tree.search_sound found
          have inside := Path.below_of_under_of_below (Path.below_child top name) below.1
          exact ((passes path inside).mp legal').2 ((blocked_child_iff below.1).mpr (.inl entered))
end

mutual
/-- A search sees nothing of what it skips. -/
theorem FileTree.search_outline {skip keep : Path → Bool} {top : Path} :
    ∀ tree : FileTree C, (tree.outline skip top).search skip keep top = tree.search skip keep top
  | .file _ => by
      unfold FileTree.outline FileTree.search
      rfl
  | .dir entries => by
      unfold FileTree.outline FileTree.search
      rw [entries.here_outline, entries.inside_outline]

theorem Entries.inside_outline {skip keep : Path → Bool} {top : Path} :
    ∀ entries : Entries C, (entries.outline skip top).inside skip keep top =
      entries.inside skip keep top
  | .nil => by
      unfold Entries.outline Entries.inside
      rfl
  | .cons name tree rest => by
      unfold Entries.outline Entries.inside
      rw [rest.inside_outline]
      congr 1
      cases entered : skip (top.child name) with
      | false =>
          rw [if_neg Bool.false_ne_true, if_neg Bool.false_ne_true, if_neg Bool.false_ne_true]
          exact tree.search_outline
      | true => rfl

theorem Entries.here_outline {skip keep : Path → Bool} {top : Path} :
    ∀ entries : Entries C, (entries.outline skip top).here keep top = entries.here keep top
  | .nil => by
      unfold Entries.outline
      rfl
  | .cons name tree rest => by
      unfold Entries.outline Entries.here
      rw [rest.here_outline]
end

/-! ## Changing files -/

theorem Entries.names_mapFiles {f : Path → C → C} {top : Path} :
    ∀ entries : Entries C, (entries.mapFiles f top).names = entries.names
  | .nil => by
      unfold mapFiles
      rfl
  | .cons name tree rest => by
      unfold mapFiles names
      rw [rest.names_mapFiles]

theorem Entries.here_mapFiles {f : Path → C → C} {keep : Path → Bool} {top top' : Path} :
    ∀ entries : Entries C, (entries.mapFiles f top).here keep top' = entries.here keep top'
  | .nil => by
      unfold mapFiles
      rfl
  | .cons name tree rest => by
      unfold mapFiles here
      rw [rest.here_mapFiles]

theorem Entries.find_mapFiles {f : Path → C → C} {top : Path} {name : Component} :
    ∀ entries : Entries C, (entries.mapFiles f top).find name =
      (entries.find name).map (FileTree.mapFiles f (top.child name))
  | .nil => by
      unfold mapFiles
      rfl
  | .cons n tree rest => by
      unfold mapFiles find
      by_cases same : n = name
      · rw [if_pos same, if_pos same, same]
        rfl
      · rw [if_neg same, if_neg same, rest.find_mapFiles]

mutual
/-- A search looks at names only. -/
theorem FileTree.search_mapFiles {f : Path → C → C} {skip keep : Path → Bool} {top top' : Path} :
    ∀ tree : FileTree C, (tree.mapFiles f top).search skip keep top' = tree.search skip keep top'
  | .file _ => by
      unfold FileTree.mapFiles FileTree.search
      rfl
  | .dir entries => by
      unfold FileTree.mapFiles FileTree.search
      rw [entries.here_mapFiles, entries.inside_mapFiles]

theorem Entries.inside_mapFiles {f : Path → C → C} {skip keep : Path → Bool} {top top' : Path} :
    ∀ entries : Entries C,
      (entries.mapFiles f top).inside skip keep top' = entries.inside skip keep top'
  | .nil => by
      unfold Entries.mapFiles Entries.inside
      rfl
  | .cons name tree rest => by
      unfold Entries.mapFiles Entries.inside
      rw [tree.search_mapFiles, rest.inside_mapFiles]
end

mutual
theorem FileTree.distinct_mapFiles {f : Path → C → C} {top : Path} :
    ∀ tree : FileTree C, tree.Distinct → (tree.mapFiles f top).Distinct
  | .file _, _ => by
      unfold FileTree.mapFiles
      trivial
  | .dir entries, distinct => by
      unfold FileTree.mapFiles
      refine ⟨?_, entries.distinct_mapFiles distinct.2⟩
      rw [entries.names_mapFiles]
      exact distinct.1

theorem Entries.distinct_mapFiles {f : Path → C → C} {top : Path} :
    ∀ entries : Entries C, entries.Distinct → (entries.mapFiles f top).Distinct
  | .nil, _ => by
      unfold Entries.mapFiles
      trivial
  | .cons name tree rest, distinct => by
      unfold Entries.mapFiles
      exact ⟨tree.distinct_mapFiles distinct.1, rest.distinct_mapFiles distinct.2⟩
end

mutual
/-- One change after another. -/
theorem FileTree.mapFiles_mapFiles {f g : Path → C → C} {top : Path} :
    ∀ tree : FileTree C, (tree.mapFiles f top).mapFiles g top =
      tree.mapFiles (fun path content => g path (f path content)) top
  | .file _ => by
      unfold FileTree.mapFiles
      rfl
  | .dir entries => by
      simp only [FileTree.mapFiles]
      rw [entries.mapFiles_mapFiles]

theorem Entries.mapFiles_mapFiles {f g : Path → C → C} {top : Path} :
    ∀ entries : Entries C, (entries.mapFiles f top).mapFiles g top =
      entries.mapFiles (fun path content => g path (f path content)) top
  | .nil => by
      unfold Entries.mapFiles
      rfl
  | .cons name tree rest => by
      simp only [Entries.mapFiles]
      rw [tree.mapFiles_mapFiles, rest.mapFiles_mapFiles]
end

mutual
theorem FileTree.mapFiles_id {top : Path} :
    ∀ tree : FileTree C, tree.mapFiles (fun _ content => content) top = tree
  | .file _ => by unfold FileTree.mapFiles; rfl
  | .dir entries => by unfold FileTree.mapFiles; rw [entries.mapFiles_id]

theorem Entries.mapFiles_id {top : Path} :
    ∀ entries : Entries C, entries.mapFiles (fun _ content => content) top = entries
  | .nil => by unfold Entries.mapFiles; rfl
  | .cons name tree rest => by
      unfold Entries.mapFiles
      rw [tree.mapFiles_id, rest.mapFiles_id]
end

theorem FileTree.node_mapFiles {f : Path → C → C} (names : List Component) (top : Path)
    (tree : FileTree C) :
    (tree.mapFiles f top).node names =
      (tree.node names).map (FileTree.mapFiles f { top with parts := top.parts ++ names }) := by
  induction names generalizing top tree with
  | nil => simp [FileTree.node, Except.map]
  | cons name names ih =>
      cases tree with
      | file content =>
          unfold FileTree.mapFiles
          rfl
      | dir entries =>
          unfold FileTree.mapFiles FileTree.node
          rw [entries.find_mapFiles]
          cases entries.find name with
          | none => rfl
          | some tree =>
              have deeper := ih (top.child name) tree
              simp only [Path.child, List.append_assoc, List.singleton_append] at deeper
              exact deeper

theorem Entries.distinct_of_find {name : Component} {found : FileTree C} :
    ∀ entries : Entries C, entries.Distinct → entries.find name = some found → found.Distinct
  | .nil, _, entry => by cases entry
  | .cons n tree rest, distinct, entry => by
      unfold find at entry
      split at entry
      · cases entry
        exact distinct.1
      · exact rest.distinct_of_find distinct.2 entry

theorem FileTree.distinct_of_node {names : List Component} {tree found : FileTree C}
    (distinct : tree.Distinct) (node : tree.node names = .ok found) : found.Distinct := by
  induction names generalizing tree with
  | nil =>
      cases node
      exact distinct
  | cons name names ih =>
      cases tree with
      | file content => cases node
      | dir entries =>
          unfold FileTree.node at node
          cases entry : entries.find name with
          | none =>
              rw [entry] at node
              cases node
          | some tree =>
              rw [entry] at node
              exact ih (entries.distinct_of_find distinct.2 entry) node

/-! ## Every file of a tree -/

theorem Entries.mem_names_of_find {name : Component} {found : FileTree C} :
    ∀ entries : Entries C, entries.find name = some found → name ∈ entries.names
  | .nil, entry => by cases entry
  | .cons n tree rest, entry => by
      unfold find at entry
      unfold names
      split at entry
      · rename_i same
        exact same ▸ List.mem_cons_self ..
      · exact List.mem_cons_of_mem _ (rest.mem_names_of_find entry)

theorem Entries.mem_inside_of_find {keep : Path → Bool} {top path : Path} {name : Component}
    {found : FileTree C} :
    ∀ entries : Entries C, entries.find name = some found →
      path ∈ found.search (fun _ => false) keep (top.child name) →
      path ∈ entries.inside (fun _ => false) keep top
  | .nil, entry, _ => by cases entry
  | .cons n tree rest, entry, deeper => by
      unfold find at entry
      unfold Entries.inside
      rw [if_neg Bool.false_ne_true]
      split at entry
      · rename_i same
        cases entry
        exact List.mem_append_left _ (same ▸ deeper)
      · exact List.mem_append_right _ (rest.mem_inside_of_find entry deeper)

/-- A search that skips nothing finds everything there is. -/
theorem FileTree.mem_search_of_node {keep : Path → Bool} {found : FileTree C} (name : Component)
    (names : List Component) (top : Path) (tree : FileTree C)
    (node : tree.node (name :: names) = .ok found) :
    let path : Path := { top with parts := top.parts ++ name :: names }
    keep path = true → path ∈ tree.search (fun _ => false) keep top := by
  intro path kept
  induction names generalizing name top tree with
  | nil =>
      cases tree with
      | file content => cases node
      | dir entries =>
          unfold FileTree.node at node
          cases entry : entries.find name with
          | none =>
              rw [entry] at node
              cases node
          | some tree =>
              unfold FileTree.search
              apply List.mem_append_left
              exact entries.mem_here.mpr ⟨name, entries.mem_names_of_find entry, rfl, kept⟩
  | cons name' names ih =>
      cases tree with
      | file content => cases node
      | dir entries =>
          unfold FileTree.node at node
          cases entry : entries.find name with
          | none =>
              rw [entry] at node
              cases node
          | some tree =>
              rw [entry] at node
              unfold FileTree.search
              apply List.mem_append_right
              apply entries.mem_inside_of_find entry
              have same : ({ top.child name with
                  parts := (top.child name).parts ++ name' :: names } : Path) = path :=
                Path.eq_of_parts rfl (by simp [path])
              have deeper := ih name' (top.child name) tree node
              rw [same] at deeper
              exact deeper kept

theorem FileTree.node_append (names names' : List Component) (tree : FileTree C) :
    tree.node (names ++ names') = tree.node names >>= FileTree.node names' := by
  induction names generalizing tree with
  | nil => rfl
  | cons name names ih =>
      cases tree with
      | file content => rfl
      | dir entries =>
          rw [List.cons_append, FileTree.node, FileTree.node]
          cases entries.find name with
          | none => rfl
          | some tree => exact ih tree

mutual
/-- Changes that agree on the files there are. -/
theorem FileTree.mapFiles_congr {f g : Path → C → C} {top : Path} :
    ∀ tree : FileTree C, tree.Distinct →
      (∀ names content, tree.node names = .ok (.file content) →
        f { top with parts := top.parts ++ names } content =
          g { top with parts := top.parts ++ names } content) →
      tree.mapFiles f top = tree.mapFiles g top
  | .file content, _, agree => by
      have here := agree [] content rfl
      rw [List.append_nil] at here
      unfold FileTree.mapFiles
      exact congrArg FileTree.file here
  | .dir entries, distinct, agree => by
      unfold FileTree.mapFiles
      rw [entries.mapFiles_congr distinct.1 distinct.2]
      intro name tree names content entry node
      refine agree (name :: names) content ?_
      rw [FileTree.node, entry]
      exact node

theorem Entries.mapFiles_congr {f g : Path → C → C} {top : Path} :
    ∀ entries : Entries C, entries.names.Nodup → entries.Distinct →
      (∀ name tree names content, entries.find name = some tree →
        tree.node names = .ok (.file content) →
        f { top with parts := top.parts ++ name :: names } content =
          g { top with parts := top.parts ++ name :: names } content) →
      entries.mapFiles f top = entries.mapFiles g top
  | .nil, _, _, _ => by
      unfold Entries.mapFiles
      rfl
  | .cons n tree rest, names, distinct, agree => by
      obtain ⟨fresh, names'⟩ := List.nodup_cons.mp names
      unfold Entries.mapFiles
      rw [@FileTree.mapFiles_congr f g (top.child n) tree distinct.1,
        rest.mapFiles_congr names' distinct.2]
      · intro name found below content entry node
        have other : n ≠ name := by
          intro same
          rw [same] at fresh
          exact fresh (rest.mem_names_of_find entry)
        apply agree name found below content _ node
        rw [Entries.find, if_neg other]
        exact entry
      · intro below content node
        have first := agree n tree below content (by rw [Entries.find, if_pos rfl]) node
        simpa [Path.child] using first
end

/-! ## A tree at its place -/

/-- The files below a directory. -/
structure Volume (C : Type) where
  top : Path
  tree : FileTree C
  distinct : tree.Distinct

namespace Volume

/-- What stands at a path. -/
def node (volume : Volume C) (path : Path) : Except OSError (FileTree C) :=
  if Path.Under volume.top path then volume.tree.node (path.parts.drop volume.top.parts.length)
  else .error .fileNotFound

theorem distinct_of_node {volume : Volume C} {path : Path} {found : FileTree C}
    (node : volume.node path = .ok found) : found.Distinct := by
  unfold Volume.node at node
  split at node
  · exact FileTree.distinct_of_node volume.distinct node
  · cases node

/-- `path.is_dir()` -/
def isDir (volume : Volume C) (path : Path) : Except OSError Bool :=
  match volume.node path with
  | .ok (.dir _) => .ok true
  | _ => .ok false

/-- `path.iterdir()` -/
def iterdir (volume : Volume C) (path : Path) : Except OSError (List Component) :=
  match volume.node path with
  | .ok (.dir entries) => .ok entries.names
  | .ok (.file _) => .error .notADirectory
  | .error e => .error e

/-- `path.rglob("**/*" + suffix)`. The pattern has two `**`; what they find is found once. -/
def rglob (volume : Volume C) (path : Path) (suffix : String) : List Path :=
  match volume.node path with
  | .ok tree => tree.search (fun _ => false) (fun found => decide (endsWith found.name suffix)) path
  | .error _ => []

/-- The file system that holds the files. -/
def fs (volume : Volume C) : FileSystem where
  pathExists path := .ok (volume.node path).isOk
  isDir := volume.isDir
  iterdir := volume.iterdir
  rglob := volume.rglob
  exists_of_isDir path isDir := by
    unfold Volume.isDir at isDir
    cases node : volume.node path with
    | ok tree => rfl
    | error e =>
        rw [node] at isDir
        cases isDir
  isDir_of_iterdir path names listed := by
    unfold Volume.iterdir at listed
    unfold Volume.isDir
    split at listed
    · rename_i node
      rw [node]
    · cases listed
    · cases listed
  iterdir_nodup path names listed := by
    unfold Volume.iterdir at listed
    split at listed
    · rename_i node
      cases listed
      exact (distinct_of_node node).1
    · cases listed
    · cases listed
  rglob_below top suffix path found := by
    unfold Volume.rglob at found
    split at found
    · exact (FileTree.search_sound _ found).1
    · cases found
  rglob_endsWith top suffix path found := by
    unfold Volume.rglob at found
    split at found
    · exact of_decide_eq_true (FileTree.search_sound _ found).2
    · cases found
  rglob_nodup top suffix := by
    unfold Volume.rglob
    split
    · rename_i node
      exact FileTree.search_nodup _ (distinct_of_node node)
    · exact List.nodup_nil

/-- Change every file. -/
def mapFiles (f : Path → C → C) (volume : Volume C) : Volume C where
  top := volume.top
  tree := volume.tree.mapFiles f volume.top
  distinct := volume.tree.distinct_mapFiles volume.distinct

theorem node_mapFiles {f : Path → C → C} {volume : Volume C} (path : Path) :
    (volume.mapFiles f).node path = (volume.node path).map (FileTree.mapFiles f path) := by
  unfold Volume.node mapFiles
  by_cases under : Path.Under volume.top path
  · rw [if_pos under, if_pos under, FileTree.node_mapFiles]
    obtain ⟨anchor, rest, parts⟩ := under
    have whole : ({ volume.top with
        parts := volume.top.parts ++ path.parts.drop volume.top.parts.length } : Path) = path := by
      have lower : volume.top.parts ++ path.parts.drop volume.top.parts.length = path.parts := by
        rw [← parts, List.drop_left]
      exact Path.eq_of_parts anchor lower
    rw [whole]
  · rw [if_neg under, if_neg under]
    rfl

/-- What `pathlib` answers does not depend on the contents of files. -/
theorem fs_mapFiles (f : Path → C → C) (volume : Volume C) : (volume.mapFiles f).fs = volume.fs := by
  have pathExists : (volume.mapFiles f).fs.pathExists = volume.fs.pathExists := by
    funext path
    refine congrArg Except.ok ?_
    rw [node_mapFiles]
    cases volume.node path <;> rfl
  have isDir : (volume.mapFiles f).fs.isDir = volume.fs.isDir := by
    funext path
    show (volume.mapFiles f).isDir path = volume.isDir path
    unfold Volume.isDir
    rw [node_mapFiles]
    cases volume.node path with
    | error e => rfl
    | ok tree => cases tree <;> simp [Except.map, FileTree.mapFiles]
  have iterdir : (volume.mapFiles f).fs.iterdir = volume.fs.iterdir := by
    funext path
    show (volume.mapFiles f).iterdir path = volume.iterdir path
    unfold Volume.iterdir
    rw [node_mapFiles]
    cases volume.node path with
    | error e => rfl
    | ok tree => cases tree <;> simp [Except.map, FileTree.mapFiles, Entries.names_mapFiles]
  have rglob : (volume.mapFiles f).fs.rglob = volume.fs.rglob := by
    funext path suffix
    show (volume.mapFiles f).rglob path suffix = volume.rglob path suffix
    unfold Volume.rglob
    rw [node_mapFiles]
    cases volume.node path with
    | error e => rfl
    | ok tree => exact tree.search_mapFiles
  cases left : (volume.mapFiles f).fs
  cases right : volume.fs
  rw [left, right] at pathExists isDir iterdir rglob
  cases pathExists
  cases isDir
  cases iterdir
  cases rglob
  rfl

/-- Changes that agree on the files there are. -/
theorem mapFiles_congr {f g : Path → C → C} {volume : Volume C}
    (agree : ∀ path content, volume.node path = .ok (.file content) → f path content = g path content) :
    volume.mapFiles f = volume.mapFiles g := by
  unfold mapFiles
  congr 1
  apply FileTree.mapFiles_congr _ volume.distinct
  intro names content node
  apply agree
  unfold Volume.node
  have under : Path.Under volume.top { volume.top with parts := volume.top.parts ++ names } :=
    ⟨rfl, List.prefix_append _ _⟩
  rw [if_pos under]
  simpa using node

/-- Below a path that is there. -/
theorem node_below {volume : Volume C} {project path : Path} {found : FileTree C}
    (inside : Path.Under volume.top project) {name : Component} {names : List Component}
    (below : path = { project with parts := project.parts ++ name :: names })
    (node : volume.node path = .ok found) :
    ∃ tree, volume.node project = .ok tree ∧ tree.node (name :: names) = .ok found := by
  have under : Path.Under volume.top path :=
    Path.under_trans inside ⟨by rw [below], by rw [below]; exact List.prefix_append _ _⟩
  unfold Volume.node at node ⊢
  rw [if_pos under, below] at node
  rw [if_pos inside]
  dsimp only at node
  rw [List.drop_append_of_le_length inside.2.length_le, FileTree.node_append] at node
  cases upper : volume.tree.node (project.parts.drop volume.top.parts.length) with
  | error e =>
      rw [upper] at node
      cases node
  | ok tree =>
      rw [upper] at node
      exact ⟨tree, rfl, node⟩

/-- `rglob` finds whatever there is below a path. -/
theorem mem_rglob_iff {volume : Volume C} {project path : Path} {suffix : String} {found : FileTree C}
    (inside : Path.Under volume.top project) (node : volume.node path = .ok found) :
    path ∈ volume.rglob project suffix ↔ Path.Below project path ∧ endsWith path.name suffix := by
  constructor
  · intro member
    exact ⟨volume.fs.rglob_below project suffix path member,
      volume.fs.rglob_endsWith project suffix path member⟩
  · intro given
    obtain ⟨below, ends⟩ := given
    obtain ⟨rest, parts⟩ := below.1.2
    cases rest with
    | nil =>
        rw [List.append_nil] at parts
        exact absurd (Path.eq_of_parts below.1.1 parts) below.2
    | cons name names =>
        have same : path = { project with parts := project.parts ++ name :: names } :=
          Path.eq_of_parts below.1.1.symm parts.symm
        obtain ⟨tree, upper, lower⟩ := node_below inside same node
        unfold Volume.rglob
        rw [upper]
        have member := @FileTree.mem_search_of_node C (fun path => decide (endsWith path.name suffix))
          found name names project tree lower
        rw [← same] at member
        exact member (decide_eq_true ends)

theorem mapFiles_mapFiles (f g : Path → C → C) (volume : Volume C) :
    (volume.mapFiles f).mapFiles g = volume.mapFiles fun path content => g path (f path content) := by
  unfold mapFiles
  congr 1
  exact volume.tree.mapFiles_mapFiles

theorem mapFiles_id (volume : Volume C) : volume.mapFiles (fun _ content => content) = volume := by
  unfold mapFiles
  congr 1
  exact volume.tree.mapFiles_id

end Volume

end Pathlib
