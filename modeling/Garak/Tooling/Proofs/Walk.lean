import Garak.Tooling.Clang

/-!
# The parent walk

`_path_in_directory_ignore` climbs from a path to its project root. Below the root
the climb ends within one call for each component, whatever the ignore lists hold,
and its answer is whether some directory on the way is in one of the *two* lists:
the tool asked for plays no part in it.
-/

namespace Tooling.Clang

open Pathlib Path

variable {settings : Settings} {ignoreType : IgnoreType} {projectRoot path : Path}

/-- A directory on the way from `path` up to, and not including, `projectRoot` is in
`dirs`; the way begins with `path` itself. -/
def InDir (dirs : List Path) (projectRoot path : Path) : Prop :=
  ∃ dir, Below projectRoot dir ∧ Under dir path ∧ dir ∈ dirs

/-- The directories either tool ignores. -/
def eitherIgnoreDir (settings : Settings) : List Path :=
  settings.clangFormatIgnoreDir ++ settings.clangTidyIgnoreDir

theorem mem_eitherIgnoreDir :
    path ∈ eitherIgnoreDir settings ↔
      path ∈ settings.clangFormatIgnoreDir ∨ path ∈ settings.clangTidyIgnoreDir :=
  List.mem_append

theorem ignoreDir_subset (ignoreType : IgnoreType) {dir : Path}
    (member : dir ∈ ignoreDir settings ignoreType) : dir ∈ eitherIgnoreDir settings := by
  cases ignoreType with
  | clangFormat => exact List.mem_append_left _ member
  | clangTidy => exact List.mem_append_right _ member

theorem not_inDir_self (dirs : List Path) (projectRoot : Path) :
    ¬ InDir dirs projectRoot projectRoot := by
  intro given
  obtain ⟨dir, below, under, -⟩ := given
  exact below.2 (under_antisymm below.1 under)

/-- A path that is not in the list itself is below a listed directory when its
parent is. -/
theorem inDir_parent_iff {dirs : List Path} (absent : path ∉ dirs) :
    InDir dirs projectRoot path ↔ InDir dirs projectRoot path.parent := by
  constructor
  · intro given
    obtain ⟨dir, below, under, member⟩ := given
    rcases under_cases under with rfl | above
    · exact absurd member absent
    · exact ⟨dir, below, above, member⟩
  · intro given
    obtain ⟨dir, below, under, member⟩ := given
    exact ⟨dir, below, under_trans under (parent_under path), member⟩

/-- The walk from a path at or below the project root ends, with the answer for both
directory lists taken together. -/
theorem walk_eq (depth : Nat) (path : Path) (under : Under projectRoot path)
    (enough : path.parts.length < depth) :
    ∃ ignored, walk settings projectRoot ignoreType depth path = .ok ignored ∧
      (ignored = true ↔ InDir (eitherIgnoreDir settings) projectRoot path) := by
  induction depth generalizing path with
  | zero => omega
  | succ depth ih =>
      unfold walk
      by_cases atRoot : path = projectRoot
      · rw [if_pos atRoot]
        refine ⟨false, rfl, ?_⟩
        rw [atRoot]
        simpa using not_inDir_self _ projectRoot
      rw [if_neg atRoot]
      have below : Below projectRoot path := ⟨under, Ne.symm atRoot⟩
      by_cases own : path ∈ ignoreDir settings ignoreType
      · rw [if_pos own]
        refine ⟨true, rfl, fun _ => ?_, fun _ => rfl⟩
        exact ⟨path, below, under_refl path, ignoreDir_subset ignoreType own⟩
      rw [if_neg own]
      by_cases either : path ∈ settings.clangFormatIgnoreDir ∨ path ∈ settings.clangTidyIgnoreDir
      · rw [if_pos either]
        refine ⟨true, rfl, fun _ => ?_, fun _ => rfl⟩
        exact ⟨path, below, under_refl path, mem_eitherIgnoreDir.mpr either⟩
      rw [if_neg either]
      have shorter := parent_length_lt below
      obtain ⟨ignored, result, meaning⟩ :=
        ih path.parent (under_parent_of_below below) (by omega)
      refine ⟨ignored, result, ?_⟩
      rw [meaning, inDir_parent_iff (mem_eitherIgnoreDir.not.mpr either)]

/-- The path is below a directory that one of the two lists names. -/
abbrev DirIgnored (settings : Settings) (projectRoot path : Path) : Prop :=
  InDir (eitherIgnoreDir settings) projectRoot path

theorem pathInDirectoryIgnore_eq (under : Under projectRoot path) :
    ∃ ignored, pathInDirectoryIgnore settings path projectRoot ignoreType = .ok ignored ∧
      (ignored = true ↔ DirIgnored settings projectRoot path) :=
  walk_eq _ path under (Nat.lt_succ_self _)

end Tooling.Clang
