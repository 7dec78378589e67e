import Garak.Pathlib.Tree
import Garak.Tooling.Proofs.CommandLine
import Garak.Tooling.Proofs.Selection

/-!
# `_aggregate_files` on a tree

The loops enumerate every file of a project and climb from each of them back to the
project root. On a tree this comes to going down from the root once, leaving out ignored
directories: `aggregateFiles_visits`. What such a directory holds decides nothing about the
commands of a run: `devkit_ignores_contents`.
-/

namespace Tooling.Clang

open Pathlib Path

variable {C : Type} {settings : Settings} {volume : Volume C} {ignoreType : IgnoreType}

/-- A directory one of the two tools ignores. -/
def skips (settings : Settings) (path : Path) : Bool := decide (path ∈ eitherIgnoreDir settings)

/-- The files of a kind, from the project root down. -/
def visit (settings : Settings) (ignoreType : IgnoreType) (suffix : String) (project : Path)
    (tree : FileTree C) : List Path :=
  tree.search (skips settings)
    (fun path =>
      decide (endsWith path.name suffix) && !pathInFileIgnore settings path ignoreType &&
        !skips settings path)
    project

/-- The files of a kind in a project. -/
def visitProject (settings : Settings) (volume : Volume C) (ignoreType : IgnoreType)
    (suffix : String) (project : Path) : List Path :=
  match volume.node project with
  | .ok tree => visit settings ignoreType suffix project tree
  | .error _ => []

theorem legal_passes (settings : Settings) (ignoreType : IgnoreType) (project : Path) :
    Passes (skips settings) (fun path => !pathInFileIgnore settings path ignoreType)
      (legal settings ignoreType project) project := by
  intro path below
  rw [legal_iff below]
  simp [pathInFileIgnore, Blocked, InDir, skips]

theorem filter_rglob (suffix : String) (project : Path) :
    (volume.fs.rglob project suffix).filter (legal settings ignoreType project) =
      visitProject settings volume ignoreType suffix project := by
  show (volume.rglob project suffix).filter (legal settings ignoreType project) = _
  unfold Volume.rglob visitProject
  cases volume.node project with
  | error e => rfl
  | ok tree => exact tree.filter_search (legal_passes settings ignoreType project)

theorem addedSources_volume :
    addedSources settings volume.fs ignoreType =
      settings.projects.flatMap fun project =>
        visitProject settings volume ignoreType ".cpp" project ++
          visitProject settings volume ignoreType ".hpp" project := by
  unfold addedSources
  congr 1
  funext project
  rw [projectSources, List.filter_append, filter_rglob, filter_rglob]

theorem addedCmakes_volume :
    addedCmakes settings volume.fs ignoreType =
      settings.projects.flatMap (visitProject settings volume ignoreType ".txt") := by
  unfold addedCmakes
  congr 1
  funext project
  rw [projectCmakes, filter_rglob]

/-- On a tree, a call collects what a walk down from each project root meets that never
enters an ignored directory, in the order of the walk. -/
theorem aggregateFiles_visits (settings : Settings) (volume : Volume C) (ignoreType : IgnoreType)
    (self : Clang) :
    ∃ ignored, aggregateFiles settings volume.fs ignoreType self =
      .ok (self.extend
        (settings.projects.flatMap fun project =>
          visitProject settings volume ignoreType ".cpp" project ++
            visitProject settings volume ignoreType ".hpp" project)
        (settings.projects.flatMap (visitProject settings volume ignoreType ".txt"))
        ignored) := by
  refine ⟨addedIgnored settings volume.fs ignoreType, ?_⟩
  rw [aggregateFiles_eq, aggregated, addedSources_volume, addedCmakes_volume]

/-! ## What ignored directories hold -/

/-- The volumes differ in contents of files and in what ignored directories hold. -/
def SameOutline (settings : Settings) (volume volume' : Volume C) : Prop :=
  ∀ project ∈ settings.projects,
    (volume.node project).map (FileTree.outline (skips settings) project) =
      (volume'.node project).map (FileTree.outline (skips settings) project)

theorem visitProject_outline {volume' : Volume C} (suffix : String) {project : Path}
    (same : (volume.node project).map (FileTree.outline (skips settings) project) =
      (volume'.node project).map (FileTree.outline (skips settings) project)) :
    visitProject settings volume ignoreType suffix project =
      visitProject settings volume' ignoreType suffix project := by
  unfold visitProject visit
  cases left : volume.node project with
  | error e =>
      cases right : volume'.node project with
      | error e' => rfl
      | ok tree' =>
          rw [left, right] at same
          cases same
  | ok tree =>
      cases right : volume'.node project with
      | error e' =>
          rw [left, right] at same
          cases same
      | ok tree' =>
          rw [left, right] at same
          have outlines : tree.outline (skips settings) project =
              tree'.outline (skips settings) project := Except.ok.inj same
          dsimp only
          rw [← tree.search_outline, outlines, tree'.search_outline]

theorem added_outline {volume' : Volume C} (same : SameOutline settings volume volume')
    (ignoreType : IgnoreType) :
    addedSources settings volume.fs ignoreType = addedSources settings volume'.fs ignoreType ∧
      addedCmakes settings volume.fs ignoreType = addedCmakes settings volume'.fs ignoreType := by
  rw [addedSources_volume, addedSources_volume, addedCmakes_volume, addedCmakes_volume]
  constructor
  · apply List.flatMap_congr
    intro project member
    rw [visitProject_outline ".cpp" (same project member),
      visitProject_outline ".hpp" (same project member)]
  · apply List.flatMap_congr
    intro project member
    exact visitProject_outline ".txt" (same project member)

/-- The commands of a run come from the files that are collected. -/
theorem clangPlan_congr {fs fs' : FileSystem}
    (sources : ∀ ignoreType, addedSources settings fs ignoreType = addedSources settings fs' ignoreType)
    (cmakes : ∀ ignoreType, addedCmakes settings fs ignoreType = addedCmakes settings fs' ignoreType)
    (format lint : Bool) :
    clangPlan settings fs format lint = clangPlan settings fs' format lint := by
  have formatted : ∀ self : Clang, (aggregated settings fs .clangFormat self).formatCommands =
      (aggregated settings fs' .clangFormat self).formatCommands := by
    intro self
    unfold aggregated formatCommands
    rw [extend_sourceFiles, extend_sourceFiles, extend_cmakeFiles, extend_cmakeFiles, sources, cmakes]
    rfl
  have linted : ∀ self self' : Clang, self.sourceFiles = self'.sourceFiles →
      self.linter = self'.linter → self.linterFlags = self'.linterFlags →
      (aggregated settings fs .clangTidy self).lintCommand =
        (aggregated settings fs' .clangTidy self').lintCommand := by
    intro self self' files name flags
    unfold aggregated lintCommand
    rw [extend_sourceFiles, extend_sourceFiles, sources, files]
    show self.linter ++ " " ++ self.linterFlags ++ _ ++ _ = self'.linter ++ " " ++ self'.linterFlags ++ _ ++ _
    rw [name, flags]
  have files : (aggregated settings fs .clangFormat (newClang settings)).sourceFiles =
      (aggregated settings fs' .clangFormat (newClang settings)).sourceFiles := by
    unfold aggregated
    rw [extend_sourceFiles, extend_sourceFiles, sources]
  unfold clangPlan
  cases format with
  | true =>
      simp only [if_true]
      rw [formatted, linted _ _ files rfl rfl]
  | false =>
      simp only [Bool.false_eq_true, if_false]
      rw [linted _ _ rfl rfl rfl]

/-- Whatever is put into an ignored directory, or taken out of it, `devkit clang` launches
the same commands and ends the same. -/
theorem devkit_ignores_contents (settings : Settings) {volume volume' : Volume C}
    (same : SameOutline settings volume volume') (machine : Machine) {argv : List String}
    {format lint : Bool}
    (asked : Cli.Written machine.isDecimal (argv.map String.toList) (.clang format lint)) :
    ((devkit settings volume.fs machine argv).exec Trace.empty).1 =
        ((devkit settings volume'.fs machine argv).exec Trace.empty).1 ∧
      ((devkit settings volume.fs machine argv).exec Trace.empty).2.commands =
        ((devkit settings volume'.fs machine argv).exec Trace.empty).2.commands := by
  have parsed := init_eq_ok_iff.mpr asked
  by_cases ready : machine.Ready settings
  · have plans : plan settings volume.fs machine.toHost (.clang format lint) =
        plan settings volume'.fs machine.toHost (.clang format lint) :=
      clangPlan_congr (fun t => (added_outline same t).1) (fun t => (added_outline same t).2) format lint
    obtain ⟨after, ended, launched⟩ :=
      @issues_main _ volume.fs _ ready.1 (.clang format lint) Trace.empty
    obtain ⟨after', ended', launched'⟩ :=
      @issues_main _ volume'.fs _ ready.1 (.clang format lint) Trace.empty
    rw [exec_devkit_written ready parsed, exec_devkit_written ready parsed, ended, ended']
    refine ⟨rfl, ?_⟩
    show after.launched.map Launch.command = after'.launched.map Launch.command
    rw [launched, launched', plans]
  · obtain ⟨text, ended⟩ := @exec_devkit_not_ready settings volume.fs machine ready argv Trace.empty
    obtain ⟨text', ended'⟩ := @exec_devkit_not_ready settings volume'.fs machine ready argv Trace.empty
    rw [ended, ended']
    exact ⟨rfl, rfl⟩

/-- The entries of a directory; a text that is no name is left out. -/
def listing : List (String × FileTree C) → Entries C
  | [] => .nil
  | (name, tree) :: rest =>
      match Component.ofChars? name.toList with
      | some c => .cons c tree (listing rest)
      | none => listing rest

/-- A checkout with the given files in its vendored directory. -/
def checkout (vendored : List (String × FileTree String)) : FileTree String :=
  .dir (listing [("garak", .dir (listing
    [("CMakeLists.txt", .file "project( garak )"),
      ("src", .dir (listing [("version.cpp", .file "int  major;")])),
      ("include", .dir (listing [("asio", .dir (listing vendored))]))]))])

/-- The checkout of `sampleSettings`. -/
def sampleVolume : Volume String where
  top := parse "/srv/libgarak"
  tree := checkout [("io.hpp", .file "int  io;")]
  distinct := by decide +kernel

/-- The same with another version of the vendored library. -/
def updatedVolume : Volume String where
  top := parse "/srv/libgarak"
  tree :=
    checkout [("ip", .dir (listing [("tcp.hpp", .file "int  tcp;")])), ("io.cpp", .file "int  io;")]
  distinct := by decide +kernel

/-- A machine with everything installed. -/
def sampleMachine : Machine where
  exitStatus _ _ := 0
  installed _ := true
  nproc := "8"
  user := some "dev"
  platform := "linux"
  isPrintable _ := true
  bash := true
  isDecimal := Char.isDigit

theorem sameOutline_sample : SameOutline sampleSettings sampleVolume updatedVolume := by
  intro project member
  rw [List.mem_singleton.mp member]
  rfl

theorem written_sample :
    Cli.Written sampleMachine.isDecimal (["clang", "-fl"].map String.toList) (.clang true true) :=
  init_eq_ok_iff.mp (by decide +kernel)

theorem devkit_ignores_contents_sample :
    ((devkit sampleSettings sampleVolume.fs sampleMachine ["clang", "-fl"]).exec Trace.empty).1 =
        ((devkit sampleSettings updatedVolume.fs sampleMachine ["clang", "-fl"]).exec
          Trace.empty).1 ∧
      ((devkit sampleSettings sampleVolume.fs sampleMachine ["clang", "-fl"]).exec
          Trace.empty).2.commands =
        ((devkit sampleSettings updatedVolume.fs sampleMachine ["clang", "-fl"]).exec
          Trace.empty).2.commands :=
  devkit_ignores_contents sampleSettings sameOutline_sample sampleMachine written_sample

end Tooling.Clang
