import Garak.Misc.Runs
import Garak.Tooling.Proofs.ExitStatus

/-!
# `devkit compile`, again and again

A run of invocations and deletions, as far as build directories go. cmake is known to
create the directory a `-B` names, whether or not the configure step succeeds, and
nothing else creates one. `builds_configured_iff` says in which runs every build is of
a directory that was configured.
-/

namespace Tooling.Compiler

open Pathlib Path

/-- What a cmake command line does to a directory, named as on the command line. -/
inductive CmakeCall
  | configure (dir : String)
  | build (dir : String)
deriving DecidableEq

/-- The word a text begins with. -/
def firstWord (text : List Char) : String := String.ofList (text.takeWhile (· ≠ ' '))

/-- Read a command line that begins with the given cmake program. -/
def cmakeCall (cmake command : String) : Option CmakeCall :=
  match List.isPrefixOf? (cmake ++ " -B ").toList command.toList with
  | some rest => some (.configure (firstWord rest))
  | none =>
      match List.isPrefixOf? (cmake ++ " --build ").toList command.toList with
      | some rest => some (.build (firstWord rest))
      | none => none

/-- The build directories there are, and those for which a configure step exited with 0
since they were last deleted. -/
structure Disk where
  existing : List Path
  configured : List Path
deriving DecidableEq

/-- No build directory exists. -/
def Disk.empty : Disk := ⟨[], []⟩

/-- The tree as `compile` sees it: it asks whether a path exists, and nothing else. -/
def Disk.fs (disk : Disk) : FileSystem where
  pathExists path := .ok (decide (path ∈ disk.existing))
  isDir path := .ok (decide (path ∈ disk.existing))
  iterdir _ := .error .permissionDenied
  rglob _ _ := []
  exists_of_isDir _ h := h
  isDir_of_iterdir _ _ h := by cases h
  iterdir_nodup _ _ h := by cases h
  rglob_below _ _ _ h := by cases h
  rglob_endsWith _ _ _ h := by cases h
  rglob_nodup _ _ := List.nodup_nil

/-- The tree as `compile` sees it when the system may refuse to tell whether a path exists. -/
def Disk.seen (disk : Disk) : Option OSError → FileSystem
  | none => disk.fs
  | some e =>
      { disk.fs with
        pathExists := fun _ => .error e
        isDir := fun _ => .error e
        exists_of_isDir := fun _ h => by cases h
        isDir_of_iterdir := fun _ _ h => by cases h }

/-- What a launched command does to the build directories, when devkit was started in
`cwd`. -/
def Disk.after (cmake : String) (cwd : Path) (disk : Disk) (launch : Launch) : Disk :=
  match cmakeCall cmake launch.command with
  | some (.configure dir) =>
      { existing := cwd.join (parse dir) :: disk.existing
        configured :=
          if launch.status = 0 then cwd.join (parse dir) :: disk.configured
          else disk.configured }
  | _ => disk

/-- What happens between two states of the disk. -/
inductive Event
  /-- `devkit compile`, started in `cwd`; `refusal` is what `exists` raises, if it does -/
  | invoke (cwd : Path) (host : Host) (clang gnu : Bool) (refusal : Option OSError)
  /-- the user deletes a directory -/
  | delete (dir : Path)

/-- The commands an invocation launches. -/
def invokeLaunches (settings : Settings) (disk : Disk) (host : Host) (clang gnu : Bool)
    (refusal : Option OSError) : List Launch :=
  ((main settings (disk.seen refusal) host (.compile clang gnu)).exec Trace.empty).2.launched

/-- The step of a run. A directory goes with everything below it. -/
def step (settings : Settings) (disk : Disk) : Event → Disk
  | .invoke cwd host clang gnu refusal =>
      (invokeLaunches settings disk host clang gnu refusal).foldl
        (Disk.after settings.cmakePrograms.cmake.name cwd) disk
  | .delete dir =>
      { existing := disk.existing.filter fun path => ¬ Under dir path
        configured := disk.configured.filter fun path => ¬ Under dir path }

/-- Every `cmake --build` of the event is of a directory that is configured when it is
launched. -/
def BuildsConfigured (settings : Settings) (disk : Disk) : Event → Prop
  | .invoke cwd host clang gnu refusal =>
      Runs.Along (Disk.after settings.cmakePrograms.cmake.name cwd)
        (fun disk launch => ∀ dir,
          cmakeCall settings.cmakePrograms.cmake.name launch.command = some (.build dir) →
            cwd.join (parse dir) ∈ disk.configured)
        disk (invokeLaunches settings disk host clang gnu refusal)
  | .delete _ => True

/-! ## The two command lines -/

theorem projectBuildDir_stem (settings : Settings) : settings.projectBuildDir.stem = "build" := by
  have name : settings.projectBuildDir.name = "build" := child_name _ _
  unfold stem
  rw [name]
  decide

theorem isPrefixOf?_append_append (a b c : List Char) :
    List.isPrefixOf? (a ++ b) (a ++ c) = List.isPrefixOf? b c := by
  induction a with
  | nil => rfl
  | cons x a ih => simpa [List.isPrefixOf?] using ih

theorem cmakeCall_initBuild (settings : Settings) (self : Compiler) :
    cmakeCall self.cmake (self.initBuildCommand settings) = some (.configure "build") := by
  unfold cmakeCall initBuildCommand
  rw [projectBuildDir_stem]
  simp only [String.toList_append, List.append_assoc, isPrefixOf?_append_append]
  rfl

theorem cmakeCall_make (settings : Settings) (self : Compiler) :
    cmakeCall self.cmake (self.makeCommand settings) = some (.build "build") := by
  unfold cmakeCall makeCommand
  rw [projectBuildDir_stem]
  simp only [String.toList_append, List.append_assoc, isPrefixOf?_append_append]
  rfl

/-! ## One invocation -/

/-- The directory both commands of an invocation act on. -/
def target (cwd : Path) : Path := cwd.join (parse "build")

/-- The invocation gets as far as its commands. -/
def Starts (settings : Settings) (host : Host) (refusal : Option OSError) : Prop :=
  Ready settings host ∧ refusal = none

/-- The directory an invocation acts on is there already, or this very invocation
configures it and cmake reports success. -/
def Settled (settings : Settings) (disk : Disk) : Event → Prop
  | .invoke cwd host clang gnu refusal =>
      Starts settings host refusal → target cwd ∈ disk.existing ∨
        (settings.projectBuildDir ∉ disk.existing ∧
          host.exitStatus 0 ((newCompiler settings host clang gnu).initBuildCommand settings) = 0)
  | .delete _ => True

/-- The build directories that exist are the configured ones. -/
def AllConfigured (disk : Disk) : Prop := ∀ dir, dir ∈ disk.existing ↔ dir ∈ disk.configured

theorem invokeLaunches_of_not_starts {settings : Settings} {disk : Disk} {host : Host}
    {refusal : Option OSError} (stops : ¬ Starts settings host refusal) (clang gnu : Bool) :
    invokeLaunches settings disk host clang gnu refusal = [] := by
  by_cases ready : Ready settings host
  · cases refusal with
    | none => exact absurd ⟨ready, rfl⟩ stops
    | some e =>
        have nothing : plan settings (disk.seen (some e)) host (.compile clang gnu) = [] := rfl
        exact launched_of_plan_nil nothing rfl
  · obtain ⟨after, ended, launched⟩ := @issues_main_of_not_ready _ (disk.seen refusal) _ ready
      (.compile clang gnu) Trace.empty
    unfold invokeLaunches
    rw [ended]
    exact launched

theorem invokeLaunches_of_starts {settings : Settings} {disk : Disk} {host : Host}
    {refusal : Option OSError} (starts : Starts settings host refusal) (clang gnu : Bool) :
    invokeLaunches settings disk host clang gnu refusal =
      launches host 0
        (compilePlan settings disk.fs (newCompiler settings host clang gnu)) := by
  obtain ⟨ready, rfl⟩ := starts
  obtain ⟨after, ended, launched⟩ := @issues_main _ disk.fs _ ready (.compile clang gnu)
    Trace.empty
  unfold invokeLaunches Disk.seen
  rw [ended]
  exact launched

/-- The commands of an invocation: nothing, a configure step and a build, or a build
alone. -/
theorem invoke_cases (settings : Settings) (disk : Disk) (cwd : Path) (host : Host)
    (clang gnu : Bool) (refusal : Option OSError) :
    let event := Event.invoke cwd host clang gnu refusal
    (¬ Starts settings host refusal ∧ BuildsConfigured settings disk event ∧
        step settings disk event = disk) ∨
      (Starts settings host refusal ∧ settings.projectBuildDir ∉ disk.existing ∧
        ∃ status,
          status = host.exitStatus 0
            ((newCompiler settings host clang gnu).initBuildCommand settings) ∧
          step settings disk event =
            { existing := target cwd :: disk.existing
              configured :=
                if status = 0 then target cwd :: disk.configured else disk.configured } ∧
          (BuildsConfigured settings disk event ↔
            status = 0 ∨ target cwd ∈ disk.configured)) ∨
      (Starts settings host refusal ∧ settings.projectBuildDir ∈ disk.existing ∧
        step settings disk event = disk ∧
        (BuildsConfigured settings disk event ↔ target cwd ∈ disk.configured)) := by
  intro event
  by_cases starts : Starts settings host refusal
  · have init : cmakeCall settings.cmakePrograms.cmake.name
        ((newCompiler settings host clang gnu).initBuildCommand settings) =
          some (.configure "build") :=
      cmakeCall_initBuild settings (newCompiler settings host clang gnu)
    have made : cmakeCall settings.cmakePrograms.cmake.name
        ((newCompiler settings host clang gnu).makeCommand settings) = some (.build "build") :=
      cmakeCall_make settings (newCompiler settings host clang gnu)
    have ran := @invokeLaunches_of_starts _ disk _ _ starts clang gnu
    by_cases present : settings.projectBuildDir ∈ disk.existing
    · refine .inr (.inr ⟨starts, present, ?_, ?_⟩)
      · simp [event, step, ran, compilePlan, Disk.fs, present, launches, Disk.after, made]
      · simp [event, BuildsConfigured, ran, compilePlan, Disk.fs, present, launches, made,
          Runs.along_cons, Runs.along_nil, target]
    · refine .inr (.inl ⟨starts, present, _, rfl, ?_, ?_⟩)
      · simp [event, step, ran, compilePlan, Disk.fs, present, launches, Disk.after, init, made,
          target]
      · have built : BuildsConfigured settings disk event ↔ target cwd ∈
            if host.exitStatus 0
                ((newCompiler settings host clang gnu).initBuildCommand settings) = 0
            then target cwd :: disk.configured else disk.configured := by
          simp [event, BuildsConfigured, ran, compilePlan, Disk.fs, present, launches, init, made,
            Runs.along_cons, Runs.along_nil, target, Disk.after]
        rw [built]
        split
        · rename_i zero
          simp [zero]
        · rename_i nonzero
          simp [nonzero]
  · refine .inl ⟨starts, ?_, ?_⟩
    · simp [event, BuildsConfigured, invokeLaunches_of_not_starts starts, Runs.along_nil]
    · simp [event, step, invokeLaunches_of_not_starts starts]

/-! ## Runs -/

/-- On a disk whose build directories are all configured, an event is sound exactly when
it is settled. -/
theorem buildsConfigured_iff_settled (settings : Settings) (disk : Disk) (event : Event)
    (all : AllConfigured disk) :
    BuildsConfigured settings disk event ↔ Settled settings disk event := by
  cases event with
  | delete dir => exact Iff.rfl
  | invoke cwd host clang gnu refusal =>
      unfold Settled
      rcases invoke_cases settings disk cwd host clang gnu refusal with
        ⟨stops, built, -⟩ | ⟨starts, missing, status, rfl, -, built⟩ | ⟨starts, present, -, built⟩
      · exact iff_of_true built fun starts => absurd starts stops
      · rw [built, ← all]
        constructor
        · rintro (zero | there) -
          · exact .inr ⟨missing, zero⟩
          · exact .inl there
        · intro settled
          rcases settled starts with there | ⟨-, zero⟩
          · exact .inr there
          · exact .inl zero
      · rw [built, ← all]
        constructor
        · intro there _
          exact .inl there
        · intro settled
          rcases settled starts with there | ⟨missing, -⟩
          · exact there
          · exact absurd present missing

/-- A sound event leaves every build directory configured. -/
theorem allConfigured_step (settings : Settings) (disk : Disk) (event : Event)
    (all : AllConfigured disk) (sound : BuildsConfigured settings disk event) :
    AllConfigured (step settings disk event) := by
  cases event with
  | delete dir =>
      intro path
      simp only [step, List.mem_filter, all path]
  | invoke cwd host clang gnu refusal =>
      rcases invoke_cases settings disk cwd host clang gnu refusal with
        ⟨-, -, same⟩ | ⟨-, -, status, -, next, built⟩ | ⟨-, -, same, -⟩
      · rwa [same]
      · rw [next]
        intro path
        by_cases zero : status = 0
        · simp [zero, all path]
        · have there : target cwd ∈ disk.configured := (built.mp sound).resolve_left zero
          simp only [zero, if_false, List.mem_cons, all path]
          constructor
          · rintro (rfl | member)
            · exact there
            · exact member
          · exact .inr
      · rwa [same]

/-- From a disk without build directories, every `cmake --build` of a run is of a
configured directory exactly when at every invocation that gets as far as its commands the
directory acted on exists, or the absolute one does not and the configure step succeeds. -/
theorem builds_configured_iff (settings : Settings) (events : List Event) :
    Runs.Along (step settings) (BuildsConfigured settings) Disk.empty events ↔
      Runs.Along (step settings) (Settled settings) Disk.empty events :=
  Runs.along_iff (buildsConfigured_iff_settled settings) (allConfigured_step settings)
    (fun _ => Iff.rfl) events

/-- One failed configure step, and devkit builds an unconfigured directory. -/
theorem failed_configure_builds :
    ¬ Runs.Along (step Clang.sampleSettings) (BuildsConfigured Clang.sampleSettings) Disk.empty
      [.invoke (parse "/srv/libgarak") failingHost true false none] := by
  intro along
  have sound := (Runs.along_cons.mp along).1
  have member := sound
    [⟨"cmake -B build -D CMAKE_CXX_COMPILER=clang++ -D CMAKE_C_COMPILER=clang", 2⟩]
    ⟨"cmake --build build -- -j8", 2⟩ [] (by decide +kernel) "build" (by decide +kernel)
  revert member
  decide +kernel

end Tooling.Compiler
