import Garak.Tooling.Proofs.CommandText
import Garak.Tooling.Proofs.CompilerRuns

/-!
# What a shell makes of the commands of `devkit compile`

The names of the compilers are known, and what is not is the output of `nproc`.
`compile_decoded_iff` says for which output a shell takes both commands as they are
meant.
-/

namespace Tooling.Compiler

open Pathlib Posix.Shell

/-- The compilers a flag stands for, C++ first. -/
def compilersFor (gnu : Bool) : String × String := if gnu then ("g++", "gcc") else ("clang++", "clang")

/-- What `__init_build` is to run. -/
def initBuildInvocation (gnu : Bool) : List String :=
  ["cmake", "-B", "build", "-D", "CMAKE_CXX_COMPILER=" ++ (compilersFor gnu).1, "-D",
    "CMAKE_C_COMPILER=" ++ (compilersFor gnu).2]

/-- What `__make` is to run. -/
def makeInvocation (nproc : String) : List String :=
  ["cmake", "--build", "build", "--", "-j" ++ nproc]

/-- The words of `__init_build`, after the name of the program. -/
def initBuildWords (gnu : Bool) : List (List Char) :=
  ["-B".toList, "build".toList, "-D".toList,
    ("CMAKE_CXX_COMPILER=" ++ (compilersFor gnu).1).toList, "-D".toList,
    ("CMAKE_C_COMPILER=" ++ (compilersFor gnu).2).toList]

theorem inert_initBuildWords (gnu : Bool) :
    ∀ word ∈ "cmake".toList :: initBuildWords gnu, Inert word ∧ word ≠ [] := by
  have all : (("cmake".toList :: initBuildWords gnu).all fun word =>
      isInert word && !word.isEmpty) = true := by
    cases gnu <;> decide +kernel
  intro word member
  have checked := List.all_eq_true.mp all word member
  simp only [Bool.and_eq_true, Bool.not_eq_true', List.isEmpty_eq_false_iff] at checked
  exact ⟨isInert_iff.mp checked.1, checked.2⟩

section Decoding

variable {projectRoot : Path} {codename version : String} {host : Host} {clang gnu : Bool}

theorem restText_blanks_nil : restText (blanks []) = [] := rfl

theorem newCompiler_shipped :
    newCompiler (shipped projectRoot codename version) host clang gnu =
      ⟨host.nproc, "cmake", (compilersFor gnu).1, (compilersFor gnu).2⟩ := by
  cases clang <;> cases gnu <;> rfl

theorem initBuild_runsAs :
    RunsAs ((newCompiler (shipped projectRoot codename version) host clang gnu).initBuildCommand
      (shipped projectRoot codename version)) [initBuildInvocation gnu] := by
  have known := inert_initBuildWords gnu
  refine (runsAs_iff ⟨"cmake".toList, blanks (initBuildWords gnu), 0⟩ ?_ ?_ ?_ ?_).mpr ?_
  · rw [newCompiler_shipped, initBuildCommand, projectBuildDir_stem]
    simp only [initBuildWords, Line.text, String.toList_append, blanks_cons, restText_cons,
      restText_blanks_nil, List.replicate_zero, List.append_nil, List.append_assoc]
    rfl
  · rw [Line.commands, grouped_blanks]
    rfl
  · rw [Line.words, words_blanks]
    exact fun word member => (known word member).2
  · rw [Line.Named, Line.commands, grouped_blanks]
    rfl
  · rw [Line.words, words_blanks]
    exact fun word member => (known word member).1

theorem make_runsAs_iff :
    RunsAs ((newCompiler (shipped projectRoot codename version) host clang gnu).makeCommand
      (shipped projectRoot codename version)) [makeInvocation host.nproc] ↔
        Plain host.nproc.toList := by
  have constants : ∀ word ∈ ["cmake".toList, "--build".toList, "build".toList, "--".toList],
      Inert word := by
    have all : (["cmake".toList, "--build".toList, "build".toList, "--".toList].all isInert) =
        true := by decide +kernel
    exact fun word member => isInert_iff.mp (List.all_eq_true.mp all word member)
  simp only [List.forall_mem_cons] at constants
  obtain ⟨cmake, build, dir, dashes, -⟩ := constants
  have jobs : Inert ("-j".toList ++ host.nproc.toList) ↔ Plain host.nproc.toList :=
    inert_option_iff (by decide)
  rw [runsAs_iff ⟨"cmake".toList, blanks ["--build".toList, "build".toList, "--".toList,
    "-j".toList ++ host.nproc.toList], 0⟩]
  · simp only [Line.words, words_blanks, List.forall_mem_cons, cmake, build, dir, dashes, jobs,
      true_and]
    exact ⟨fun plain => plain.1, fun plain => ⟨plain, List.forall_mem_nil _⟩⟩
  · rw [newCompiler_shipped, makeCommand, projectBuildDir_stem]
    simp only [Line.text, String.toList_append, blanks_cons, restText_cons, restText_blanks_nil,
      List.replicate_zero, List.append_nil, List.append_assoc]
    rfl
  · rw [Line.commands, grouped_blanks]
    simp [makeInvocation]
  · simp only [Line.words, words_blanks, List.forall_mem_cons]
    exact ⟨by decide, by decide, by decide, by decide, by simp, List.forall_mem_nil _⟩
  · rw [Line.Named, Line.commands, grouped_blanks]
    rfl

/-- What `compile` is to run, command by command. -/
def compileInvocations (settings : Settings) (fs : FileSystem) (host : Host) (gnu : Bool) :
    List (List (List String)) :=
  match fs.pathExists settings.projectBuildDir with
  | .ok false => [[initBuildInvocation gnu], [makeInvocation host.nproc]]
  | .ok true => [[makeInvocation host.nproc]]
  -- the question was raised as an exception
  | .error _ => []

theorem issued_compile (settings : Settings) (fs : FileSystem) (host : Host) (self : Compiler) :
    issued (self.compile settings fs host) = compilePlan settings fs self := by
  obtain ⟨after, ended, launched⟩ := @issues_compile settings fs host self Trace.empty
  rw [issued, ended, Trace.commands, launched]
  exact launches_command host 0 _

/-- A shell takes the commands of `compile` apart as they are meant, in every environment,
exactly when nothing in the output of `nproc` is special to it, or there are none. -/
theorem compile_decoded_iff (projectRoot : Path) (codename version : String) (fs : FileSystem)
    (host : Host) (clang gnu : Bool) :
    List.Forall₂ RunsAs
        (issued ((newCompiler (shipped projectRoot codename version) host clang gnu).compile
          (shipped projectRoot codename version) fs host))
        (compileInvocations (shipped projectRoot codename version) fs host gnu) ↔
      Plain host.nproc.toList ∨
        ∃ e, fs.pathExists (shipped projectRoot codename version).projectBuildDir = .error e := by
  rw [issued_compile, compilePlan, compileInvocations]
  cases fs.pathExists (shipped projectRoot codename version).projectBuildDir with
  | error e => exact iff_of_true .nil (.inr ⟨e, rfl⟩)
  | ok present =>
      have answered : ¬ ∃ e, (Except.ok present : Except OSError Bool) = .error e := by
        rintro ⟨e, raised⟩
        cases raised
      rw [or_iff_left answered]
      cases present with
      | false =>
          simp only
          rw [List.forall₂_cons, List.forall₂_cons, make_runsAs_iff]
          exact ⟨fun runs => runs.2.1, fun plain => ⟨initBuild_runsAs, plain, .nil⟩⟩
      | true =>
          simp only
          rw [List.forall₂_cons, make_runsAs_iff]
          exact ⟨fun runs => runs.1, fun plain => ⟨plain, .nil⟩⟩

end Decoding

end Tooling.Compiler
