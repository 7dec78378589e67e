import Garak.Build.Scripts
import Garak.Cmake.Matching

/-!
# `cmake/CompilerWarnings.cmake`

`setProjectWarnings_ends`: the function adds to its target the warnings for the compiler,
and leaves its caller with an option declared and its variables as they were.
-/

namespace Build

open Cmake

/-- What an option adds to the warnings. -/
def asErrors (warningsAsErrors : Bool) : List String := if warningsAsErrors then ["-Werror"] else []

/-- The warnings for a compiler. One that is neither gets what `PROJECT_WARNINGS` was
before. -/
def projectWarnings (id : String) (warningsAsErrors : Bool) (before : List String) : List String :=
  if "Clang".toList <:+: id.toList then clangWarnings ++ asErrors warningsAsErrors
  else if id = "GNU" then clangWarnings ++ asErrors warningsAsErrors ++ gccWarnings
  else before

theorem isElement_warnings :
    ∀ item ∈ clangWarnings ++ ["-Werror"] ++ gccWarnings, isElement item = true := by
  have all : (clangWarnings ++ ["-Werror"] ++ gccWarnings).all isElement = true := by
    decide +kernel
  exact List.all_eq_true.mp all

theorem expandList_clang (warningsAsErrors : Bool) :
    expandList (joinList (clangWarnings ++ asErrors warningsAsErrors)) =
      clangWarnings ++ asErrors warningsAsErrors := by
  apply expandList_joinList
  intro item member
  apply isElement_warnings
  cases warningsAsErrors with
  | false =>
      have listed : item ∈ clangWarnings := by simpa [asErrors] using member
      exact List.mem_append_left _ (List.mem_append_left _ listed)
  | true => exact List.mem_append_left _ member

theorem expandList_gcc (warningsAsErrors : Bool) :
    expandList (joinList (clangWarnings ++ asErrors warningsAsErrors ++ gccWarnings)) =
      clangWarnings ++ asErrors warningsAsErrors ++ gccWarnings := by
  apply expandList_joinList
  intro item member
  apply isElement_warnings
  rcases List.mem_append.mp member with inClang | inGcc
  · cases warningsAsErrors with
    | false =>
        have listed : item ∈ clangWarnings := by simpa [asErrors] using inClang
        exact List.mem_append_left _ (List.mem_append_left _ listed)
    | true => exact List.mem_append_left _ inClang
  · exact List.mem_append_right _ inGcc

/-- The variables of the function. -/
def IsWarningVariable (name : String) : Prop :=
  name ∈ ["CLANG_WARNINGS", "MSVC_WARNINGS", "GCC_WARNINGS", "PROJECT_WARNINGS"]

instance (name : String) : Decidable (IsWarningVariable name) :=
  inferInstanceAs (Decidable (_ ∈ _))

section Warnings

variable {s : State}

theorem exec_warningLists (unset : s.scope "WARNINGS_AS_ERRORS" = none) :
    ∃ s', warningLists.exec s = (.ok (), s') ∧
      Locally IsWarningVariable (s.withOption "WARNINGS_AS_ERRORS" "FALSE") s' ∧
      s'.value "CLANG_WARNINGS" = joinList (clangWarnings ++
        asErrors (!isOff ((s.cache "WARNINGS_AS_ERRORS").getD "OFF"))) ∧
      s'.value "GCC_WARNINGS" = joinList (clangWarnings ++
        asErrors (!isOff ((s.cache "WARNINGS_AS_ERRORS").getD "OFF")) ++ gccWarnings) ∧
      s'.lookup "PROJECT_WARNINGS" = s.lookup "PROJECT_WARNINGS" := by
  have decided : (s.withOption "WARNINGS_AS_ERRORS" "FALSE").isTrue "WARNINGS_AS_ERRORS" =
      !isOff ((s.cache "WARNINGS_AS_ERRORS").getD "OFF") :=
    isTrue_withOption_self unset
  have kept : ((s.withOption "WARNINGS_AS_ERRORS" "FALSE").setScope "CLANG_WARNINGS"
      (valueOf clangWarnings)).isTrue "WARNINGS_AS_ERRORS" =
        (s.withOption "WARNINGS_AS_ERRORS" "FALSE").isTrue "WARNINGS_AS_ERRORS" :=
    isTrue_congr (lookup_setScope_of_ne (by decide))
  have before : (s.withOption "WARNINGS_AS_ERRORS" "FALSE").lookup "PROJECT_WARNINGS" =
      s.lookup "PROJECT_WARNINGS" := lookup_withOption_of_ne (by decide)
  have list : valueOf clangWarnings = some (joinList clangWarnings) := rfl
  have clang : expandList (joinList clangWarnings) = clangWarnings :=
    expandList_joinList fun item member =>
      isElement_warnings item (List.mem_append_left _ (List.mem_append_left _ member))
  unfold warningLists
  rw [exec_bind_ok (exec_option ..), exec_bind_ok (exec_setVariable ..),
    exec_bind_ok (exec_isTrue _), kept, decided]
  rw [list]
  cases isOff ((s.cache "WARNINGS_AS_ERRORS").getD "OFF") with
  | true =>
      have gcc : valueOf (clangWarnings ++ gccWarnings) =
          some (joinList (clangWarnings ++ gccWarnings)) := rfl
      simp only [Bool.not_true, Bool.false_eq_true, if_false, exec_bind, exec_unquoted,
        exec_setVariable, State.value, lookup_setScope_self, Option.getD_some, clang, gcc, asErrors,
        List.append_nil]
      refine ⟨_, rfl, ?_, ?_, ?_, ?_⟩
      · exact (locally_update (by decide) _).trans (locally_update (by decide) _)
      · simp [lookup_setScope]
      · simp
      · simp [lookup_setScope, before]
  | false =>
      have clang' := expandList_clang true
      have werror : valueOf (clangWarnings ++ ["-Werror"]) =
          some (joinList (clangWarnings ++ ["-Werror"])) := rfl
      have gcc : valueOf (clangWarnings ++ "-Werror" :: gccWarnings) =
          some (joinList (clangWarnings ++ "-Werror" :: gccWarnings)) := rfl
      simp only [asErrors, if_true] at clang'
      simp only [Bool.not_false, if_true, exec_bind, exec_unquoted, exec_setVariable, State.value,
        lookup_setScope_self, Option.getD_some, clang, werror, asErrors]
      refine ⟨_, rfl, ?_, ?_, ?_, ?_⟩
      · exact (locally_update (by decide) _).trans ((locally_update (by decide) _).trans
          ((locally_update (by decide) _).trans (locally_update (by decide) _)))
      · simp [lookup_setScope_of_ne]
      · simp [lookup_setScope_of_ne, clang', gcc]
      · simp [lookup_setScope_of_ne, before]

/-- The branches over the compiler read the lists, and say something where there is none. -/
theorem exec_chooseWarnings {id : String} (compiler : s.lookup "CMAKE_CXX_COMPILER_ID" = some id)
    {warningsAsErrors : Bool}
    (clang : s.value "CLANG_WARNINGS" = joinList (clangWarnings ++ asErrors warningsAsErrors))
    (gcc : s.value "GCC_WARNINGS" =
      joinList (clangWarnings ++ asErrors warningsAsErrors ++ gccWarnings)) :
    ∃ s' messages, chooseWarnings.exec s = (.ok (), s') ∧
      Locally IsWarningVariable (s.withMessages messages) s' ∧
      expandList (s'.value "PROJECT_WARNINGS") =
        projectWarnings id warningsAsErrors (expandList (s.value "PROJECT_WARNINGS")) := by
  have operand : s.operand "CMAKE_CXX_COMPILER_ID" = id := by
    rw [State.operand, compiler, Option.getD_some]
  have chosen : ∀ items, items ≠ [] → expandList (joinList items) = items →
      expandList ((s.setScope "PROJECT_WARNINGS" (valueOf items)).value "PROJECT_WARNINGS") =
        items := by
    intro items nonempty expands
    obtain ⟨first, rest, rfl⟩ := List.exists_cons_of_ne_nil nonempty
    have held : (s.setScope "PROJECT_WARNINGS" (valueOf (first :: rest))).value
        "PROJECT_WARNINGS" = joinList (first :: rest) :=
      value_of_lookup (lookup_setScope_self ..)
    rw [held, expands]
  unfold chooseWarnings projectWarnings
  rw [exec_bind_ok (exec_contains ..), operand]
  by_cases isClang : "Clang".toList <:+: id.toList
  · simp only [isClang, decide_true, if_true]
    rw [exec_bind_ok (exec_unquoted _), clang, expandList_clang]
    refine ⟨_, s.messages, exec_setVariable .., locally_update (by decide) _, ?_⟩
    exact chosen _ (by simp [clangWarnings]) (expandList_clang _)
  · simp only [isClang, decide_false, Bool.false_eq_true, if_false]
    rw [exec_bind_ok (exec_strequalText ..), operand]
    by_cases isGnu : id = "GNU"
    · simp only [isGnu, decide_true, if_true]
      rw [exec_bind_ok (exec_unquoted _), gcc, expandList_gcc]
      refine ⟨_, s.messages, exec_setVariable .., locally_update (by decide) _, ?_⟩
      exact chosen _ (by simp [clangWarnings]) (expandList_gcc _)
    · simp only [isGnu, decide_false, Bool.false_eq_true, if_false]
      rw [exec_bind_ok (exec_value _), exec_message (by decide)]
      exact ⟨_, _, rfl, Locally.refl _ _, rfl⟩

/-- The warnings a call of `set_project_warnings` chooses. -/
def chosenWarnings (id : String) (cache : Entries) : List String :=
  projectWarnings id (!isOff ((cache "WARNINGS_AS_ERRORS").getD "OFF"))
    (expandList ((cache "PROJECT_WARNINGS").getD ""))

/-- The function adds the warnings to its target. The caller keeps its variables, and has
the option among its cache entries. -/
theorem setProjectWarnings_ends {id name : String} {target : Target}
    (compiler : s.lookup "CMAKE_CXX_COMPILER_ID" = some id)
    (unset : s.scope "WARNINGS_AS_ERRORS" = none ∧ s.scope "PROJECT_WARNINGS" = none)
    (built : s.targets name = some target) :
    Ends (setProjectWarnings name) s
      (fun _ s' => ∃ messages, s' =
        ((s.withOption "WARNINGS_AS_ERRORS" "FALSE").putTarget name
          (target.require .options .interface (chosenWarnings id s.cache))).withMessages messages)
      (fun _ _ => False) := by
  apply ends_callFunction
  have called : (s.enter.assign "project_name" name).scope "WARNINGS_AS_ERRORS" = none := by
    simp [State.assign, State.enter, unset.1]
  have before : (s.enter.assign "project_name" name).lookup "PROJECT_WARNINGS" =
      s.cache "PROJECT_WARNINGS" :=
    (lookup_setScope_of_ne (by decide)).trans (lookup_of_unset unset.2)
  have compiler₀ : (s.enter.assign "project_name" name).lookup "CMAKE_CXX_COMPILER_ID" = some id :=
    (lookup_setScope_of_ne (by decide)).trans compiler
  obtain ⟨s₁, listed, locally₁, clang, gcc, kept⟩ := exec_warningLists called
  have compiler₁ : s₁.lookup "CMAKE_CXX_COMPILER_ID" = some id :=
    (locally₁.lookup (by decide)).trans ((lookup_withOption_of_ne (by decide)).trans compiler₀)
  obtain ⟨s₂, messages, chose, locally₂, warnings⟩ := exec_chooseWarnings compiler₁ clang gcc
  have parameter : s₂.value "project_name" = name := by
    apply value_of_lookup
    refine (locally₂.lookup (by decide)).trans ((locally₁.lookup (by decide)).trans ?_)
    exact (lookup_withOption_of_ne (by decide)).trans (lookup_setScope_self ..)
  have chosen : expandList (s₂.value "PROJECT_WARNINGS") = chosenWarnings id s.cache := by
    rw [warnings, State.value, kept, before]
    rfl
  obtain ⟨scope₁, left₁, -⟩ := locally₁
  obtain ⟨scope₂, left₂, -⟩ := locally₂
  have built₂ : s₂.targets name = some target := by
    rw [left₂, left₁]
    exact built
  apply ends_bind_of_ok listed
  apply ends_bind_of_ok chose
  apply ends_bind_of_ok (exec_value _)
  apply ends_bind_of_ok (exec_unquoted _)
  rw [parameter, chosen]
  refine ends_of_ok (exec_targetRequire built₂ ..) ⟨messages, ?_⟩
  rw [left₂, left₁]
  simp [State.leave, State.enter, State.assign, State.setScope, State.withOption, State.putTarget,
    State.withMessages, unset.1]

end Warnings

end Build
