import Garak.Build.GetVersion
import Garak.Cmake.Matching
import Garak.Version.Proofs.Agreement

/-!
# What `get_version` does to its caller

`getVersion_ends`: the function reads the header as `Version.Cmake.getVersion` does, and
when it returns, its caller has four variables more and is as it was otherwise.
-/

namespace Build

open Cmake Version

/-! ## One macro -/

theorem digits_of_regexMatch {name text digits : List Char}
    (found : regexMatch name text = some digits) : digits ≠ [] ∧ ∀ c ∈ digits, c.isDigit = true := by
  obtain ⟨tail, accepted⟩ := Leftmost.accepted_of_search found
  unfold matchMacro at accepted
  split at accepted
  · rename_i rest _
    split at accepted
    · cases accepted
    · rename_i nonempty
      obtain rfl := Option.some.inj accepted
      exact ⟨nonempty, fun c member => List.mem_takeWhile_imp member⟩
  · cases accepted

theorem isListChar_of_isDigit {c : Char} (digit : c.isDigit = true) : isListChar c = false := by
  have apart : ∀ d, isListChar d = true → d.isDigit = false := by
    intro d special
    simp only [isListChar, Bool.or_eq_true, beq_iff_eq] at special
    rcases special with ((rfl | rfl) | rfl) | rfl <;> decide
  by_contra special
  rw [Bool.not_eq_false] at special
  rw [apart c special] at digit
  cases digit

/-- A captured number is a list of one element. -/
theorem isElement_digits {name text digits : List Char} (found : regexMatch name text = some digits) :
    isElement (String.ofList digits) = true := by
  obtain ⟨nonempty, all⟩ := digits_of_regexMatch found
  refine isElement_iff.mpr ⟨by simpa using nonempty, fun c member => ?_⟩
  rw [String.toList_ofList] at member
  exact isListChar_of_isDigit (all c member)

theorem search_macroRegex (name : String) (text : List Char) :
    Leftmost.search (macroRegex name).matchHere text =
      (regexMatch name.toList text).map fun digits => (name.toList ++ ' ' :: digits, [digits]) :=
  Leftmost.search_map _ text

section Macro

variable {name result what : String} {s : State}

/-- The names one call of `readMacro` writes to. -/
def Touched (result name : String) : Prop := name = result ∨ name = "_" ∨ IsMatch name

instance (result name : String) : Decidable (Touched result name) :=
  inferInstanceAs (Decidable (_ ∨ _))

/-- Nothing but variables and messages differs. -/
def Outside (s s' : State) : Prop :=
  s'.cache = s.cache ∧ s'.targets = s.targets ∧ s'.files = s.files

theorem outside_of_locally {names : String → Prop} {s s' : State} (acts : Locally names s s') :
    Outside s s' := by
  obtain ⟨scope, rfl, -⟩ := acts
  exact ⟨rfl, rfl, rfl⟩

theorem Outside.trans {s s' s'' : State} (first : Outside s s') (second : Outside s' s'') :
    Outside s s'' :=
  ⟨second.1.trans first.1, second.2.1.trans first.2.1, second.2.2.trans first.2.2⟩

theorem exec_readMacro_some {digits : List Char}
    (found : regexMatch name.toList (s.value "file_contents").toList = some digits) :
    ∃ s', (readMacro name result what).exec s = (.ok (), s') ∧ Locally (Touched result) s s' ∧
      s'.lookup result = some (String.ofList digits) := by
  have nonempty : name.toList ++ ' ' :: digits ≠ [] ∧ digits ≠ [] :=
    ⟨by simp, (digits_of_regexMatch found).1⟩
  have hit : Leftmost.search (macroRegex name).matchHere (s.value "file_contents").toList =
      some (name.toList ++ ' ' :: digits, [digits]) := by
    rw [search_macroRegex, found]
    rfl
  obtain ⟨s', ran, acts, counted, captured⟩ :=
    @exec_stringRegexMatch_some _ "_" _ s (by decide) _ _ nonempty hit
  refine ⟨s'.setScope result (some (String.ofList digits)), ?_, ?_, lookup_setScope_self ..⟩
  · unfold readMacro
    rw [exec_bind_ok (exec_value _), exec_bind_ok ran, exec_bind_ok (exec_equal ..)]
    simp only [counted, decide_true, Bool.not_true, Bool.false_eq_true, if_false]
    rw [exec_bind_ok (exec_unquoted _), captured, expandList_of_isElement (isElement_digits found),
      exec_setVariable, valueOf, joinList_singleton]
    exact List.cons_ne_nil _ _
  · exact (acts.mono fun _ => .inr).trans (locally_update (.inl rfl) _)

theorem exec_readMacro_none
    (none : regexMatch name.toList (s.value "file_contents").toList = none) :
    ∃ s', (readMacro name result what).exec s =
        (.error ("Could not extract the " ++ what ++ " version from version.hpp"), s') ∧
      Outside s s' := by
  have missed : Leftmost.search (macroRegex name).matchHere (s.value "file_contents").toList =
      Option.none := by
    rw [search_macroRegex, none]
    rfl
  obtain ⟨s', ran, acts, uncounted⟩ :=
    @exec_stringRegexMatch_none _ "_" _ s (by decide) missed
  have stops : (readMacro name result what).exec s =
      (.error ("Could not extract the " ++ what ++ " version from version.hpp"),
        s'.say .fatalError ("Could not extract the " ++ what ++ " version from version.hpp")) := by
    unfold readMacro
    rw [exec_bind_ok (exec_value _), exec_bind_ok ran, exec_bind_ok (exec_equal ..)]
    simp only [uncounted, decide_false, Bool.not_false, if_true]
    rw [exec_bind_error (exec_fatal _)]
  exact ⟨_, stops, (outside_of_locally acts).trans ⟨rfl, rfl, rfl⟩⟩

/-- Rule for reading a macro out of the given contents. -/
theorem readMacro_then {contents : String} (held : s.value "file_contents" = contents)
    {rest : Script Unit} {done : Unit → State → Prop} {stopped : String → State → Prop}
    (found : ∀ digits s', regexMatch name.toList contents.toList = some digits →
      Locally (Touched result) s s' → s'.lookup result = some (String.ofList digits) →
        Ends rest s' done stopped)
    (missing : regexMatch name.toList contents.toList = none → ∀ s', Outside s s' →
      stopped ("Could not extract the " ++ what ++ " version from version.hpp") s') :
    Ends (readMacro name result what >>= fun _ => rest) s done stopped := by
  subst held
  cases read : regexMatch name.toList (s.value "file_contents").toList with
  | none =>
      obtain ⟨s', ran, same⟩ := @exec_readMacro_none _ result what _ read
      exact ends_of_error (exec_bind_error ran) (missing read s' same)
  | some digits =>
      obtain ⟨s', ran, acts, got⟩ := @exec_readMacro_some _ result what _ _ read
      exact ends_bind_of_ok ran (found digits s' read acts got)

end Macro

/-! ## The function -/

/-- The header `get_version` reads. -/
def headerPath (s : State) : String :=
  s.value "CMAKE_CURRENT_SOURCE_DIR" ++ "/include/" ++ s.value "PACKAGE_NAME" ++ "/version.hpp"

/-- What `get_version` finds. -/
def readHeader (s : State) : Except String Version.Cmake.Variables :=
  match s.files (headerPath s) with
  | some contents => Version.Cmake.getVersion contents
  | none => .error ("file failed to open for reading (No such file or directory): " ++ headerPath s)

/-- The caller with the four variables of a package. -/
def publish (package : String) (vars : Version.Cmake.Variables) (scope : Entries) : Entries :=
  Function.update
    (Function.update
      (Function.update (Function.update scope (package ++ "_VMAJOR") (some vars.vmajor))
        (package ++ "_VMINOR") (some vars.vminor))
      (package ++ "_VPATCH") (some vars.vpatch))
    (package ++ "_VERSION") (some vars.version)

/-- Where a script that reads a header ends when there is no version in it. -/
def Unread (s : State) (text : String) (s' : State) : Prop :=
  readHeader s = .error text ∧ Outside s s'

theorem exec_publishVersion {s : State} {caller : Entries} {callers : List Entries}
    (called : s.callers = caller :: callers) {major minor patch : List Char}
    (read : s.lookup "ver_major" = some (String.ofList major) ∧
      s.lookup "ver_minor" = some (String.ofList minor) ∧
      s.lookup "ver_patch" = some (String.ofList patch))
    (elements : isElement (String.ofList major) = true ∧ isElement (String.ofList minor) = true ∧
      isElement (String.ofList patch) = true) :
    publishVersion.exec s =
      (.ok (),
        s.withCallers
          (publish (s.value "PACKAGE_NAME")
            { vmajor := String.ofList major
              vminor := String.ofList minor
              vpatch := String.ofList patch
              version := String.ofList major ++ "." ++ String.ofList minor ++ "." ++
                String.ofList patch }
            caller :: callers)) := by
  unfold publishVersion
  rw [exec_bind_ok (exec_value _), exec_bind_ok (exec_unquoted _),
    exec_bind_ok (exec_setParent called ..)]
  simp only [exec_bind, exec_value, exec_unquoted, exec_setParent (withCallers_callers _),
    State.value, lookup_withCallers, withCallers_withCallers, read.1, read.2.1, read.2.2,
    Option.getD_some,
    expandList_of_isElement elements.1, expandList_of_isElement elements.2.1,
    expandList_of_isElement elements.2.2, valueOf, joinList_singleton]
  rfl

/-- The three macros, once the contents of the header are in their variable. -/
theorem readMacros_end {s : State} {contents : String}
    (reads : readHeader s = Version.Cmake.getVersion contents) :
    Ends
      (do
        readMacro "VMAJOR" "ver_major" "major"
        readMacro "VMINOR" "ver_minor" "minor"
        readMacro "VPATCH" "ver_patch" "patch"
        publishVersion)
      (s.enter.assign "file_contents" contents)
      (fun _ s' => ∃ vars, readHeader s = .ok vars ∧
        s'.leave = { s with scope := publish (s.value "PACKAGE_NAME") vars s.scope })
      (Unread s) := by
  have held : (s.enter.assign "file_contents" contents).value "file_contents" = contents := by
    rw [State.value, State.lookup_assign_self]
    rfl
  have acts₁ : Locally (Touched "file_contents") s.enter (s.enter.assign "file_contents" contents) :=
    locally_assign (.inl rfl) contents
  have outside₁ : Outside s (s.enter.assign "file_contents" contents) := ⟨rfl, rfl, rfl⟩
  generalize s.enter.assign "file_contents" contents = s₁ at held acts₁ outside₁ ⊢
  refine readMacro_then held (fun major s₂ readMajor acts₂ gotMajor => ?_) fun none s' same => ?_
  · have held₂ : s₂.value "file_contents" = contents := (acts₂.value (by decide)).trans held
    have outside₂ := outside₁.trans (outside_of_locally acts₂)
    refine readMacro_then held₂ (fun minor s₃ readMinor acts₃ gotMinor => ?_) fun none s' same => ?_
    · have held₃ : s₃.value "file_contents" = contents := (acts₃.value (by decide)).trans held₂
      have outside₃ := outside₂.trans (outside_of_locally acts₃)
      refine readMacro_then held₃ (fun patch s₄ readPatch acts₄ gotPatch => ?_)
        fun none s' same => ?_
      · have read : s₄.lookup "ver_major" = some (String.ofList major) ∧
            s₄.lookup "ver_minor" = some (String.ofList minor) ∧
            s₄.lookup "ver_patch" = some (String.ofList patch) :=
          ⟨(acts₄.lookup (by decide)).trans ((acts₃.lookup (by decide)).trans gotMajor),
            (acts₄.lookup (by decide)).trans gotMinor, gotPatch⟩
        have package : s₄.value "PACKAGE_NAME" = s.value "PACKAGE_NAME" :=
          (acts₄.value (by decide)).trans ((acts₃.value (by decide)).trans
            ((acts₂.value (by decide)).trans (acts₁.value (by decide))))
        have version : readHeader s = .ok
            { vmajor := String.ofList major
              vminor := String.ofList minor
              vpatch := String.ofList patch
              version := String.ofList major ++ "." ++ String.ofList minor ++ "." ++
                String.ofList patch } := by
          rw [reads]
          simp only [Version.Cmake.getVersion, readMajor, readMinor, readPatch]
          rfl
        have acts : Locally (fun _ => True) s.enter s₄ :=
          (acts₁.mono fun _ _ => trivial).trans ((acts₂.mono fun _ _ => trivial).trans
            ((acts₃.mono fun _ _ => trivial).trans (acts₄.mono fun _ _ => trivial)))
        obtain ⟨scope, rfl, -⟩ := acts
        refine ends_of_ok (exec_publishVersion rfl read
          ⟨isElement_digits readMajor, isElement_digits readMinor, isElement_digits readPatch⟩)
          ⟨_, version, ?_⟩
        rw [package]
        rfl
      · refine ⟨reads.trans ?_, outside₃.trans same⟩
        simp only [Version.Cmake.getVersion, readMajor, readMinor, none]
        rfl
    · refine ⟨reads.trans ?_, outside₂.trans same⟩
      simp only [Version.Cmake.getVersion, readMajor, none]
      rfl
  · refine ⟨reads.trans ?_, outside₁.trans same⟩
    simp only [Version.Cmake.getVersion, none]
    rfl

/-- Where the body ends that runs in the scope `s.enter`. -/
theorem getVersionBody_ends (s : State) :
    Ends getVersionBody s.enter
      (fun _ s' => ∃ vars, readHeader s = .ok vars ∧
        s'.leave = { s with scope := publish (s.value "PACKAGE_NAME") vars s.scope })
      (Unread s) := by
  have path : s.enter.value "CMAKE_CURRENT_SOURCE_DIR" ++ "/include/" ++
      s.enter.value "PACKAGE_NAME" ++ "/version.hpp" = headerPath s := rfl
  unfold getVersionBody
  apply ends_bind_of_ok (exec_value _)
  apply ends_bind_of_ok (exec_value _)
  rw [path]
  cases present : s.enter.files (headerPath s) with
  | none =>
      have missing : s.files (headerPath s) = none := present
      have unread : readHeader s = .error
          ("file failed to open for reading (No such file or directory): " ++ headerPath s) := by
        simp only [readHeader, missing]
      exact ends_of_error (exec_bind_error (exec_fileRead_missing present _)) ⟨unread, rfl, rfl, rfl⟩
  | some contents =>
      have held : s.files (headerPath s) = some contents := present
      have reads : readHeader s = Version.Cmake.getVersion contents := by
        simp only [readHeader, held]
      apply ends_bind_of_ok (exec_fileRead present _)
      exact readMacros_end reads

/-- `get_version` reads the header as it is meant to be read, sets the four variables of
the package in its caller and changes nothing else; without a version it stops. -/
theorem getVersion_ends (s : State) :
    Ends getVersion s
      (fun _ s' => ∃ vars, readHeader s = .ok vars ∧
        s' = { s with scope := publish (s.value "PACKAGE_NAME") vars s.scope })
      (Unread s) :=
  ends_callFunction (getVersionBody_ends s)

/-- What `get_version` sets, a list takes as one element. -/
theorem elements_of_getVersion {contents : String} {vars : Version.Cmake.Variables}
    (read : Version.Cmake.getVersion contents = .ok vars) :
    isElement vars.version = true ∧ isElement vars.vmajor = true := by
  unfold Version.Cmake.getVersion at read
  cases major : regexMatch "VMAJOR".toList contents.toList with
  | none =>
      rw [major] at read
      cases read
  | some verMajor =>
      cases minor : regexMatch "VMINOR".toList contents.toList with
      | none =>
          rw [major, minor] at read
          cases read
      | some verMinor =>
          cases patch : regexMatch "VPATCH".toList contents.toList with
          | none =>
              rw [major, minor, patch] at read
              cases read
          | some verPatch =>
              rw [major, minor, patch] at read
              cases read
              refine ⟨isElement_iff.mpr ⟨?_, fun c member => ?_⟩, isElement_digits major⟩
              · simp
              · have plain : ∀ {name digits : List Char}, regexMatch name contents.toList = some digits →
                    c ∈ digits → isListChar c = false := fun found inside =>
                  isListChar_of_isDigit ((digits_of_regexMatch found).2 c inside)
                simp only [String.toList_append, String.toList_ofList, List.mem_append] at member
                rcases member with (((inMajor | dot) | inMinor) | dot) | inPatch
                · exact plain major inMajor
                · rw [List.mem_singleton.mp dot]
                  decide
                · exact plain minor inMinor
                · rw [List.mem_singleton.mp dot]
                  decide
                · exact plain patch inPatch

end Build
