import Garak.Build.Proofs.Lists

/-!
# `garak/CMakeLists.txt`

`garakLists_ends` says where the list file of the library ends, whatever the code from
elsewhere does in between.
-/

namespace Build

open Cmake Pathlib

/-! ## What has been built up -/

/-- What the targets of the project are so far, with the compile options of the current
directory, the install rules and the tests. -/
structure Holds (colours : List String) (expected : String → Option Target)
    (installs : List Install) (tests : List String) (s : State) : Prop where
  targets : ∀ name ∈ own.targets, s.targets name = expected name
  options : s.compileOptions = colours
  installs : s.installs = installs
  tests : s.tests = tests

section Holds

variable {colours : List String} {expected : String → Option Target} {installs : List Install}
  {tests : List String} {s s' : State}

theorem Holds.keeps (holds : Holds colours expected installs tests s) (keeps : Keeps own s s') :
    Holds colours expected installs tests s' where
  targets name listed := (keeps.targets name listed).trans (holds.targets name listed)
  options := keeps.compileOptions.trans holds.options
  installs := keeps.installs.trans holds.installs
  tests := keeps.tests.trans holds.tests

theorem Holds.put (holds : Holds colours expected installs tests s) (name : String) (target : Target) :
    Holds colours (Function.update expected name (some target)) installs tests
      (s.putTarget name target) where
  targets other listed := by
    by_cases same : other = name
    · rw [same, targets_putTarget_self, Function.update_self]
    · rw [targets_putTarget_of_ne same, Function.update_of_ne same, holds.targets other listed]
  options := holds.options
  installs := holds.installs
  tests := holds.tests

theorem Holds.addTests (holds : Holds colours expected installs tests s) (name : String) :
    Holds colours expected installs (tests ++ [name]) (s.addTests name) :=
  { holds with tests := congrArg (· ++ [name]) holds.tests }

theorem Holds.addInstall (holds : Holds colours expected installs tests s) (rule : Install) :
    Holds colours expected (installs ++ [rule]) tests (s.addInstall rule) :=
  { holds with installs := congrArg (· ++ [rule]) holds.installs }

end Holds

/-! ## Names of directories -/

theorem garakDir_last (dir : Path) : (garakDir dir).toList.getLast? = some 'k' := by
  unfold garakDir joinDir
  split
  · rw [String.toList_append, List.getLast?_append]
    rfl
  · rw [String.toList_append, List.getLast?_append]
    rfl

/-- No build directory has its `garak` where the sources of the library are. -/
theorem garakDir_ne_sourceDir (binary source : Path) : garakDir binary ≠ garakDir source ++ "/src" := by
  intro same
  have last := garakDir_last binary
  have other : "/src".toList.getLast? = some 'c' := by decide
  rw [same, String.toList_append, List.getLast?_append, other] at last
  exact absurd (Option.some.inj last) (by decide)

/-! ## Variables and guard -/

/-- What the list file of the library finds. -/
structure EntersGarak (source binary : Path) (cache : Entries) (s : State) : Prop where
  sourceDir : s.lookup "CMAKE_CURRENT_SOURCE_DIR" = some (garakDir source)
  binaryDir : s.lookup "CMAKE_CURRENT_BINARY_DIR" = some (garakDir binary)
  unset : s.scope "GARAK_BUILD_TESTING" = none ∧ s.scope "GARAK_BUILD_EXAMPLES" = none
  entries : s.cache "GARAK_BUILD_TESTING" = cache "GARAK_BUILD_TESTING" ∧
    s.cache "GARAK_BUILD_EXAMPLES" = cache "GARAK_BUILD_EXAMPLES"

/-- An option that is on unless the cache says otherwise. -/
def onByDefault (cache : Entries) (name : String) : Bool := !isOff ((cache name).getD "ON")

/-- What the list file of the library works with, once its variables are set. -/
structure AtGarak (source binary : Path) (cache : Entries) (vars : Version.Cmake.Variables)
    (s : State) : Prop where
  inside : InGarak source vars s
  sourceDir : s.lookup "CMAKE_CURRENT_SOURCE_DIR" = some (garakDir source)
  binaryDir : s.lookup "CMAKE_CURRENT_BINARY_DIR" = some (garakDir binary)
  testing : s.isTrue "GARAK_BUILD_TESTING" = onByDefault cache "GARAK_BUILD_TESTING"
  examples : s.isTrue "GARAK_BUILD_EXAMPLES" = onByDefault cache "GARAK_BUILD_EXAMPLES"

section Garak

variable {source binary : Path} {cache : Entries} {vars : Version.Cmake.Variables} {s s' : State}

theorem AtGarak.congr (here : AtGarak source binary cache vars s)
    (same : ∀ name ∈ own.vars, s'.lookup name = s.lookup name) :
    AtGarak source binary cache vars s' where
  inside := here.inside.congr fun name listed => same name (by revert name; decide)
  sourceDir := (same _ (by decide)).trans here.sourceDir
  binaryDir := (same _ (by decide)).trans here.binaryDir
  testing := (isTrue_congr (same _ (by decide))).trans here.testing
  examples := (isTrue_congr (same _ (by decide))).trans here.examples

theorem AtGarak.keeps (here : AtGarak source binary cache vars s) (keeps : Keeps own s s') :
    AtGarak source binary cache vars s' :=
  here.congr fun _ listed => keeps.lookup listed

/-- The state in which `get_version` returns. -/
theorem publish_eq (package : String) (vars : Version.Cmake.Variables) (s : State) :
    { s with scope := publish package vars s.scope } =
      (((s.setScope (package ++ "_VMAJOR") (some vars.vmajor)).setScope (package ++ "_VMINOR")
        (some vars.vminor)).setScope (package ++ "_VPATCH") (some vars.vpatch)).setScope
          (package ++ "_VERSION") (some vars.version) :=
  rfl

theorem exec_garakVariables (enters : EntersGarak source binary cache s)
    (package : s.lookup "PACKAGE_NAME" = some "garak")
    (version : s.lookup "garak_VERSION" = some vars.version)
    (vmajor : s.lookup "garak_VMAJOR" = some vars.vmajor)
    (elements : isElement vars.version = true ∧ isElement vars.vmajor = true) :
    ∃ s', garakVariables.exec s = (.ok (), s') ∧ AtGarak source binary cache vars s' ∧
      s'.targets = s.targets ∧ s'.compileOptions = s.compileOptions ∧ s'.installs = s.installs ∧
        s'.tests = s.tests ∧ s'.callers = s.callers := by
  have name : "garak" ++ "_VERSION" = "garak_VERSION" := by decide
  unfold garakVariables
  simp only [exec_bind, exec_value, exec_unquoted, exec_setVariable, exec_option, State.value,
    package, name, version, Option.getD_some, expandList_of_isElement elements.1, valueOf,
    joinList_singleton, lookup_setScope, String.reduceEq, if_false, enters.sourceDir]
  refine ⟨_, rfl, ⟨⟨?_, ?_, ?_, ?_, ?_, ?_, ?_⟩, ?_, ?_, ?_, ?_⟩, ?_⟩
  · simp [lookup_setScope, package]
  · simp [lookup_setScope, version]
  · simp [lookup_setScope, vmajor]
  · simp [lookup_setScope]
  · simp [lookup_setScope]
  · simp [lookup_setScope]
  · simp
  · simp [lookup_setScope, enters.sourceDir]
  · simp [lookup_setScope, enters.binaryDir]
  · rw [isTrue_congr (lookup_withOption_of_ne (by decide)),
      isTrue_withOption_self (by simpa using enters.unset.1), if_pos (by decide)]
    exact congrArg (fun entry : Option String => !isOff (entry.getD "ON")) enters.entries.1
  · have unset : s.scope "GARAK_BUILD_EXAMPLES" = none := enters.unset.2
    rw [isTrue_withOption_self (by simpa [State.withOption] using unset), if_pos (by decide),
      cache_withOption_of_ne (by decide)]
    exact congrArg (fun entry : Option String => !isOff (entry.getD "ON")) enters.entries.2
  · exact ⟨rfl, rfl, rfl, rfl, rfl⟩

/-- The guard stops a build in the project root. It also looks for `src`, where no `garak`
of a build directory can be. -/
theorem inSourceGuard_ends (here : AtGarak source binary cache vars s) :
    Ends inSourceGuard s (fun _ s' => s' = s ∧ garakDir source ≠ garakDir binary)
      (fun text _ => text = inSource ∧ garakDir source = garakDir binary) := by
  have sourceDir : s.operand "CMAKE_CURRENT_SOURCE_DIR" = garakDir source := by
    rw [State.operand, here.sourceDir]
    rfl
  have binaryDir : s.operand "CMAKE_CURRENT_BINARY_DIR" = garakDir binary := by
    rw [State.operand, here.binaryDir]
    rfl
  have srcDir : s.operand "GARAK_SOURCE_DIR" = garakDir source ++ "/src" := by
    rw [State.operand, here.inside.sourceDir]
    rfl
  have never := garakDir_ne_sourceDir binary source
  apply ends_bind_of_ok (exec_strequal ..)
  apply ends_bind_of_ok (exec_strequal ..)
  rw [sourceDir, binaryDir, srcDir]
  by_cases same : garakDir source = garakDir binary
  · simp only [same, decide_true, Bool.true_or, if_true]
    exact ends_of_error (exec_fatal _) ⟨rfl, trivial⟩
  · simp only [same, never, decide_false, Bool.or_self, Bool.false_eq_true, if_false]
    exact ends_of_ok (exec_pure _ s) ⟨rfl, same⟩

/-! ## The parts -/

/-- The state of a subdirectory, as its list file finds it. -/
theorem InGarak.enterDirectory (inside : InGarak source vars s) (dir : String) :
    InGarak source vars (s.enterDirectory dir) :=
  inside.congr fun name listed =>
    lookup_enterDirectory_of_ne ⟨by rintro rfl; revert listed; decide,
      by rintro rfl; revert listed; decide⟩

theorem AtGarak.binaryDir_enterDirectory (here : AtGarak source binary cache vars s) (dir : String) :
    (s.enterDirectory dir).lookup "CMAKE_CURRENT_BINARY_DIR" =
      some (joinDir (garakDir binary) dir) := by
  rw [lookup_enterDirectory_binary, value_of_lookup here.binaryDir]

section Parts

variable {colours : List String} {expected : String → Option Target} {installs : List Install}
  {tests : List String}

theorem addSubdirectory_tests (here : AtGarak source binary cache vars s)
    (holds : Holds colours expected installs tests s) (free : expected "garak_tests.bin" = none) :
    Ends (addSubdirectory "tests" testsLists) s
      (fun _ s' => AtGarak source binary cache vars s' ∧
        Holds colours
          (Function.update expected "garak_tests.bin" (some (testsTarget source binary colours)))
          installs (tests ++ ["garak_tests.bin"]) s')
      (fun _ _ => False) := by
  have unbuilt : (s.enterDirectory "tests").targets "garak_tests.bin" = none :=
    (holds.targets _ (by decide)).trans free
  obtain ⟨scope, ran⟩ := exec_testsLists (here.inside.enterDirectory "tests") unbuilt
    (here.binaryDir_enterDirectory "tests")
  refine ends_addSubdirectory (ends_of_ok ran ⟨here.congr fun _ _ => rfl, ?_⟩)
  have added := (holds.put "garak_tests.bin" (testsTarget source binary colours)).addTests
    "garak_tests.bin"
  rw [← holds.options] at added ⊢
  exact added

theorem addSubdirectory_src (here : AtGarak source binary cache vars s)
    (holds : Holds colours expected installs tests s) (free : expected "garak" = none)
    (elements : isElement vars.version = true ∧ isElement vars.vmajor = true) :
    Ends (addSubdirectory "src" srcLists) s
      (fun _ s' => AtGarak source binary cache vars s' ∧
        Holds colours
          (Function.update expected "garak" (some (libraryTarget source binary colours vars)))
          (installs ++ [.targets "garak" "lib"] ++
            [.directory (garakDir source ++ "/include" ++ "/") "include"]) tests s')
      (fun _ _ => False) := by
  have unbuilt : (s.enterDirectory "src").targets "garak" = none :=
    (holds.targets _ (by decide)).trans free
  have ran := exec_srcLists (here.inside.enterDirectory "src") unbuilt elements
    (here.binaryDir_enterDirectory "src")
  refine ends_addSubdirectory (ends_of_ok ran ⟨here.congr fun _ _ => rfl, ?_⟩)
  have added := ((holds.put "garak" (libraryTarget source binary colours vars)).addInstall
    (.targets "garak" "lib")).addInstall
      (.directory (garakDir source ++ "/include" ++ "/") "include")
  obtain ⟨targets, options, rules, discovered⟩ := added
  rw [← holds.options] at targets options ⊢
  exact ⟨targets, options, rules, discovered⟩

theorem garakExamples_ends (here : AtGarak source binary cache vars s)
    (holds : Holds colours expected installs tests s) (free : expected "garak_scratch.bin" = none) :
    Ends garakExamples s
      (fun _ s' => Holds colours
        (Function.update expected "garak_scratch.bin" (some (scratchTarget source binary colours)))
        installs tests s')
      (fun _ _ => False) := by
  have unbuilt : ∀ mode text,
      ((s.say mode text).enterDirectory "examples").targets "garak_scratch.bin" = none :=
    fun _ _ => (holds.targets _ (by decide)).trans free
  apply ends_bind_of_ok (exec_value _)
  apply ends_bind_of_ok (exec_message (by decide) _)
  have said := here.congr fun name _ =>
    lookup_say s name .status (s.value "PACKAGE_NAME" ++ " -- Examples Enabled")
  obtain ⟨scope, ran⟩ := exec_examplesLists (said.inside.enterDirectory "examples") (unbuilt _ _)
    (said.binaryDir_enterDirectory "examples")
  refine ends_addSubdirectory (ends_of_ok ran ?_)
  have added := holds.put "garak_scratch.bin" (scratchTarget source binary colours)
  obtain ⟨targets, options, rules, discovered⟩ := added
  rw [← holds.options] at targets options ⊢
  exact ⟨targets, options, rules, discovered⟩

theorem reportGoogletest_ends (here : AtGarak source binary cache vars s)
    (holds : Holds colours expected installs tests s) :
    Ends reportGoogletest s
      (fun _ s' => AtGarak source binary cache vars s' ∧ Holds colours expected installs tests s')
      (fun _ _ => False) := by
  have said : ∀ mode text, AtGarak source binary cache vars (s.say mode text) ∧
      Holds colours expected installs tests (s.say mode text) :=
    fun _ _ => ⟨here.congr fun _ _ => rfl, { holds with }⟩
  apply ends_bind_of_ok (exec_isTrue _)
  split
  · apply ends_bind_of_ok (exec_message (by decide) _)
    obtain ⟨callers, ran⟩ := exec_setParent_any
      (s := s.say .status "gtest configured correctly") "googletest_Installed" ["ON"]
    exact ends_of_ok ran ⟨here.congr fun _ _ => rfl, { holds with }⟩
  · apply ends_bind_of_ok (exec_isTrue _)
    split
    · exact ends_of_ok (exec_message (by decide) _) (said _ _)
    · exact ends_of_ok (exec_message (by decide) _) (said _ _)

theorem garakTesting_ends (externals : Externals) (here : AtGarak source binary cache vars s)
    (holds : Holds colours expected installs tests s) (free : expected "garak_tests.bin" = none) :
    Ends (garakTesting externals) s
      (fun _ s' => AtGarak source binary cache vars s' ∧
        Holds colours
          (Function.update expected "garak_tests.bin" (some (testsTarget source binary colours)))
          installs (tests ++ ["garak_tests.bin"]) s')
      (fun text _ => externals.fails text) := by
  apply Ends.bind
  refine (externals.cpmAddPackage_confined _).ends (fun _ s₁ keeps => ?_) fun _ _ fails => fails
  apply Ends.bind
  refine (reportGoogletest_ends (here.keeps keeps) (holds.keeps keeps)).mono
    (fun _ s₂ reported => ?_) fun _ _ no => no.elim
  apply ends_bind_of_ok exec_enableTesting
  apply ends_bind_of_ok (exec_value _)
  apply ends_bind_of_ok (exec_message (by decide) _)
  have here₂ : AtGarak source binary cache vars (s₂.addTesting.say .status
      (s₂.addTesting.value "PACKAGE_NAME" ++ " -- Tests Enabled")) :=
    reported.1.congr fun _ _ => rfl
  exact (addSubdirectory_tests here₂ { reported.2 with } free).mono (fun _ _ done => done)
    fun _ _ no => no.elim

end Parts

/-! ## The whole list file -/

/-- A target under a name, when it is wanted. -/
def putIf (wanted : Bool) (expected : String → Option Target) (name : String) (target : Target) :
    String → Option Target :=
  if wanted then Function.update expected name (some target) else expected

/-- The targets with those of `garak/`. -/
def garakTargets (source binary : Path) (cache : Entries) (colours : List String)
    (vars : Version.Cmake.Variables) (expected : String → Option Target) : String → Option Target :=
  putIf (onByDefault cache "GARAK_BUILD_EXAMPLES")
    (Function.update
      (Function.update
        (putIf (onByDefault cache "GARAK_BUILD_TESTING") expected "garak_tests.bin"
          (testsTarget source binary colours))
        "asio" (some (asioTarget source binary)))
      "garak" (some (libraryTarget source binary colours vars)))
    "garak_scratch.bin" (scratchTarget source binary colours)

/-- What an installation consists of: the library and the headers. -/
def garakInstalls (source : Path) : List Install :=
  [.targets "garak" "lib", .directory (garakDir source ++ "/include" ++ "/") "include"]

/-- The tests of the project. -/
def garakTests (cache : Entries) : List String :=
  if onByDefault cache "GARAK_BUILD_TESTING" then ["garak_tests.bin"] else []

section Contents

variable {colours : List String} {expected : String → Option Target} {tests : List String}

theorem garakLibraries_ends (here : AtGarak source binary cache vars s)
    (holds : Holds colours expected [] tests s)
    (free : expected "asio" = none ∧ expected "garak" = none ∧ expected "garak_scratch.bin" = none)
    (elements : isElement vars.version = true ∧ isElement vars.vmajor = true) :
    Ends garakLibraries s
      (fun _ s' => Holds colours
        (putIf (onByDefault cache "GARAK_BUILD_EXAMPLES")
          (Function.update
            (Function.update expected "asio" (some (asioTarget source binary)))
            "garak" (some (libraryTarget source binary colours vars)))
          "garak_scratch.bin" (scratchTarget source binary colours))
        (garakInstalls source) tests s')
      (fun _ _ => False) := by
  apply ends_bind_of_ok (exec_asioLibrary here.inside ((holds.targets _ (by decide)).trans free.1)
    here.binaryDir)
  have here₁ : AtGarak source binary cache vars
      ((s.putTarget "asio" (asioTarget source binary)).say .status
        "Adding bundled asio standalone") := here.congr fun _ _ => rfl
  have holds₁ : Holds colours (Function.update expected "asio" (some (asioTarget source binary))) []
      tests ((s.putTarget "asio" (asioTarget source binary)).say .status
        "Adding bundled asio standalone") := { holds.put "asio" (asioTarget source binary) with }
  apply Ends.bind
  refine (addSubdirectory_src here₁ holds₁ ((Function.update_of_ne (by decide) ..).trans free.2.1)
    elements).mono (fun _ s₂ added => ?_) fun _ _ no => no
  apply ends_bind_of_ok (exec_isTrue _)
  rw [added.1.examples]
  cases onByDefault cache "GARAK_BUILD_EXAMPLES" with
  | false => exact ends_of_ok (exec_pure _ _) added.2
  | true =>
      refine garakExamples_ends added.1 added.2 ?_
      rw [Function.update_of_ne (by decide), Function.update_of_ne (by decide)]
      exact free.2.2

/-- The part of the list file after the guard. -/
theorem garakContents_ends (externals : Externals) (here : AtGarak source binary cache vars s)
    (holds : Holds colours expected [] [] s)
    (free : expected "asio" = none ∧ expected "garak" = none ∧
      expected "garak_scratch.bin" = none ∧ expected "garak_tests.bin" = none)
    (elements : isElement vars.version = true ∧ isElement vars.vmajor = true) :
    Ends (garakContents externals) s
      (fun _ s' => Holds colours (garakTargets source binary cache colours vars expected)
        (garakInstalls source) (garakTests cache) s')
      (fun text _ => externals.fails text) := by
  apply Ends.bind
  refine externals.findThreads_confined.ends (fun _ s₁ keeps => ?_) fun _ _ fails => fails
  apply ends_bind_of_ok (exec_isTrue _)
  have here₁ := here.keeps keeps
  have holds₁ := holds.keeps keeps
  rw [here₁.testing]
  unfold garakTargets garakTests
  cases onByDefault cache "GARAK_BUILD_TESTING" with
  | false =>
      exact (garakLibraries_ends here₁ holds₁ ⟨free.1, free.2.1, free.2.2.1⟩ elements).mono
        (fun _ _ done => done) fun _ _ no => no.elim
  | true =>
      apply Ends.bind
      refine (garakTesting_ends externals here₁ holds₁ free.2.2.2).mono (fun _ s₂ tested => ?_)
        fun _ _ fails => fails
      have apart : ∀ name ∈ ["asio", "garak", "garak_scratch.bin"], name ≠ "garak_tests.bin" := by
        decide
      refine (garakLibraries_ends tested.1 tested.2 ⟨?_, ?_, ?_⟩ elements).mono
        (fun _ _ done => done) fun _ _ no => no.elim
      · exact (Function.update_of_ne (apart _ (by decide)) ..).trans free.1
      · exact (Function.update_of_ne (apart _ (by decide)) ..).trans free.2.1
      · exact (Function.update_of_ne (apart _ (by decide)) ..).trans free.2.2.1

/-- The list file of the library, as its directory is entered. -/
theorem garakLists_ends (externals : Externals) (enters : EntersGarak source binary cache s)
    (holds : Holds colours expected [] [] s)
    (free : expected "asio" = none ∧ expected "garak" = none ∧
      expected "garak_scratch.bin" = none ∧ expected "garak_tests.bin" = none)
    {contents : String}
    (header : s.files (garakDir source ++ "/include/garak/version.hpp") = some contents) :
    Ends (garakLists externals) s
      (fun _ s' => ∃ vars, Version.Cmake.getVersion contents = .ok vars ∧
        garakDir source ≠ garakDir binary ∧
        Holds colours (garakTargets source binary cache colours vars expected)
          (garakInstalls source) (garakTests cache) s')
      (fun text _ => externals.fails text ∨ Version.Cmake.getVersion contents = .error text ∨
        text = inSource ∧ garakDir source = garakDir binary) := by
  apply ends_bind_of_ok (exec_setVariable ..)
  rw [valueOf_singleton]
  have named : (s.setScope "PACKAGE_NAME" (some "garak")).value "PACKAGE_NAME" = "garak" :=
    value_of_lookup (lookup_setScope_self ..)
  have path : headerPath (s.setScope "PACKAGE_NAME" (some "garak")) =
      garakDir source ++ "/include/garak/version.hpp" := by
    have placed : (s.setScope "PACKAGE_NAME" (some "garak")).value "CMAKE_CURRENT_SOURCE_DIR" =
        garakDir source :=
      value_of_lookup ((lookup_setScope_of_ne (by decide)).trans enters.sourceDir)
    rw [headerPath, named, placed, String.append_assoc, String.append_assoc]
    rfl
  have reads : readHeader (s.setScope "PACKAGE_NAME" (some "garak")) =
      Version.Cmake.getVersion contents := by
    unfold readHeader
    rw [path]
    simp only [State.setScope, header]
  apply Ends.bind
  refine (getVersion_ends _).mono (fun _ s₁ returned => ?_) fun text s₁ stopped => ?_
  · obtain ⟨vars, read, rfl⟩ := returned
    rw [reads] at read
    have elements := elements_of_getVersion read
    rw [named, publish_eq]
    have published : "garak" ++ "_VMAJOR" = "garak_VMAJOR" ∧ "garak" ++ "_VMINOR" = "garak_VMINOR" ∧
        "garak" ++ "_VPATCH" = "garak_VPATCH" ∧ "garak" ++ "_VERSION" = "garak_VERSION" := by
      decide
    rw [published.1, published.2.1, published.2.2.1, published.2.2.2]
    have enters₁ : EntersGarak source binary cache
        (((((s.setScope "PACKAGE_NAME" (some "garak")).setScope "garak_VMAJOR"
          (some vars.vmajor)).setScope "garak_VMINOR" (some vars.vminor)).setScope "garak_VPATCH"
            (some vars.vpatch)).setScope "garak_VERSION" (some vars.version)) := by
      refine ⟨?_, ?_, ?_, enters.entries⟩
      · simp [lookup_setScope, enters.sourceDir]
      · simp [lookup_setScope, enters.binaryDir]
      · simp [enters.unset]
    obtain ⟨s₂, ran, here, targets, options, installs, tests, -⟩ :=
      @exec_garakVariables source binary cache vars _ enters₁ (by simp [lookup_setScope]) (by simp)
        (by simp [lookup_setScope]) elements
    apply ends_bind_of_ok ran
    have holds₂ : Holds colours expected [] [] s₂ :=
      ⟨fun name listed => (congrFun targets name).trans (holds.targets name listed),
        options.trans holds.options, installs.trans holds.installs, tests.trans holds.tests⟩
    apply Ends.bind
    refine (inSourceGuard_ends here).mono (fun _ s₃ passed => ?_) fun text s₃ stopped =>
      .inr (.inr stopped)
    obtain ⟨rfl, apart⟩ := passed
    exact (garakContents_ends externals here holds₂ free elements).mono
      (fun _ s₄ done => ⟨vars, read, apart, done⟩) fun _ _ fails => .inl fails
  · exact .inr (.inl (reads ▸ stopped.1))

end Contents

end Garak

end Build
