import Garak.Build.Proofs.Garak
import Garak.Build.Proofs.Warnings

/-!
# `CMakeLists.txt`

`projectLists_ends` says where a configure step ends: with which targets, install rules
and tests, or on which errors. `AtRoot` is what holds from one command to the next.
-/

namespace Build

open Cmake Pathlib

/-! ## The targets -/

/-- The options a configure step reads, and the variable the warnings start from. -/
def settings : List String :=
  ["WARNINGS_AS_ERRORS", "PROJECT_WARNINGS", "GARAK_ENABLE_PCH", "GARAK_BUILD_TESTING",
    "GARAK_BUILD_EXAMPLES"]

/-- An interface library of the project. -/
def interfaceTarget (binary : Path) (requirements : List Requirement) : Target where
  kind := .interfaceLibrary
  binaryDir := binary.str
  sources := []
  requirements := requirements
  properties := []

/-- The target for the options, before the precompiled headers. -/
def standardTarget (binary : Path) : Target :=
  interfaceTarget binary [⟨.features, .interface, "cxx_std_20"⟩]

/-- The language standard and the precompiled headers. -/
def optionsTarget (binary : Path) (cache : Entries) : Target :=
  interfaceTarget binary
    (⟨.features, .interface, "cxx_std_20"⟩ ::
      if onByDefault cache "GARAK_ENABLE_PCH" then
        precompiledHeaders.map fun item => ⟨.precompiledHeaders, .interface, item⟩
      else [])

/-- The warnings. -/
def warningsTarget (binary : Path) (cache : Entries) (id : String) : Target :=
  interfaceTarget binary
    ((chosenWarnings id cache).map fun item => ⟨.options, .interface, item⟩)

/-- The option for coloured diagnostics. -/
def colours (id : String) : List String :=
  if "Clang".toList <:+: id.toList then ["-fcolor-diagnostics"]
  else if id = "GNU" then ["-fdiagnostics-color=always"]
  else []

/-- The targets `CMakeLists.txt` adds itself. -/
def rootTargets (binary : Path) (cache : Entries) (id : String) : String → Option Target :=
  Function.update
    (Function.update (fun _ => none) "project_options" (some (optionsTarget binary cache)))
    "project_warnings" (some (warningsTarget binary cache id))

/-- All targets of the project. -/
def projectTargets (source binary : Path) (cache : Entries) (id : String)
    (vars : Version.Cmake.Variables) : String → Option Target :=
  garakTargets source binary cache (colours id) vars (rootTargets binary cache id)

/-! ## From one command to the next -/

/-- What the list file of the project works with, while the compiler id may be known and
the given settings are still to be read. -/
structure AtRoot (source binary : Path) (cache : Entries) (contents : String)
    (known : Option String) (pending : List String) (s : State) : Prop where
  sourceDir : s.lookup "CMAKE_CURRENT_SOURCE_DIR" = some source.str
  binaryDir : s.lookup "CMAKE_CURRENT_BINARY_DIR" = some binary.str
  standard : s.lookup "CMAKE_CXX_STANDARD" = some "20"
  compiler : ∀ id, known = some id → s.lookup "CMAKE_CXX_COMPILER_ID" = some id
  unset : ∀ name ∈ pending, s.scope name = none
  entries : ∀ name ∈ pending, s.cache name = cache name
  header : s.files (garakDir source ++ "/include/garak/version.hpp") = some contents

/-- The version header is one of the files of the project. -/
theorem ownsHeader (source : Path) : own.files (garakDir source ++ "/include/garak/version.hpp") := by
  have ends : "/include/garak/version.hpp".toList <:+
      (garakDir source ++ "/include/garak/version.hpp").toList := by
    rw [String.toList_append]
    exact List.suffix_append ..
  exact ends

/-- The variables `AtRoot` is about. -/
def atRootVars : List String :=
  ["CMAKE_CURRENT_SOURCE_DIR", "CMAKE_CURRENT_BINARY_DIR", "CMAKE_CXX_STANDARD",
    "CMAKE_CXX_COMPILER_ID"]

section Root

variable {source binary : Path} {cache : Entries} {contents : String} {known : Option String}
  {pending pending' : List String} {s s' : State}

theorem AtRoot.congr (here : AtRoot source binary cache contents known pending s)
    (fewer : ∀ name ∈ pending', name ∈ pending)
    (same : ∀ name ∈ atRootVars, s'.lookup name = s.lookup name)
    (scope : ∀ name ∈ pending', s'.scope name = s.scope name)
    (entries : ∀ name ∈ pending', s'.cache name = s.cache name)
    (files : ∀ path, own.files path → ∀ text, s.files path = some text →
      s'.files path = some text) :
    AtRoot source binary cache contents known pending' s' where
  sourceDir := (same _ (by decide)).trans here.sourceDir
  binaryDir := (same _ (by decide)).trans here.binaryDir
  standard := (same _ (by decide)).trans here.standard
  compiler id identified := (same _ (by decide)).trans (here.compiler id identified)
  unset name listed := (scope name listed).trans (here.unset name (fewer name listed))
  entries name listed := (entries name listed).trans (here.entries name (fewer name listed))
  header := files _ (ownsHeader source) _ here.header

theorem AtRoot.keeps (here : AtRoot source binary cache contents known settings s)
    (keeps : Keeps own s s') : AtRoot source binary cache contents known settings s' := by
  have listed : ∀ name ∈ settings, name ∈ own.vars := by decide
  exact here.congr (fun _ held => held) (fun name held => keeps.lookup (by revert name; decide))
    (fun name held => keeps.scope name (listed name held))
    (fun name held => keeps.cache name (listed name held)) keeps.files

/-- Declaring an option settles it. -/
theorem AtRoot.option (here : AtRoot source binary cache contents known pending s) {name : String}
    (default : String) (fewer : ∀ other ∈ pending', other ∈ pending ∧ other ≠ name)
    (foreign : name ∉ atRootVars) :
    AtRoot source binary cache contents known pending' (s.withOption name default) := by
  refine here.congr (fun other listed => (fewer other listed).1) (fun other listed => ?_)
    (fun _ _ => rfl) (fun other listed => cache_withOption_of_ne (fewer other listed).2)
    fun _ _ _ held => held
  exact lookup_withOption_of_ne fun same => foreign (same ▸ listed)

/-- The compiler id becomes known. -/
theorem AtRoot.identified (here : AtRoot source binary cache contents none settings s)
    (id : String) :
    AtRoot source binary cache contents (some id) settings
      (s.setScope "CMAKE_CXX_COMPILER_ID" (some id)) where
  sourceDir := (lookup_setScope_of_ne (by decide)).trans here.sourceDir
  binaryDir := (lookup_setScope_of_ne (by decide)).trans here.binaryDir
  standard := (lookup_setScope_of_ne (by decide)).trans here.standard
  compiler other same := by
    obtain rfl := Option.some.inj same
    exact lookup_setScope_self ..
  unset name listed := by
    have apart : name ≠ "CMAKE_CXX_COMPILER_ID" := by
      rintro rfl
      exact absurd listed (by decide)
    rw [scope_setScope, if_neg apart]
    exact here.unset name listed
  entries := here.entries
  header := here.header

end Root

/-! ## The scripts under `cmake/` -/

section Scripts

variable (externals : Externals)

theorem cpmDownloadLocation_confined : Confined own externals.fails (cpmDownloadLocation externals) := by
  apply Confined.bind (confined_isTrue _)
  intro cached
  apply confined_ite
  · apply Confined.bind (confined_value _)
    intro dir
    apply Confined.bind (confined_setVariable (by decide) _)
    intro _
    apply Confined.bind (confined_value _)
    intro dir'
    apply Confined.bind (confined_value _)
    intro version
    exact confined_setVariable (by decide) _
  · cases externals.environment "CPM_SOURCE_CACHE" with
    | some dir =>
        apply Confined.bind (confined_value _)
        intro version
        exact confined_setVariable (by decide) _
    | none =>
        apply Confined.bind (confined_value _)
        intro dir
        apply Confined.bind (confined_value _)
        intro version
        exact confined_setVariable (by decide) _

theorem exec_downloadCpm_missing {s : State} (missing : s.files (s.value "CPM_DOWNLOAD_LOCATION") = none) :
    (downloadCpm externals).exec s =
      (externals.download
        ("https://github.com/cpm-cmake/CPM.cmake/releases/download/v" ++
          s.value "CPM_DOWNLOAD_VERSION" ++ "/CPM.cmake")
        (s.value "CPM_DOWNLOAD_LOCATION")).exec
          (s.say .status ("Downloading CPM.cmake to " ++ s.value "CPM_DOWNLOAD_LOCATION")) := by
  unfold downloadCpm
  rw [exec_get_bind, exec_bind_ok (exec_value _), missing, if_pos Option.isNone_none,
    exec_bind_ok (exec_value _), exec_bind_ok (exec_message (by decide) _),
    exec_bind_ok (exec_value _), exec_bind_ok (exec_value _)]
  rfl

theorem exec_downloadCpm_present {s : State} (present : s.files (s.value "CPM_DOWNLOAD_LOCATION") ≠ none) :
    (downloadCpm externals).exec s = (.ok (), s) := by
  unfold downloadCpm
  rw [exec_get_bind, exec_bind_ok (exec_value _), if_neg (by simpa using present)]
  rfl

theorem downloadCpm_confined : Confined own externals.fails (downloadCpm externals) where
  keeps s := by
    by_cases missing : s.files (s.value "CPM_DOWNLOAD_LOCATION") = none
    · rw [exec_downloadCpm_missing externals missing]
      exact (keeps_say ..).trans (externals.download_keeps _ _ _ missing)
    · rw [exec_downloadCpm_present externals missing]
      exact Keeps.refl own s
  stops s e s' stopped := by
    by_cases missing : s.files (s.value "CPM_DOWNLOAD_LOCATION") = none
    · rw [exec_downloadCpm_missing externals missing] at stopped
      exact externals.download_stops _ _ _ _ _ stopped
    · rw [exec_downloadCpm_present externals missing] at stopped
      cases stopped

theorem cpmScript_confined : Confined own externals.fails (cpmScript externals) := by
  apply Confined.bind (confined_setVariable (by decide) _)
  intro _
  apply Confined.bind (cpmDownloadLocation_confined externals)
  intro _
  apply Confined.bind (downloadCpm_confined externals)
  intro _
  exact externals.cpm_confined

theorem defaultBuildType_confined : Confined own externals.fails defaultBuildType := by
  apply Confined.bind (confined_isTrue _)
  intro typed
  apply Confined.bind (confined_isTrue _)
  intro types
  refine confined_ite ?_ (confined_pure _)
  apply Confined.bind (confined_message (by decide) _)
  intro _
  exact confined_setCache (by decide) _

theorem ipoSettings_confined : Confined own externals.fails (ipoSettings externals) := by
  apply Confined.bind (confined_option (by decide) _)
  intro _
  apply Confined.bind (confined_isTrue _)
  intro wanted
  refine confined_ite ?_ (confined_pure _)
  apply confined_ite
  · exact confined_setVariable (by decide) _
  · exact confined_message (by decide) _

/-- The colours are the one setting that depends on the compiler. -/
theorem exec_colourSettings {id : String} {s : State}
    (compiler : s.lookup "CMAKE_CXX_COMPILER_ID" = some id) :
    ∃ messages, colourSettings.exec s =
      (.ok (), (s.withOptions (s.compileOptions ++ colours id)).withMessages messages) := by
  have operand : s.operand "CMAKE_CXX_COMPILER_ID" = id := by
    rw [State.operand, compiler, Option.getD_some]
  unfold colourSettings colours
  rw [exec_bind_ok (exec_contains ..), operand]
  by_cases isClang : "Clang".toList <:+: id.toList
  · simp only [isClang, decide_true, if_true]
    exact ⟨s.messages, rfl⟩
  · simp only [isClang, decide_false, Bool.false_eq_true, if_false]
    rw [exec_bind_ok (exec_strequalText ..), operand]
    by_cases isGnu : id = "GNU"
    · simp only [isGnu, decide_true, if_true]
      exact ⟨s.messages, rfl⟩
    · simp only [isGnu, decide_false, Bool.false_eq_true, if_false, List.append_nil]
      rw [exec_bind_ok (exec_value _), exec_message (by decide)]
      exact ⟨_, rfl⟩

section Stages

variable {source binary : Path} {cache : Entries} {id contents : String} {s : State}
  {known : Option String} {expected : String → Option Target}

theorem standardProjectSettings_ends
    (here : AtRoot source binary cache contents (some id) settings s)
    (holds : Holds [] expected [] [] s) :
    Ends (standardProjectSettings externals) s
      (fun _ s' => AtRoot source binary cache contents (some id) settings s' ∧
        Holds (colours id) expected [] [] s')
      (fun text _ => externals.fails text) := by
  apply Ends.bind
  refine (defaultBuildType_confined externals).ends (fun _ s₁ keeps₁ => ?_) fun _ _ fails => fails
  apply ends_bind_of_ok (exec_setVariable ..)
  have keeps₂ : Keeps own s (s₁.setScope "CMAKE_EXPORT_COMPILE_COMMANDS" (valueOf ["ON"])) :=
    keeps₁.trans (keeps_setScope (by decide) _)
  apply Ends.bind
  refine (ipoSettings_confined externals).ends (fun _ s₃ keeps₃ => ?_) fun _ _ fails => fails
  have here₃ := here.keeps (keeps₂.trans keeps₃)
  have holds₃ := holds.keeps (keeps₂.trans keeps₃)
  obtain ⟨messages, ran⟩ := exec_colourSettings (here₃.compiler id rfl)
  refine ends_of_ok ran ⟨?_, ?_⟩
  · exact here₃.congr (fun _ listed => listed) (fun _ _ => rfl) (fun _ _ => rfl) (fun _ _ => rfl)
      fun _ _ _ held => held
  · rw [holds₃.options]
    exact { holds₃ with options := List.nil_append _ }

theorem exec_projectVariables (s : State) :
    ∃ s', projectVariables.exec s = (.ok (), s') ∧ Keeps own s s' ∧
      s'.lookup "CMAKE_CXX_COMPILER" = s.lookup "CMAKE_CXX_COMPILER" := by
  refine ⟨_, rfl, ?_, ?_⟩
  · exact (keeps_setScope (by decide) _).trans ((keeps_setScope (by decide) _).trans
      ((keeps_setScope (by decide) _).trans (keeps_setScope (by decide) _)))
  · simp [lookup_setScope_of_ne]

/-- `project` finds the compiler the cache names. -/
theorem project_ends (before : s.lookup "CMAKE_CXX_COMPILER" = cache "CMAKE_CXX_COMPILER")
    (here : AtRoot source binary cache contents none settings s)
    (holds : Holds [] expected [] [] s) :
    Ends (project externals) s
      (fun _ s' => ∃ id, externals.identify (cache "CMAKE_CXX_COMPILER") = .ok id ∧
        AtRoot source binary cache contents (some id) settings s' ∧ Holds [] expected [] [] s')
      (fun text _ => externals.fails text ∨ externals.identify (cache "CMAKE_CXX_COMPILER") = .error text) := by
  obtain ⟨s₁, ran, keeps₁, compiler⟩ := exec_projectVariables s
  apply ends_bind_of_ok ran
  apply ends_bind_of_ok (exec_get _)
  rw [compiler, before]
  cases identified : externals.identify (cache "CMAKE_CXX_COMPILER") with
  | error text =>
      apply Ends.bind
      exact ends_of_error (exec_fatal text) (.inr rfl)
  | ok id =>
      apply ends_bind_of_ok (exec_setVariable ..)
      rw [valueOf_singleton]
      refine (externals.enableLanguages_confined).ends (fun _ s₂ keeps₂ => ⟨id, rfl, ?_, ?_⟩)
        fun _ _ fails => .inl fails
      · exact (AtRoot.identified (here.keeps keeps₁) id).keeps keeps₂
      · have holds₁ : Holds [] expected [] [] (s₁.setScope "CMAKE_CXX_COMPILER_ID" (some id)) :=
          { holds.keeps keeps₁ with }
        exact holds₁.keeps keeps₂

theorem optionsLibraries_ends (here : AtRoot source binary cache contents known settings s)
    (holds : Holds [] (fun _ => none) [] [] s) :
    Ends optionsLibraries s
      (fun _ s' => AtRoot source binary cache contents known settings s' ∧
        Holds [] (Function.update
          (Function.update (fun _ => none) "project_options"
            (some (standardTarget binary)))
          "project_warnings" (some (interfaceTarget binary []))) [] [] s')
      (fun _ _ => False) := by
  have built : ∀ s' : State, s'.lookup "CMAKE_CURRENT_BINARY_DIR" = some binary.str →
      s'.newTarget .interfaceLibrary [] = interfaceTarget binary [] := by
    intro s' placed
    rw [State.newTarget, value_of_lookup placed]
    rfl
  have free : s.targets "project_options" = none := holds.targets _ (by decide)
  have feature : expandList ("cxx_std_" ++ "20") = ["cxx_std_20"] :=
    expandList_of_isElement (by decide)
  have first := holds.put "project_options" (interfaceTarget binary [])
  have second := first.put "project_options" (standardTarget binary)
  have third := second.put "project_warnings" (interfaceTarget binary [])
  rw [Function.update_idem] at third
  unfold optionsLibraries addInterfaceLibrary targetCompileFeatures
  apply ends_bind_of_ok (exec_addTarget_free free _ _)
  rw [built s here.binaryDir]
  apply ends_bind_of_ok (exec_value _)
  have standard : (s.putTarget "project_options" (interfaceTarget binary [])).value
      "CMAKE_CXX_STANDARD" = "20" :=
    value_of_lookup here.standard
  rw [standard, feature]
  apply ends_bind_of_ok (exec_targetRequire (targets_putTarget_self ..) ..)
  refine ends_of_ok (exec_addTarget_free ?_ _ _) ⟨?_, ?_⟩
  · exact (second.targets _ (by decide)).trans (Function.update_of_ne (by decide) ..)
  · exact here.congr (fun _ listed => listed) (fun _ _ => rfl) (fun _ _ => rfl) (fun _ _ => rfl)
      fun _ _ _ held => held
  · rw [built ((s.putTarget "project_options" (interfaceTarget binary [])).putTarget
      "project_options" _) here.binaryDir]
    exact third

/-- The warnings of the project, from the cache a configure step began with. -/
theorem projectWarnings_ends (here : AtRoot source binary cache contents (some id) settings s)
    (holds : Holds (colours id) expected [] [] s)
    (built : expected "project_warnings" = some (interfaceTarget binary [])) :
    Ends (setProjectWarnings "project_warnings") s
      (fun _ s' => AtRoot source binary cache contents (some id)
          ["GARAK_ENABLE_PCH", "GARAK_BUILD_TESTING", "GARAK_BUILD_EXAMPLES"] s' ∧
        Holds (colours id) (Function.update expected "project_warnings"
          (some (warningsTarget binary cache id))) [] [] s')
      (fun _ _ => False) := by
  have chosen : chosenWarnings id s.cache = chosenWarnings id cache := by
    unfold chosenWarnings
    rw [here.entries _ (by decide), here.entries _ (by decide)]
  refine (setProjectWarnings_ends (here.compiler id rfl)
    ⟨here.unset _ (by decide), here.unset _ (by decide)⟩
    ((holds.targets _ (by decide)).trans built)).mono (fun _ s' ended => ?_) fun _ _ no => no
  obtain ⟨messages, rfl⟩ := ended
  have declared : AtRoot source binary cache contents (some id)
      ["GARAK_ENABLE_PCH", "GARAK_BUILD_TESTING", "GARAK_BUILD_EXAMPLES"]
      (s.withOption "WARNINGS_AS_ERRORS" "FALSE") :=
    here.option "FALSE" (by decide) (by decide)
  refine ⟨?_, ?_⟩
  · exact declared.congr (fun _ listed => listed) (fun _ _ => rfl) (fun _ _ => rfl)
      (fun _ _ => rfl) fun _ _ _ held => held
  · have optioned : Holds (colours id) expected [] [] (s.withOption "WARNINGS_AS_ERRORS" "FALSE") :=
      { holds with }
    rw [chosen]
    exact { optioned.put "project_warnings" (warningsTarget binary cache id) with }

theorem precompile_ends (here : AtRoot source binary cache contents known
      ["GARAK_ENABLE_PCH", "GARAK_BUILD_TESTING", "GARAK_BUILD_EXAMPLES"] s)
    (holds : Holds (colours id) expected [] [] s)
    (built : expected "project_options" = some (standardTarget binary)) :
    Ends precompile s
      (fun _ s' => AtRoot source binary cache contents known
          ["GARAK_BUILD_TESTING", "GARAK_BUILD_EXAMPLES"] s' ∧
        Holds (colours id) (Function.update expected "project_options"
          (some (optionsTarget binary cache))) [] [] s')
      (fun _ _ => False) := by
  have decided : (s.withOption "GARAK_ENABLE_PCH" "ON").isTrue "GARAK_ENABLE_PCH" =
      onByDefault cache "GARAK_ENABLE_PCH" := by
    rw [isTrue_withOption_self (here.unset _ (by decide)), if_pos (by decide)]
    exact congrArg (fun entry : Option String => !isOff (entry.getD "ON")) (here.entries _ (by decide))
  have here₁ : AtRoot source binary cache contents known
      ["GARAK_BUILD_TESTING", "GARAK_BUILD_EXAMPLES"] (s.withOption "GARAK_ENABLE_PCH" "ON") :=
    here.option "ON" (by decide) (by decide)
  have holds₁ : Holds (colours id) expected [] [] (s.withOption "GARAK_ENABLE_PCH" "ON") :=
    { holds with }
  apply ends_bind_of_ok (exec_option ..)
  apply ends_bind_of_ok (exec_isTrue _)
  rw [decided]
  unfold optionsTarget
  cases onByDefault cache "GARAK_ENABLE_PCH" with
  | false =>
      refine ends_of_ok (exec_pure _ _) ⟨here₁, ?_⟩
      have unchanged : Function.update expected "project_options"
          (some (standardTarget binary)) = expected := by
        rw [← built, Function.update_eq_self]
      exact unchanged.symm ▸ holds₁
  | true =>
      have built₁ : (s.withOption "GARAK_ENABLE_PCH" "ON").targets "project_options" =
          some (standardTarget binary) :=
        (holds₁.targets _ (by decide)).trans built
      refine ends_of_ok (exec_targetRequire built₁ ..) ⟨?_, holds₁.put ..⟩
      exact here₁.congr (fun _ listed => listed) (fun _ _ => rfl) (fun _ _ => rfl)
        (fun _ _ => rfl) fun _ _ _ held => held

end Stages

end Scripts

/-! ## The whole project -/

section Project

variable {source binary : Path} {cache : Entries} {files : String → Option String}
  {id contents : String}

theorem rootTargets_eq (binary : Path) (cache : Entries) (id : String) :
    Function.update
      (Function.update
        (Function.update
          (Function.update (fun _ => none) "project_options" (some (standardTarget binary)))
          "project_warnings" (some (interfaceTarget binary [])))
        "project_warnings" (some (warningsTarget binary cache id)))
      "project_options" (some (optionsTarget binary cache)) = rootTargets binary cache id := by
  have apart : "project_options" ≠ "project_warnings" := by decide
  rw [Function.update_idem, Function.update_comm apart.symm, Function.update_idem]
  rfl

theorem rootTargets_free :
    ∀ name ∈ ["asio", "garak", "garak_scratch.bin", "garak_tests.bin"],
      rootTargets binary cache id name = none := by
  intro name listed
  have apart : name ≠ "project_warnings" ∧ name ≠ "project_options" := by
    revert name
    decide
  rw [rootTargets, Function.update_of_ne apart.1, Function.update_of_ne apart.2]

/-- The directory of the library is entered. -/
theorem entersGarak {known : Option String} {s : State}
    (here : AtRoot source binary cache contents known
      ["GARAK_BUILD_TESTING", "GARAK_BUILD_EXAMPLES"] s) :
    EntersGarak source binary cache (s.enterDirectory "garak") where
  sourceDir := by
    rw [lookup_enterDirectory_source, value_of_lookup here.sourceDir]
    rfl
  binaryDir := by
    rw [lookup_enterDirectory_binary, value_of_lookup here.binaryDir]
    rfl
  unset := by
    have unset := here.unset
    simp only [List.forall_mem_cons] at unset
    simp [State.enterDirectory, State.assign, State.enter, unset]
  entries := ⟨here.entries _ (by decide), here.entries _ (by decide)⟩

/-- The state in which `project` is reached. -/
theorem atRoot_initial (header : files (garakDir source ++ "/include/garak/version.hpp") = some contents) :
    AtRoot source binary cache contents none settings
      (((initial source.str binary.str cache files).setScope "CMAKE_CXX_STANDARD" (some "20")).setScope
        "CMAKE_CXX_STANDARD_REQUIRED" (some "True")) where
  sourceDir := by simp [initial, State.lookup]
  binaryDir := by simp [initial, State.lookup]
  standard := by simp [lookup_setScope]
  compiler id no := by cases no
  unset := by simp [settings, initial]
  entries _ _ := rfl
  header := header

theorem projectLists_ends (externals : Externals)
    (header : files (garakDir source ++ "/include/garak/version.hpp") = some contents) :
    Ends (projectLists externals) (initial source.str binary.str cache files)
      (fun _ s' => ∃ id vars, externals.identify (cache "CMAKE_CXX_COMPILER") = .ok id ∧
        Version.Cmake.getVersion contents = .ok vars ∧ garakDir source ≠ garakDir binary ∧
        Holds (colours id) (projectTargets source binary cache id vars) (garakInstalls source)
          (garakTests cache) s')
      (fun text _ => externals.fails text ∨ externals.identify (cache "CMAKE_CXX_COMPILER") = .error text ∨
        Version.Cmake.getVersion contents = .error text ∨
          text = inSource ∧ garakDir source = garakDir binary) := by
  apply ends_bind_of_ok (exec_setVariable ..)
  apply ends_bind_of_ok (exec_setVariable ..)
  rw [valueOf_singleton, valueOf_singleton]
  have holds₀ : Holds [] (fun _ => none) [] []
      (((initial source.str binary.str cache files).setScope "CMAKE_CXX_STANDARD" (some "20")).setScope
        "CMAKE_CXX_STANDARD_REQUIRED" (some "True")) := ⟨fun _ _ => rfl, rfl, rfl, rfl⟩
  apply Ends.bind
  refine (project_ends externals ?_ (atRoot_initial header) holds₀).mono (fun _ s₁ found => ?_)
    fun _ _ stopped => stopped.imp_right .inl
  · rw [lookup_setScope_of_ne (by decide), lookup_setScope_of_ne (by decide)]
    exact lookup_of_unset (by simp [initial])
  obtain ⟨id, identified, here₁, holds₁⟩ := found
  apply Ends.bind
  refine (optionsLibraries_ends here₁ holds₁).mono (fun _ s₂ added => ?_) fun _ _ no => no.elim
  apply Ends.bind
  refine (cpmScript_confined externals).ends (fun _ s₃ keeps₃ => ?_) fun _ _ fails => .inl fails
  apply Ends.bind
  refine (standardProjectSettings_ends externals (added.1.keeps keeps₃) (added.2.keeps keeps₃)).mono
    (fun _ s₄ set => ?_) fun _ _ fails => .inl fails
  obtain ⟨here₄, holds₄⟩ := set
  apply Ends.bind
  refine (projectWarnings_ends here₄ holds₄ (Function.update_self ..)).mono (fun _ s₅ warned => ?_)
    fun _ _ no => no.elim
  apply Ends.bind
  refine (precompile_ends warned.1 warned.2 ?_).mono (fun _ s₆ precompiled => ?_)
    fun _ _ no => no.elim
  · rw [Function.update_of_ne (by decide), Function.update_of_ne (by decide), Function.update_self]
  obtain ⟨here₆, holds₆⟩ := precompiled
  rw [rootTargets_eq] at holds₆
  have free : ∀ name ∈ ["asio", "garak", "garak_scratch.bin", "garak_tests.bin"],
      rootTargets binary cache id name = none := rootTargets_free
  apply Ends.bind
  apply ends_addSubdirectory
  refine (garakLists_ends externals (entersGarak here₆) (s := s₆.enterDirectory "garak") { holds₆ with }
    ⟨free _ (by decide), free _ (by decide), free _ (by decide), free _ (by decide)⟩
    here₆.header).mono (fun _ s₇ ended => ?_) fun text _ stopped => ?_
  · obtain ⟨vars, read, apart, holds₇⟩ := ended
    refine externals.gnuInstallDirs_confined.ends (fun _ s₈ keeps₈ => ?_) fun _ _ fails => .inl fails
    have left : Holds (colours id) (projectTargets source binary cache id vars)
        (garakInstalls source) (garakTests cache) (s₇.leave.withOptions s₆.compileOptions) := by
      obtain ⟨scope, callers, left⟩ := leave_eq s₇
      rw [left]
      exact { holds₇ with options := holds₆.options }
    exact ⟨id, vars, identified, read, apart, left.keeps keeps₈⟩
  · exact stopped.imp_right .inr

end Project

end Build
