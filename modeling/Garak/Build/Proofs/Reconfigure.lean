import Garak.Build.Proofs.Configure
import Garak.Cmake.Caching

/-!
# Configuring again

A configure step leaves a cache, and the next one in the same build directory begins with it.
`reconfigures_stick` says what that comes to after any number of steps, some of which may have
failed: options and warnings stay what they were.
-/

namespace Build

open Cmake Pathlib Path

/-! ## What a configure step does to the cache -/

/-- What the list files make of a setting the cache does not have. -/
def settingDefaults : Entries := fun name =>
  if name = "WARNINGS_AS_ERRORS" then some "OFF"
  else if name = "GARAK_ENABLE_PCH" ∨ name = "GARAK_BUILD_TESTING" ∨ name = "GARAK_BUILD_EXAMPLES" then
    some "ON"
  else none

/-- The script only gives defaults to the settings. -/
abbrev SettlesProject (p : Script Unit) : Prop := Settles settings settingDefaults p

section Settles

variable (externals : Externals)

theorem settings_owned : ∀ name ∈ settings, name ∈ own.vars := by decide

theorem settles_getVersion : SettlesProject getVersion := by
  refine settles_of_ends fun s => (getVersion_ends s).mono (fun _ s' returned => ?_) fun _ s' unread =>
    unread.2.1
  obtain ⟨vars, -, rfl⟩ := returned
  rfl

theorem settles_testsLists : SettlesProject testsLists := by
  unfold testsLists addExecutable targetIncludeDirectories targetLinkLibraries targetRequire
  repeat' with_reducible first
    | exact settles_addTarget _ _ _
    | exact settles_onTarget _ _
    | refine Settles.bind ?_ fun _ => ?_
  all_goals exact settles_of_cache fun _ => rfl

theorem settles_srcLists : SettlesProject srcLists := by
  unfold srcLists addSharedLibrary targetIncludeDirectories targetLinkLibraries targetRequire
  repeat' with_reducible first
    | exact settles_message _ _
    | exact settles_addTarget _ _ _
    | exact settles_onTarget _ _
    | exact settles_setTargetProperties _ _
    | refine Settles.bind ?_ fun _ => ?_
  all_goals exact settles_of_cache fun _ => rfl

theorem settles_examplesLists : SettlesProject examplesLists := by
  unfold examplesLists addExecutable targetIncludeDirectories targetLinkLibraries targetRequire
  repeat' with_reducible first
    | exact settles_addTarget _ _ _
    | exact settles_onTarget _ _
    | refine Settles.bind ?_ fun _ => ?_
  all_goals exact settles_of_cache fun _ => rfl

theorem settles_garakVariables : SettlesProject garakVariables := by
  unfold garakVariables
  repeat' with_reducible first
    | exact settles_option (by decide)
    | refine Settles.bind ?_ fun _ => ?_
  all_goals exact settles_of_cache fun _ => rfl

theorem settles_inSourceGuard : SettlesProject inSourceGuard := by
  unfold inSourceGuard
  refine .bind (settles_of_cache fun _ => rfl) fun _ => ?_
  refine .bind (settles_of_cache fun _ => rfl) fun _ => ?_
  exact settles_ite (settles_message _ _) (settles_pure _)

theorem settles_reportGoogletest : SettlesProject reportGoogletest := by
  unfold reportGoogletest
  refine .bind (settles_of_cache fun _ => rfl) fun _ => settles_ite ?_ ?_
  · exact .bind (settles_message _ _) fun _ => settles_setParent _ _
  · refine .bind (settles_of_cache fun _ => rfl) fun _ => settles_ite ?_ ?_
    · exact settles_message _ _
    · exact settles_message _ _

theorem settles_garakTesting : SettlesProject (garakTesting externals) := by
  unfold garakTesting
  refine .bind ((externals.cpmAddPackage_confined _).settles settings_owned) fun _ => ?_
  refine .bind settles_reportGoogletest fun _ => ?_
  refine .bind (settles_of_cache fun _ => rfl) fun _ => ?_
  refine .bind (settles_of_cache fun _ => rfl) fun _ => ?_
  exact .bind (settles_message _ _) fun _ => settles_addSubdirectory settles_testsLists

theorem settles_asioLibrary : SettlesProject asioLibrary := by
  unfold asioLibrary addInterfaceLibrary targetIncludeDirectories targetCompileDefinitions
    targetLinkLibraries targetRequire
  repeat' with_reducible first
    | exact settles_message _ _
    | exact settles_addTarget _ _ _
    | exact settles_onTarget _ _
    | refine Settles.bind ?_ fun _ => ?_
  all_goals exact settles_of_cache fun _ => rfl

theorem settles_garakLibraries : SettlesProject garakLibraries := by
  unfold garakLibraries garakExamples
  refine .bind settles_asioLibrary fun _ => ?_
  refine .bind (settles_addSubdirectory settles_srcLists) fun _ => ?_
  refine .bind (settles_of_cache fun _ => rfl) fun _ => settles_ite ?_ (settles_pure _)
  refine .bind (settles_of_cache fun _ => rfl) fun _ => ?_
  exact .bind (settles_message _ _) fun _ => settles_addSubdirectory settles_examplesLists

theorem settles_garakContents : SettlesProject (garakContents externals) := by
  unfold garakContents
  refine .bind (externals.findThreads_confined.settles settings_owned) fun _ => ?_
  refine .bind (settles_of_cache fun _ => rfl) fun _ => settles_ite ?_ settles_garakLibraries
  exact .bind (settles_garakTesting externals) fun _ => settles_garakLibraries

theorem settles_garakLists : SettlesProject (garakLists externals) := by
  unfold garakLists
  refine .bind (settles_of_cache fun _ => rfl) fun _ => ?_
  refine .bind settles_getVersion fun _ => ?_
  refine .bind settles_garakVariables fun _ => ?_
  exact .bind settles_inSourceGuard fun _ => settles_garakContents externals

theorem settles_chooseWarnings : SettlesProject chooseWarnings := by
  unfold chooseWarnings
  refine .bind (settles_of_cache fun _ => rfl) fun _ => settles_ite ?_ ?_
  · exact .bind (settles_of_cache fun _ => rfl) fun _ => settles_of_cache fun _ => rfl
  · refine .bind (settles_of_cache fun _ => rfl) fun _ => settles_ite ?_ ?_
    · exact .bind (settles_of_cache fun _ => rfl) fun _ => settles_of_cache fun _ => rfl
    · exact .bind (settles_of_cache fun _ => rfl) fun _ => settles_message _ _

theorem settles_warningLists : SettlesProject warningLists := by
  unfold warningLists
  refine .bind (settles_option (by decide)) fun _ => ?_
  refine .bind (settles_of_cache fun _ => rfl) fun _ => ?_
  refine .bind (settles_of_cache fun _ => rfl) fun _ => settles_ite ?_ ?_
  · repeat' with_reducible refine Settles.bind ?_ fun _ => ?_
    all_goals exact settles_of_cache fun _ => rfl
  · exact .bind (settles_of_cache fun _ => rfl) fun _ => settles_of_cache fun _ => rfl

theorem settles_setProjectWarnings (name : String) : SettlesProject (setProjectWarnings name) := by
  refine settles_callFunction ?_
  unfold setProjectWarningsBody targetCompileOptions targetRequire
  refine .bind settles_warningLists fun _ => ?_
  refine .bind settles_chooseWarnings fun _ => ?_
  refine .bind (settles_of_cache fun _ => rfl) fun _ => ?_
  exact .bind (settles_of_cache fun _ => rfl) fun _ => settles_onTarget _ _

theorem settles_standardProjectSettings : SettlesProject (standardProjectSettings externals) := by
  unfold standardProjectSettings colourSettings
  refine .bind ((defaultBuildType_confined externals).settles settings_owned) fun _ => ?_
  refine .bind (settles_of_cache fun _ => rfl) fun _ => ?_
  refine .bind ((ipoSettings_confined externals).settles settings_owned) fun _ => ?_
  refine .bind (settles_of_cache fun _ => rfl) fun _ => settles_ite ?_ ?_
  · exact settles_of_cache fun _ => rfl
  · refine .bind (settles_of_cache fun _ => rfl) fun _ => settles_ite ?_ ?_
    · exact settles_of_cache fun _ => rfl
    · exact .bind (settles_of_cache fun _ => rfl) fun _ => settles_message _ _

theorem settles_project : SettlesProject (project externals) := by
  unfold project projectVariables
  refine .bind (settles_of_cache fun _ => rfl) fun _ => ?_
  refine .bind (settles_of_cache fun _ => rfl) fun s => ?_
  have languages : SettlesProject externals.enableLanguages :=
    externals.enableLanguages_confined.settles settings_owned
  cases externals.identify (s.lookup "CMAKE_CXX_COMPILER") with
  | ok id => exact .bind (settles_of_cache fun _ => rfl) fun _ => languages
  | error text => exact .bind (settles_message _ _) fun _ => languages

theorem settles_optionsLibraries : SettlesProject optionsLibraries := by
  unfold optionsLibraries addInterfaceLibrary targetCompileFeatures targetRequire
  repeat' with_reducible first
    | exact settles_addTarget _ _ _
    | exact settles_onTarget _ _
    | refine Settles.bind ?_ fun _ => ?_
  all_goals exact settles_of_cache fun _ => rfl

theorem settles_precompile : SettlesProject precompile := by
  unfold precompile targetPrecompileHeaders targetRequire
  refine .bind (settles_option (by decide)) fun _ => ?_
  exact .bind (settles_of_cache fun _ => rfl) fun _ =>
    settles_ite (settles_onTarget _ _) (settles_pure _)

/-- A configure step only gives defaults to settings, wherever it ends. -/
theorem settles_projectLists : SettlesProject (projectLists externals) := by
  unfold projectLists
  refine .bind (settles_of_cache fun _ => rfl) fun _ => ?_
  refine .bind (settles_of_cache fun _ => rfl) fun _ => ?_
  refine .bind (settles_project externals) fun _ => ?_
  refine .bind settles_optionsLibraries fun _ => ?_
  refine .bind ((cpmScript_confined externals).settles settings_owned) fun _ => ?_
  refine .bind (settles_standardProjectSettings externals) fun _ => ?_
  refine .bind (settles_setProjectWarnings _) fun _ => ?_
  refine .bind settles_precompile fun _ => ?_
  refine .bind (settles_addSubdirectory (settles_garakLists externals)) fun _ => ?_
  exact externals.gnuInstallDirs_confined.settles settings_owned

end Settles

/-! ## One project, however often it is configured -/

section Settled

variable {cache later : Entries}

theorem onByDefault_settled (settled : Settled settings settingDefaults cache later) {name : String}
    (listed : name ∈ ["GARAK_ENABLE_PCH", "GARAK_BUILD_TESTING", "GARAK_BUILD_EXAMPLES"]) :
    onByDefault later name = onByDefault cache name := by
  have known : name ∈ settings ∧ settingDefaults name = some "ON" := by
    revert name
    decide
  unfold onByDefault
  rw [settled.getD known.1 known.2]

theorem chosenWarnings_settled (settled : Settled settings settingDefaults cache later) (id : String) :
    chosenWarnings id later = chosenWarnings id cache := by
  have before : later "PROJECT_WARNINGS" = cache "PROJECT_WARNINGS" := by
    rcases settled "PROJECT_WARNINGS" (by decide) with kept | ⟨missing, now⟩
    · exact kept
    · exact now.trans missing.symm
  have asked : (later "WARNINGS_AS_ERRORS").getD "OFF" = (cache "WARNINGS_AS_ERRORS").getD "OFF" :=
    settled.getD (by decide) (by decide)
  unfold chosenWarnings
  rw [asked, before]

/-- The project is that of the settings, not of the cache they are written in. -/
theorem project_settled (settled : Settled settings settingDefaults cache later)
    (source binary : Path) (id : String) (vars : Version.Cmake.Variables) :
    projectTargets source binary later id vars = projectTargets source binary cache id vars ∧
      garakTests later = garakTests cache := by
  unfold projectTargets garakTargets garakTests rootTargets optionsTarget warningsTarget
  rw [onByDefault_settled settled (by decide), onByDefault_settled settled (by decide),
    onByDefault_settled settled (by decide), chosenWarnings_settled settled]
  exact ⟨rfl, rfl⟩

end Settled

section Reconfigure

variable (externals : Externals) (source binary : Path)

/-- The cache a configure step leaves, whether it completes or not. -/
def cacheAfter (cache : Entries) (files : String → Option String) : Entries :=
  ((projectLists externals).exec (initial source.str binary.str cache files)).2.cache

/-- The cache after some configure steps in a row, each over the files of its time. -/
def cacheAfterAll (cache : Entries) (steps : List (String → Option String)) : Entries :=
  steps.foldl (cacheAfter externals source binary) cache

theorem settled_cacheAfterAll (cache : Entries) (steps : List (String → Option String)) :
    Settled settings settingDefaults cache (cacheAfterAll externals source binary cache steps) := by
  induction steps generalizing cache with
  | nil => exact Settled.refl _ _ _
  | cons files steps ih =>
      have step : Settled settings settingDefaults cache
          (cacheAfter externals source binary cache files) :=
        settles_projectLists externals (initial source.str binary.str cache files)
      exact step.trans (ih _)

/-- After any number of configure steps in a build directory, over whatever files and
completed or not, a further one ends with the targets, install rules and tests that the
settings of the first one ask for. Only the versions and the compiler are of the day. -/
theorem reconfigures_stick (source_anchored : source.anchor ≠ .relative)
    (binary_anchored : binary.anchor ≠ .relative) (cache : Entries)
    (steps : List (String → Option String)) {files : String → Option String} {contents : String}
    (header : files (garakDir source ++ "/include/garak/version.hpp") = some contents) :
    Ends (projectLists externals)
      (initial source.str binary.str (cacheAfterAll externals source binary cache steps) files)
      (fun _ s' => ∃ id vars,
        externals.identify
          (cacheAfterAll externals source binary cache steps "CMAKE_CXX_COMPILER") = .ok id ∧
        Version.Cmake.getVersion contents = .ok vars ∧
        (∀ name ∈ own.targets, s'.targets name = projectTargets source binary cache id vars name) ∧
        s'.installs = garakInstalls source ∧ s'.tests = garakTests cache)
      (fun text _ => externals.fails text ∨
        externals.identify
          (cacheAfterAll externals source binary cache steps "CMAKE_CXX_COMPILER") = .error text ∨
        Version.Cmake.getVersion contents = .error text ∨ text = inSource ∧ source = binary) := by
  have settled := settled_cacheAfterAll externals source binary cache steps
  have directories := garakDir_inj source_anchored binary_anchored
  refine (projectLists_ends externals header).mono (fun _ s' ended => ?_) fun text _ stopped => ?_
  · obtain ⟨id, vars, identified, read, -, holds⟩ := ended
    obtain ⟨targets, tests⟩ := project_settled settled source binary id vars
    exact ⟨id, vars, identified, read, fun name listed => (holds.targets name listed).trans
      (congrFun targets name), holds.installs, holds.tests.trans tests⟩
  · rwa [directories] at stopped

end Reconfigure

/-- `cmake -DGARAK_BUILD_TESTING=OFF` in a checkout without its header, and `cmake` again when
the header is back: the second step still registers no tests. -/
theorem reconfigures_stick_sample :
    ∃ s', (projectLists sampleExternals).exec (initial (parse "/srv/libgarak").str
        (parse "/srv/libgarak/build").str
        (cacheAfterAll sampleExternals (parse "/srv/libgarak") (parse "/srv/libgarak/build")
          (Function.update (cacheFor "clang++") "GARAK_BUILD_TESTING" (some "OFF"))
          [fun _ => none]) sampleFiles) = (.ok (), s') ∧ s'.tests = [] := by
  have identified : sampleExternals.identify (cacheAfterAll sampleExternals (parse "/srv/libgarak")
      (parse "/srv/libgarak/build")
      (Function.update (cacheFor "clang++") "GARAK_BUILD_TESTING" (some "OFF")) [fun _ => none]
      "CMAKE_CXX_COMPILER") = .ok "Clang" := by decide +kernel
  have ends := reconfigures_stick sampleExternals _ _ sample_anchored.1 sample_anchored.2
    (Function.update (cacheFor "clang++") "GARAK_BUILD_TESTING" (some "OFF")) [fun _ => none]
    sampleFiles_header
  obtain ⟨⟨⟩, s', ran, id, vars, -, -, -, -, tests⟩ := ends.completes (by
    rintro e s' (no | no | no | ⟨-, no⟩)
    · exact no
    · rw [identified] at no
      cases no
    · rw [getVersion_sampleFiles] at no
      cases no
    · revert no
      decide +kernel)
  refine ⟨s', ran, ?_⟩
  rw [tests]
  decide +kernel

end Build
