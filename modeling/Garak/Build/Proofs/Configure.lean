import Garak.Build.Proofs.Project

/-!
# A configure step

`configure_ends` is what a configure step comes to, in terms of the directories: the
guard stops it exactly in the project root.
-/

namespace Build

open Cmake Pathlib Path

/-! ## Paths of directories -/

theorem joinNames_concat (names : List Component) (c : Component) :
    joinNames (names ++ [c]) = if names = [] then c.name else joinNames names ++ "/" ++ c.name := by
  induction names with
  | nil => rfl
  | cons first names ih =>
      cases names with
      | nil => rfl
      | cons second names =>
          rw [if_neg (List.cons_ne_nil _ _)] at ih ⊢
          have unfolded : joinNames (first :: second :: names ++ [c]) =
              first.name ++ "/" ++ joinNames (second :: names ++ [c]) := rfl
          rw [unfolded, ih]
          simp only [joinNames, String.append_assoc]

/-- A joined text does not end with a slash. -/
theorem joinNames_last (names : List Component) : (joinNames names).toList.getLast? ≠ some '/' := by
  have last : ∀ (before : List Char) (c : Component),
      (before ++ c.name.toList).getLast? ≠ some '/' := by
    intro before c slash
    have nonempty : c.name.toList ≠ [] := fun empty =>
      Component.name_ne_empty c (String.toList_eq_nil_iff.mp empty)
    rw [List.getLast?_append_of_ne_nil _ nonempty] at slash
    exact c.no_slash (List.mem_of_getLast? slash)
  rcases List.eq_nil_or_concat names with rfl | ⟨before, c, rfl⟩
  · decide
  · rw [List.concat_eq_append, joinNames_concat]
    split
    · exact last [] c
    · rw [String.toList_append]
      exact last _ c

/-- CMake writes the path of an entry the way `pathlib` does. -/
theorem joinDir_str {dir : Path} (anchored : dir.anchor ≠ .relative) (c : Component) :
    joinDir dir.str c.name = (dir.child c).str := by
  have text : ∀ path : Path, path.anchor ≠ .relative →
      path.str = path.anchor.text ++ joinNames path.parts := by
    intro path absolute
    unfold str
    split
    · rename_i relative _
      exact absurd relative absolute
    · rfl
  have slash : dir.anchor.text.toList.getLast? = some '/' := by
    cases anchor : dir.anchor with
    | relative => exact absurd anchor anchored
    | root => decide
    | doubleRoot => decide
  rw [text dir anchored, text (dir.child c) anchored, child_anchor, child_parts, joinNames_concat]
  unfold joinDir
  by_cases top : dir.parts = []
  · rw [top, if_pos rfl]
    have ends : (dir.anchor.text ++ joinNames []).toList.getLast? = some '/' := by
      rw [String.toList_append]
      simpa [joinNames] using slash
    rw [if_pos ends]
    simp [joinNames]
  · rw [if_neg top]
    have nonempty : (joinNames dir.parts).toList ≠ [] := fun empty =>
      joinNames_ne_empty top (String.toList_eq_nil_iff.mp empty)
    have ends : ¬ (dir.anchor.text ++ joinNames dir.parts).toList.getLast? = some '/' := by
      rw [String.toList_append, List.getLast?_append_of_ne_nil _ nonempty]
      exact joinNames_last _
    rw [if_neg ends]
    simp only [String.append_assoc]

/-- The guard compares the directories of the library, and with them the directories it
is in. -/
theorem garakDir_inj {source binary : Path} (source_anchored : source.anchor ≠ .relative)
    (binary_anchored : binary.anchor ≠ .relative) :
    garakDir source = garakDir binary ↔ source = binary := by
  constructor
  · intro same
    unfold garakDir at same
    have name : "garak" = (Component.mk "garak" (by decide)).name := rfl
    rw [name, joinDir_str source_anchored, joinDir_str binary_anchored] at same
    have children := congrArg parse same
    rw [parse_str, parse_str] at children
    injection children with anchor parts
    exact eq_of_parts anchor (List.append_cancel_right parts)
  · rintro rfl
    rfl

/-! ## What a configure step comes to -/

section Configure

variable {source binary : Path} {cache : Entries} {files : String → Option String}
  {contents : String}

/-- Whatever CMake's modules and the downloaded code do that leaves the names of the project
alone: a configure step ends with the targets, install rules and tests of the project, their
versions read from the header and their warnings chosen by compiler and cache. Else it was
stopped by such code, by the lack of a compiler, by a header it finds no version in, or
because it was run in the project root. -/
theorem configure_ends (externals : Externals) (source_anchored : source.anchor ≠ .relative)
    (binary_anchored : binary.anchor ≠ .relative)
    (header : files (garakDir source ++ "/include/garak/version.hpp") = some contents) :
    Ends (projectLists externals) (initial source.str binary.str cache files)
      (fun _ s' => ∃ id vars, externals.identify (cache "CMAKE_CXX_COMPILER") = .ok id ∧
        Version.Cmake.getVersion contents = .ok vars ∧ source ≠ binary ∧
        (∀ name ∈ own.targets, s'.targets name = projectTargets source binary cache id vars name) ∧
        s'.installs = garakInstalls source ∧ s'.tests = garakTests cache)
      (fun text _ => externals.fails text ∨ externals.identify (cache "CMAKE_CXX_COMPILER") = .error text ∨
        Version.Cmake.getVersion contents = .error text ∨ text = inSource ∧ source = binary) := by
  have directories := garakDir_inj source_anchored binary_anchored
  refine (projectLists_ends externals header).mono (fun _ s' ended => ?_) fun text _ stopped => ?_
  · obtain ⟨id, vars, identified, read, apart, holds⟩ := ended
    exact ⟨id, vars, identified, read, fun same => apart (directories.mpr same), holds.targets,
      holds.installs, holds.tests⟩
  · rwa [directories] at stopped

end Configure

/-- Modules that only do what the project needs of them, on a machine with both compilers. -/
def sampleExternals : Externals where
  fails _ := False
  identify compiler :=
    if compiler = some "clang++" then .ok "Clang"
    else if compiler = some "g++" ∨ compiler = none then .ok "GNU"
    else .error "The CMAKE_CXX_COMPILER is not a full path and was not found in the PATH."
  enableLanguages := pure ()
  environment _ := none
  absolute path := path
  download _ path := modify fun s =>
    { s with files := Function.update s.files path (some "include_guard()") }
  cpm := pure ()
  cpmAddPackage _ := setVariable "googletest_ADDED" ["YES"]
  findThreads := pure ()
  checkIpoSupported := (true, "")
  gnuInstallDirs := setVariable "CMAKE_INSTALL_LIBDIR" ["lib"]
  enableLanguages_confined := confined_pure ()
  download_keeps _ path s missing := by
    refine { Keeps.refl own s with files := fun other _ contents held => ?_ }
    have apart : other ≠ path := by
      rintro rfl
      rw [missing] at held
      cases held
    exact (Function.update_of_ne apart ..).trans held
  download_stops _ _ _ _ _ stopped := by cases stopped
  cpm_confined := confined_pure ()
  cpmAddPackage_confined _ := confined_setVariable (by decide) _
  findThreads_confined := confined_pure ()
  gnuInstallDirs_confined := confined_setVariable (by decide) _

/-- A cache that names a compiler. -/
def cacheFor (compiler : String) : Entries :=
  Function.update (fun _ => none) "CMAKE_CXX_COMPILER" (some compiler)

/-- The version header of the checkout, and no other file. -/
def sampleFiles (path : String) : Option String :=
  if path = "/srv/libgarak/garak/include/garak/version.hpp" then
    some "#define VMAJOR 0\n#define VMINOR 1\n#define VPATCH 0\n"
  else none

/-- A checkout and a build directory in it. -/
theorem sample_anchored : (parse "/srv/libgarak").anchor ≠ .relative ∧
    (parse "/srv/libgarak/build").anchor ≠ .relative := by
  decide +kernel

theorem sampleFiles_header :
    sampleFiles (garakDir (parse "/srv/libgarak") ++ "/include/garak/version.hpp") =
      some "#define VMAJOR 0\n#define VMINOR 1\n#define VPATCH 0\n" := by
  decide +kernel

theorem getVersion_sampleFiles :
    Version.Cmake.getVersion "#define VMAJOR 0\n#define VMINOR 1\n#define VPATCH 0\n" =
      .ok ⟨"0", "1", "0", "0.1.0"⟩ := by
  decide +kernel

theorem configure_ends_sample :
    ∃ s', (projectLists sampleExternals).exec (initial (parse "/srv/libgarak").str
        (parse "/srv/libgarak/build").str (cacheFor "clang++") sampleFiles) = (.ok (), s') ∧
      s'.tests = ["garak_tests.bin"] ∧ s'.installs.length = 2 ∧
      (s'.targets "garak").map Target.properties =
        some [("VERSION", "0.1.0"), ("SOVERSION", "0")] := by
  have ends := @configure_ends _ _ (cacheFor "clang++") _ _ sampleExternals sample_anchored.1
    sample_anchored.2 sampleFiles_header
  have identified : sampleExternals.identify (cacheFor "clang++" "CMAKE_CXX_COMPILER") =
      .ok "Clang" := by decide +kernel
  obtain ⟨⟨⟩, s', ran, id, vars, named, found, -, targets, installs, tests⟩ := ends.completes (by
    rintro e s' (no | no | no | ⟨-, no⟩)
    · exact no
    · rw [identified] at no
      cases no
    · rw [getVersion_sampleFiles] at no
      cases no
    · revert no
      decide +kernel)
  rw [getVersion_sampleFiles] at found
  cases found
  rw [identified] at named
  cases named
  refine ⟨s', ran, ?_, ?_, ?_⟩
  · rw [tests]
    decide +kernel
  · rw [installs]
    rfl
  · rw [targets _ (by decide)]
    decide +kernel

end Build
