import Garak.Posix.Shell.Decoding
import Garak.Tooling.Devkit
import Garak.Tooling.Proofs.Calls

/-!
# What a shell makes of the commands

`Shell.execute` hands a text to a shell, and nothing in a text was quoted. The
commands of `format`, `lint` and `build_pkg` are lines of words, and
`commands_decoded_iff` says of which paths and values they are made when a shell takes
them apart into those words again.
-/

namespace Tooling

open Pathlib Posix.Shell

/-- The commands a procedure hands to `Shell.execute`. -/
def issued {α : Type} (p : Proc α) : List String := (p.exec Trace.empty).2.commands

/-- A shell runs exactly these invocations for the command, each a name and its
arguments, whatever it looks up in expansions. -/
def RunsAs (command : String) (invocations : List (List String)) : Prop :=
  ∀ env, reading env command.toList = some (invocations.map (List.map String.toList))

theorem runsAs_iff (line : Line) {command : String} {invocations : List (List String)}
    (text : command.toList = line.text)
    (intended : invocations.map (List.map String.toList) = line.commands)
    (nonempty : ∀ word ∈ line.words, word ≠ []) (named : line.Named) :
    RunsAs command invocations ↔ ∀ word ∈ line.words, Inert word := by
  unfold RunsAs
  rw [text, intended]
  exact reading_line_iff nonempty named

/-- A text that is one invocation does what its program does. -/
theorem runCommand_of_runsAs {S : Type} {env : S → Env} {programs : List String → S → S}
    {command : String} {invocation : List String} (runs : RunsAs command [invocation]) (s : S) :
    runCommand env programs s command = some (programs invocation s) := by
  have words : (invocation.map String.toList).map String.ofList = invocation := by
    simp [Function.comp_def]
  unfold runCommand
  rw [runs (env s)]
  simp only [List.map_cons, List.map_nil, words]

theorem str_toList_ne_nil (path : Path) : path.str.toList ≠ [] := by
  rw [Ne, String.toList_eq_nil_iff]
  exact path.str_ne_empty

/-- The words of the commands that are the same for all paths and values. -/
def constantWords : List (List Char) :=
  ["clang-format".toList, "cmake-format".toList, "-i".toList, "clang-tidy".toList, "-p".toList,
    "cd".toList, "sudo".toList, "checkinstall".toList, "-y".toList,
    "--pkglicense=".toList ++ "GPL-3.0".toList, "--requires=".toList ++ "".toList,
    "--maintainer=".toList ++ "mattcoding4days".toList, "--install=no".toList]

/-- The keys of the options whose values vary. -/
def optionKeys : List (List Char) :=
  ["--config-file=".toList, "--pkgname=".toList, "--pkgrelease=".toList, "--pkgversion=".toList,
    "--type=".toList]

/-- The names of the commands. -/
def commandNames : List (List Char) :=
  ["clang-format".toList, "cmake-format".toList, "clang-tidy".toList, "cd".toList,
    "sudo".toList, "checkinstall".toList]

theorem inert_constants : ∀ word ∈ constantWords, Inert word ∧ word ≠ [] := by
  have all : (constantWords.all fun word => isInert word && !word.isEmpty) = true := by
    decide +kernel
  intro word member
  have inert := List.all_eq_true.mp all word member
  rw [Bool.and_eq_true, isInert_iff] at inert
  exact ⟨inert.1, by simpa using inert.2⟩

theorem option_keys : ∀ key ∈ optionKeys, isOptionKey key = true := by
  have all : optionKeys.all isOptionKey = true := by decide +kernel
  exact List.all_eq_true.mp all

theorem command_names : ∀ name ∈ commandNames, isCommandName (name.map .bare) = true := by
  have all : (commandNames.all fun name => isCommandName (name.map .bare)) = true := by
    decide +kernel
  exact List.all_eq_true.mp all

namespace Clang

/-- What `format` is to run. -/
def formatInvocations (self : Clang) : List (List (List String)) :=
  self.sourceFiles.map (fun file => [["clang-format", "-i", file.str]]) ++
    self.cmakeFiles.map fun file => [["cmake-format", "-i", file.str]]

/-- What `lint` is to run. -/
def lintInvocations (projectRoot : Path) (self : Clang) : List (List (List String)) :=
  [[["clang-tidy", "-p", (projectBuildDir projectRoot).str,
    "--config-file=" ++ (tidyConfig projectRoot).str] ++ self.sourceFiles.map Path.str]]

theorem formatter_runsAs_iff {formatter : String}
    (constant : Inert formatter.toList ∧ formatter.toList ≠ [])
    (named : isCommandName (formatter.toList.map .bare) = true) (file : Path) :
    RunsAs (formatter ++ " " ++ "-i" ++ " " ++ file.str) [[formatter, "-i", file.str]] ↔
      Inert file.str.toList := by
  have constants := inert_constants
  simp only [constantWords, List.forall_mem_cons] at constants
  obtain ⟨-, -, ⟨flag, flag_ne⟩, -⟩ := constants
  obtain ⟨inert, nonempty⟩ := constant
  rw [runsAs_iff ⟨formatter.toList, blanks ["-i".toList, file.str.toList], 0⟩]
  · simp only [Line.words, words_blanks, List.forall_mem_cons, inert, flag, true_and]
    exact ⟨fun inert => inert.1, fun inert => ⟨inert, List.forall_mem_nil _⟩⟩
  · simp [Line.text, restText, blanks, Gap.text, Gap.blank]
  · rw [Line.commands, grouped_blanks]
    rfl
  · simp only [Line.words, words_blanks, List.forall_mem_cons]
    exact ⟨nonempty, flag_ne, str_toList_ne_nil file, List.forall_mem_nil _⟩
  · rw [Line.Named, Line.commands, grouped_blanks]
    simp [namesCommands, named]

/-- The list of files is a line of words with a blank at its end. -/
theorem lintFiles_text (files : List Path) :
    ' ' :: (lintFiles files).toList =
      restText (blanks (files.map fun file => file.str.toList)) ++ [' '] := by
  rw [lintFiles_toList]
  induction files with
  | nil => rfl
  | cons file files ih =>
      have first : restText (blanks ((file :: files).map fun file => file.str.toList)) =
          ' ' :: file.str.toList ++ restText (blanks (files.map fun file => file.str.toList)) :=
        rfl
      rw [first, List.flatMap_cons, List.append_assoc, List.append_assoc, ← ih]
      rfl

theorem linter_runsAs_iff (build config : Path) (files : List Path) :
    RunsAs ("clang-tidy" ++ " " ++ ("-p " ++ build.str ++ " --config-file=" ++ config.str) ++ " " ++
        lintFiles files)
      [["clang-tidy", "-p", build.str, "--config-file=" ++ config.str] ++ files.map Path.str] ↔
      Inert build.str.toList ∧ Plain config.str.toList ∧ ∀ file ∈ files, Inert file.str.toList := by
  have constants := inert_constants
  have keys := option_keys
  simp only [constantWords, optionKeys, List.forall_mem_cons] at constants keys
  obtain ⟨-, -, -, ⟨name, name_ne⟩, ⟨flag, flag_ne⟩, -⟩ := constants
  have key : Inert ("--config-file=".toList ++ config.str.toList) ↔ Plain config.str.toList :=
    inert_option_iff keys.1
  rw [runsAs_iff ⟨"clang-tidy".toList, blanks (["-p".toList, build.str.toList,
    "--config-file=".toList ++ config.str.toList] ++ files.map fun file => file.str.toList), 1⟩]
  · simp only [Line.words, words_blanks, List.cons_append, List.nil_append, List.forall_mem_cons,
      List.forall_mem_map, name, flag, key, true_and]
  · rw [Line.text, restText_blanks_append, List.append_assoc, List.replicate_one, ← lintFiles_text]
    simp only [String.toList_append, blanks_cons, restText_cons, List.append_assoc]
    rfl
  · rw [Line.commands, grouped_blanks]
    simp [Function.comp_def]
  · simp only [Line.words, words_blanks, List.cons_append, List.nil_append, List.forall_mem_cons,
      List.forall_mem_map]
    exact ⟨name_ne, flag_ne, str_toList_ne_nil build, by simp,
      fun file _ => str_toList_ne_nil file⟩
  · rw [Line.Named, Line.commands, grouped_blanks]
    rfl

end Clang

namespace Packager

/-- What `build_pkg` is to run. -/
def buildPkgInvocations (self : Packager) : List (List String) :=
  [["cd", self.buildDir.str],
    (if self.sudoCmd = "" then [] else [self.sudoCmd]) ++
      [self.backend, "-y", "--pkgname=" ++ self.name, "--pkgrelease=" ++ self.release,
        "--pkgversion=" ++ self.version, "--pkglicense=" ++ self.license,
        "--requires=" ++ self.requires, "--maintainer=" ++ self.maintainer,
        "--type=" ++ self.type, "--install=no"]]

/-- The words from `-y` on. -/
def optionWords (self : Packager) : List (List Char) :=
  ["-y".toList, "--pkgname=".toList ++ self.name.toList,
    "--pkgrelease=".toList ++ self.release.toList, "--pkgversion=".toList ++ self.version.toList,
    "--pkglicense=".toList ++ self.license.toList, "--requires=".toList ++ self.requires.toList,
    "--maintainer=".toList ++ self.maintainer.toList, "--type=".toList ++ self.type.toList,
    "--install=no".toList]

/-- The command as a line. Where there is no `sudo` a second blank stands before the
backend. -/
def line (self : Packager) : Line where
  first := "cd".toList
  rest :=
    (.blank, self.buildDir.str.toList) ::
      if self.sudoCmd = "" then (.andIf 1, self.backend.toList) :: blanks self.optionWords
      else (.andIf 0, self.sudoCmd.toList) :: blanks (self.backend.toList :: self.optionWords)
  trailing := 0

theorem line_text (self : Packager) : self.buildPkgCommand.toList = self.line.text := by
  unfold buildPkgCommand line
  by_cases none : self.sudoCmd = ""
  · simp only [none, if_true, Line.text, optionWords, blanks_cons, restText_cons,
      String.toList_append, List.append_assoc]
    rfl
  · simp only [none, if_false, Line.text, optionWords, blanks_cons, restText_cons,
      String.toList_append, List.append_assoc]
    rfl

theorem line_commands (self : Packager) :
    self.buildPkgInvocations.map (List.map String.toList) = self.line.commands := by
  unfold buildPkgInvocations line
  by_cases none : self.sudoCmd = ""
  · simp only [none, if_true, Line.commands, grouped, Gap.blank, Gap.andIf, Bool.false_eq_true,
      if_false, grouped_blanks]
    simp [optionWords]
  · simp only [none, if_false, Line.commands, grouped, Gap.blank, Gap.andIf, Bool.false_eq_true,
      if_true, grouped_blanks]
    simp [optionWords]

theorem line_words (self : Packager) :
    self.line.words =
      ["cd".toList, self.buildDir.str.toList] ++
        ((if self.sudoCmd = "" then [] else [self.sudoCmd.toList]) ++
          (self.backend.toList :: self.optionWords)) := by
  unfold line
  by_cases none : self.sudoCmd = ""
  · simp [none, Line.words, words_blanks]
  · simp [none, Line.words, words_blanks]

theorem sudoFor_cases (user : Option String) : sudoFor user = "" ∨ sudoFor user = "sudo" := by
  unfold sudoFor
  split
  · split
    · exact .inr rfl
    · exact .inl rfl
  · exact .inl rfl

theorem elevation_constant (user : Option String) :
    ∀ word ∈ (if sudoFor user = "" then [] else [(sudoFor user).toList]),
      Inert word ∧ word ≠ [] := by
  have constants := inert_constants
  simp only [constantWords, List.forall_mem_cons] at constants
  obtain ⟨-, -, -, -, -, -, elevated, -⟩ := constants
  rcases sudoFor_cases user with none | some
  · simp [none]
  · intro word member
    rw [some, if_neg (by decide), List.mem_singleton] at member
    rw [member]
    exact elevated

variable (projectRoot : Path) (codename version : String) (host : Host) (buildDir : Path)
  (pkgName pkgVersion pkgType : String)

/-- The object `Packager.__init__` makes under the shipped settings. -/
def shippedPackager : Packager :=
  attributes (shipped projectRoot codename version) host buildDir pkgName pkgVersion pkgType

/-- The words of the command that do not depend on the command line are inert, but for
the release. -/
theorem line_inert_iff :
    (∀ word ∈ (shippedPackager projectRoot codename version host buildDir pkgName pkgVersion
        pkgType).line.words, Inert word) ↔
      Inert buildDir.str.toList ∧ Plain pkgName.toList ∧
        Plain (codename ++ "-" ++ version).toList ∧ Plain pkgVersion.toList ∧
          Plain pkgType.toList := by
  have constants := inert_constants
  have keys := option_keys
  simp only [constantWords, optionKeys, List.forall_mem_cons] at constants keys
  obtain ⟨-, -, -, -, -, cd, -, backend, yes, license, requires, maintainer, install, -⟩ :=
    constants
  obtain ⟨-, nameKey, releaseKey, versionKey, typeKey, -⟩ := keys
  have name : Inert ("--pkgname=".toList ++ pkgName.toList) ↔ Plain pkgName.toList :=
    inert_option_iff nameKey
  have release : Inert ("--pkgrelease=".toList ++ (codename ++ "-" ++ version).toList) ↔
      Plain (codename ++ "-" ++ version).toList :=
    inert_option_iff releaseKey
  have pkgVersion' : Inert ("--pkgversion=".toList ++ pkgVersion.toList) ↔
      Plain pkgVersion.toList :=
    inert_option_iff versionKey
  have type : Inert ("--type=".toList ++ pkgType.toList) ↔ Plain pkgType.toList :=
    inert_option_iff typeKey
  rw [line_words]
  simp only [shippedPackager, attributes, shipped, optionWords, List.forall_mem_append,
    List.forall_mem_cons, cd.1, backend.1, yes.1, license.1, requires.1, maintainer.1, install.1,
    name, release, pkgVersion', type, true_and]
  constructor
  · intro given
    obtain ⟨⟨dir, -⟩, -, name, release, version, type, -⟩ := given
    exact ⟨dir, name, release, version, type⟩
  · intro given
    obtain ⟨dir, name, release, version, type⟩ := given
    exact ⟨⟨dir, List.forall_mem_nil _⟩, fun word member => (elevation_constant _ word member).1, name, release,
      version, type, List.forall_mem_nil _⟩

theorem buildPkg_runsAs_iff :
    RunsAs (shippedPackager projectRoot codename version host buildDir pkgName pkgVersion
        pkgType).buildPkgCommand
      (shippedPackager projectRoot codename version host buildDir pkgName pkgVersion
        pkgType).buildPkgInvocations ↔
      Inert buildDir.str.toList ∧ Plain pkgName.toList ∧
        Plain (codename ++ "-" ++ version).toList ∧ Plain pkgVersion.toList ∧
          Plain pkgType.toList := by
  have constants := inert_constants
  have names := command_names
  simp only [constantWords, commandNames, List.forall_mem_cons] at constants names
  obtain ⟨-, -, -, -, -, cd, -, backend, yes, -, -, -, install, -⟩ := constants
  obtain ⟨-, -, -, cdName, elevatedName, backendName, -⟩ := names
  rw [runsAs_iff _ (line_text _) (line_commands _), line_inert_iff]
  · rw [line_words]
    simp only [List.forall_mem_append, List.forall_mem_cons, optionWords]
    refine ⟨⟨cd.2, str_toList_ne_nil buildDir, List.forall_mem_nil _⟩,
      fun word member => (elevation_constant _ word member).2, backend.2, ?_⟩
    simp
  · unfold Line.Named
    rw [← line_commands, buildPkgInvocations]
    simp only [shippedPackager, attributes, shipped]
    rcases sudoFor_cases host.user with none | some
    · simpa [none, namesCommands] using And.intro cdName backendName
    · simpa [some, namesCommands] using And.intro cdName elevatedName

end Packager

/-! ## What the three methods issue -/

theorem forall₂_append_maps {α β γ : Type} {R : β → γ → Prop} {f : α → β} {g : α → γ}
    {xs : List α} {ys : List β} {zs : List γ} :
    List.Forall₂ R (xs.map f ++ ys) (xs.map g ++ zs) ↔
      (∀ x ∈ xs, R (f x) (g x)) ∧ List.Forall₂ R ys zs := by
  induction xs with
  | nil => simp
  | cons x xs ih =>
      rw [List.map_cons, List.map_cons, List.cons_append, List.cons_append, List.forall₂_cons, ih,
        List.forall_mem_cons, and_assoc]

/-- The files `format` works on. -/
def formattedFiles (settings : Settings) (fs : FileSystem) (self : Clang) : List Path :=
  (Clang.aggregated settings fs .clangFormat self).sourceFiles ++
    (Clang.aggregated settings fs .clangFormat self).cmakeFiles

/-- The files `lint` works on. -/
def lintedFiles (settings : Settings) (fs : FileSystem) (self : Clang) : List Path :=
  (Clang.aggregated settings fs .clangTidy self).sourceFiles

/-- A shell runs the commands of `format` as they are meant: the formatter once for each
file, with the path as it is. -/
def FormatDecoded (settings : Settings) (fs : FileSystem) (host : Host) (self : Clang) : Prop :=
  List.Forall₂ RunsAs (issued (self.format settings fs host))
    (Clang.aggregated settings fs .clangFormat self).formatInvocations

/-- The same for `lint`: one run of the linter, with the path of every file. -/
def LintDecoded (settings : Settings) (fs : FileSystem) (host : Host) (self : Clang) : Prop :=
  List.Forall₂ RunsAs (issued (self.lint settings fs host))
    ((Clang.aggregated settings fs .clangTidy self).lintInvocations settings.projectRoot)

/-- The same for `build_pkg`: the change of directory and one run of the backend. -/
def PackageDecoded (host : Host) (self : Packager) : Prop :=
  List.Forall₂ RunsAs (issued (self.buildPkg host)) [self.buildPkgInvocations]

theorem issued_format (settings : Settings) (fs : FileSystem) (host : Host) (self : Clang) :
    issued (self.format settings fs host) =
      (Clang.aggregated settings fs .clangFormat self).formatCommands := by
  rw [issued, Clang.exec_format, Trace.say_commands, Trace.issueAll_commands, Trace.say_commands]
  rfl

theorem issued_lint (settings : Settings) (fs : FileSystem) (host : Host) (self : Clang) :
    issued (self.lint settings fs host) =
      [(Clang.aggregated settings fs .clangTidy self).lintCommand] := by
  rw [issued, Clang.exec_lint, Trace.say_commands, Trace.issueAll_commands, Trace.say_commands]
  rfl

theorem issued_buildPkg (host : Host) (self : Packager) :
    issued (self.buildPkg host) = [self.buildPkgCommand] :=
  rfl

section Decoding

variable (projectRoot : Path) (codename version : String) (fs : FileSystem) (host : Host)

/-- The object `main` makes under the shipped settings, once it holds these files. -/
def shippedClang (sources cmakes ignored : List Path) : Clang :=
  (newClang (shipped projectRoot codename version)).extend sources cmakes ignored

variable (sources cmakes ignored : List Path) (buildDir : Path)
  (pkgName pkgVersion pkgType : String)

theorem format_decoded_iff :
    FormatDecoded (shipped projectRoot codename version) fs host
        (shippedClang projectRoot codename version sources cmakes ignored) ↔
      ∀ file ∈ formattedFiles (shipped projectRoot codename version) fs
          (shippedClang projectRoot codename version sources cmakes ignored),
        Inert file.str.toList := by
  have constants := inert_constants
  have names := command_names
  simp only [constantWords, commandNames, List.forall_mem_cons] at constants names
  have cxx := Clang.formatter_runsAs_iff constants.1 names.1
  have cmake := Clang.formatter_runsAs_iff constants.2.1 names.2.1
  rw [FormatDecoded, formattedFiles, issued_format, Clang.formatCommands,
    Clang.formatInvocations, forall₂_append_maps, List.forall₂_map_left_iff,
    List.forall₂_map_right_iff, List.forall₂_same, List.forall_mem_append]
  exact and_congr (forall₂_congr fun file _ => cxx file) (forall₂_congr fun file _ => cmake file)

theorem lint_decoded_iff :
    LintDecoded (shipped projectRoot codename version) fs host
        (shippedClang projectRoot codename version sources cmakes ignored) ↔
      Inert (projectBuildDir projectRoot).str.toList ∧
      Plain (tidyConfig projectRoot).str.toList ∧
      ∀ file ∈ lintedFiles (shipped projectRoot codename version) fs
          (shippedClang projectRoot codename version sources cmakes ignored),
        Inert file.str.toList := by
  rw [LintDecoded, issued_lint, Clang.lintInvocations, List.forall₂_cons,
    and_iff_left List.Forall₂.nil]
  exact Clang.linter_runsAs_iff _ _ _

/-- Under the shipped settings a shell takes the commands apart as they are meant, in
every environment, exactly when no path and no value among them holds anything special,
and no path begins with a tilde or the sign of a comment. -/
theorem commands_decoded_iff :
    (FormatDecoded (shipped projectRoot codename version) fs host
        (shippedClang projectRoot codename version sources cmakes ignored) ↔
      ∀ file ∈ formattedFiles (shipped projectRoot codename version) fs
          (shippedClang projectRoot codename version sources cmakes ignored),
        Inert file.str.toList) ∧
    (LintDecoded (shipped projectRoot codename version) fs host
        (shippedClang projectRoot codename version sources cmakes ignored) ↔
      Inert (projectBuildDir projectRoot).str.toList ∧
      Plain (tidyConfig projectRoot).str.toList ∧
      ∀ file ∈ lintedFiles (shipped projectRoot codename version) fs
          (shippedClang projectRoot codename version sources cmakes ignored),
        Inert file.str.toList) ∧
    (PackageDecoded host (Packager.shippedPackager projectRoot codename version host buildDir
        pkgName pkgVersion pkgType) ↔
      Inert buildDir.str.toList ∧ Plain pkgName.toList ∧
        Plain (codename ++ "-" ++ version).toList ∧ Plain pkgVersion.toList ∧
          Plain pkgType.toList) := by
  refine ⟨format_decoded_iff projectRoot codename version fs host sources cmakes ignored,
    lint_decoded_iff projectRoot codename version fs host sources cmakes ignored, ?_⟩
  rw [PackageDecoded, issued_buildPkg, List.forall₂_cons, and_iff_left List.Forall₂.nil]
  exact Packager.buildPkg_runsAs_iff ..

end Decoding

/-- A machine whose user is not `root`. -/
def workstation : Host where
  exitStatus _ _ := 0
  installed _ := true
  nproc := "8"
  user := some "dev"
  platform := "linux"
  isPrintable _ := true

/-- The object for a package name with `&&` in it. -/
def joinedName : Packager :=
  Packager.shippedPackager (Path.parse "/srv/libgarak") "jammy" "22.04" workstation
    (Path.parse "/srv/libgarak/build") "garak && reboot" "0.1.0" "debian"

/-- What a shell runs for its command. -/
def joinedInvocations : List (List String) :=
  [["cd", "/srv/libgarak/build"], ["sudo", "checkinstall", "-y", "--pkgname=garak"],
    ["reboot", "--pkgrelease=jammy-22.04", "--pkgversion=0.1.0", "--pkglicense=GPL-3.0",
      "--requires=", "--maintainer=mattcoding4days", "--type=debian", "--install=no"]]

/-- What follows the `&&` in the name is run as a command of its own. -/
theorem joinedName_runs_command :
    ¬ PackageDecoded workstation joinedName ∧
      reading emptyEnv joinedName.buildPkgCommand.toList =
        some (joinedInvocations.map (List.map String.toList)) := by
  have read : reading emptyEnv joinedName.buildPkgCommand.toList =
      some (joinedInvocations.map (List.map String.toList)) := by
    decide +kernel
  refine ⟨?_, read⟩
  intro decoded
  rw [PackageDecoded, issued_buildPkg, List.forall₂_cons] at decoded
  have runs := decoded.1 emptyEnv
  rw [read] at runs
  -- two invocations were meant
  have lengths : some 3 = some 2 := congrArg (Option.map List.length) runs
  cases lengths

end Tooling
