import Garak.Tooling.Proofs.ExitStatus

/-!
# The build directory of a package

`__configure_build_env` takes the directory itself when its name will do, and otherwise
the last of the child directories whose name will. Two things are asked of it: that
what it settles on is a build directory, and that the order in which the file system
lists the children plays no part.
-/

namespace Tooling.Packager

open Pathlib Path

variable {settings : Settings} {fs : FileSystem} {host : Host}

/-- A directory whose stem contains `build`. -/
def qualifies (fs : FileSystem) (path : Path) : Bool :=
  decide (fs.isDir path = .ok true) && stemHasBuild path

theorem qualifies_iff {path : Path} :
    qualifies fs path = true ↔ fs.isDir path = .ok true ∧ stemHasBuild path = true := by
  simp [qualifies]

/-- The child directory of that name qualifies. -/
def candidate (fs : FileSystem) (self : Packager) (c : Component) : Bool :=
  qualifies fs (self.buildDir.child c)

/-- What the search comes to when its last hit is the given child. -/
def outcome (self : Packager) : Option Component → Bool × Packager
  | some c => settle (false, self) (self.buildDir.child c)
  | none => (false, self)

theorem outcome_inj {self : Packager} {a b : Option Component}
    (same : self.outcome a = self.outcome b) : a = b := by
  cases a with
  | none =>
      cases b with
      | none => rfl
      | some d => cases same
  | some c =>
      cases b with
      | none => cases same
      | some d =>
          have dirs : self.buildDir.child c = self.buildDir.child d :=
            congrArg (fun result => result.2.buildDir) same
          rw [child_inj dirs]

/-! ## The search -/

/-- The directory cannot be searched to its end: the system does not list it, or does not
tell whether one of its children is a directory. -/
def SearchFails (fs : FileSystem) (dir : Path) : Prop :=
  (∃ e, fs.iterdir dir = .error e) ∨
    ∃ names, fs.iterdir dir = .ok names ∧ ∃ c ∈ names, ∃ e, fs.isDir (dir.child c) = .error e

theorem tryReceptacle_raises {path : Path} {e : OSError} (raises : fs.isDir path = .error e)
    (state : Bool × Packager) : tryReceptacle fs state path = .error (.osError e path) := by
  unfold tryReceptacle asked
  rw [raises]
  rfl

theorem tryReceptacle_answers {path : Path} {answer : Bool} (answers : fs.isDir path = .ok answer)
    (state : Bool × Packager) :
    tryReceptacle fs state path = .ok (if qualifies fs path then settle state path else state) := by
  unfold tryReceptacle asked qualifies
  rw [answers]
  cases answer with
  | false => rfl
  | true => cases stemHasBuild path <;> rfl

/-- The loop ends with the last child that qualifies, if there is one. -/
theorem foldlM_tryReceptacle {paths : List Path}
    (answered : ∀ path ∈ paths, ∃ answer, fs.isDir path = .ok answer) (state : Bool × Packager) :
    paths.foldlM (tryReceptacle fs) state =
      .ok (match (paths.filter (qualifies fs)).getLast? with
        | some dir => settle state dir
        | none => state) := by
  have returns : ∀ state, ∀ path ∈ paths, tryReceptacle fs state path =
      .ok (if qualifies fs path then settle state path else state) := by
    intro state path member
    obtain ⟨answer, answers⟩ := answered path member
    exact tryReceptacle_answers answers state
  rw [Lists.foldlM_eq_foldl returns,
    Lists.foldl_overwrite (qualifies fs) settle (fun _ _ _ => rfl)]
  cases (paths.filter (qualifies fs)).getLast? with
  | none => rfl
  | some dir => rfl

/-- A search that fails raises. -/
theorem configureBuildEnv_raises {self : Packager} (lacks : stemHasBuild self.buildDir = false)
    (fails : SearchFails fs self.buildDir) : ∃ e, self.configureBuildEnv fs = .error e := by
  unfold configureBuildEnv asked
  rw [if_neg (by simp [lacks])]
  rcases fails with ⟨e, unlisted⟩ | ⟨names, listed, c, member, e, raises⟩
  · rw [unlisted]
    exact ⟨_, rfl⟩
  · rw [listed]
    exact Lists.foldlM_raises ⟨_, List.mem_map_of_mem member, fun state =>
      ⟨_, tryReceptacle_raises raises state⟩⟩ _

/-- Otherwise it is a function of what the directory holds. -/
theorem configureBuildEnv_listed {self : Packager} (lacks : stemHasBuild self.buildDir = false)
    (ends : ¬ SearchFails fs self.buildDir) {names : List Component}
    (listed : fs.iterdir self.buildDir = .ok names) :
    self.configureBuildEnv fs = .ok (self.outcome (names.filter (candidate fs self)).getLast?) := by
  have answered : ∀ path ∈ names.map self.buildDir.child, ∃ answer, fs.isDir path = .ok answer := by
    intro path member
    obtain ⟨c, inNames, rfl⟩ := List.mem_map.mp member
    cases answer : fs.isDir (self.buildDir.child c) with
    | ok found => exact ⟨found, rfl⟩
    | error e => exact absurd (.inr ⟨names, listed, c, inNames, e, answer⟩) ends
  have children : (names.map self.buildDir.child).filter (qualifies fs) =
      (names.filter (candidate fs self)).map self.buildDir.child := List.filter_map ..
  have loop := @foldlM_tryReceptacle fs _ answered (false, self)
  rw [children, List.getLast?_map] at loop
  unfold configureBuildEnv asked
  rw [if_neg (by simp [lacks]), listed]
  refine loop.trans ?_
  cases (names.filter (candidate fs self)).getLast? with
  | none => rfl
  | some c => rfl

/-- The four outcomes of the search. -/
theorem configureBuildEnv_cases (fs : FileSystem) (self : Packager) :
    (stemHasBuild self.buildDir = true ∧ self.configureBuildEnv fs = .ok (true, self)) ∨
      (stemHasBuild self.buildDir = false ∧ SearchFails fs self.buildDir ∧
        ∃ e, self.configureBuildEnv fs = .error e) ∨
      (stemHasBuild self.buildDir = false ∧ ∃ names, fs.iterdir self.buildDir = .ok names ∧
        ∃ c ∈ names, qualifies fs (self.buildDir.child c) = true ∧
          self.configureBuildEnv fs = .ok (true, { self with buildDir := self.buildDir.child c })) ∨
      (stemHasBuild self.buildDir = false ∧ ¬ SearchFails fs self.buildDir ∧
        (∃ names, fs.iterdir self.buildDir = .ok names ∧
          ∀ c ∈ names, qualifies fs (self.buildDir.child c) = false) ∧
        self.configureBuildEnv fs = .ok (false, self)) := by
  cases own : stemHasBuild self.buildDir with
  | true =>
      refine .inl ⟨rfl, ?_⟩
      rw [configureBuildEnv, if_pos own]
  | false =>
      refine .inr ?_
      by_cases fails : SearchFails fs self.buildDir
      · exact .inl ⟨rfl, fails, configureBuildEnv_raises own fails⟩
      cases listed : fs.iterdir self.buildDir with
      | error e => exact absurd (.inl ⟨e, listed⟩) fails
      | ok names =>
          refine .inr ?_
          have searched := configureBuildEnv_listed own fails listed
          cases last : (names.filter (candidate fs self)).getLast? with
          | some c =>
              obtain ⟨member, hit⟩ := List.mem_filter.mp (List.mem_of_getLast? last)
              rw [last] at searched
              exact .inl ⟨rfl, names, rfl, c, member, hit, searched⟩
          | none =>
              have empty := List.getLast?_eq_none_iff.mp last
              rw [last] at searched
              refine .inr ⟨rfl, fails, ⟨names, rfl, fun c member => ?_⟩, searched⟩
              exact Bool.eq_false_iff.mpr (List.filter_eq_nil_iff.mp empty c member)

/-! ## What is packaged is a build directory -/

/-- The directory given on the command line. -/
def givenDir (settings : Settings) (buildDir : Option String) : Path :=
  parse (Cli.argsBuildDir settings buildDir)

/-- Neither the directory nor any child directory of it qualifies. -/
def NothingQualifies (fs : FileSystem) (dir : Path) : Prop :=
  qualifies fs dir = false ∧
    ∀ names, fs.iterdir dir = .ok names → ∀ c ∈ names, qualifies fs (dir.child c) = false

/-- The constructor lets through only what it was built to accept. -/
structure AcceptsBuildDirs (settings : Settings) (fs : FileSystem) (host : Host)
    (name version : String) (type buildDir : Option String) : Prop where
  /-- the constructor raises, or leaves an existing directory whose stem contains `build` -/
  accepted : ∀ self after,
    (newPackager settings fs host name version type buildDir).exec Trace.empty =
      (.ok self, after) →
    fs.pathExists self.buildDir = .ok true ∧ fs.isDir self.buildDir = .ok true ∧
      stemHasBuild self.buildDir = true
  /-- without a directory that qualifies, no packaging command is run -/
  refuses : NothingQualifies fs (givenDir settings buildDir) → ∀ result after,
    (main settings fs host (.package name version type buildDir)).exec Trace.empty =
      (result, after) →
    after.launched = []

/-- What `resolve` comes to when the constructor's two checks pass. -/
theorem resolve_of_checks {dir : Path} {name version type : String}
    (present : fs.pathExists dir = .ok true)
    (installed : host.installed settings.packageConfig.backend = true) :
    resolve settings fs host dir name version type =
      (attributes settings host dir name version type).configureBuildEnv fs := by
  unfold resolve asked
  rw [present]
  simp only
  rw [if_neg (by decide), if_neg (by simp [installed])]

/-- The constructor leaves an object exactly when the search does, given a directory
that exists and an installed backend. -/
theorem newPackager_eq_search {name version : String} {type buildDir : Option String}
    (present : fs.pathExists (givenDir settings buildDir) = .ok true)
    (installed : host.installed settings.packageConfig.backend = true) :
    ((newPackager settings fs host name version type buildDir).exec Trace.empty).1 =
      ((attributes settings host (givenDir settings buildDir) name version
        (Cli.argsType type)).configureBuildEnv fs).map Prod.snd := by
  obtain ⟨after, ended, -⟩ := @issues_init settings fs host (givenDir settings buildDir) name version (Cli.argsType type) Trace.empty
  rw [resolve_of_checks present installed] at ended
  have same : newPackager settings fs host name version type buildDir =
      init settings fs host (givenDir settings buildDir) name version (Cli.argsType type) := rfl
  rw [same, ended]

/-- A run whose search raises launches nothing. -/
theorem launched_nil_of_search_error {name version : String} {type buildDir : Option String}
    (present : fs.pathExists (givenDir settings buildDir) = .ok true)
    (installed : host.installed settings.packageConfig.backend = true) {e : PyError}
    (raised : (attributes settings host (givenDir settings buildDir) name version
      (Cli.argsType type)).configureBuildEnv fs = .error e)
    {result : Except PyError Int} {after : Trace}
    (ran : (main settings fs host (.package name version type buildDir)).exec Trace.empty =
      (result, after)) :
    after.launched = [] := by
  refine launched_of_plan_nil ?_ ran
  have resolved := @resolve_of_checks _ _ _ (givenDir settings buildDir) name version
    (Cli.argsType type) present installed
  rw [raised] at resolved
  unfold givenDir at resolved
  simp only [plan, resolved]

/-- Given a directory that exists and an installed backend, the constructor and the run
are sound exactly when the directory qualifies itself, or its name leaves the decision
to its children and one of them qualifies or the search for one fails. -/
theorem acceptsBuildDirs_iff (settings : Settings) (fs : FileSystem) (host : Host)
    (name version : String) (type buildDir : Option String)
    (present : fs.pathExists (givenDir settings buildDir) = .ok true)
    (installed : host.installed settings.packageConfig.backend = true) :
    AcceptsBuildDirs settings fs host name version type buildDir ↔
      (stemHasBuild (givenDir settings buildDir) = true ∧
        fs.isDir (givenDir settings buildDir) = .ok true) ∨
      (stemHasBuild (givenDir settings buildDir) = false ∧
        (SearchFails fs (givenDir settings buildDir) ∨
          ∃ names, fs.iterdir (givenDir settings buildDir) = .ok names ∧
            ∃ c ∈ names, qualifies fs ((givenDir settings buildDir).child c) = true)) := by
  have constructed := @newPackager_eq_search _ _ _ name version type _ present installed
  -- what the constructor leaves is what the search left
  have only : ∀ {found : Bool} {left self : Packager} {after : Trace},
      (attributes settings host (givenDir settings buildDir) name version
        (Cli.argsType type)).configureBuildEnv fs = .ok (found, left) →
      (newPackager settings fs host name version type buildDir).exec Trace.empty =
        (.ok self, after) → self = left := by
    intro found left self after searched ran
    rw [searched, ran] at constructed
    exact Except.ok.inj constructed
  have leaves : ∀ {found : Bool} {left : Packager},
      (attributes settings host (givenDir settings buildDir) name version
        (Cli.argsType type)).configureBuildEnv fs = .ok (found, left) →
      ∃ after, (newPackager settings fs host name version type buildDir).exec Trace.empty =
        (.ok left, after) := by
    intro found left searched
    rw [searched] at constructed
    exact ⟨_, Prod.ext constructed rfl⟩
  rcases configureBuildEnv_cases fs (attributes settings host (givenDir settings buildDir) name
    version (Cli.argsType type)) with
    ⟨own, searched⟩ | ⟨lacks, fails, e, searched⟩ | ⟨lacks, names, listed, c, member, hit, searched⟩
      | ⟨lacks, ends, ⟨names, listed, none⟩, searched⟩
  · constructor
    · intro accepts
      obtain ⟨after, ran⟩ := leaves searched
      exact .inl ⟨own, (accepts.accepted _ _ ran).2.1⟩
    · rintro (⟨-, dir⟩ | ⟨lacks, -⟩)
      · refine ⟨fun self after ran => ?_, fun nothing => ?_⟩
        · rw [only searched ran]
          exact ⟨present, dir, own⟩
        · have qualified : qualifies fs (givenDir settings buildDir) = true :=
            qualifies_iff.mpr ⟨dir, own⟩
          rw [nothing.1] at qualified
          exact absurd qualified Bool.false_ne_true
      · exact absurd (own.symm.trans lacks) (by decide)
  · refine iff_of_true ⟨fun self after ran => ?_, fun _ result after ran => ?_⟩
      (.inr ⟨lacks, .inl fails⟩)
    · rw [searched, ran] at constructed
      cases constructed
    · exact launched_nil_of_search_error present installed searched ran
  · refine iff_of_true ⟨fun self after ran => ?_, fun nothing => ?_⟩
      (.inr ⟨lacks, .inr ⟨names, listed, c, member, hit⟩⟩)
    · obtain ⟨dir, own⟩ := qualifies_iff.mp hit
      rw [only searched ran]
      exact ⟨fs.exists_of_isDir _ dir, dir, own⟩
    · have missed := nothing.2 names listed c member
      exact absurd (hit.symm.trans missed) (by decide)
  · refine iff_of_false (fun accepts => ?_) ?_
    · obtain ⟨after, ran⟩ := leaves searched
      have own := (accepts.accepted _ _ ran).2.2
      exact absurd (own.symm.trans lacks) (by decide)
    · rintro (⟨own, -⟩ | ⟨-, fails | ⟨names', listed', c, member, hit⟩⟩)
      · exact absurd (own.symm.trans lacks) (by decide)
      · exact absurd fails ends
      · have listed'' : fs.iterdir (givenDir settings buildDir) = .ok names := listed
        rw [listed'] at listed''
        cases listed''
        exact absurd (hit.symm.trans (none c member)) (by decide)

/-- A checkout with three build directories side by side, and a directory of objects with
a link to where the user may not look. -/
def buildTree : FileSystem :=
  FileSystem.ofEntries
    [(parse "/srv/libgarak", .dir), (parse "/srv/libgarak/build", .dir),
      (parse "/srv/libgarak/build-debug", .dir), (parse "/srv/libgarak/cmake-build-debug", .dir),
      (parse "/srv/libgarak/garak", .dir), (parse "/srv/libgarak/garak/src", .dir),
      (parse "/srv/objs", .dir), (parse "/srv/objs/src", .dir), (parse "/srv/objs/cache", .closed)]
    (by decide +kernel)

theorem acceptsBuildDirs_checkout :
    AcceptsBuildDirs Clang.sampleSettings buildTree failingHost "garak" "0.1.0" none
        (some "/srv/libgarak") ↔
      (stemHasBuild (givenDir Clang.sampleSettings (some "/srv/libgarak")) = true ∧
        buildTree.isDir (givenDir Clang.sampleSettings (some "/srv/libgarak")) = .ok true) ∨
      (stemHasBuild (givenDir Clang.sampleSettings (some "/srv/libgarak")) = false ∧
        (SearchFails buildTree (givenDir Clang.sampleSettings (some "/srv/libgarak")) ∨
          ∃ names, buildTree.iterdir (givenDir Clang.sampleSettings (some "/srv/libgarak")) =
              .ok names ∧
            ∃ c ∈ names, qualifies buildTree
              ((givenDir Clang.sampleSettings (some "/srv/libgarak")).child c) = true)) :=
  acceptsBuildDirs_iff Clang.sampleSettings buildTree failingHost "garak" "0.1.0" none
    (some "/srv/libgarak") (by decide +kernel) rfl

/-- The link is enough for the constructor to raise. -/
example : (newPackager Clang.sampleSettings buildTree failingHost "garak" "0.1.0" none
    (some "/srv/objs")).exec Trace.empty =
      (.error (.osError .permissionDenied (parse "/srv/objs/cache")), Trace.empty) := by
  decide +kernel

/-- Without a build directory in sight the backend is run all the same. -/
theorem sources_are_packaged :
    ¬ AcceptsBuildDirs Clang.sampleSettings buildTree failingHost "garak" "0.1.0" none
      (some "/srv/libgarak/garak") := by
  intro accepts
  have nothing : NothingQualifies buildTree
      (givenDir Clang.sampleSettings (some "/srv/libgarak/garak")) := by
    refine ⟨by decide +kernel, fun names listed c member => ?_⟩
    have only : names = [⟨"src", by decide⟩] := by
      have listing : buildTree.iterdir
          (givenDir Clang.sampleSettings (some "/srv/libgarak/garak")) =
            .ok [⟨"src", by decide⟩] := by
        decide +kernel
      exact Except.ok.inj (listed.symm.trans listing)
    subst only
    obtain rfl := List.mem_singleton.mp member
    decide +kernel
  have launched := accepts.refuses nothing _ _ (Prod.eta _).symm
  revert launched
  decide +kernel

/-! ## The order of a listing -/

/-- The same tree, but for the order in which `dir` is listed. -/
structure Reordered (fs : FileSystem) (dir : Path) (fs' : FileSystem) : Prop where
  isDir : fs'.isDir = fs.isDir
  iterdir : (∃ e, fs.iterdir dir = .error e ∧ fs'.iterdir dir = .error e) ∨
    ∃ names names', fs.iterdir dir = .ok names ∧ fs'.iterdir dir = .ok names' ∧ names'.Perm names

/-- However the directory is listed, the search returns the same flag and leaves the same
object, or returns in none of the listings. -/
def OrderIndependent (fs : FileSystem) (self : Packager) : Prop :=
  ∀ fs₁ fs₂, Reordered fs self.buildDir fs₁ → Reordered fs self.buildDir fs₂ →
    (self.configureBuildEnv fs₁).toOption = (self.configureBuildEnv fs₂).toOption

theorem qualifies_eq_of_reordered {dir : Path} {fs' : FileSystem} (same : Reordered fs dir fs') :
    qualifies fs' = qualifies fs := by
  funext path
  unfold qualifies
  rw [same.isDir]

theorem searchFails_reordered {dir : Path} {fs' : FileSystem} (same : Reordered fs dir fs') :
    SearchFails fs' dir ↔ SearchFails fs dir := by
  unfold SearchFails
  rw [same.isDir]
  rcases same.iterdir with ⟨e, listed, listed'⟩ | ⟨names, names', listed, listed', perm⟩
  · rw [listed, listed']
  · simp only [listed, listed', reduceCtorEq, exists_false, false_or, Except.ok.injEq,
      exists_eq_left', perm.mem_iff]

/-- The search over a reordered listing. -/
theorem configureBuildEnv_reordered {self : Packager} {fs' : FileSystem} {names : List Component}
    (lacks : stemHasBuild self.buildDir = false) (same : Reordered fs self.buildDir fs')
    (ends : ¬ SearchFails fs self.buildDir) (listed : fs'.iterdir self.buildDir = .ok names) :
    self.configureBuildEnv fs' = .ok (self.outcome (names.filter (candidate fs self)).getLast?) := by
  have hits : candidate fs' self = candidate fs self := by
    funext c
    unfold candidate
    rw [qualifies_eq_of_reordered same]
  rw [configureBuildEnv_listed lacks (mt (searchFails_reordered same).mp ends) listed, hits]

/-- For a directory whose own name does not decide, the outcome of the search is
independent of the order of the listing exactly when it fails or at most one child
qualifies. -/
theorem orderIndependent_iff (fs : FileSystem) (self : Packager)
    (lacks : stemHasBuild self.buildDir = false) :
    OrderIndependent fs self ↔
      SearchFails fs self.buildDir ∨
        ∀ names, fs.iterdir self.buildDir = .ok names →
          ∀ c ∈ names, ∀ d ∈ names, qualifies fs (self.buildDir.child c) = true →
            qualifies fs (self.buildDir.child d) = true → c = d := by
  by_cases fails : SearchFails fs self.buildDir
  · -- every order raises
    have none : ∀ fs', Reordered fs self.buildDir fs' →
        (self.configureBuildEnv fs').toOption = none := by
      intro fs' same
      obtain ⟨e, raised⟩ := configureBuildEnv_raises lacks ((searchFails_reordered same).mpr fails)
      rw [raised]
      rfl
    exact iff_of_true (fun fs₁ fs₂ same₁ same₂ => (none fs₁ same₁).trans (none fs₂ same₂).symm)
      (.inl fails)
  rw [or_iff_right fails]
  constructor
  · intro independent names listed
    refine (Lists.getLast?_filter_perm_iff (candidate fs self) names).mp fun ys zs permY permZ => ?_
    -- a tree for each of the two orders
    have reordered : ∀ {order : List Component} (perm : order.Perm names),
        Reordered fs self.buildDir (fs.relist self.buildDir order ⟨names, listed, perm⟩) ∧
          (fs.relist self.buildDir order ⟨names, listed, perm⟩).iterdir self.buildDir =
            .ok order := by
      intro order perm
      have relisted : (fs.relist self.buildDir order ⟨names, listed, perm⟩).iterdir
          self.buildDir = .ok order := FileSystem.relist_iterdir ..
      exact ⟨⟨rfl, .inr ⟨names, order, listed, relisted, perm⟩⟩, relisted⟩
    obtain ⟨reorderedY, listedY⟩ := reordered permY
    obtain ⟨reorderedZ, listedZ⟩ := reordered permZ
    have same := independent _ _ reorderedY reorderedZ
    rw [configureBuildEnv_reordered lacks reorderedY fails listedY,
      configureBuildEnv_reordered lacks reorderedZ fails listedZ] at same
    exact outcome_inj (Option.some.inj same)
  · intro unique fs₁ fs₂ same₁ same₂
    rcases same₁.iterdir with ⟨e, unlisted, -⟩ | ⟨names, names₁, listed, listed₁, perm₁⟩
    · exact absurd (.inl ⟨e, unlisted⟩) fails
    rcases same₂.iterdir with ⟨e, unlisted, -⟩ | ⟨again, names₂, listedAgain, listed₂, perm₂⟩
    · exact absurd (.inl ⟨e, unlisted⟩) fails
    obtain rfl := Except.ok.inj (listed.symm.trans listedAgain)
    have hits := (Lists.getLast?_filter_perm_iff (candidate fs self) names).mpr
      (unique names listed) names₁ names₂ perm₁ perm₂
    rw [configureBuildEnv_reordered lacks same₁ fails listed₁,
      configureBuildEnv_reordered lacks same₂ fails listed₂, hits]

/-- The attributes for packaging the checkout itself. -/
def checkoutPackager : Packager :=
  attributes Clang.sampleSettings failingHost (parse "/srv/libgarak") "garak" "0.1.0" "debian"

theorem orderIndependent_checkout :
    OrderIndependent buildTree checkoutPackager ↔
      SearchFails buildTree checkoutPackager.buildDir ∨
        ∀ names, buildTree.iterdir checkoutPackager.buildDir = .ok names →
          ∀ c ∈ names, ∀ d ∈ names,
            qualifies buildTree (checkoutPackager.buildDir.child c) = true →
            qualifies buildTree (checkoutPackager.buildDir.child d) = true → c = d :=
  orderIndependent_iff buildTree checkoutPackager (by decide +kernel)

/-- What `iterdir` yields for the checkout. -/
def checkoutListing : List Component :=
  ["build", "build-debug", "cmake-build-debug", "garak"].filterMap fun name =>
    Component.ofChars? name.toList

theorem checkout_listed :
    buildTree.iterdir checkoutPackager.buildDir = .ok checkoutListing := by
  decide +kernel

/-- The same checkout, listed the other way round. -/
def reversedTree : FileSystem :=
  buildTree.relist checkoutPackager.buildDir checkoutListing.reverse
    ⟨checkoutListing, checkout_listed, List.reverse_perm _⟩

/-- Listed the other way round, the checkout yields another build to package. -/
theorem checkout_depends_on_order : ¬ OrderIndependent buildTree checkoutPackager := by
  intro independent
  have asIs : Reordered buildTree checkoutPackager.buildDir buildTree :=
    ⟨rfl, .inr ⟨_, _, checkout_listed, checkout_listed, List.Perm.refl _⟩⟩
  have reversed : Reordered buildTree checkoutPackager.buildDir reversedTree :=
    ⟨rfl, .inr ⟨_, _, checkout_listed, FileSystem.relist_iterdir _ _ _ _, List.reverse_perm _⟩⟩
  have same := independent _ _ asIs reversed
  revert same
  decide +kernel

end Tooling.Packager
