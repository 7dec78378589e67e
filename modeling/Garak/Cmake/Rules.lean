import Garak.Cmake.Script

/-!
# Rules for scripts

`Ends p s done stopped`: started in `s`, the script ends in a state of which `done` holds,
or a fatal error stops it of which `stopped` holds. There is one rule for each command.
Code that is known only by what it leaves alone is `Confined`, and has a rule of its own.
-/

namespace Cmake

variable {α β : Type}

/-! ## Looking up variables -/

section Lookup

variable (s : State) (name other : String) (target : Target) (value : Option String)

@[simp] theorem lookup_putTarget : (s.putTarget name target).lookup other = s.lookup other := rfl

@[simp] theorem lookup_say (mode : MessageMode) (text : String) :
    (s.say mode text).lookup other = s.lookup other :=
  rfl

@[simp] theorem lookup_addInstall (rule : Install) : (s.addInstall rule).lookup other = s.lookup other :=
  rfl

@[simp] theorem lookup_withCallers (callers : List Entries) :
    (s.withCallers callers).lookup other = s.lookup other :=
  rfl

@[simp] theorem lookup_setScope_self (text : String) :
    (s.setScope name (some text)).lookup name = some text := by
  simp [State.lookup, State.setScope]

theorem lookup_setScope (text : String) :
    (s.setScope name (some text)).lookup other = if other = name then some text else s.lookup other := by
  by_cases same : other = name
  · rw [if_pos same, same, lookup_setScope_self]
  · simp [State.lookup, State.setScope, same]

theorem lookup_setScope_of_ne {s : State} {name other : String} {value : Option String}
    (apart : other ≠ name) : (s.setScope name value).lookup other = s.lookup other := by
  simp [State.lookup, State.setScope, apart]

theorem cache_withOption_of_ne {s : State} {name other default : String} (apart : other ≠ name) :
    (s.withOption name default).cache other = s.cache other := by
  unfold State.withOption
  split
  · rfl
  · exact Function.update_of_ne apart ..

@[simp] theorem lookup_withOption_of_ne {s : State} {name other default : String}
    (apart : other ≠ name) : (s.withOption name default).lookup other = s.lookup other := by
  unfold State.lookup
  rw [cache_withOption_of_ne apart]
  rfl

/-- An option is what the cache says, and else its default. -/
theorem lookup_withOption_self {s : State} {name default : String} (unset : s.scope name = none) :
    (s.withOption name default).lookup name =
      some ((s.cache name).getD (if isOn default then "ON" else "OFF")) := by
  unfold State.withOption
  cases held : s.cache name with
  | none => simp [State.lookup, unset]
  | some text => simp [State.lookup, unset, held]

@[simp] theorem scope_setScope (value : Option String) :
    (s.setScope name value).scope other = if other = name then value else s.scope other :=
  Function.update_apply ..

/-- An option that is off unless said otherwise, or on. -/
theorem isTrue_withOption_self {s : State} {name default : String} (unset : s.scope name = none) :
    (s.withOption name default).isTrue name =
      !isOff ((s.cache name).getD (if isOn default then "ON" else "OFF")) := by
  unfold State.isTrue
  rw [lookup_withOption_self unset]

theorem isTrue_congr {s s' : State} {name : String} (same : s'.lookup name = s.lookup name) :
    s'.isTrue name = s.isTrue name := by
  unfold State.isTrue
  rw [same]

/-- A variable that is not set is looked up in the cache. -/
theorem lookup_of_unset {s : State} {name : String} (unset : s.scope name = none) :
    s.lookup name = s.cache name := by
  simp [State.lookup, unset]

theorem value_of_lookup {s : State} {name text : String} (found : s.lookup name = some text) :
    s.value name = text := by
  rw [State.value, found]
  rfl

end Lookup

/-! ## Looking up targets -/

section Targets

variable (s : State) (name : String) (target : Target)

@[simp] theorem targets_putTarget_self : (s.putTarget name target).targets name = some target :=
  Function.update_self ..

theorem targets_putTarget_of_ne {s : State} {name other : String} {target : Target}
    (apart : other ≠ name) : (s.putTarget name target).targets other = s.targets other :=
  Function.update_of_ne apart ..

@[simp] theorem targets_say (mode : MessageMode) (text : String) :
    (s.say mode text).targets = s.targets :=
  rfl

@[simp] theorem targets_setScope (value : Option String) : (s.setScope name value).targets = s.targets :=
  rfl

@[simp] theorem putTarget_putTarget (first second : Target) :
    (s.putTarget name first).putTarget name second = s.putTarget name second := by
  simp [State.putTarget]

@[simp] theorem putTarget_addInstall (rule : Install) :
    (s.putTarget name target).addInstall rule = (s.addInstall rule).putTarget name target :=
  rfl

end Targets

theorem valueOf_singleton (text : String) : valueOf [text] = some text :=
  congrArg some (joinList_singleton text)

/-! ## Running scripts -/

@[simp] theorem exec_pure (a : α) (s : State) : (pure a : Script α).exec s = (.ok a, s) := rfl

@[simp] theorem exec_throw (e : String) (s : State) :
    (throw e : Script α).exec s = (.error e, s) :=
  rfl

@[simp] theorem exec_get (s : State) : (get : Script State).exec s = (.ok s, s) := rfl

@[simp] theorem exec_modify (f : State → State) (s : State) :
    (modify f : Script Unit).exec s = (.ok (), f s) :=
  rfl

theorem exec_bind (p : Script α) (f : α → Script β) (s : State) :
    (p >>= f).exec s =
      match p.exec s with
      | (.ok a, s') => (f a).exec s'
      | (.error e, s') => (.error e, s') := by
  unfold Script.exec ExceptT.run StateT.run
  simp only [bind, ExceptT.bind, ExceptT.mk, StateT.bind, ExceptT.bindCont]
  cases p s with
  | mk result s' => cases result <;> rfl

theorem exec_bind_ok {p : Script α} {f : α → Script β} {s s' : State} {a : α}
    (ran : p.exec s = (.ok a, s')) : (p >>= f).exec s = (f a).exec s' := by
  rw [exec_bind, ran]

theorem exec_bind_error {p : Script α} {f : α → Script β} {s s' : State} {e : String}
    (ran : p.exec s = (.error e, s')) : (p >>= f).exec s = (.error e, s') := by
  rw [exec_bind, ran]

/-- Reading the state. -/
theorem exec_get_bind (f : State → Script α) (s : State) : (get >>= f : Script α).exec s = (f s).exec s :=
  exec_bind_ok (exec_get s)

/-! ## Ends -/

/-- Where a script ends. -/
@[irreducible] def Ends (p : Script α) (s : State) (done : α → State → Prop) (stopped : String → State → Prop) :
    Prop :=
  match p.exec s with
  | (.ok a, s') => done a s'
  | (.error e, s') => stopped e s'

section Ends

variable {p : Script α} {s s' : State} {done done' : α → State → Prop}
  {stopped stopped' : String → State → Prop}

theorem ends_ok_iff {a : α} (ran : p.exec s = (.ok a, s')) : Ends p s done stopped ↔ done a s' := by
  unfold Ends
  rw [ran]

theorem ends_error_iff {e : String} (ran : p.exec s = (.error e, s')) :
    Ends p s done stopped ↔ stopped e s' := by
  unfold Ends
  rw [ran]

theorem ends_of_ok {a : α} (ran : p.exec s = (.ok a, s')) (holds : done a s') :
    Ends p s done stopped :=
  (ends_ok_iff ran).mpr holds

theorem ends_of_error {e : String} (ran : p.exec s = (.error e, s')) (holds : stopped e s') :
    Ends p s done stopped :=
  (ends_error_iff ran).mpr holds

/-- A script runs to its end, or it is stopped. -/
theorem exec_cases (p : Script α) (s : State) :
    (∃ a s', p.exec s = (.ok a, s')) ∨ ∃ e s', p.exec s = (.error e, s') := by
  cases ran : p.exec s with
  | mk result after =>
      cases result with
      | ok a => exact .inl ⟨a, after, rfl⟩
      | error e => exact .inr ⟨e, after, rfl⟩

/-- Consequence. -/
theorem Ends.mono (ends : Ends p s done stopped) (weaker : ∀ a s', done a s' → done' a s')
    (weaker' : ∀ e s', stopped e s' → stopped' e s') : Ends p s done' stopped' := by
  rcases exec_cases p s with ⟨a, s', ran⟩ | ⟨e, s', ran⟩
  · exact ends_of_ok ran (weaker a s' ((ends_ok_iff ran).mp ends))
  · exact ends_of_error ran (weaker' e s' ((ends_error_iff ran).mp ends))

/-- A script that nothing can stop runs to its end. -/
theorem Ends.completes (ends : Ends p s done stopped) (runs : ∀ e s', ¬ stopped e s') :
    ∃ a s', p.exec s = (.ok a, s') ∧ done a s' := by
  rcases exec_cases p s with ⟨a, s', ran⟩ | ⟨e, s', ran⟩
  · exact ⟨a, s', ran, (ends_ok_iff ran).mp ends⟩
  · exact absurd ((ends_error_iff ran).mp ends) (runs e s')

/-- Sequencing: what the first part ends in is where the second begins. -/
theorem Ends.bind {f : α → Script β} {last : β → State → Prop}
    (first : Ends p s (fun a s' => Ends (f a) s' last stopped) stopped) :
    Ends (p >>= f) s last stopped := by
  rcases exec_cases p s with ⟨a, s', ran⟩ | ⟨e, s', ran⟩
  · have rest : Ends (f a) s' last stopped := (ends_ok_iff ran).mp first
    unfold Ends at rest ⊢
    rwa [exec_bind_ok ran]
  · exact ends_of_error (exec_bind_error ran) ((ends_error_iff ran).mp first)

/-- Sequencing after a part that runs to its end. -/
theorem ends_bind_of_ok {f : α → Script β} {a : α} {last : β → State → Prop}
    (ran : p.exec s = (.ok a, s')) (rest : Ends (f a) s' last stopped) :
    Ends (p >>= f) s last stopped :=
  Ends.bind (ends_of_ok ran rest)

end Ends

/-! ## Commands -/

section Commands

variable {s : State}

@[simp] theorem exec_value (name : String) : (value name).exec s = (.ok (s.value name), s) := rfl

@[simp] theorem exec_unquoted (name : String) :
    (unquoted name).exec s = (.ok (expandList (s.value name)), s) :=
  rfl

@[simp] theorem exec_isTrue (name : String) : (isTrue name).exec s = (.ok (s.isTrue name), s) := rfl

@[simp] theorem exec_strequal (first second : String) :
    (strequal first second).exec s = (.ok (decide (s.operand first = s.operand second)), s) :=
  rfl

@[simp] theorem exec_strequalText (first text : String) :
    (strequalText first text).exec s = (.ok (decide (s.operand first = text)), s) :=
  rfl

@[simp] theorem exec_equal (word : String) (n : Nat) :
    (equal word n).exec s = (.ok (decide (number (s.operand word) = some n)), s) :=
  rfl

@[simp] theorem exec_contains (word part : String) :
    (contains word part).exec s = (.ok (decide (part.toList <:+: (s.operand word).toList)), s) :=
  rfl

@[simp] theorem exec_setVariable (name : String) (arguments : List String) :
    (setVariable name arguments).exec s =
      (.ok (), s.setScope name (valueOf arguments)) :=
  rfl

theorem exec_setParent {caller : Entries} {callers : List Entries}
    (called : s.callers = caller :: callers) (name : String) (arguments : List String) :
    (setParent name arguments).exec s =
      (.ok (), s.withCallers (Function.update caller name (valueOf arguments) :: callers)) := by
  simp [setParent, called]

/-- Whatever the caller, `PARENT_SCOPE` writes there and nowhere else. -/
theorem exec_setParent_any (name : String) (arguments : List String) :
    ∃ callers, (setParent name arguments).exec s = (.ok (), s.withCallers callers) := by
  cases called : s.callers with
  | nil =>
      have ran : (setParent name arguments).exec s = (.ok (), s) := by
        simp only [setParent, exec_modify, called]
      exact ⟨s.callers, ran⟩
  | cons caller callers => exact ⟨_, exec_setParent called name arguments⟩

@[simp] theorem withCallers_callers (callers : List Entries) : (s.withCallers callers).callers = callers :=
  rfl

@[simp] theorem withCallers_withCallers (callers callers' : List Entries) :
    (s.withCallers callers).withCallers callers' = s.withCallers callers' :=
  rfl

/-- A message that is no fatal error. -/
theorem exec_message {mode : MessageMode} (continues : mode ≠ .fatalError) (text : String) :
    (message mode text).exec s = (.ok (), s.say mode text) := by
  unfold message
  rw [exec_bind_ok (exec_modify _ s), if_neg continues]
  rfl

theorem exec_fatal (text : String) :
    (message .fatalError text).exec s = (.error text, s.say .fatalError text) :=
  rfl

theorem exec_fileRead {path contents : String} (present : s.files path = some contents) (name : String) :
    (fileRead path name).exec s = (.ok (), s.assign name contents) := by
  unfold fileRead
  rw [exec_get_bind, present]
  rfl

theorem exec_fileRead_missing {path : String} (missing : s.files path = none) (name : String) :
    (fileRead path name).exec s =
      (.error ("file failed to open for reading (No such file or directory): " ++ path), s) := by
  unfold fileRead
  rw [exec_get_bind, missing]
  rfl

@[simp] theorem exec_option (name default : String) :
    (option name default).exec s = (.ok (), s.withOption name default) :=
  rfl

theorem exec_addTarget (kind : TargetKind) (name : String) (sources : List String) :
    (addTarget kind name sources).exec s =
      match s.targets name with
      | some _ => (.error ("cannot create target " ++ name ++
          " because another target with the same name already exists."), s)
      | none => (.ok (), s.putTarget name (s.newTarget kind sources)) := by
  unfold addTarget
  rw [exec_get_bind]
  cases s.targets name <;> rfl

theorem exec_addTarget_free {name : String} (free : s.targets name = none) (kind : TargetKind)
    (sources : List String) :
    (addTarget kind name sources).exec s =
      (.ok (), s.putTarget name (s.newTarget kind sources)) := by
  rw [exec_addTarget, free]

theorem exec_onTarget (name : String) (change : Target → Target) :
    (onTarget name change).exec s =
      match s.targets name with
      | some target => (.ok (), s.putTarget name (change target))
      | none => (.error ("target " ++ name ++ " is not built by this project."), s) := by
  unfold onTarget
  rw [exec_get_bind]
  cases s.targets name <;> rfl

theorem exec_targetRequire {name : String} {target : Target} (built : s.targets name = some target)
    (usage : Usage) (visibility : Visibility) (items : List String) :
    (targetRequire usage name visibility items).exec s =
      (.ok (), s.putTarget name (target.require usage visibility items)) := by
  unfold targetRequire
  rw [exec_onTarget, built]

@[simp] theorem exec_install (rule : Install) : (install rule).exec s = (.ok (), s.addInstall rule) := rfl

@[simp] theorem exec_enableTesting : enableTesting.exec s = (.ok (), s.addTesting) := rfl

@[simp] theorem exec_gtestDiscoverTests (name : String) :
    (gtestDiscoverTests name).exec s = (.ok (), s.addTests name) :=
  rfl

@[simp] theorem exec_setCache (name value : String) :
    (setCache name value).exec s = (.ok (), s.setEntry name value) :=
  rfl

end Commands

/-- A subdirectory sees the variables of its caller. -/
theorem lookup_enterDirectory_of_ne {s : State} {dir name : String}
    (apart : name ≠ "CMAKE_CURRENT_SOURCE_DIR" ∧ name ≠ "CMAKE_CURRENT_BINARY_DIR") :
    (s.enterDirectory dir).lookup name = s.lookup name :=
  (lookup_setScope_of_ne apart.2).trans (lookup_setScope_of_ne apart.1)

theorem lookup_enterDirectory_source (s : State) (dir : String) :
    (s.enterDirectory dir).lookup "CMAKE_CURRENT_SOURCE_DIR" =
      some (joinDir (s.value "CMAKE_CURRENT_SOURCE_DIR") dir) :=
  (lookup_setScope_of_ne (by decide)).trans (lookup_setScope_self ..)

theorem lookup_enterDirectory_binary (s : State) (dir : String) :
    (s.enterDirectory dir).lookup "CMAKE_CURRENT_BINARY_DIR" =
      some (joinDir (s.value "CMAKE_CURRENT_BINARY_DIR") dir) :=
  lookup_setScope_self ..

/-- Rule for a subdirectory. -/
theorem ends_addSubdirectory {name : String} {body : Script Unit} {s : State}
    {done : Unit → State → Prop} {stopped : String → State → Prop}
    (inside : Ends body (s.enterDirectory name)
      (fun _ s' => done () (s'.leave.withOptions s.compileOptions)) stopped) :
    Ends (addSubdirectory name body) s done stopped := by
  apply ends_bind_of_ok (exec_get s)
  apply ends_bind_of_ok (exec_modify _ _)
  apply Ends.bind
  refine inside.mono (fun a s' returns => ?_) (fun _ _ holds => holds)
  exact ends_of_ok (exec_modify _ _) returns

/-- Leaving a scope changes variables only. -/
theorem leave_eq (s : State) : ∃ scope callers, s.leave = { s with scope := scope, callers := callers } := by
  unfold State.leave
  split
  · exact ⟨s.scope, s.callers, rfl⟩
  · exact ⟨_, _, rfl⟩

/-! ## Code that is known by what it leaves alone -/

/-- Names somebody counts on. -/
structure Names where
  vars : List String
  targets : List String
  files : String → Prop

/-- The second state has what the first one has under the names. -/
structure Keeps (own : Names) (s s' : State) : Prop where
  scope : ∀ name ∈ own.vars, s'.scope name = s.scope name
  cache : ∀ name ∈ own.vars, s'.cache name = s.cache name
  callers : s'.callers = s.callers
  targets : ∀ name ∈ own.targets, s'.targets name = s.targets name
  files : ∀ path, own.files path → ∀ contents, s.files path = some contents →
    s'.files path = some contents
  compileOptions : s'.compileOptions = s.compileOptions
  installs : s'.installs = s.installs
  tests : s'.tests = s.tests
  testing : ∀ dir ∈ s.testing, dir ∈ s'.testing

/-- Whatever a script comes to, it leaves alone what goes by the names, and only such
errors stop it. -/
structure Confined (own : Names) (stops : String → Prop) (p : Script α) : Prop where
  keeps : ∀ s, Keeps own s (p.exec s).2
  stops : ∀ s e s', p.exec s = (.error e, s') → stops e

section Keeps

variable {own : Names} {s s' s'' : State}

theorem Keeps.refl (own : Names) (s : State) : Keeps own s s :=
  ⟨fun _ _ => rfl, fun _ _ => rfl, rfl, fun _ _ => rfl, fun _ _ _ held => held, rfl, rfl, rfl,
    fun _ held => held⟩

theorem Keeps.trans (first : Keeps own s s') (second : Keeps own s' s'') : Keeps own s s'' where
  scope name listed := (second.scope name listed).trans (first.scope name listed)
  cache name listed := (second.cache name listed).trans (first.cache name listed)
  callers := second.callers.trans first.callers
  targets name listed := (second.targets name listed).trans (first.targets name listed)
  files path listed contents held :=
    second.files path listed contents (first.files path listed contents held)
  compileOptions := second.compileOptions.trans first.compileOptions
  installs := second.installs.trans first.installs
  tests := second.tests.trans first.tests
  testing dir held := second.testing dir (first.testing dir held)

theorem Keeps.lookup (keeps : Keeps own s s') {name : String} (listed : name ∈ own.vars) :
    s'.lookup name = s.lookup name := by
  unfold State.lookup
  rw [keeps.scope name listed, keeps.cache name listed]

/-- Leaving a scope goes back to the variables it was entered with. -/
theorem Keeps.leave (keeps : Keeps own s.enter s') : Keeps own s s'.leave := by
  have callers : s'.callers = s.scope :: s.callers := keeps.callers
  have left : s'.leave = { s' with scope := s.scope, callers := s.callers } := by
    simp only [State.leave, callers]
  rw [left]
  exact { keeps with scope := fun _ _ => rfl, callers := rfl }

section Confined

variable {stops : String → Prop}

theorem confined_of_ok {p : Script α}
    (ran : ∀ s, ∃ a s', p.exec s = (.ok a, s') ∧ Keeps own s s') : Confined own stops p where
  keeps s := by
    obtain ⟨a, s', ended, keeps⟩ := ran s
    rw [ended]
    exact keeps
  stops s e s' stopped := by
    obtain ⟨a, s'', ended, -⟩ := ran s
    cases ended.symm.trans stopped

theorem confined_pure (a : α) : Confined own stops (pure a) :=
  confined_of_ok fun s => ⟨_, _, exec_pure a s, Keeps.refl own s⟩

theorem confined_value (name : String) : Confined own stops (value name) :=
  confined_of_ok fun s => ⟨_, _, exec_value name, Keeps.refl own s⟩

theorem confined_isTrue (name : String) : Confined own stops (isTrue name) :=
  confined_of_ok fun s => ⟨_, _, exec_isTrue name, Keeps.refl own s⟩

theorem keeps_setScope {name : String} (foreign : name ∉ own.vars) (value : Option String) :
    Keeps own s (s.setScope name value) := by
  refine { Keeps.refl own s with scope := fun other listed => ?_ }
  have apart : other ≠ name := fun same => foreign (same ▸ listed)
  exact Function.update_of_ne apart ..

theorem keeps_setEntry {name : String} (foreign : name ∉ own.vars) (text : String) :
    Keeps own s (s.setEntry name text) := by
  refine { Keeps.refl own s with cache := fun other listed => ?_ }
  have apart : other ≠ name := fun same => foreign (same ▸ listed)
  exact Function.update_of_ne apart ..

theorem keeps_withOption {name : String} (foreign : name ∉ own.vars) (default : String) :
    Keeps own s (s.withOption name default) := by
  refine { Keeps.refl own s with cache := fun other listed => ?_ }
  exact cache_withOption_of_ne fun same => foreign (same ▸ listed)

theorem keeps_say (s : State) (mode : MessageMode) (text : String) : Keeps own s (s.say mode text) :=
  { Keeps.refl own s with }

theorem confined_setVariable {name : String} (foreign : name ∉ own.vars) (arguments : List String) :
    Confined own stops (setVariable name arguments) :=
  confined_of_ok fun _ => ⟨_, _, exec_setVariable name arguments, keeps_setScope foreign _⟩

theorem confined_setCache {name : String} (foreign : name ∉ own.vars) (text : String) :
    Confined own stops (setCache name text) :=
  confined_of_ok fun _ => ⟨_, _, exec_setCache name text, keeps_setEntry foreign text⟩

theorem confined_option {name : String} (foreign : name ∉ own.vars) (default : String) :
    Confined own stops (option name default) :=
  confined_of_ok fun _ => ⟨_, _, exec_option name default, keeps_withOption foreign default⟩

theorem confined_message {mode : MessageMode} (continues : mode ≠ .fatalError) (text : String) :
    Confined own stops (message mode text) :=
  confined_of_ok fun s => ⟨_, _, exec_message continues text, keeps_say s mode text⟩

theorem Confined.bind {p : Script α} {f : α → Script β} (first : Confined own stops p)
    (second : ∀ a, Confined own stops (f a)) : Confined own stops (p >>= f) where
  keeps s := by
    have here := first.keeps s
    cases ran : p.exec s with
    | mk result after =>
        rw [ran] at here
        cases result with
        | ok a =>
            rw [exec_bind_ok ran]
            exact here.trans ((second a).keeps after)
        | error e =>
            rw [exec_bind_error ran]
            exact here
  stops s e s' stopped := by
    cases ran : p.exec s with
    | mk result after =>
        cases result with
        | ok a =>
            rw [exec_bind_ok ran] at stopped
            exact (second a).stops after e s' stopped
        | error e' =>
            rw [exec_bind_error ran] at stopped
            cases stopped
            exact first.stops s e _ ran

theorem confined_ite {p q : Script α} {c : Prop} [Decidable c] (yes : Confined own stops p)
    (no : Confined own stops q) : Confined own stops (if c then p else q) := by
  split
  · exact yes
  · exact no

/-- The rule for such code: it may go on in any state that keeps the names. -/
theorem Confined.ends {p : Script α} (confined : Confined own stops p)
    {done : α → State → Prop} {stopped : String → State → Prop}
    (goesOn : ∀ a s', Keeps own s s' → done a s') (ends : ∀ e s', stops e → stopped e s') :
    Ends p s done stopped := by
  have keeps := confined.keeps s
  cases ran : p.exec s with
  | mk result after =>
      rw [ran] at keeps
      cases result with
      | ok a => exact ends_of_ok ran (goesOn a after keeps)
      | error e => exact ends_of_error ran (ends e after (confined.stops s e after ran))

end Confined

end Keeps

end Cmake
