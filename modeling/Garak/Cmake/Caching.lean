import Garak.Cmake.Rules

/-!
# What happens to the cache

The cache outlives a configure step. `Settled vars default before after`: under the names, an
entry is as it was, or there was none and it now has its default. A script that only ever does
this to the cache `Settles` it, and a second run of it meets entries that say what the first
run went by.
-/

namespace Cmake

variable {α β : Type} {vars : List String} {default : Entries}

/-- Under the names, entries stay and may be given their defaults. -/
def Settled (vars : List String) (default before after : Entries) : Prop :=
  ∀ name ∈ vars, after name = before name ∨ before name = none ∧ after name = default name

/-- Wherever it ends, the script has only given defaults to entries under the names. -/
def Settles (vars : List String) (default : Entries) (p : Script α) : Prop :=
  ∀ s, Settled vars default s.cache (p.exec s).2.cache

theorem Settled.refl (vars : List String) (default entries : Entries) :
    Settled vars default entries entries :=
  fun _ _ => .inl rfl

theorem Settled.trans {before between after : Entries} (first : Settled vars default before between)
    (second : Settled vars default between after) : Settled vars default before after := by
  intro name listed
  rcases first name listed with kept | ⟨missing, settled⟩
  · rcases second name listed with kept' | ⟨missing', settled'⟩
    · exact .inl (kept'.trans kept)
    · exact .inr ⟨kept.symm.trans missing', settled'⟩
  · rcases second name listed with kept' | ⟨missing', settled'⟩
    · exact .inr ⟨missing, kept'.trans settled⟩
    · exact .inr ⟨missing, settled'⟩

/-- What an option says is what the cache says, with the default for an entry that is not
there: settling does not change it. -/
theorem Settled.getD {before after : Entries} (settled : Settled vars default before after)
    {name text : String} (listed : name ∈ vars) (defaulted : default name = some text) :
    (after name).getD text = (before name).getD text := by
  rcases settled name listed with kept | ⟨missing, now⟩
  · rw [kept]
  · rw [missing, now, defaulted]
    rfl

/-! ## Composition -/

theorem settles_of_cache {p : Script α} (same : ∀ s, (p.exec s).2.cache = s.cache) :
    Settles vars default p := by
  intro s
  rw [same s]
  exact Settled.refl _ _ _

theorem settles_of_ends {p : Script α}
    (ends : ∀ s, Ends p s (fun _ s' => s'.cache = s.cache) fun _ s' => s'.cache = s.cache) :
    Settles vars default p := by
  refine settles_of_cache fun s => ?_
  rcases exec_cases p s with ⟨a, s', ran⟩ | ⟨e, s', ran⟩
  · rw [ran]
    exact (ends_ok_iff ran).mp (ends s)
  · rw [ran]
    exact (ends_error_iff ran).mp (ends s)

theorem settles_modify {f : State → State} (same : ∀ s, (f s).cache = s.cache) :
    Settles vars default (modify f : Script Unit) :=
  settles_of_cache same

theorem settles_pure (a : α) : Settles vars default (pure a : Script α) :=
  settles_of_cache fun _ => rfl

theorem Settles.bind {p : Script α} {f : α → Script β} (first : Settles vars default p)
    (second : ∀ a, Settles vars default (f a)) : Settles vars default (p >>= f) := by
  intro s
  have here := first s
  rcases exec_cases p s with ⟨a, s', ran⟩ | ⟨e, s', ran⟩
  · rw [ran] at here
    rw [exec_bind_ok ran]
    exact here.trans (second a s')
  · rw [ran] at here
    rw [exec_bind_error ran]
    exact here

theorem settles_ite {p q : Script α} {c : Prop} [Decidable c] (yes : Settles vars default p)
    (no : Settles vars default q) : Settles vars default (if c then p else q) := by
  split
  · exact yes
  · exact no

/-- Code that leaves the names alone. -/
theorem Confined.settles {own : Names} {stops : String → Prop} {p : Script α}
    (confined : Confined own stops p) (known : ∀ name ∈ vars, name ∈ own.vars) :
    Settles vars default p :=
  fun s name listed => .inl ((confined.keeps s).cache name (known name listed))

/-! ## Commands -/

/-- An option gives its entry the default. -/
theorem settles_option {name text : String}
    (defaulted : name ∈ vars → default name = some (if isOn text then "ON" else "OFF")) :
    Settles vars default (option name text) := by
  intro s other listed
  rw [exec_option]
  by_cases same : other = name
  · subst same
    unfold State.withOption
    split
    · exact .inl rfl
    · rename_i unset
      refine .inr ⟨?_, ?_⟩
      · cases held : s.cache other with
        | none => rfl
        | some value => exact absurd (.inr (by rw [held]; rfl)) unset
      · rw [defaulted listed]
        exact Function.update_self ..
  · exact .inl (cache_withOption_of_ne same)

theorem settles_setParent (name : String) (arguments : List String) :
    Settles vars default (setParent name arguments) := by
  refine settles_of_cache fun s => ?_
  obtain ⟨callers, ran⟩ := @exec_setParent_any s name arguments
  rw [ran]
  rfl

theorem settles_message (mode : MessageMode) (text : String) :
    Settles vars default (message mode text) := by
  refine settles_of_cache fun s => ?_
  cases mode <;> rfl

theorem settles_addTarget (kind : TargetKind) (name : String) (sources : List String) :
    Settles vars default (addTarget kind name sources) := by
  refine settles_of_cache fun s => ?_
  rw [exec_addTarget]
  cases s.targets name <;> rfl

theorem settles_onTarget (name : String) (change : Target → Target) :
    Settles vars default (onTarget name change) := by
  refine settles_of_cache fun s => ?_
  rw [exec_onTarget]
  cases s.targets name <;> rfl

theorem settles_setTargetProperties (name : String) (arguments : List String) :
    Settles vars default (setTargetProperties name arguments) := by
  unfold setTargetProperties
  cases propertyPairs arguments with
  | some properties => exact settles_onTarget name _
  | none => exact settles_of_cache fun _ => rfl

theorem cache_leave (s : State) : s.leave.cache = s.cache := by
  obtain ⟨scope, callers, left⟩ := leave_eq s
  rw [left]

theorem settles_callFunction {parameters : List (String × String)} {body : Script Unit}
    (inside : Settles vars default body) : Settles vars default (callFunction parameters body) := by
  have assigned : ∀ (entries : List (String × String)) (s : State),
      (entries.foldl (fun s entry => s.assign entry.1 entry.2) s).cache = s.cache := by
    intro entries
    induction entries with
    | nil => exact fun _ => rfl
    | cons entry entries ih => exact fun s => ih _
  apply Settles.bind (settles_of_cache fun _ => rfl)
  intro _
  apply Settles.bind (settles_modify (assigned parameters))
  intro _
  apply Settles.bind inside
  intro _
  exact settles_modify cache_leave

theorem settles_addSubdirectory {name : String} {body : Script Unit}
    (inside : Settles vars default body) : Settles vars default (addSubdirectory name body) := by
  apply Settles.bind (settles_of_cache fun _ => rfl)
  intro outer
  apply Settles.bind (settles_of_cache fun _ => rfl)
  intro _
  apply Settles.bind inside
  intro _
  exact settles_modify cache_leave

end Cmake
