import Mathlib.Data.List.Count
import Mathlib.Data.List.Nodup

/-!
# Lists

How often an element occurs in a concatenation of lists, and how long it is, compared
term by term; loops that may raise, and searches that keep their last hit.
-/

namespace Lists

variable {α β : Type}

theorem count_flatMap_le [BEq β] {b : β} (f g : α → List β) (xs : List α)
    (le : ∀ x ∈ xs, (f x).count b ≤ (g x).count b) :
    (xs.flatMap f).count b ≤ (xs.flatMap g).count b := by
  induction xs with
  | nil => simp
  | cons x xs ih =>
      have head := le x (List.mem_cons_self ..)
      have tail := ih fun y member => le y (List.mem_cons_of_mem _ member)
      simp only [List.flatMap_cons, List.count_append]
      omega

/-- One strict term makes the whole concatenation strict. -/
theorem count_flatMap_lt [BEq β] {b : β} (f g : α → List β) (xs : List α)
    (le : ∀ x ∈ xs, (f x).count b ≤ (g x).count b)
    (lt : ∃ x ∈ xs, (f x).count b < (g x).count b) :
    (xs.flatMap f).count b < (xs.flatMap g).count b := by
  induction xs with
  | nil => simp at lt
  | cons x xs ih =>
      have head := le x (List.mem_cons_self ..)
      have rest : ∀ y ∈ xs, (f y).count b ≤ (g y).count b :=
        fun y member => le y (List.mem_cons_of_mem _ member)
      have tail := count_flatMap_le f g xs rest
      simp only [List.flatMap_cons, List.count_append]
      obtain ⟨y, member, strict⟩ := lt
      rcases List.mem_cons.mp member with rfl | member
      · omega
      · have := ih rest ⟨y, member, strict⟩
        omega

theorem length_flatMap_le {γ : Type} {f : α → List β} {g : α → List γ} {xs : List α}
    (le : ∀ x ∈ xs, (f x).length ≤ (g x).length) :
    (xs.flatMap f).length ≤ (xs.flatMap g).length := by
  induction xs with
  | nil => simp
  | cons x xs ih =>
      have head := le x (List.mem_cons_self ..)
      have tail := ih fun y member => le y (List.mem_cons_of_mem _ member)
      simp only [List.flatMap_cons, List.length_append]
      omega

/-- Concatenations as long as each other, compared term by term, agree in the length of
every term. -/
theorem length_eq_of_flatMap {γ : Type} {f : α → List β} {g : α → List γ} {xs : List α}
    (total : (xs.flatMap f).length = (xs.flatMap g).length)
    (le : ∀ x ∈ xs, (f x).length ≤ (g x).length) :
    ∀ x ∈ xs, (f x).length = (g x).length := by
  induction xs with
  | nil => exact List.forall_mem_nil _
  | cons x xs ih =>
      have head := le x (List.mem_cons_self ..)
      have rest : ∀ y ∈ xs, (f y).length ≤ (g y).length :=
        fun y member => le y (List.mem_cons_of_mem _ member)
      have tail := length_flatMap_le rest
      simp only [List.flatMap_cons, List.length_append] at total
      rw [List.forall_mem_cons]
      exact ⟨by omega, ih (by omega) rest⟩

/-- A list rebuilt from singletons is made of its own elements. -/
theorem eq_of_flatMap_singletons {f : α → List α} {xs : List α}
    (single : ∀ x ∈ xs, ∃ y, f x = [y]) (rebuilt : xs = xs.flatMap f) : ∀ x ∈ xs, f x = [x] := by
  induction xs with
  | nil => exact List.forall_mem_nil _
  | cons x xs ih =>
      obtain ⟨y, first⟩ := single x (List.mem_cons_self ..)
      rw [List.flatMap_cons, first, List.singleton_append] at rebuilt
      obtain ⟨rfl, rest⟩ := List.cons.inj rebuilt
      rw [List.forall_mem_cons]
      exact ⟨first, ih (fun z member => single z (List.mem_cons_of_mem _ member)) rest⟩

/-! ## Entries by key -/

/-- In a table without repeated keys the first entry for a key is the only one. -/
theorem find?_key_iff [DecidableEq α] {table : List (α × β)} (distinct : (table.map Prod.fst).Nodup)
    {a : α} {b : β} :
    (table.find? fun entry => entry.1 = a).map Prod.snd = some b ↔ (a, b) ∈ table := by
  induction table with
  | nil => simp
  | cons entry table ih =>
      rw [List.map_cons, List.nodup_cons] at distinct
      rw [List.find?_cons, List.mem_cons]
      by_cases here : entry.1 = a
      · simp only [here, decide_true, Option.map_some, Option.some_inj]
        constructor
        · intro same
          exact .inl (Prod.ext here.symm same.symm)
        · intro given
          rcases given with equal | later
          · rw [← equal]
          · have again : entry.1 ∈ table.map Prod.fst := by
              rw [here]
              exact List.mem_map.mpr ⟨_, later, rfl⟩
            exact absurd again distinct.1
      · simp only [here, decide_false, ih distinct.2]
        constructor
        · exact .inr
        · intro given
          rcases given with equal | later
          · exact absurd (congrArg Prod.fst equal).symm here
          · exact later

/-- What a search over a list without repetitions makes of its only hit. -/
theorem filterMap_eq_singleton {f : α → Option β} {xs : List α} (distinct : xs.Nodup) {x : α} {y : β}
    (member : x ∈ xs) (hit : f x = some y) (only : ∀ z ∈ xs, f z ≠ none → z = x) :
    xs.filterMap f = [y] := by
  induction xs with
  | nil => cases member
  | cons z xs ih =>
      obtain ⟨fresh, rest⟩ := List.nodup_cons.mp distinct
      rcases List.mem_cons.mp member with equal | later
      · have none : xs.filterMap f = [] := by
          rw [List.filterMap_eq_nil_iff]
          intro w inRest
          by_contra some
          have same := only w (List.mem_cons_of_mem _ inRest) some
          rw [same, equal] at inRest
          exact fresh inRest
        rw [← equal, List.filterMap_cons_some hit, none]
      · have skip : f z = none := by
          by_contra some
          have same := only z (List.mem_cons_self ..) some
          exact fresh (same ▸ later)
        rw [List.filterMap_cons_none skip]
        exact ih rest later fun w inRest => only w (List.mem_cons_of_mem _ inRest)

/-- The only hit of a search comes from one element, and from no other. -/
theorem exists_of_filterMap_eq_singleton {f : α → Option β} {xs : List α} {y : β}
    (single : xs.filterMap f = [y]) :
    ∃ x ∈ xs, f x = some y ∧ ∀ z ∈ xs, f z ≠ none → z = x := by
  induction xs with
  | nil => cases single
  | cons x xs ih =>
      cases hit : f x with
      | none =>
          rw [List.filterMap_cons_none hit] at single
          obtain ⟨x', member, hit', only⟩ := ih single
          refine ⟨x', List.mem_cons_of_mem _ member, hit', fun z inside some => ?_⟩
          rcases List.mem_cons.mp inside with equal | later
          · rw [equal] at some
            exact absurd hit some
          · exact only z later some
      | some y' =>
          rw [List.filterMap_cons_some hit] at single
          obtain ⟨same, others⟩ := List.cons.inj single
          refine ⟨x, List.mem_cons_self .., by rw [hit, same], fun z inside some => ?_⟩
          rcases List.mem_cons.mp inside with equal | later
          · exact equal
          · exact absurd (List.filterMap_eq_nil_iff.mp others z later) some

/-! ## Loops that may raise -/

section Loops

variable {ε : Type} {f : β → α → Except ε β} {xs : List α}

/-- A loop in which no step raises is the loop of what the steps return. -/
theorem foldlM_eq_foldl {g : β → α → β} (returns : ∀ b, ∀ x ∈ xs, f b x = .ok (g b x)) (b : β) :
    xs.foldlM f b = .ok (xs.foldl g b) := by
  induction xs generalizing b with
  | nil => rfl
  | cons x xs ih =>
      rw [List.foldlM_cons, returns b x (List.mem_cons_self ..)]
      exact ih (fun b y member => returns b y (List.mem_cons_of_mem _ member)) _

/-- A loop over an element at which it cannot but raise raises, there or before. -/
theorem foldlM_raises (raises : ∃ x ∈ xs, ∀ b, ∃ e, f b x = .error e) (b : β) :
    ∃ e, xs.foldlM f b = .error e := by
  induction xs generalizing b with
  | nil =>
      obtain ⟨x, member, -⟩ := raises
      cases member
  | cons y xs ih =>
      rw [List.foldlM_cons]
      cases here : f b y with
      | error e => exact ⟨e, rfl⟩
      | ok after =>
          obtain ⟨x, member, always⟩ := raises
          rcases List.mem_cons.mp member with rfl | member
          · obtain ⟨e, raised⟩ := always b
            cases here.symm.trans raised
          · exact ih ⟨x, member, always⟩ after

end Loops

/-! ## The last hit of a search -/

/-- A loop that overwrites its result at every hit ends with the last one. -/
theorem foldl_overwrite (p : α → Bool) (hit : β → α → β)
    (absorb : ∀ b x y, hit (hit b x) y = hit b y) (xs : List α) (b : β) :
    xs.foldl (fun b x => if p x then hit b x else b) b =
      match (xs.filter p).getLast? with
      | some x => hit b x
      | none => b := by
  induction xs generalizing b with
  | nil => rfl
  | cons x xs ih =>
      rw [List.foldl_cons, ih]
      by_cases holds : p x = true
      · rw [List.filter_cons_of_pos holds, List.getLast?_cons, if_pos holds]
        cases last : (xs.filter p).getLast? with
        | none => rfl
        | some y => exact absorb b x y
      · rw [List.filter_cons_of_neg holds, if_neg holds]

/-- The last hit does not depend on the order of a list exactly when the list has no two
different elements to hit. -/
theorem getLast?_filter_perm_iff [DecidableEq α] (p : α → Bool) (xs : List α) :
    (∀ ys zs : List α, ys.Perm xs → zs.Perm xs → (ys.filter p).getLast? = (zs.filter p).getLast?) ↔
      ∀ x ∈ xs, ∀ y ∈ xs, p x = true → p y = true → x = y := by
  constructor
  · intro same x inX y inY hitX hitY
    -- put either of the two at the end
    have toEnd : ∀ z ∈ xs, (xs.erase z ++ [z]).Perm xs := by
      intro z member
      exact (List.perm_append_singleton z _).trans (List.perm_cons_erase member).symm
    have last := same _ _ (toEnd x inX) (toEnd y inY)
    simpa [List.filter_append, hitX, hitY] using last
  · intro unique ys zs permY permZ
    have perm : (ys.filter p).Perm (zs.filter p) := (permY.trans permZ.symm).filter p
    cases lastY : (ys.filter p).getLast? with
    | none =>
        rw [List.getLast?_eq_none_iff] at lastY
        rw [lastY] at perm
        rw [List.nil_perm.mp perm]
        rfl
    | some y =>
        cases lastZ : (zs.filter p).getLast? with
        | none =>
            rw [List.getLast?_eq_none_iff] at lastZ
            rw [lastZ] at perm
            rw [List.perm_nil.mp perm] at lastY
            cases lastY
        | some z =>
            have hitY := List.mem_filter.mp (List.mem_of_getLast? lastY)
            have hitZ := List.mem_filter.mp (List.mem_of_getLast? lastZ)
            rw [unique y (permY.subset hitY.1) z (permZ.subset hitZ.1) hitY.2 hitZ.2]

end Lists
