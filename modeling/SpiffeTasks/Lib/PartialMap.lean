import Mathlib.Data.Set.Function
import Mathlib.Data.List.Nodup
import Std.Data.ExtTreeMap

/-!
# Partial maps

A partial map is a function to `Option`. This module has the two updates, the
ways in which a later map can be compared with an earlier one, and how the
updates relate to them.

1. `extendsOn_put_iff`: when a `put` changes no entry of a given set of keys.
2. `appears_put_iff`: which key a `put` makes appear.
3. `addsAll_nil_iff`, `addsAll_singleton_iff`, `addsAll_put_iff`: what it means to
   add entries under keys of their own.
4. `ofTree_insert`, `ofTree_erase`: a search tree read as a partial map.
-/

/-- A map from keys to entries, `none` where there is no entry. -/
abbrev PartialMap (κ α : Type*) := κ → Option α

namespace PartialMap

variable {κ α : Type*}

/-! ## Comparing two maps -/

/-- Every entry of `f` under a key in `A` is in `g`, unchanged. -/
def ExtendsOn (A : Set κ) (f g : PartialMap κ α) : Prop :=
  ∀ k, k ∈ A → ∀ v, f k = some v → g k = some v

/-- The key `k` has no entry in `f` and has one in `g`. -/
def Appears (f g : PartialMap κ α) (k : κ) : Prop :=
  f k = none ∧ g k ≠ none

/-- `g` is `f` and one entry more for each element of `vs`, each under a key of
its own that has no entry in `f`. -/
def AddsAll (f g : PartialMap κ α) (vs : List α) : Prop :=
  ∃ ks : List κ, ks.length = vs.length ∧ ks.Nodup ∧ (∀ k, k ∈ ks → f k = none) ∧
    (∀ p, p ∈ ks.zip vs → g p.1 = some p.2) ∧ ∀ k, k ∉ ks → g k = f k

theorem extendsOn_refl (A : Set κ) (f : PartialMap κ α) : ExtendsOn A f f :=
  fun _ _ _ h => h

theorem not_appears_self (f : PartialMap κ α) (k : κ) : ¬ Appears f f k :=
  fun h => h.2 h.1

theorem addsAll_nil_iff {f g : PartialMap κ α} : AddsAll f g [] ↔ g = f := by
  constructor
  · rintro ⟨ks, hlen, _, _, _, hrest⟩
    have hks : ks = [] := List.length_eq_zero_iff.mp hlen
    subst hks
    funext k
    exact hrest k List.not_mem_nil
  · rintro rfl
    exact ⟨[], rfl, List.nodup_nil, by simp, by simp, fun _ _ => rfl⟩

/-- Where there is no entry under the default key, an entry is one under a key
that is given. -/
theorem apply_getD {f : PartialMap κ α} {d : κ} (h : f d = none) (key : Option κ) :
    f (key.getD d) = key.bind f := by
  cases key with
  | none => exact h
  | some k => rfl

/-! ## Updates -/

section Updates

variable [DecidableEq κ]

/-- `f` with the entry `v` under `k`, in place of any other. -/
def put (f : PartialMap κ α) (k : κ) (v : α) : PartialMap κ α :=
  Function.update f k (some v)

/-- `f` without an entry under `k`. -/
def remove (f : PartialMap κ α) (k : κ) : PartialMap κ α :=
  Function.update f k none

variable {f g : PartialMap κ α} {k k' : κ} {v w : α}

@[simp] theorem put_same : put f k v k = some v := by simp [put]

@[simp] theorem put_of_ne (h : k' ≠ k) : put f k v k' = f k' := by simp [put, h]

@[simp] theorem remove_same : remove f k k = none := by simp [remove]

@[simp] theorem remove_of_ne (h : k' ≠ k) : remove f k k' = f k' := by simp [remove, h]

theorem put_ne_none (h : f k' ≠ none) : put f k v k' ≠ none := by
  rcases eq_or_ne k' k with rfl | hne
  · rw [put_same]
    exact Option.some_ne_none v
  · rwa [put_of_ne hne]

@[simp] theorem put_put : put (put f k v) k w = put f k w := by simp [put]

theorem put_eq_self_iff : put f k v = f ↔ f k = some v := by
  constructor
  · intro h
    rw [← h, put_same]
  · intro h
    funext k'
    rcases eq_or_ne k' k with rfl | hne
    · rw [put_same, h]
    · rw [put_of_ne hne]

theorem remove_eq_self_iff : remove f k = f ↔ f k = none := by
  constructor
  · intro h
    rw [← h, remove_same]
  · intro h
    funext k'
    rcases eq_or_ne k' k with rfl | hne
    · rw [remove_same, h]
    · rw [remove_of_ne hne]

theorem put_eqOn {A : Set κ} (h : Set.EqOn f g A) (k : κ) (v : α) :
    Set.EqOn (put f k v) (put g k v) A := by
  intro k' hk'
  rcases eq_or_ne k' k with rfl | hne
  · rw [put_same, put_same]
  · rw [put_of_ne hne, put_of_ne hne, h hk']

theorem remove_eqOn {A : Set κ} (h : Set.EqOn f g A) (k : κ) :
    Set.EqOn (remove f k) (remove g k) A := by
  intro k' hk'
  rcases eq_or_ne k' k with rfl | hne
  · rw [remove_same, remove_same]
  · rw [remove_of_ne hne, remove_of_ne hne, h hk']

/-- A `put` keeps the entries under `A` exactly when it does not replace one of
them by another entry. -/
theorem extendsOn_put_iff {A : Set κ} :
    ExtendsOn A f (put f k v) ↔ (k ∈ A → ∀ w, f k = some w → w = v) := by
  constructor
  · intro h hk w hw
    have := h k hk w hw
    rw [put_same, Option.some.injEq] at this
    exact this.symm
  · intro h k' hk' w hw
    rcases eq_or_ne k' k with rfl | hne
    · rw [put_same, h hk' w hw]
    · rw [put_of_ne hne, hw]

theorem appears_put_iff : Appears f (put f k v) k' ↔ k' = k ∧ f k = none := by
  constructor
  · rintro ⟨hf, hg⟩
    rcases eq_or_ne k' k with rfl | hne
    · exact ⟨rfl, hf⟩
    · rw [put_of_ne hne] at hg
      exact absurd hf hg
  · rintro ⟨rfl, hf⟩
    exact ⟨hf, by rw [put_same]; exact Option.some_ne_none v⟩

theorem not_appears_remove : ¬ Appears f (remove f k) k' := by
  rintro ⟨hf, hg⟩
  rcases eq_or_ne k' k with rfl | hne
  · exact hg remove_same
  · rw [remove_of_ne hne] at hg
    exact hg hf

/-! ## Adding entries -/

theorem addsAll_singleton_iff : AddsAll f g [v] ↔ ∃ k, f k = none ∧ g = put f k v := by
  constructor
  · rintro ⟨ks, hlen, _, hnone, hput, hrest⟩
    obtain ⟨k, rfl⟩ := List.length_eq_one_iff.mp hlen
    refine ⟨k, hnone k (by simp), ?_⟩
    funext k'
    rcases eq_or_ne k' k with rfl | hne
    · rw [put_same]
      exact hput (k', v) (by simp)
    · rw [put_of_ne hne]
      exact hrest k' (by simpa using hne)
  · rintro ⟨k, hk, rfl⟩
    refine ⟨[k], rfl, List.nodup_singleton k, by simpa using hk, by simp, ?_⟩
    intro k' hk'
    exact put_of_ne (by simpa using hk')

/-- Where two maps agree off one key, at most one entry was added. -/
theorem AddsAll.length_le_one {vs : List α} (h : AddsAll f g vs)
    (hoff : ∀ k', k' ≠ k → g k' = f k') : vs.length ≤ 1 := by
  obtain ⟨ks, hlen, hnodup, hnone, hput, _⟩ := h
  have hks : ∀ k', k' ∈ ks → k' = k := by
    intro k' hk'
    by_contra hne
    rw [← List.map_fst_zip hlen.le, List.mem_map] at hk'
    obtain ⟨p, hp, rfl⟩ := hk'
    have hsome := hput p hp
    rw [hoff _ hne, hnone _ (List.of_mem_zip hp).1] at hsome
    exact absurd hsome.symm (Option.some_ne_none _)
  rw [← hlen]
  match ks, hnodup, hks with
  | [], _, _ => simp
  | [_], _, _ => simp
  | a :: b :: _, hnodup, hks =>
    have ha := hks a (by simp)
    have hb := hks b (by simp)
    subst ha
    subst hb
    simp at hnodup

/-- A `put` adds at most its own entry. -/
theorem addsAll_put_iff {vs : List α} :
    AddsAll f (put f k v) vs ↔ (vs = [v] ∧ f k = none) ∨ (vs = [] ∧ f k = some v) := by
  constructor
  · intro h
    have hlength := h.length_le_one fun k' hk' => put_of_ne hk'
    match vs, hlength, h with
    | [], _, h => exact .inr ⟨rfl, put_eq_self_iff.mp (addsAll_nil_iff.mp h)⟩
    | [w], _, h =>
      obtain ⟨k', hk', hput⟩ := addsAll_singleton_iff.mp h
      have hw : put f k v k' = some w := by rw [hput, put_same]
      rcases eq_or_ne k' k with rfl | hne
      · rw [put_same, Option.some.injEq] at hw
        exact .inl ⟨by rw [hw], hk'⟩
      · rw [put_of_ne hne, hk'] at hw
        cases hw
  · rintro (⟨rfl, hk⟩ | ⟨rfl, hk⟩)
    · exact addsAll_singleton_iff.mpr ⟨k, hk, rfl⟩
    · exact addsAll_nil_iff.mpr (put_eq_self_iff.mpr hk)

end Updates

/-! ## Search trees -/

section Trees

variable [Ord κ] [Std.TransOrd κ]

/-- The partial map that a search tree stores. -/
def ofTree (t : Std.ExtTreeMap κ α) : PartialMap κ α := fun k => t[k]?

theorem mem_tree_iff {t : Std.ExtTreeMap κ α} {k : κ} : k ∈ t ↔ ofTree t k ≠ none := by
  rw [Std.ExtTreeMap.mem_iff_isSome_getElem?, Option.isSome_iff_ne_none]
  rfl

variable [Std.LawfulEqOrd κ]

theorem ofTree_injective : Function.Injective (ofTree (κ := κ) (α := α)) := by
  intro t t' h
  exact Std.ExtTreeMap.ext_getElem? (congrFun h)

variable [DecidableEq κ]

theorem ofTree_insert (t : Std.ExtTreeMap κ α) (k : κ) (v : α) :
    ofTree (t.insert k v) = (ofTree t).put k v := by
  funext k'
  unfold ofTree
  rw [Std.ExtTreeMap.getElem?_insert]
  split
  · next heq =>
    rw [Std.LawfulEqCmp.compare_eq_iff_eq] at heq
    rw [heq, put_same]
  · next hne =>
    rw [put_of_ne]
    rintro rfl
    exact hne Std.ReflCmp.compare_self

theorem ofTree_erase (t : Std.ExtTreeMap κ α) (k : κ) :
    ofTree (t.erase k) = (ofTree t).remove k := by
  funext k'
  unfold ofTree
  rw [Std.ExtTreeMap.getElem?_erase]
  split
  · next heq =>
    rw [Std.LawfulEqCmp.compare_eq_iff_eq] at heq
    rw [heq, remove_same]
  · next hne =>
    rw [remove_of_ne]
    rintro rfl
    exact hne Std.ReflCmp.compare_self

end Trees

end PartialMap
