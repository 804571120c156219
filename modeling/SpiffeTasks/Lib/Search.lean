import Mathlib.Data.List.Infix

/-!
# Searching a list for a separator

`afterFirst sep l` is what stands after the first occurrence of `sep` in `l`.

1. `afterFirst_eq_some`: what is found stands after an occurrence of `sep`.
2. `afterFirst_eq_none_iff`: nothing is found exactly when `sep` does not occur.
3. `afterFirst_append`: a list that starts with `sep` is split there.
4. `afterFirst_longest`: what stands after any other occurrence is a suffix of
   what is found.
-/

namespace Search

variable {α : Type*} [DecidableEq α]

/-- What stands after the first occurrence of `sep` in a list, if there is one. -/
def afterFirst (sep : List α) : List α → Option (List α)
  | [] => if sep <+: [] then some [] else none
  | a :: l => if sep <+: a :: l then some ((a :: l).drop sep.length) else afterFirst sep l

theorem afterFirst_eq_drop {sep l : List α} (h : sep <+: l) :
    afterFirst sep l = some (l.drop sep.length) := by
  cases l with
  | nil => rw [afterFirst, if_pos h, List.drop_nil]
  | cons a l => rw [afterFirst, if_pos h]

@[simp] theorem afterFirst_append (sep l : List α) : afterFirst sep (sep ++ l) = some l := by
  rw [afterFirst_eq_drop (List.prefix_append sep l), List.drop_left]

theorem afterFirst_eq_some {sep l r : List α} (h : afterFirst sep l = some r) :
    ∃ pre, l = pre ++ (sep ++ r) := by
  induction l with
  | nil =>
    unfold afterFirst at h
    split at h
    · next hp =>
      cases h
      exact ⟨[], by simpa using hp.eq_of_length_le (by simp)⟩
    · exact absurd h (by simp)
  | cons a l ih =>
    unfold afterFirst at h
    split at h
    · next hp =>
      obtain ⟨rest, hrest⟩ := hp
      rw [← hrest, List.drop_left] at h
      cases h
      exact ⟨[], hrest.symm⟩
    · obtain ⟨pre, hpre⟩ := ih h
      exact ⟨a :: pre, by rw [hpre, List.cons_append]⟩

theorem afterFirst_eq_none_iff {sep l : List α} : afterFirst sep l = none ↔ ¬ sep <:+: l := by
  induction l with
  | nil =>
    unfold afterFirst
    split
    · next hp => simpa using hp.isInfix
    · next hp => simpa using hp
  | cons a l ih =>
    unfold afterFirst
    split
    · next hp => simpa using hp.isInfix
    · next hp => rw [ih, List.infix_cons_iff, not_or, and_iff_right hp]

/-- The first occurrence leaves the most behind it. -/
theorem afterFirst_longest (sep pre r : List α) :
    ∃ rest, afterFirst sep (pre ++ (sep ++ r)) = some rest ∧ r <:+ rest := by
  induction pre with
  | nil => exact ⟨r, afterFirst_append sep r, List.suffix_rfl⟩
  | cons a pre ih =>
    rw [List.cons_append]
    unfold afterFirst
    split
    · next hp =>
      refine ⟨_, rfl, ?_⟩
      have hsuffix : r <:+ a :: (pre ++ (sep ++ r)) :=
        ⟨a :: (pre ++ sep), by rw [List.cons_append, List.append_assoc]⟩
      refine List.suffix_of_suffix_length_le hsuffix (List.drop_suffix _ _) ?_
      rw [List.length_drop, List.length_cons, List.length_append, List.length_append]
      omega
    · exact ih

end Search
