/-
# Tables with keys

A table has places, some of which are in use, and what is in use has a key.  A key is
looked up by going through the places in some order (`findKey`).  When no two places in use
have one key, the order does not matter (`findKey_eq_some_iff`).

The keys stay different while places are given up, and when a place is given out under a
key that no place in use has (`injOn_give`).
-/

import Mathlib.Data.Set.Function
import Mathlib.Data.List.FinRange

namespace Basis

variable {ι κ : Type*}

/-! ### Different keys -/

section InjOn

variable {key key' : ι → κ} {used used' : Set ι}

/-- **Places are given up**, and what stays in use keeps its key. -/
theorem injOn_keep (h : Set.InjOn key used)
    (hkeep : ∀ j ∈ used', j ∈ used ∧ key' j = key j) : Set.InjOn key' used' := by
  intro i hi j hj hij
  obtain ⟨hiu, hik⟩ := hkeep i hi
  obtain ⟨hju, hjk⟩ := hkeep j hj
  exact h hiu hju (hik.symm.trans (hij.trans hjk))

/-- **A place is given out** under a key that is not in use. -/
theorem injOn_give {i : ι} (h : Set.InjOn key used)
    (hkeep : ∀ j ∈ used', j ≠ i → j ∈ used ∧ key' j = key j)
    (hnew : i ∈ used' → ∀ j ∈ used, key j ≠ key' i) : Set.InjOn key' used' := by
  have hother : ∀ j ∈ used', j ≠ i → i ∈ used' → key' j ≠ key' i := by
    intro j hj hji hi
    obtain ⟨hju, hjk⟩ := hkeep j hj hji
    rw [hjk]
    exact hnew hi j hju
  intro j hj k hk hjk
  by_cases hji : j = i
  · by_cases hki : k = i
    · exact hji.trans hki.symm
    · subst hji
      exact absurd hjk.symm (hother k hk hki hj)
  · by_cases hki : k = i
    · subst hki
      exact absurd hjk (hother j hj hji hk)
    · obtain ⟨hju, hjk'⟩ := hkeep j hj hji
      obtain ⟨hku, hkk'⟩ := hkeep k hk hki
      exact h hju hku (hjk'.symm.trans (hjk.trans hkk'))

end InjOn

/-! ### Looking up a key -/

section Find

variable [BEq κ] [LawfulBEq κ] {used : ι → Bool} {key : ι → κ} {k : κ} {l : List ι} {i : ι}

/-- The first place in use with this key, in the order of the list. -/
def findKey (used : ι → Bool) (key : ι → κ) (k : κ) (l : List ι) : Option ι :=
  l.find? fun i => used i && key i == k

/-- Nothing is found exactly if no used entry has the key. -/
theorem findKey_eq_none_iff :
    findKey used key k l = none ↔ ∀ i ∈ l, used i = true → key i ≠ k := by
  unfold findKey
  rw [List.find?_eq_none]
  refine forall₂_congr fun i _ => ?_
  rw [Bool.and_eq_true, not_and, beq_iff_eq]

/-- What is found is used and has the key. -/
theorem findKey_spec (h : findKey used key k l = some i) :
    i ∈ l ∧ used i = true ∧ key i = k := by
  have hi := List.find?_some h
  rw [Bool.and_eq_true, beq_iff_eq] at hi
  exact ⟨List.mem_of_find?_eq_some h, hi⟩

/-- **Under different keys the order does not matter.** -/
theorem findKey_eq_some_iff (h : Set.InjOn key {i | used i = true}) (hl : ∀ i, i ∈ l) :
    findKey used key k l = some i ↔ used i = true ∧ key i = k := by
  refine ⟨fun hi => (findKey_spec hi).2, fun ⟨hi, hk⟩ => ?_⟩
  cases hfind : findKey used key k l with
  | none => exact absurd hk (findKey_eq_none_iff.1 hfind i (hl i) hi)
  | some j =>
    obtain ⟨-, hj, hjk⟩ := findKey_spec hfind
    rw [h hj hi (hjk.trans hk.symm)]

/-- **In general the first place is found.** -/
theorem findKey_finRange_iff {N : ℕ} {used : Fin N → Bool} {key : Fin N → κ} {i : Fin N} :
    findKey used key k (List.finRange N) = some i ↔
      (used i = true ∧ key i = k) ∧ ∀ j < i, used j = true → key j ≠ k := by
  unfold findKey
  rw [← Fin.find?_eq_find?_finRange, Fin.find?_eq_some_iff, Bool.and_eq_true, beq_iff_eq]
  refine and_congr_right fun _ => forall₂_congr fun j _ => ?_
  rw [Bool.and_eq_false_imp, beq_eq_false_iff_ne]

end Find

end Basis
