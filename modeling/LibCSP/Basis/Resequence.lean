/-
# A sequence from arrivals in disorder

The items of a sequence are known by their places 0, 1, 2, …  They arrive in disorder, some
more than once and some never.  A resequencer knows the places it has got, and is through with
those in front of the first one missing.  An arrival up to `window` places ahead of that is
taken in, and one further ahead is dropped (`accept`).

It is through with a sequence, or with `n` places of it, in two ways whatever else arrives: if
they arrive in order at least once (`le_firstMissing_of_sublist`), or if those that it has not
got lie in the window and arrive in any order (`le_firstMissing_of_mem`).
-/

import Mathlib.Data.Fintype.EquivFin
import Mathlib.Data.Nat.Find

namespace Basis

/-! ### The first place missing -/

/-- A finite set misses a number. -/
theorem exists_missing (got : Finset ℕ) : ∃ k, k ∉ got := Infinite.exists_notMem_finset got

/-- The first place that is not among these. -/
def firstMissing (got : Finset ℕ) : ℕ := Nat.find (exists_missing got)

variable {got got' : Finset ℕ} {window j n : ℕ}

/-- The first missing number is missing. -/
theorem firstMissing_notMem (got : Finset ℕ) : firstMissing got ∉ got :=
  Nat.find_spec (exists_missing got)

/-- A number is at most the first missing one exactly if all in front of it are there. -/
theorem le_firstMissing_iff : n ≤ firstMissing got ↔ ∀ k < n, k ∈ got := by
  unfold firstMissing
  rw [Nat.le_find_iff]
  simp only [not_not]

/-- What is in front of the first missing number is there. -/
theorem mem_of_lt_firstMissing (h : j < firstMissing got) : j ∈ got :=
  le_firstMissing_iff.1 le_rfl j h

/-- The missing number with all in front of it is the first. -/
theorem firstMissing_eq (hn : n ∉ got) (h : ∀ k < n, k ∈ got) : firstMissing got = n := by
  refine le_antisymm ?_ (le_firstMissing_iff.2 h)
  by_contra hlt
  exact hn (mem_of_lt_firstMissing (Nat.lt_of_not_le hlt))

/-- Of nothing the first one is missing. -/
theorem firstMissing_empty : firstMissing ∅ = 0 :=
  firstMissing_eq (Finset.notMem_empty 0) fun _ hk => absurd hk (Nat.not_lt_zero _)

/-- More numbers do not bring the first missing one back. -/
theorem firstMissing_mono (h : got ⊆ got') : firstMissing got ≤ firstMissing got' :=
  le_firstMissing_iff.2 fun _ hk => h (mem_of_lt_firstMissing hk)

/-- A place further on does not close the gap. -/
theorem firstMissing_insert (h : j ≠ firstMissing got) :
    firstMissing (insert j got) = firstMissing got := by
  refine firstMissing_eq (fun hmem => ?_) fun k hk =>
    Finset.mem_insert_of_mem (mem_of_lt_firstMissing hk)
  rcases Finset.mem_insert.1 hmem with heq | hmem
  · exact h heq.symm
  · exact firstMissing_notMem got hmem

/-! ### Arrivals -/

/-- One arrival. -/
def accept (window : ℕ) (got : Finset ℕ) (j : ℕ) : Finset ℕ :=
  if j < firstMissing got + window then insert j got else got

/-- All arrivals, from these places on. -/
def resequence (window : ℕ) (got : Finset ℕ) (as : List ℕ) : Finset ℕ :=
  as.foldl (accept window) got

/-- Within the window a number is accepted. -/
theorem accept_of_lt (h : j < firstMissing got + window) : accept window got j = insert j got :=
  if_pos h

/-- What is there, or too far ahead, changes nothing. -/
theorem accept_eq_self (h : j ∈ got ∨ firstMissing got + window ≤ j) :
    accept window got j = got := by
  unfold accept
  split
  · rename_i hlt
    exact Finset.insert_eq_of_mem (h.resolve_right (Nat.not_le.2 hlt))
  · rfl

/-- What was accepted stays. -/
theorem subset_accept (window : ℕ) (got : Finset ℕ) (j : ℕ) : got ⊆ accept window got j := by
  unfold accept
  split
  · exact Finset.subset_insert j got
  · exact Finset.Subset.refl got

/-- What is there afterwards was there, or came in. -/
theorem mem_of_mem_accept {k : ℕ} (h : k ∈ accept window got j) : k = j ∨ k ∈ got := by
  unfold accept at h
  split at h
  · exact Finset.mem_insert.1 h
  · exact .inr h

/-- What was there before stays, whatever comes in. -/
theorem subset_resequence (window : ℕ) (got : Finset ℕ) (as : List ℕ) :
    got ⊆ resequence window got as := by
  induction as generalizing got with
  | nil => exact Finset.Subset.refl got
  | cons j as ih => exact (subset_accept window got j).trans (ih _)

/-- Arrivals in two portions. -/
theorem resequence_append (window : ℕ) (got : Finset ℕ) (as bs : List ℕ) :
    resequence window got (as ++ bs) = resequence window (resequence window got as) bs :=
  List.foldl_append

/-- What lies in the window of the beginning lies in the window until it arrives. -/
theorem mem_resequence {as : List ℕ} (hlt : j < firstMissing got + window) (h : j ∈ as) :
    j ∈ resequence window got as := by
  induction as generalizing got with
  | nil => exact absurd h List.not_mem_nil
  | cons i as ih =>
    rcases List.mem_cons.1 h with rfl | h
    · refine subset_resequence window _ as ?_
      rw [accept_of_lt hlt]
      exact Finset.mem_insert_self j got
    · refine ih (hlt.trans_le ?_) h
      exact Nat.add_le_add_right (firstMissing_mono (subset_accept window got i)) window

/-- **A window full of places in any order:** if each of the first `n` is there or arrives, and
they lie in the window, none of them is missing in the end. -/
theorem le_firstMissing_of_mem {as : List ℕ} (hn : n ≤ firstMissing got + window)
    (h : ∀ k < n, k ∈ got ∨ k ∈ as) : n ≤ firstMissing (resequence window got as) := by
  refine le_firstMissing_iff.2 fun k hk => ?_
  rcases h k hk with hmem | hmem
  · exact subset_resequence window got as hmem
  · exact mem_resequence (hk.trans_le hn) hmem

/-- **Any number of places in order:** if those from `k` on arrive one after another, among
whatever else, none of them is missing in the end. -/
theorem le_firstMissing_of_sublist {as : List ℕ} {k : ℕ} (hw : 0 < window)
    (hk : k ≤ firstMissing got) (h : (List.range' k n).Sublist as) :
    k + n ≤ firstMissing (resequence window got as) := by
  induction as generalizing got k n with
  | nil =>
    have hlen := congrArg List.length (List.sublist_nil.1 h)
    rw [List.length_range', List.length_nil] at hlen
    rw [hlen]
    exact hk
  | cons i as ih =>
    have hmono := firstMissing_mono (subset_accept window got i)
    cases n with
    | zero => exact hk.trans (hmono.trans (firstMissing_mono (subset_resequence window _ as)))
    | succ n =>
      rw [List.range'_succ] at h
      cases h with
      | cons _ h => exact ih (hk.trans hmono) (by rwa [List.range'_succ])
      | cons_cons _ h =>
        -- place `i` arrives, and is no longer missing
        have hnext : i + 1 ≤ firstMissing (accept window got i) := by
          refine le_firstMissing_iff.2 fun m hm => ?_
          rcases Nat.lt_succ_iff_lt_or_eq.1 hm with hlt | rfl
          · exact subset_accept window got i (mem_of_lt_firstMissing (hlt.trans_le hk))
          · rw [accept_of_lt (hk.trans_lt (Nat.lt_add_of_pos_right hw))]
            exact Finset.mem_insert_self m got
        have hrest := ih hnext h
        rwa [Nat.add_right_comm] at hrest

end Basis
