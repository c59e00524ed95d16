/-
# Interleaved sequences

A list of labelled items is an interleaving of sequences, one for each label, if the
items of every label are its sequence, in order (`Interleaves`).  What is known of a
list that is cut in two: the item behind the cut is the next of its sequence
(`Interleaves.next`), and a sequence that is not through has an item behind the cut
(`Interleaves.exists_of_lt`).
-/

import Mathlib.Data.List.Basic

namespace Basis

variable {ι α β : Type*} [DecidableEq ι]

/-- The number of items with label `j`. -/
def labelled (j : ι) (as : List (ι × α)) : ℕ := (as.filter (·.1 = j)).length

/-- The items of label `j`, seen through `g`, are the sequence `seq j`. -/
def Interleaves (g : α → β) (seq : ι → List β) (as : List (ι × α)) : Prop :=
  ∀ j, (as.filter (·.1 = j)).map (fun a => g a.2) = seq j

variable {g : α → β} {seq : ι → List β} {done rest as : List (ι × α)}

/-- One more element counts for its label. -/
theorem labelled_snoc (j : ι) (as : List (ι × α)) (a : ι × α) :
    labelled j (as ++ [a]) = labelled j as + if a.1 = j then 1 else 0 := by
  rw [labelled, labelled, List.filter_append, List.length_append]
  split
  · rename_i h
    rw [List.filter_cons_of_pos (by simpa using h)]
    rfl
  · rename_i h
    rw [List.filter_cons_of_neg (by simpa using h)]
    rfl

/-- **The next item** of a label is the one behind those that are there. -/
theorem Interleaves.next {a : ι × α} (h : Interleaves g seq (done ++ a :: rest)) :
    (seq a.1)[labelled a.1 done]? = some (g a.2) := by
  have hlen : ((done.filter (·.1 = a.1)).map (fun a => g a.2)).length = labelled a.1 done :=
    List.length_map ..
  rw [← h a.1, List.filter_append, List.filter_cons_of_pos (by simp), List.map_append,
    List.map_cons, List.getElem?_append_right (Nat.le_of_eq hlen), hlen, Nat.sub_self,
    List.getElem?_cons_zero]

/-- All items of a label are its whole sequence. -/
theorem Interleaves.labelled_eq (h : Interleaves g seq as) (j : ι) :
    labelled j as = (seq j).length := by
  rw [← h j, List.length_map]
  rfl

/-- **A sequence that is not through** has an item to come. -/
theorem Interleaves.exists_of_lt (h : Interleaves g seq (done ++ rest)) {j : ι}
    (hj : labelled j done < (seq j).length) : ∃ c ∈ rest, c.1 = j := by
  by_contra hnone
  have hnil : rest.filter (·.1 = j) = [] :=
    List.filter_eq_nil_iff.2 fun c hc hcj => hnone ⟨c, hc, of_decide_eq_true hcj⟩
  have hall := h.labelled_eq j
  rw [labelled, List.filter_append, hnil, List.append_nil] at hall
  exact Nat.lt_irrefl _ (hall ▸ hj)

end Basis
