/-
# Taking out what comes next

Elements that carry a number wait in no particular order.  A drain takes out one that has the
number behind the last, then one that has the number behind that, until there is none
(`Drain`).  Which of several elements with one number is taken, and in what order a search
leaves the others, is open.

What comes out carries the numbers behind the first one in their order (`Drain.map_key`), what
is left are the other elements (`Drain.perm`), and as long as the numbers have not come round
to the next one again no longer row of them was waiting (`Drain.isGreatest`).
-/

import Mathlib.Data.List.Iterate
import Mathlib.Data.List.Perm.Basic
import Mathlib.Order.Bounds.Basic

namespace Basis

variable {α κ : Type*}

/-- `Drain key succ c items xs c' rest`: from the elements `items`, with `c` the last number,
`xs` are taken out one after another; then `c'` is the last number and `rest` is left. -/
inductive Drain (key : α → κ) (succ : κ → κ) : κ → List α → List α → κ → List α → Prop
  | done {c : κ} {items : List α} (h : ∀ y ∈ items, key y ≠ succ c) :
      Drain key succ c items [] c items
  | take {c c' : κ} {x : α} {items items' xs rest : List α} (hx : key x = succ c)
      (hperm : (x :: items').Perm items) (h : Drain key succ (succ c) items' xs c' rest) :
      Drain key succ c items (x :: xs) c' rest

namespace Drain

variable {key : α → κ} {succ : κ → κ} {c c' : κ} {items xs rest : List α}

/-- **Nothing is lost.** -/
theorem perm (h : Drain key succ c items xs c' rest) : (xs ++ rest).Perm items := by
  induction h with
  | done _ => exact .refl _
  | take _ hperm _ ih => exact (ih.cons _).trans hperm

/-- **What comes out is consecutive**, whatever the order in which it waited. -/
theorem map_key (h : Drain key succ c items xs c' rest) :
    xs.map key = List.iterate succ (succ c) xs.length := by
  induction h with
  | done _ => rfl
  | take hx _ _ ih => rw [List.map_cons, List.length_cons, List.iterate, hx, ih]

/-- The next number after a drain is that of the last element taken. -/
theorem last_eq (h : Drain key succ c items xs c' rest) : c' = succ^[xs.length] c := by
  induction h with
  | done _ => rfl
  | take _ _ _ ih => rw [ih, List.length_cons, Function.iterate_succ_apply]

/-- What is left has no element with the next number: the drain went as far as it could. -/
theorem rest_ne (h : Drain key succ c items xs c' rest) : ∀ y ∈ rest, key y ≠ succ c' := by
  induction h with
  | done h => exact h
  | take _ _ _ ih => exact ih

/-- With different numbers nothing that is left has a number that came out. -/
theorem rest_not_mem (h : Drain key succ c items xs c' rest) (hnd : (items.map key).Nodup) :
    ∀ y ∈ rest, key y ∉ xs.map key := by
  intro y hy hmem
  have hnd' := (h.perm.map key).nodup_iff.2 hnd
  rw [List.map_append] at hnd'
  exact (List.nodup_append.1 hnd').2.2 _ hmem _ (List.mem_map_of_mem hy) rfl

/-- **The row that came out is the longest there was**, when it did not come round to the
number behind it. -/
theorem isGreatest (h : Drain key succ c items xs c' rest)
    (hwrap : succ^[xs.length] (succ c) ∉ List.iterate succ (succ c) xs.length) :
    IsGreatest {k | ∀ s ∈ List.iterate succ (succ c) k, s ∈ items.map key} xs.length := by
  constructor
  · intro s hs
    rw [← h.map_key] at hs
    exact (h.perm.map key).subset (by rw [List.map_append]; exact List.mem_append_left _ hs)
  · intro k hk
    by_contra hlt
    -- the next number would have been waiting too
    have hmem := hk _ (List.mem_iterate.2 ⟨xs.length, Nat.lt_of_not_le hlt, rfl⟩)
    obtain ⟨y, hy, hkey⟩ := List.mem_map.1 hmem
    rcases List.mem_append.1 (h.perm.symm.subset hy) with hy | hy
    · exact hwrap (hkey ▸ h.map_key ▸ List.mem_map_of_mem hy)
    · refine h.rest_ne y hy ?_
      rw [hkey, h.last_eq, ← Function.iterate_succ_apply, Function.iterate_succ_apply']

end Drain
end Basis
