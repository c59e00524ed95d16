/-
# Linked lists in memory

A cell has a field with the next cell, or none.  `Chain next p l` says that `p` and the cells
after it are `l`; a chain comes to an end, so no cell is in it twice (`Chain.nodup`).

A program goes along a chain by reading the field: `cells` to the end, `walk` to the first match or
the last cell.  Both have a bound on the steps, and come to their end within the length of the
chain (`Chain.cells_eq`, `Chain.walk_eq`).  A cell that is not in the chain is appended by writing
two fields (`Chain.append`).
-/

import Mathlib.Data.List.Nodup
import Mathlib.Logic.Function.Basic

namespace Basis

variable {α : Type*}

/-- The cells from `p` on. -/
inductive Chain (next : α → Option α) : Option α → List α → Prop
  | nil : Chain next none []
  | cons {p : α} {l : List α} : Chain next (next p) l → Chain next (some p) (p :: l)

namespace Chain

variable {next : α → Option α} {p : Option α} {q r : α} {l l' : List α}

/-- The cells that a walk meets are determined by where it begins. -/
theorem unique (h : Chain next p l) (h' : Chain next p l') : l = l' := by
  induction h generalizing l' with
  | nil =>
    cases h'
    rfl
  | cons _ ih =>
    cases h' with
    | cons h' => rw [ih h']

/-- A cell in a chain begins a chain. -/
theorem suffix (h : Chain next p l) (hq : q ∈ l) :
    ∃ l', Chain next (some q) (q :: l') ∧ (q :: l').length ≤ l.length := by
  induction h with
  | nil => exact absurd hq List.not_mem_nil
  | @cons p l hl ih =>
    rcases List.mem_cons.1 hq with rfl | hq
    · exact ⟨l, .cons hl, Nat.le_refl _⟩
    · obtain ⟨l', hl', hlen⟩ := ih hq
      exact ⟨l', hl', Nat.le_trans hlen (Nat.le_succ _)⟩

/-- **No cell is in a chain twice.** -/
theorem nodup (h : Chain next p l) : l.Nodup := by
  induction h with
  | nil => exact List.nodup_nil
  | @cons p l hl ih =>
    refine List.nodup_cons.2 ⟨fun hp => ?_, ih⟩
    obtain ⟨l', hl', hlen⟩ := hl.suffix hp
    have heq := unique hl' (.cons hl)
    rw [heq, List.length_cons] at hlen
    exact Nat.not_succ_le_self _ hlen

/-- The last cell has no next one. -/
theorem next_last (h : Chain next p (l ++ [q])) : next q = none := by
  induction l generalizing p with
  | nil =>
    cases h with
    | cons h =>
      cases hn : next q with
      | none => rfl
      | some a =>
        rw [hn] at h
        cases h
  | cons a l ih =>
    cases h with
    | cons h => exact ih h

/-- **A cell is appended**: the field of the last cell is set to it, and its own is cleared. -/
theorem append [DecidableEq α] (h : Chain next p (l ++ [q])) (hr : r ∉ l ++ [q]) :
    Chain (Function.update (Function.update next q (some r)) r none) p (l ++ [q, r]) := by
  induction l generalizing p with
  | nil =>
    have hqr : q ≠ r := fun h => hr (by rw [h]; exact List.mem_singleton_self r)
    cases h with
    | cons h =>
      refine .cons ?_
      rw [Function.update_of_ne hqr, Function.update_self]
      refine .cons ?_
      rw [Function.update_self]
      exact .nil
  | cons a l ih =>
    have hnodup := h.nodup
    cases h with
    | cons h =>
      have har : a ≠ r := fun h => hr (h ▸ List.mem_cons_self)
      have haq : a ≠ q := by
        rintro rfl
        exact (List.nodup_cons.1 hnodup).1 (List.mem_append_right _ (List.mem_singleton_self a))
      refine .cons ?_
      rw [Function.update_of_ne har, Function.update_of_ne haq]
      exact ih h fun hmem => hr (List.mem_cons_of_mem a hmem)

end Chain

/-! ### Going along a chain -/

/-- `for (i = p; i; i = i->next)`, with at most `fuel` cells. -/
def cells (next : α → Option α) : ℕ → Option α → Option (List α)
  | _, none => some []
  | 0, some _ => none
  | fuel + 1, some p => (cells next fuel (next p)).map (p :: ·)

/-- `while (i != stop && i->next) i = i->next`, with at most `fuel` cells: the last `i`. -/
def walk [DecidableEq α] (next : α → Option α) (stop : α) : ℕ → α → Option α
  | 0, _ => none
  | fuel + 1, i =>
    if i = stop then some i
    else
      match next i with
      | none => some i
      | some j => walk next stop fuel j

namespace Chain

variable {next : α → Option α} {p : Option α} {q stop : α} {l : List α} {fuel : ℕ}

/-- With enough fuel the walk meets exactly the cells of the chain. -/
theorem cells_eq (h : Chain next p l) (hfuel : l.length ≤ fuel) : cells next fuel p = some l := by
  induction h generalizing fuel with
  | nil => cases fuel <;> rfl
  | cons _ ih =>
    obtain ⟨fuel, rfl⟩ := Nat.exists_eq_add_of_le' (Nat.le_trans (Nat.succ_pos _) hfuel)
    rw [cells, ih (Nat.le_of_succ_le_succ hfuel), Option.map_some]

/-- **The walk ends** at the match if there is one, else at the last cell. -/
theorem walk_eq [DecidableEq α] (h : Chain next (some q) l) (hfuel : l.length ≤ fuel) :
    walk next stop fuel q = if stop ∈ l then some stop else l.getLast? := by
  induction fuel generalizing q l with
  | zero =>
    cases h with
    | cons h => exact absurd hfuel (Nat.not_succ_le_zero _)
  | succ fuel ih =>
    cases h with
    | @cons _ l h =>
      rw [walk]
      by_cases hq : q = stop
      · rw [if_pos hq, if_pos (hq ▸ List.mem_cons_self), hq]
      · rw [if_neg hq]
        cases hn : next q with
        | none =>
          rw [hn] at h
          cases h
          rw [if_neg (by simpa using Ne.symm hq)]
          rfl
        | some j =>
          rw [hn] at h
          obtain ⟨a, l, rfl⟩ : ∃ a l', l = a :: l' := by
            cases h
            exact ⟨_, _, rfl⟩
          have hmem : stop ∈ q :: a :: l ↔ stop ∈ a :: l := by
            rw [List.mem_cons]
            exact or_iff_right (Ne.symm hq)
          have hlast : (q :: a :: l).getLast? = (a :: l).getLast? := List.getLast?_cons_cons
          simp only [hmem, hlast]
          exact ih h (Nat.le_of_succ_le_succ hfuel)

end Chain

end Basis
