/-
# Ring buffers

A ring of `size` slots keeps its elements in the slots from `front` on, modulo `size`, oldest
first; `back` is the slot behind the last of them, and `count` says how many there are.  When
the two indexes meet, the ring is empty or full, and the count tells which.  What the other slots
hold does not matter.

A ring is a bounded queue (`Ring.toQueue`): writing at `back` enqueues, and reading at `front`
dequeues (`Ring.enqueue_toQueue`, `Ring.dequeue_toQueue`).  A ring without slots is the queue
that is always empty and full.
-/

import Mathlib.Data.Nat.ModEq
import Mathlib.Logic.Function.Basic
import LibCSP.Basis.Queue

namespace Basis

/-- The indexes of a ring with `size` slots, and what its slots hold. -/
structure Ring (α : Type*) (size : ℕ) where
  slot : ℕ → α
  count : ℕ
  front : ℕ
  back : ℕ
  count_le : count ≤ size
  front_lt : 0 < size → front < size
  back_eq : back = (front + count) % size

namespace Ring

variable {α : Type*} {size : ℕ}

/-- A ring without elements. -/
def empty (slot : ℕ → α) : Ring α size where
  slot := slot
  count := 0
  front := 0
  back := 0
  count_le := Nat.zero_le _
  front_lt := id
  back_eq := (Nat.zero_mod size).symm

/-- The elements, oldest first. -/
def contents (r : Ring α size) : List α :=
  (List.range r.count).map fun k => r.slot ((r.front + k) % size)

/-- A ring holds as many elements as it counts. -/
@[simp] theorem length_contents (r : Ring α size) : r.contents.length = r.count := by
  rw [contents, List.length_map, List.length_range]

/-- The ring as a queue. -/
def toQueue (r : Ring α size) : Queue α size := ⟨r.contents, r.length_contents ▸ r.count_le⟩

/-- Write an element at `back`. -/
def put (r : Ring α size) (x : α) (h : r.count < size) : Ring α size where
  slot := Function.update r.slot r.back x
  count := r.count + 1
  front := r.front
  back := (r.back + 1) % size
  count_le := h
  front_lt := r.front_lt
  back_eq := by rw [r.back_eq, Nat.mod_add_mod, Nat.add_assoc]

/-- Leave out the element at `front`. -/
def drop (r : Ring α size) (h : 0 < r.count) : Ring α size where
  slot := r.slot
  count := r.count - 1
  front := (r.front + 1) % size
  back := r.back
  count_le := (Nat.sub_le _ _).trans r.count_le
  front_lt := Nat.mod_lt _
  back_eq := by
    rw [r.back_eq, Nat.mod_add_mod]
    congr 1
    omega

/-- The place behind the last element is one of the ring. -/
theorem back_lt (r : Ring α size) (h : 0 < size) : r.back < size := r.back_eq ▸ Nat.mod_lt _ h

/-- No element lies in the slot behind the last one. -/
theorem slot_ne_back (r : Ring α size) (h : r.count < size) {k : ℕ} (hk : k < r.count) :
    (r.front + k) % size ≠ r.back := by
  intro he
  rw [r.back_eq] at he
  have hmod : k ≡ r.count [MOD size] := Nat.ModEq.add_left_cancel' r.front he
  exact absurd (Nat.ModEq.eq_of_lt_of_lt hmod (hk.trans h) h) (Nat.ne_of_lt hk)

/-- **A write at `back` appends.** -/
theorem contents_put (r : Ring α size) (x : α) (h : r.count < size) :
    (r.put x h).contents = r.contents ++ [x] := by
  have hold : (List.range r.count).map (fun k => (r.put x h).slot ((r.front + k) % size)) =
      r.contents := by
    refine List.map_congr_left fun k hk => ?_
    exact Function.update_of_ne (r.slot_ne_back h (List.mem_range.1 hk)) x r.slot
  have hnew : (r.put x h).slot ((r.front + r.count) % size) = x := by
    rw [← r.back_eq]
    exact Function.update_self r.back x r.slot
  rw [contents, show (r.put x h).count = r.count + 1 from rfl, List.range_succ, List.map_append,
    show (r.put x h).front = r.front from rfl, hold, List.map_singleton, hnew]

/-- **The element at `front` is the oldest.** -/
theorem contents_drop (r : Ring α size) (h : 0 < r.count) :
    r.contents = r.slot r.front :: (r.drop h).contents := by
  have hfront : r.front % size = r.front := Nat.mod_eq_of_lt (r.front_lt (h.trans_le r.count_le))
  have hcount : r.count = (r.drop h).count + 1 := (Nat.succ_pred_eq_of_pos h).symm
  rw [contents, hcount, List.range_succ_eq_map, List.map_cons, List.map_map, Nat.add_zero, hfront]
  refine congrArg _ (List.map_congr_left fun k _ => ?_)
  show r.slot ((r.front + (k + 1)) % size) = r.slot (((r.front + 1) % size + k) % size)
  rw [Nat.mod_add_mod, Nat.add_assoc, Nat.add_comm 1 k]

/-! ### The queue -/

/-- A put is an enqueue of the queue that the ring holds. -/
theorem enqueue_toQueue (r : Ring α size) (x : α) (h : r.count < size) :
    r.toQueue.enqueue x = some (r.put x h).toQueue := by
  refine Queue.enqueue_eq_some.2 ⟨?_, r.contents_put x h⟩
  show r.contents.length < size
  rwa [length_contents]

/-- A drop is a dequeue of the queue that the ring holds. -/
theorem dequeue_toQueue (r : Ring α size) (h : 0 < r.count) :
    r.toQueue.dequeue = some (r.slot r.front, (r.drop h).toQueue) :=
  Queue.dequeue_eq_some.2 (r.contents_drop h)

end Ring
end Basis
