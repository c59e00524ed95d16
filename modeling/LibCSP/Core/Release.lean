/-
# Which entry a freed pointer marks

`csp_buffer_free` takes any pointer.  Its distance from `csp_buffer_p`, modulo 2^w, is divided by
the size of an element and the quotient is kept in an `int`; what is negative or above `count` is
ignored.  The elements of the pool continue as a grid through the rest of the address space, and
the pointer lies in one cell of it (`PlacedPool.cell`).

A pointer into the pool frees the element that contains it.  Outside, the cell decides: cell
`count` passes the test and is written although the list ends before it, and so is a cell whose
number has lost its upper bits in the `int` (`PlacedPool.freesRight_iff`).

For pointers that `csp_buffer_get` returned this is the function of `LibCSP.Core.Buffer`
(`PlacedPool.cspBufferFree_offset`).
-/

import LibCSP.Core.Buffer

namespace LibCSP

open Basis

/-- A pool, and where it lies. -/
structure PlacedPool (w : ℕ) extends BufferPool w where
  /-- `csp_buffer_p`. -/
  base : BitVec w
  placed : base.toNat + count * size ≤ 2 ^ w
  count_lt : count < 2 ^ 31

/-- `csp_buffer_list[i] = CSP_BUFFER_FREE`. -/
def Buffers.release (s : Buffers) (i : ℕ) : Buffers :=
  { s with cspBufferList := Function.update s.cspBufferList i .cspBufferFree }

namespace PlacedPool

variable {w : ℕ}

/-- The entry of `csp_buffer_list` that `csp_buffer_free` writes. -/
def freedEntry (c : PlacedPool w) (packet : BitVec w) : Option ℕ :=
  let i : ℤ := (((packet - c.base) / BitVec.ofNat w c.size).setWidth 32).toInt
  if i < 0 ∨ c.count < i then none else some i.toNat

/-- `csp_buffer_free`; `none` is a division by zero. -/
def cspBufferFree (c : PlacedPool w) (packet : BitVec w) (s : Buffers) : Option Buffers :=
  if c.size = 0 then none
  else
    match c.freedEntry packet with
    | none => some s
    | some i => some (s.release i)

/-- The pointer is in `[csp_buffer_p, csp_buffer_p + count * size)`. -/
def Contains (c : PlacedPool w) (packet : BitVec w) : Prop :=
  c.base.toNat ≤ packet.toNat ∧ packet.toNat < c.base.toNat + c.count * c.size

/-- The element that contains the pointer becomes free, or nothing changes, and no entry behind the
list is written. -/
structure FreesRight (c : PlacedPool w) (packet : BitVec w) (s : Buffers) : Prop where
  inside : c.Contains packet →
    c.cspBufferFree packet s = some (s.release ((packet.toNat - c.base.toNat) / c.size))
  outside : ¬ c.Contains packet → c.cspBufferFree packet s = some s
  written : ∀ i, c.freedEntry packet = some i → i < c.count

/-- The cell of the pointer in the grid of elements that begins with the pool and goes on through
the address space. -/
def cell (c : PlacedPool w) (packet : BitVec w) : ℕ := (packet - c.base).toNat / c.size

/-- The element that a pointer behind the beginning of the pool points into. -/
theorem cell_eq (c : PlacedPool w) {packet : BitVec w} (h : c.base.toNat ≤ packet.toNat) :
    c.cell packet = (packet.toNat - c.base.toNat) / c.size := by
  have hlt := packet.isLt
  have hbase := c.base.isLt
  rw [cell, BitVec.toNat_sub]
  congr 1
  rw [show 2 ^ w - c.base.toNat + packet.toNat = packet.toNat - c.base.toNat + 2 ^ w by omega,
    Nat.add_mod_right, Nat.mod_eq_of_lt (by omega)]

/-- The pool is the first `count` cells. -/
theorem contains_iff (c : PlacedPool w) (hsize : 0 < c.size) (packet : BitVec w) :
    c.Contains packet ↔ c.cell packet < c.count := by
  have hlt := packet.isLt
  have hplaced := c.placed
  rw [Contains]
  rcases Nat.lt_or_ge packet.toNat c.base.toNat with hbelow | hbelow
  · -- below the pool the distance wraps to the end of the address space
    have hdist : (packet - c.base).toNat = 2 ^ w - c.base.toNat + packet.toNat := by
      have hbase := c.base.isLt
      rw [BitVec.toNat_sub, Nat.mod_eq_of_lt (by omega)]
    have hcell : ¬ c.cell packet < c.count := by
      rw [cell, hdist, Nat.div_lt_iff_lt_mul hsize]
      omega
    exact iff_of_false (fun h => absurd h.1 (Nat.not_le.2 hbelow)) hcell
  · rw [c.cell_eq hbelow, Nat.div_lt_iff_lt_mul hsize]
    omega

/-- **The entry is the cell, in 32 bits**, unless it is negative or above `count`. -/
theorem freedEntry_eq (c : PlacedPool w) (packet : BitVec w) : c.freedEntry packet =
    if 2 ^ 31 ≤ c.cell packet % 2 ^ 32 ∨ c.count < c.cell packet % 2 ^ 32 then none
    else some (c.cell packet % 2 ^ 32) := by
  have hindex : (((packet - c.base) / BitVec.ofNat w c.size).setWidth 32).toNat =
      c.cell packet % 2 ^ 32 := by
    rw [BitVec.toNat_setWidth, BitVec.toNat_udiv, BitVec.toNat_ofNat, Nat.mod_eq_of_lt c.size_lt,
      cell]
  have hlt : c.cell packet % 2 ^ 32 < 2 ^ 32 := Nat.mod_lt _ (by decide)
  have hcount := c.count_lt
  have hint := BitVec.toInt_eq_toNat_cond
    (((packet - c.base) / BitVec.ofNat w c.size).setWidth 32)
  rw [hindex] at hint
  rw [freedEntry]
  split_ifs at hint with hsign
  · rw [hint]
    refine if_congr ?_ rfl ?_
    · omega
    · rw [Int.toNat_natCast]
  · rw [if_pos (Or.inl (by omega)), if_pos (Or.inl (by omega))]

/-- **What `csp_buffer_free` frees.**  It does so rightly in the pool, and outside of it exactly
for pointers whose cell does not become an index up to `count`, or that of an element that is
free. -/
theorem freesRight_iff (c : PlacedPool w) (packet : BitVec w) (s : Buffers) :
    c.FreesRight packet s ↔ 0 < c.size ∧ (c.Contains packet ∨
      2 ^ 31 ≤ c.cell packet % 2 ^ 32 ∨ c.count < c.cell packet % 2 ^ 32 ∨
        (c.cell packet % 2 ^ 32 < c.count ∧
          s.cspBufferList (c.cell packet % 2 ^ 32) = .cspBufferFree)) := by
  rcases Nat.eq_zero_or_pos c.size with hzero | hsize
  · -- a pool of elements of no bytes: the division traps
    have hnone : c.cspBufferFree packet s = none := by rw [cspBufferFree, if_pos hzero]
    have hempty : ¬ c.Contains packet := by
      rw [Contains, hzero]
      omega
    refine iff_of_false (fun h => ?_) (fun h => absurd h.1 (by omega))
    have hsome := h.outside hempty
    rw [hnone] at hsome
    exact absurd hsome.symm (Option.some_ne_none s)
  have hcount := c.count_lt
  have hfree : c.cspBufferFree packet s =
      match c.freedEntry packet with | none => some s | some i => some (s.release i) := by
    rw [cspBufferFree, if_neg (by omega)]
  by_cases hin : c.Contains packet
  · have hcell := (c.contains_iff hsize packet).1 hin
    have hentry : c.freedEntry packet = some (c.cell packet) := by
      rw [freedEntry_eq, Nat.mod_eq_of_lt (by omega), if_neg (by omega)]
    refine iff_of_true ⟨fun _ => ?_, fun h => absurd hin h, fun i hi => ?_⟩ ⟨hsize, Or.inl hin⟩
    · rw [hfree, hentry, ← c.cell_eq hin.1]
    · rw [hentry] at hi
      exact Option.some.inj hi ▸ hcell
  · by_cases hignored : 2 ^ 31 ≤ c.cell packet % 2 ^ 32 ∨ c.count < c.cell packet % 2 ^ 32
    · have hentry : c.freedEntry packet = none := by rw [freedEntry_eq, if_pos hignored]
      refine iff_of_true ⟨fun h => absurd h hin, fun _ => by rw [hfree, hentry], fun i hi => ?_⟩
        ⟨hsize, Or.inr (hignored.imp_right Or.inl)⟩
      rw [hentry] at hi
      cases hi
    · have hentry : c.freedEntry packet = some (c.cell packet % 2 ^ 32) := by
        rw [freedEntry_eq, if_neg hignored]
      constructor
      · intro h
        have hsame := h.outside hin
        rw [hfree, hentry] at hsame
        have hlist := congrArg Buffers.cspBufferList (Option.some.inj hsame)
        have hstate := (Function.update_eq_self_iff.1 hlist).symm
        exact ⟨hsize, Or.inr (Or.inr (Or.inr ⟨h.written _ hentry, hstate⟩))⟩
      · rintro ⟨-, h | h | h | ⟨hlt, hstate⟩⟩
        · exact absurd h hin
        · exact absurd (Or.inl h) hignored
        · exact absurd (Or.inr h) hignored
        · refine ⟨fun h => absurd h hin, fun _ => ?_, fun i hi => ?_⟩
          · rw [hfree, hentry]
            show some { s with cspBufferList := _ } = some s
            rw [Function.update_eq_self_iff.2 hstate.symm]
          · rw [hentry] at hi
            exact Option.some.inj hi ▸ hlt

/-- A pool of two elements of 320 bytes on a 32-bit host. -/
def pool32 : PlacedPool 32 :=
  ⟨⟨.little, 2, 320, by decide⟩, 0x20000000, by decide, by decide⟩

/-- A pool of three such elements on a 64-bit host. -/
def pool64 : PlacedPool 64 :=
  ⟨⟨.little, 3, 320, by decide⟩, 0x10000000000, by decide, by decide⟩

/-- The pointer just behind the first pool: entry 2 is written.  `NULL`, from the second at a
distance of 3355443 · 2³⁴ elements: element 0 is freed, which is in use. -/
theorem not_freesRight_end :
    ¬ pool32.FreesRight 0x20000280 (Buffers.init fun _ => 0) ∧
      ¬ pool64.FreesRight 0 ((Buffers.init fun _ => 0).take 0) := by
  constructor
  · exact fun h => absurd (h.written 2 (by decide)) (by decide)
  · intro h
    have hnull : ¬ pool64.Contains 0 := fun hin => absurd hin.1 (by decide)
    have hentry : pool64.freedEntry 0 = some 0 := by decide
    have hsame := h.outside hnull
    rw [cspBufferFree, if_neg (by decide), hentry] at hsame
    have hstate := congrFun (congrArg Buffers.cspBufferList (Option.some.inj hsame)) 0
    exact absurd hstate (by decide)

/-- A pointer that is an offset into the pool. -/
theorem cspBufferFree_offset (c : PlacedPool w) {offset : ℕ}
    (hoffset : offset < c.count * c.size) (s : Buffers) :
    c.cspBufferFree (c.base + BitVec.ofNat w offset) s = c.toBufferPool.cspBufferFree offset s := by
  have hplaced := c.placed
  have hcount := c.count_lt
  have hsize : 0 < c.size := Nat.pos_of_mul_pos_left (Nat.zero_lt_of_lt hoffset)
  have hcell : c.cell (c.base + BitVec.ofNat w offset) = offset / c.size := by
    rw [cell, BitVec.add_comm, BitVec.add_sub_cancel, BitVec.toNat_ofNat,
      Nat.mod_eq_of_lt (by omega)]
  have hlt : offset / c.size < c.count := (Nat.div_lt_iff_lt_mul hsize).2 hoffset
  rw [cspBufferFree, BufferPool.cspBufferFree, if_neg (by omega), if_neg (by omega), freedEntry_eq,
    hcell, Nat.mod_eq_of_lt (by omega), if_neg (by omega), if_neg (by omega)]
  rfl

end PlacedPool
end LibCSP
