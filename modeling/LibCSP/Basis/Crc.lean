/-
# Cyclic redundancy checks

The register of a reflected CRC: a bit of the message is added to the lowest place, and the
register moves down by one, with the polynomial added if the bit that falls out was set.
A step is linear over exclusive or (`step_xor`), and it loses nothing if the polynomial has
its highest bit (`eq_zero_of_step`).

The rest follows from the two.  A word no longer than the register may be added at once
(`feed_toBits`), and its steps split into those of its low bits, which a table can hold, and
a shift (`iterate_step_split`).  Two messages leave registers that differ by the register of
their difference (`feed_xor_feed`), and a difference confined to a run of bits no longer than
the register does not vanish (`feed_burst_ne_zero`).
-/

import Mathlib.Data.List.GetD
import Mathlib.Logic.Function.Iterate

namespace Basis
namespace Crc

variable {w : ℕ}

/-- The register moves down by one place. -/
def step (poly r : BitVec w) : BitVec w := r >>> 1 ^^^ if r.getLsbD 0 then poly else 0#w

/-- One bit of the message. -/
def shiftIn (poly r : BitVec w) (b : Bool) : BitVec w := step poly (r ^^^ if b then 1#w else 0#w)

/-- The bits of a message, in order. -/
def feed (poly r : BitVec w) (bits : List Bool) : BitVec w := bits.foldl (shiftIn poly) r

/-- The bits of a word, the least significant first. -/
def toBits {v : ℕ} (x : BitVec v) : List Bool := (List.range v).map x.getLsbD

/-- The bits of a message as a word of the register's length. -/
def ofBits (bits : List Bool) : BitVec w := (BitVec.ofBoolListLE bits).setWidth w

/-! ### Words and bits -/

/-- A word has as many bits as it is wide. -/
@[simp] theorem length_toBits {v : ℕ} (x : BitVec v) : (toBits x).length = v := by
  simp [toBits]

/-- The bits of the word that a list of bits fills, as far as it reaches. -/
theorem getLsbD_ofBits (bits : List Bool) (i : ℕ) :
    (ofBits bits : BitVec w).getLsbD i = (decide (i < w) && bits.getD i false) := by
  rw [ofBits, BitVec.getLsbD_setWidth, BitVec.getLsbD_ofBoolListLE]

/-- The list of bits of a word has them at their places. -/
theorem getD_toBits {v : ℕ} (x : BitVec v) (i : ℕ) : (toBits x).getD i false = x.getLsbD i := by
  rw [toBits, List.getD_eq_getElem?_getD, List.getElem?_map]
  by_cases hi : i < v
  · rw [List.getElem?_range hi]
    rfl
  · rw [List.getElem?_eq_none (by rw [List.length_range]; omega), x.getLsbD_of_ge i (by omega)]
    rfl

/-- From a word to its bits and back. -/
theorem ofBits_toBits {v : ℕ} (x : BitVec v) : (ofBits (toBits x) : BitVec w) = x.setWidth w := by
  apply BitVec.eq_of_getLsbD_eq
  intro i hi
  rw [getLsbD_ofBits, getD_toBits, BitVec.getLsbD_setWidth]

/-- The number of bits of a sequence of words. -/
theorem length_flatMap_toBits {v : ℕ} (l : List (BitVec v)) :
    (l.flatMap toBits).length = v * l.length := by
  induction l with
  | nil => rfl
  | cons x l ih =>
    rw [List.flatMap_cons, List.length_append, length_toBits, ih, List.length_cons, Nat.mul_succ,
      Nat.add_comm]

/-- A bit of a message made of words. -/
theorem getD_flatMap_toBits {v : ℕ} (hv : 0 < v) (l : List (BitVec v)) (i : ℕ) :
    (l.flatMap toBits).getD i false = (l.getD (i / v) 0#v).getLsbD (i % v) := by
  induction l generalizing i with
  | nil => simp
  | cons x l ih =>
    rw [List.flatMap_cons]
    rcases Nat.lt_or_ge i v with hi | hi
    · rw [List.getD_append _ _ _ _ (by rwa [length_toBits]), getD_toBits, Nat.div_eq_of_lt hi,
        Nat.mod_eq_of_lt hi]
      rfl
    · rw [List.getD_append_right _ _ _ _ (by rwa [length_toBits]), length_toBits, ih,
        Nat.div_eq_sub_div hv hi, Nat.mod_eq_sub_mod hi]
      rfl

/-- A bit in front of others is the lowest. -/
theorem ofBits_cons (b : Bool) (bits : List Bool) :
    (ofBits (b :: bits) : BitVec w) = ofBits bits <<< 1 ^^^ if b then 1#w else 0#w := by
  apply BitVec.eq_of_getLsbD_eq
  intro i hi
  rw [getLsbD_ofBits, BitVec.getLsbD_xor, BitVec.getLsbD_shiftLeft, getLsbD_ofBits]
  rcases i with _ | i
  · cases b <;> simp [hi]
  · have hi' : i < w := by omega
    cases b <;> simp [hi, hi']

/-- Bits that fit are not lost. -/
theorem ofBits_ne_zero {bits : List Bool} (hlen : bits.length ≤ w) (hmem : true ∈ bits) :
    (ofBits bits : BitVec w) ≠ 0#w := by
  obtain ⟨i, hi, hget⟩ := List.mem_iff_getElem.1 hmem
  intro hzero
  have hbit : (ofBits bits : BitVec w).getLsbD i = true := by
    rw [getLsbD_ofBits, List.getD_eq_getElem _ _ hi, hget, decide_eq_true (by omega)]
    rfl
  rw [hzero, BitVec.getLsbD_zero] at hbit
  exact Bool.false_ne_true hbit

/-- A choice between a word and zero is linear in what it is made by. -/
theorem ite_xor (x : BitVec w) (a b : Bool) :
    (if xor a b then x else 0#w) = (if a then x else 0#w) ^^^ if b then x else 0#w := by
  cases a <;> cases b <;> simp

/-! ### Steps -/

variable (poly : BitVec w)

/-- The register stays zero. -/
@[simp] theorem step_zero : step poly 0#w = 0#w := by simp [step]

/-- **A step is linear.** -/
theorem step_xor (r s : BitVec w) : step poly (r ^^^ s) = step poly r ^^^ step poly s := by
  rw [step, step, step, BitVec.getLsbD_xor, BitVec.ushiftRight_xor_distrib, ite_xor]
  ac_rfl

/-- The register steps linearly, any number of times. -/
theorem iterate_step_xor (n : ℕ) (r s : BitVec w) :
    (step poly)^[n] (r ^^^ s) = (step poly)^[n] r ^^^ (step poly)^[n] s := by
  induction n generalizing r s with
  | zero => rfl
  | succ n ih => rw [Function.iterate_succ_apply, step_xor, ih]; rfl

/-- It stays zero for any number of steps. -/
@[simp] theorem iterate_step_zero (n : ℕ) : (step poly)^[n] 0#w = 0#w :=
  Function.iterate_fixed (step_zero poly) n

/-- **A step loses nothing** if the polynomial has its highest bit: that bit of the new register
is the bit that fell out. -/
theorem eq_zero_of_step {poly : BitVec w} (htop : poly.getLsbD (w - 1) = true) {r : BitVec w}
    (h : step poly r = 0#w) : r = 0#w := by
  have hbit : ∀ i, (step poly r).getLsbD i = false := fun i => by
    rw [h, BitVec.getLsbD_zero]
  have hlow : r.getLsbD 0 = false := by
    have hhigh := hbit (w - 1)
    rw [step, BitVec.getLsbD_xor, BitVec.getLsbD_ushiftRight,
      r.getLsbD_of_ge (1 + (w - 1)) (by omega), Bool.false_xor] at hhigh
    cases hr : r.getLsbD 0
    · rfl
    · rw [if_pos hr, htop] at hhigh
      exact absurd hhigh Bool.true_eq_false.mp
  apply BitVec.eq_of_getLsbD_eq
  intro i hi
  rw [BitVec.getLsbD_zero]
  rcases i with _ | i
  · exact hlow
  · have hshift := hbit i
    rwa [step, hlow, if_neg Bool.false_ne_true, BitVec.xor_zero, BitVec.getLsbD_ushiftRight,
      Nat.add_comm] at hshift

/-- Where the polynomial has its top bit, a register that is not zero never becomes zero. -/
theorem iterate_step_ne_zero {poly : BitVec w} (htop : poly.getLsbD (w - 1) = true) (n : ℕ)
    {r : BitVec w} (hr : r ≠ 0#w) : (step poly)^[n] r ≠ 0#w := by
  induction n generalizing r with
  | zero => exact hr
  | succ n ih => exact ih fun h => hr (eq_zero_of_step htop h)

/-- What does not reach the lowest place is only moved. -/
theorem iterate_step_shift (n : ℕ) {r : BitVec w} (hlow : ∀ i, i < n → r.getLsbD i = false) :
    (step poly)^[n] r = r >>> n := by
  induction n generalizing r with
  | zero => exact (BitVec.ushiftRight_zero r).symm
  | succ n ih =>
    have hstep : step poly r = r >>> 1 := by
      rw [step, hlow 0 (Nat.succ_pos n), if_neg Bool.false_ne_true, BitVec.xor_zero]
    have hrest : ∀ i, i < n → (r >>> 1).getLsbD i = false := fun i hi => by
      rw [BitVec.getLsbD_ushiftRight]
      exact hlow _ (by omega)
    rw [Function.iterate_succ_apply, hstep, ih hrest, ← BitVec.shiftRight_add, Nat.add_comm]

/-- **The steps of a register are those of its low bits and a shift of the rest**, which is how
a table of the low bits replaces them. -/
theorem iterate_step_split (n : ℕ) (r mask : BitVec w)
    (hmask : ∀ i, i < w → mask.getLsbD i = decide (i < n)) :
    (step poly)^[n] r = (step poly)^[n] (r &&& mask) ^^^ r >>> n := by
  have hsplit : r = r &&& mask ^^^ r &&& ~~~mask := by
    apply BitVec.eq_of_getLsbD_eq
    intro i hi
    rw [BitVec.getLsbD_xor, BitVec.getLsbD_and, BitVec.getLsbD_and, BitVec.getLsbD_not]
    cases r.getLsbD i <;> cases mask.getLsbD i <;> simp [hi]
  have hhigh : (step poly)^[n] (r &&& ~~~mask) = r >>> n := by
    rw [iterate_step_shift]
    · apply BitVec.eq_of_getLsbD_eq
      intro i hi
      rw [BitVec.getLsbD_ushiftRight, BitVec.getLsbD_ushiftRight, BitVec.getLsbD_and,
        BitVec.getLsbD_not]
      by_cases hn : n + i < w
      · rw [hmask _ hn, decide_eq_true hn, decide_eq_false (by omega)]
        exact Bool.and_true _
      · rw [r.getLsbD_of_ge _ (Nat.le_of_not_lt hn), Bool.false_and]
    · intro i hi
      rw [BitVec.getLsbD_and, BitVec.getLsbD_not]
      by_cases hw : i < w
      · simp [hw, hmask i hw, hi]
      · simp [hw]
  calc (step poly)^[n] r = (step poly)^[n] (r &&& mask ^^^ r &&& ~~~mask) := by rw [← hsplit]
    _ = (step poly)^[n] (r &&& mask) ^^^ r >>> n := by rw [iterate_step_xor, hhigh]

/-! ### Messages -/

/-- Bits that are fed in two portions. -/
@[simp] theorem feed_append (r : BitVec w) (a b : List Bool) :
    feed poly r (a ++ b) = feed poly (feed poly r a) b := List.foldl_append

/-- The difference of two messages leaves the difference of the registers. -/
theorem feed_xor_feed {a b : List Bool} (hlen : a.length = b.length) (r s : BitVec w) :
    feed poly r a ^^^ feed poly s b = feed poly (r ^^^ s) (List.zipWith xor a b) := by
  induction a generalizing b r s with
  | nil =>
    rw [List.length_nil] at hlen
    rw [List.length_eq_zero_iff.1 hlen.symm]
    rfl
  | cons x a ih =>
    rcases b with _ | ⟨y, b⟩
    · simp at hlen
    · have hbit : shiftIn poly r x ^^^ shiftIn poly s y = shiftIn poly (r ^^^ s) (xor x y) := by
        rw [shiftIn, shiftIn, shiftIn, ← step_xor, ite_xor]
        congr 1
        ac_rfl
      calc feed poly r (x :: a) ^^^ feed poly s (y :: b)
          = feed poly (shiftIn poly r x) a ^^^ feed poly (shiftIn poly s y) b := rfl
        _ = feed poly (shiftIn poly r x ^^^ shiftIn poly s y) (List.zipWith xor a b) :=
            ih (by simpa using hlen) _ _
        _ = feed poly (r ^^^ s) (List.zipWith xor (x :: a) (y :: b)) := by rw [hbit]; rfl

/-- **Bits that fit into the register may be added at once.** -/
theorem feed_eq {bits : List Bool} (hlen : bits.length ≤ w) (r : BitVec w) :
    feed poly r bits = (step poly)^[bits.length] (r ^^^ ofBits bits) := by
  induction bits generalizing r with
  | nil =>
    have hzero : (ofBits [] : BitVec w) = 0#w := by
      apply BitVec.eq_of_getLsbD_eq
      intro i hi
      rw [getLsbD_ofBits]
      simp
    rw [hzero, BitVec.xor_zero]
    rfl
  | cons b bits ih =>
    have hlen' : bits.length < w := hlen
    have hback : step poly (ofBits bits <<< 1) = ofBits bits := by
      have hlow : (ofBits bits <<< 1 : BitVec w).getLsbD 0 = false := by simp
      rw [step, hlow, if_neg Bool.false_ne_true, BitVec.xor_zero]
      apply BitVec.eq_of_getLsbD_eq
      intro i hi
      rw [BitVec.getLsbD_ushiftRight, BitVec.getLsbD_shiftLeft, getLsbD_ofBits, getLsbD_ofBits]
      by_cases hi' : 1 + i < w
      · simp [hi', hi]
      · rw [bits.getD_eq_default _ (show bits.length ≤ i by omega), decide_eq_false hi',
          Bool.and_false]
        rfl
    have hswap : r ^^^ ofBits (b :: bits) =
        (r ^^^ if b then 1#w else 0#w) ^^^ ofBits bits <<< 1 := by
      rw [ofBits_cons]
      ac_rfl
    calc feed poly r (b :: bits) = feed poly (shiftIn poly r b) bits := rfl
      _ = (step poly)^[bits.length] (shiftIn poly r b ^^^ ofBits bits) := ih (by omega) _
      _ = (step poly)^[bits.length] (step poly (r ^^^ ofBits (b :: bits))) := by
          rw [hswap, step_xor, hback]
          rfl
      _ = (step poly)^[(b :: bits).length] (r ^^^ ofBits (b :: bits)) := rfl

/-- A word of the message. -/
theorem feed_toBits {v : ℕ} (hv : v ≤ w) (r : BitVec w) (x : BitVec v) :
    feed poly r (toBits x) = (step poly)^[v] (r ^^^ x.setWidth w) := by
  rw [feed_eq poly (by rwa [length_toBits]), length_toBits, ofBits_toBits]

/-- **A message with its complemented register behind it** always leaves the same register. -/
theorem feed_toBits_not (r : BitVec w) :
    feed poly r (toBits (~~~r)) = (step poly)^[w] (BitVec.allOnes w) := by
  have hall : r ^^^ ~~~r = BitVec.allOnes w := by
    rw [← BitVec.not_xor_right, BitVec.xor_self, BitVec.not_zero]
  rw [feed_toBits poly (Nat.le_refl w), BitVec.setWidth_eq, hall]

/-- Clear bits move the register on. -/
theorem feed_false {bits : List Bool} (h : true ∉ bits) (r : BitVec w) :
    feed poly r bits = (step poly)^[bits.length] r := by
  induction bits generalizing r with
  | nil => rfl
  | cons b bits ih =>
    obtain ⟨hb, hbits⟩ := not_or.1 (List.mem_cons.not.1 h)
    have hzero : shiftIn poly r b = step poly r := by
      cases b
      · rw [shiftIn, if_neg Bool.false_ne_true, BitVec.xor_zero]
      · exact absurd rfl hb
    calc feed poly r (b :: bits) = feed poly (shiftIn poly r b) bits := rfl
      _ = (step poly)^[bits.length] (step poly r) := by rw [hzero, ih hbits]
      _ = (step poly)^[(b :: bits).length] r := rfl

/-- **A burst no longer than the register is not lost**, wherever it lies in the message. -/
theorem feed_burst_ne_zero {poly : BitVec w} (htop : poly.getLsbD (w - 1) = true)
    {bits : List Bool} (start : ℕ) (hmem : true ∈ bits)
    (hburst : ∀ i, bits.getD i false = true → start ≤ i ∧ i < start + w) :
    feed poly 0#w bits ≠ 0#w := by
  have hcut : bits = bits.take start ++ ((bits.drop start).take w ++ (bits.drop start).drop w) := by
    rw [List.take_append_drop, List.take_append_drop]
  have hbefore : true ∉ bits.take start := by
    intro h
    obtain ⟨i, hi, hget⟩ := List.mem_iff_getElem.1 h
    rw [List.length_take] at hi
    rw [List.getElem_take] at hget
    have := hburst i (by rw [List.getD_eq_getElem _ _ (by omega), hget])
    omega
  have hafter : true ∉ (bits.drop start).drop w := by
    intro h
    obtain ⟨i, hi, hget⟩ := List.mem_iff_getElem.1 h
    rw [List.drop_drop, List.length_drop] at hi
    rw [List.getElem_drop, List.getElem_drop] at hget
    have := hburst (start + (w + i)) (by rw [List.getD_eq_getElem _ _ (by omega), hget])
    omega
  have hwithin : true ∈ (bits.drop start).take w := by
    rw [hcut, List.mem_append, List.mem_append] at hmem
    exact (hmem.resolve_left hbefore).resolve_right hafter
  have hfit : ((bits.drop start).take w).length ≤ w := by
    rw [List.length_take]
    omega
  rw [hcut, feed_append, feed_append, feed_false poly hbefore, iterate_step_zero,
    feed_false poly hafter, feed_eq poly hfit, BitVec.zero_xor]
  exact iterate_step_ne_zero htop _ (iterate_step_ne_zero htop _ (ofBits_ne_zero hfit hwithin))

end Crc
end Basis
