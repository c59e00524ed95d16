/-
# Serial-number arithmetic

Sequence numbers and clocks of a fixed width wrap around, so they have no
order; they have a distance.  `(b - a).toNat` is how far `b` lies ahead of `a`,
and the two comparisons a protocol makes are statements about it: `between s a b`
says that `s` comes no later than `b` when both are counted from `a`, and
`before s c` that `s` lies in the half circle behind `c`.
-/

import Mathlib.Algebra.Group.Nat.Defs

namespace Basis
namespace Serial

variable {w : ℕ}

/-- `s` is between `a` and `b`, both inclusive. -/
def between (s a b : BitVec w) : Bool := decide ((s - a).toNat ≤ (b - a).toNat)

/-- `s` is before `c`: the signed difference is negative. -/
def before (s c : BitVec w) : Bool := decide ((s - c).toInt < 0)

/-- `s` is after `c`. -/
def after (s c : BitVec w) : Bool := before c s

/-- The interval as distances from its beginning. -/
theorem between_iff {s a b : BitVec w} :
    between s a b = true ↔ (s - a).toNat ≤ (b - a).toNat := decide_eq_true_iff

/-- **`before` in terms of the distance:** `s` is before `c` when it lies at
least half the circle ahead of it. -/
theorem before_iff {s c : BitVec w} : before s c = true ↔ 2 ^ w ≤ 2 * (s - c).toNat := by
  unfold before
  rw [decide_eq_true_iff, BitVec.toInt_eq_toNat_cond]
  have := (s - c).isLt
  split <;> omega

/-- What is not before is ahead by less than half the circle. -/
theorem before_eq_false_iff {s c : BitVec w} :
    before s c = false ↔ 2 * (s - c).toNat < 2 ^ w := by
  rw [← Bool.not_eq_true, before_iff]
  omega

/-- Nothing is before itself. -/
@[simp] theorem before_self (s : BitVec w) : before s s = false := by
  rw [before_eq_false_iff, BitVec.sub_self, BitVec.toNat_zero]
  exact Nat.two_pow_pos w

end Serial
end Basis
