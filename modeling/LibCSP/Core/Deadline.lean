/-
# Deadlines

The functions of `src/arch/posix/` that wait with a timeout read the clock and add the timeout to
it, each with its own copy of the same lines: `pthread_queue_enqueue` and `pthread_queue_dequeue`
(`pthread_queue.c`), `csp_mutex_lock` and `csp_bin_sem_wait` (`csp_semaphore.c`).  The copies differ
in the comparison that decides whether the nanoseconds carry into the seconds.

With `>=` the deadline is the clock plus the timeout as long as the seconds fit into a `time_t`
(`deadlineRight_iff`).  With `>` it is a second early when the nanoseconds sum to exactly 10⁹
(`deadlineRight_queue_iff`).
-/

import Mathlib.Algebra.Order.Ring.Int
import LibCSP.Basis.Word

namespace LibCSP

open Basis

/-- The widths of `time_t` and `long`. -/
structure Abi where
  time : ℕ
  long : ℕ
  time_ge : 32 ≤ time
  long_ge : 32 ≤ long

/-- `struct timespec`. -/
structure Timespec (a : Abi) where
  tvSec : BitVec a.time
  tvNsec : BitVec a.long
  deriving DecidableEq

/-- The nanoseconds are below a second. -/
def Timespec.Normal {a : Abi} (ts : Timespec a) : Prop :=
  0 ≤ ts.tvNsec.toInt ∧ ts.tvNsec.toInt < 1000000000

instance {a : Abi} (ts : Timespec a) : Decidable ts.Normal := inferInstanceAs (Decidable (_ ∧ _))

/-- The nanoseconds since the epoch. -/
def Timespec.total {a : Abi} (ts : Timespec a) : ℤ :=
  ts.tvSec.toInt * 1000000000 + ts.tvNsec.toInt

variable {a : Abi}

/-- `timeout / 1000`, as a `uint32_t`. -/
def timeoutSec (timeout : U32) : U32 := timeout.sdiv 1000

/-- `(timeout - 1000 * sec) * 1000000`. -/
def timeoutNsec (timeout : U32) : U32 := (timeout - 1000 * timeoutSec timeout) * 1000000

/-- The computation, with `carries` for the comparison of the sum of the nanoseconds. -/
def deadline (carries : ℕ → Prop) [DecidablePred carries] (ts : Timespec a) (timeout : U32) :
    Timespec a :=
  let tvSec := ts.tvSec + (timeoutSec timeout).setWidth a.time
  let sum := ts.tvNsec + (timeoutNsec timeout).setWidth a.long
  { tvSec := if carries sum.toNat then tvSec + 1 else tvSec
    tvNsec := BitVec.ofNat a.long (sum.toNat % 1000000000) }

/-- The deadline of `pthread_queue_enqueue`. -/
def pthreadQueueEnqueueTs (ts : Timespec a) (timeout : U32) : Timespec a :=
  deadline (fun sum => sum > 1000000000) ts timeout

/-- The deadline of `pthread_queue_dequeue`. -/
def pthreadQueueDequeueTs (ts : Timespec a) (timeout : U32) : Timespec a :=
  deadline (fun sum => sum > 1000000000) ts timeout

/-- The deadline of `csp_mutex_lock`. -/
def cspMutexLockTs (ts : Timespec a) (timeout : U32) : Timespec a :=
  deadline (fun sum => sum ≥ 1000000000) ts timeout

/-- The deadline of `csp_bin_sem_wait`. -/
def cspBinSemWaitTs (ts : Timespec a) (timeout : U32) : Timespec a :=
  deadline (fun sum => sum ≥ 1000000000) ts timeout

/-! ### Signed words -/

/-- A word that is not negative. -/
theorem toInt_of_nonneg {w : ℕ} {x : BitVec w} (h : 0 ≤ x.toInt) :
    2 * x.toNat < 2 ^ w ∧ x.toInt = x.toNat := by
  have hlt := x.isLt
  rw [BitVec.toInt_eq_toNat_cond] at h ⊢
  split_ifs at h ⊢ with hsmall
  · exact ⟨hsmall, rfl⟩
  · omega

/-- **A sum is right or 2^w too small**, if the second word is not negative. -/
theorem toInt_add_of_nonneg {w : ℕ} (hw : 0 < w) (x : BitVec w) {y : BitVec w}
    (hy : 2 * y.toNat < 2 ^ w) : (x + y).toInt =
      if x.toInt + y.toNat < (2 ^ (w - 1) : ℕ) then x.toInt + y.toNat
      else x.toInt + y.toNat - (2 ^ w : ℕ) := by
  have hpow : 2 ^ w = 2 * 2 ^ (w - 1) := by
    rw [← Nat.pow_succ', Nat.succ_eq_add_one, Nat.sub_add_cancel hw]
  have hx := x.isLt
  rw [BitVec.toInt_eq_toNat_cond, BitVec.toInt_eq_toNat_cond, BitVec.toNat_add]
  rw [hpow] at hx hy ⊢
  rcases Nat.lt_or_ge (x.toNat + y.toNat) (2 * 2 ^ (w - 1)) with h | h
  · rw [Nat.mod_eq_of_lt h]
    split_ifs <;> omega
  · rw [Nat.mod_eq_sub_mod h, Nat.mod_eq_of_lt (by omega)]
    split_ifs <;> omega

/-! ### The sums -/

/-- The seconds of a timeout that is not negative as an `int`. -/
theorem timeoutSec_toNat {timeout : U32} (h : 0 ≤ timeout.toInt) :
    (timeoutSec timeout).toNat = timeout.toNat / 1000 := by
  have hmsb : timeout.msb = false := BitVec.msb_eq_false_iff_two_mul_lt.2 (toInt_of_nonneg h).1
  rw [timeoutSec, BitVec.sdiv, hmsb]
  exact BitVec.toNat_udiv

/-- Its nanoseconds. -/
theorem timeoutNsec_toNat {timeout : U32} (h : 0 ≤ timeout.toInt) :
    (timeoutNsec timeout).toNat = timeout.toNat % 1000 * 1000000 := by
  have hlt := timeout.isLt
  have hsec : (1000 * timeoutSec timeout).toNat = 1000 * (timeout.toNat / 1000) := by
    rw [BitVec.toNat_mul, timeoutSec_toNat h]
    show 1000 * (timeout.toNat / 1000) % 2 ^ 32 = _
    omega
  rw [timeoutNsec, BitVec.toNat_mul, BitVec.toNat_sub, hsec]
  show (2 ^ 32 - 1000 * (timeout.toNat / 1000) + timeout.toNat) % 2 ^ 32 * 1000000 % 2 ^ 32 = _
  omega

/-- The sum of the nanoseconds of the clock and the timeout. -/
def nsecSum (ts : Timespec a) (timeout : U32) : ℕ :=
  ts.tvNsec.toNat + timeout.toNat % 1000 * 1000000

section Sums

variable {ts : Timespec a} {timeout : U32}

/-- The sum of two numbers of nanoseconds, before the carry. -/
theorem nsecSum_lt (hts : ts.Normal) (timeout : U32) : nsecSum ts timeout < 2000000000 := by
  have hnsec := (toInt_of_nonneg hts.1).2
  have hlt := hts.2
  have hms := Nat.mod_lt timeout.toNat (show 0 < 1000 by decide)
  rw [nsecSum]
  omega

/-- The seconds and nanoseconds of the deadline. -/
theorem deadline_toInt (carries : ℕ → Prop) [DecidablePred carries] (hts : ts.Normal)
    (ht : 0 ≤ timeout.toInt) :
    (deadline carries ts timeout).tvNsec.toInt = (nsecSum ts timeout % 1000000000 : ℕ) ∧
      (deadline carries ts timeout).tvSec.toInt =
        let sec : ℤ := ts.tvSec.toInt + (timeout.toNat / 1000 : ℕ) +
          (if carries (nsecSum ts timeout) then 1 else 0)
        if sec < (2 ^ (a.time - 1) : ℕ) then sec else sec - (2 ^ a.time : ℕ) := by
  have htimeout := timeout.isLt
  have hsum := nsecSum_lt hts timeout
  have htime : 2 ^ 32 ≤ 2 ^ a.time := Nat.pow_le_pow_right (by decide) a.time_ge
  have hlong : 2 ^ 32 ≤ 2 ^ a.long := Nat.pow_le_pow_right (by decide) a.long_ge
  have hnsec : (ts.tvNsec + (timeoutNsec timeout).setWidth a.long).toNat = nsecSum ts timeout := by
    rw [nsecSum] at hsum ⊢
    rw [BitVec.toNat_add, BitVec.toNat_setWidth, timeoutNsec_toNat ht, Nat.add_mod_mod,
      Nat.mod_eq_of_lt (by omega)]
  have hrest := Nat.mod_lt (nsecSum ts timeout) (show 0 < 1000000000 by decide)
  constructor
  · show (BitVec.ofNat a.long ((ts.tvNsec +
      (timeoutNsec timeout).setWidth a.long).toNat % 1000000000)).toInt = _
    rw [hnsec, BitVec.toInt_eq_toNat_cond, BitVec.toNat_ofNat, Nat.mod_eq_of_lt (by omega),
      if_pos (by omega)]
  · -- the carry and the seconds of the timeout are one sum
    obtain ⟨c, hc, hle⟩ : ∃ c : ℕ, (if carries (nsecSum ts timeout) then 1 else 0) = c ∧ c ≤ 1 :=
      ⟨_, rfl, by split <;> decide⟩
    have hsec : (deadline carries ts timeout).tvSec =
        ts.tvSec + BitVec.ofNat a.time (timeout.toNat / 1000 + c) := by
      have hset : (timeoutSec timeout).setWidth a.time =
          BitVec.ofNat a.time (timeout.toNat / 1000) := by
        apply BitVec.eq_of_toNat_eq
        rw [BitVec.toNat_setWidth, timeoutSec_toNat ht, BitVec.toNat_ofNat]
      show (if carries (ts.tvNsec + (timeoutNsec timeout).setWidth a.long).toNat then
        ts.tvSec + (timeoutSec timeout).setWidth a.time + 1
          else ts.tvSec + (timeoutSec timeout).setWidth a.time) = _
      rw [hnsec, hset, BitVec.ofNat_add, ← BitVec.add_assoc, ← hc]
      split <;> simp
    have hy : (BitVec.ofNat a.time (timeout.toNat / 1000 + c)).toNat =
        timeout.toNat / 1000 + c := by
      rw [BitVec.toNat_ofNat, Nat.mod_eq_of_lt (by omega)]
    have hcast : (if carries (nsecSum ts timeout) then (1 : ℤ) else 0) = c := by
      rw [← hc]
      split <;> rfl
    have htimepos := a.time_ge
    rw [hsec, toInt_add_of_nonneg (by omega) ts.tvSec (by rw [hy]; omega), hy, hcast]
    simp only [Nat.cast_add, add_assoc]

/-! ### The deadlines -/

/-- The deadline is normalised, and it is the clock plus the timeout. -/
structure DeadlineRight (ts : Timespec a) (timeout : U32) (result : Timespec a) : Prop where
  normal : result.Normal
  total : result.total = ts.total + timeout.toInt * 1000000

/-- The seconds of the clock plus the timeout are those of a `time_t`. -/
def DeadlineFits (ts : Timespec a) (timeout : U32) : Prop :=
  ts.tvSec.toInt + (timeout.toNat / 1000 : ℕ) + (nsecSum ts timeout / 1000000000 : ℕ) <
    (2 ^ (a.time - 1) : ℕ)

/-- **A copy is right if its comparison carries exactly the full second**, and the seconds fit. -/
theorem deadlineRight_iff_carries (carries : ℕ → Prop) [DecidablePred carries] (hts : ts.Normal)
    (ht : 0 ≤ timeout.toInt) : DeadlineRight ts timeout (deadline carries ts timeout) ↔
      (carries (nsecSum ts timeout) ↔ 1000000000 ≤ nsecSum ts timeout) ∧
        DeadlineFits ts timeout := by
  obtain ⟨hnsec, hsec⟩ := deadline_toInt carries hts ht
  have hsum := nsecSum_lt hts timeout
  have hclock := (toInt_of_nonneg hts.1).2
  have htimeout := (toInt_of_nonneg ht).2
  have hms : nsecSum ts timeout = ts.tvNsec.toNat + timeout.toNat % 1000 * 1000000 := rfl
  have hpow : 2 ^ 32 ≤ 2 ^ a.time := Nat.pow_le_pow_right (by decide) a.time_ge
  have hrest := Nat.mod_lt (nsecSum ts timeout) (show 0 < 1000000000 by decide)
  have hnormal : (deadline carries ts timeout).Normal := by
    rw [Timespec.Normal, hnsec]
    omega
  -- what the seconds are to be
  have htotal : DeadlineRight ts timeout (deadline carries ts timeout) ↔
      (deadline carries ts timeout).tvSec.toInt =
        ts.tvSec.toInt + (timeout.toNat / 1000 : ℕ) + (nsecSum ts timeout / 1000000000 : ℕ) := by
    constructor
    · intro h
      have heq := h.total
      rw [Timespec.total, Timespec.total, hnsec, hclock, htimeout] at heq
      omega
    · intro heq
      refine ⟨hnormal, ?_⟩
      rw [Timespec.total, Timespec.total, hnsec, hclock, htimeout, heq]
      omega
  rw [htotal, hsec, DeadlineFits]
  by_cases hcarry : carries (nsecSum ts timeout)
  · simp only [hcarry, if_true, true_iff]
    split_ifs <;> omega
  · simp only [hcarry, if_false, false_iff]
    split_ifs <;> omega

/-- The copies of `csp_semaphore.c`. -/
theorem deadlineRight_iff (hts : ts.Normal) (ht : 0 ≤ timeout.toInt) :
    DeadlineRight ts timeout (cspMutexLockTs ts timeout) ↔ DeadlineFits ts timeout := by
  rw [cspMutexLockTs, deadlineRight_iff_carries _ hts ht]
  exact and_iff_right Iff.rfl

/-- The copies of `pthread_queue.c`. -/
theorem deadlineRight_queue_iff (hts : ts.Normal) (ht : 0 ≤ timeout.toInt) :
    DeadlineRight ts timeout (pthreadQueueEnqueueTs ts timeout) ↔
      nsecSum ts timeout ≠ 1000000000 ∧ DeadlineFits ts timeout := by
  rw [pthreadQueueEnqueueTs, deadlineRight_iff_carries _ hts ht]
  refine and_congr_left fun _ => ?_
  omega

/-- Deadlines that are right are the same. -/
theorem DeadlineRight.unique {r r' : Timespec a} (h : DeadlineRight ts timeout r)
    (h' : DeadlineRight ts timeout r') : r = r' := by
  have heq := h.total.trans h'.total.symm
  obtain ⟨hlo, hhi⟩ := h.normal
  obtain ⟨hlo', hhi'⟩ := h'.normal
  rw [Timespec.total, Timespec.total] at heq
  obtain ⟨sec, nsec⟩ := r
  obtain ⟨sec', nsec'⟩ := r'
  simp only at heq hlo hhi hlo' hhi'
  obtain rfl : sec = sec' := BitVec.toInt_inj.1 (by omega)
  obtain rfl : nsec = nsec' := BitVec.toInt_inj.1 (by omega)
  rfl

/-- All four deadlines are right, and so they agree. -/
structure DeadlinesRight (ts : Timespec a) (timeout : U32) : Prop where
  enqueue : DeadlineRight ts timeout (pthreadQueueEnqueueTs ts timeout)
  dequeue : DeadlineRight ts timeout (pthreadQueueDequeueTs ts timeout)
  lock : DeadlineRight ts timeout (cspMutexLockTs ts timeout)
  wait : DeadlineRight ts timeout (cspBinSemWaitTs ts timeout)
  agree : pthreadQueueEnqueueTs ts timeout = pthreadQueueDequeueTs ts timeout ∧
    pthreadQueueDequeueTs ts timeout = cspMutexLockTs ts timeout ∧
    cspMutexLockTs ts timeout = cspBinSemWaitTs ts timeout

/-- **When timeouts become the right deadlines**: for every reading of the clock and every timeout,
exactly if the nanoseconds do not sum to a full second, and the seconds fit into a `time_t`. -/
theorem deadlinesRight_iff (hts : ts.Normal) (ht : 0 ≤ timeout.toInt) :
    DeadlinesRight ts timeout ↔ nsecSum ts timeout ≠ 1000000000 ∧ DeadlineFits ts timeout := by
  constructor
  · exact fun h => (deadlineRight_queue_iff hts ht).1 h.enqueue
  · intro h
    have hqueue := (deadlineRight_queue_iff hts ht).2 h
    have hsem := (deadlineRight_iff hts ht).2 h.2
    exact ⟨hqueue, hqueue, hsem, hsem, rfl, hqueue.unique hsem, rfl⟩

end Sums

/-- The widths of a 64-bit host. -/
def abi64 : Abi := ⟨64, 64, by decide, by decide⟩

/-- Half a second from then on. -/
theorem deadlinesRight_half :
    @DeadlinesRight abi64 ⟨1300000000, 999999999⟩ 500 :=
  (deadlinesRight_iff (by decide) (by decide)).2 (by unfold DeadlineFits; decide)

/-- A millisecond before the full second, a queue waits until a second ago. -/
theorem not_deadlinesRight_full : ¬ @DeadlinesRight abi64 ⟨1300000000, 999000000⟩ 1 :=
  fun h => absurd h.enqueue.total (by decide)

end LibCSP
