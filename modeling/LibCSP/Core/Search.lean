/-
# Which elements a request sees

The loop of `csp_buffer_get_isr` starts behind the last element given and ends at that element
without a look at it.  So it finds a free element if there is one elsewhere
(`searchFree_finds`), and the last one given never (`searchFree_eq_some`), be it free again: a
request fails in a pool that is not empty exactly when that element is the only free one
(`cspBufferGet_complete`).  In a pool of one element every request fails.
-/

import LibCSP.Core.Buffer

namespace LibCSP
namespace BufferPool

open Basis

variable {w : ℕ}

/-- Two indexes at the same distance are the same. -/
theorem ringDistance_inj {count last i j : ℕ} (hi : i < count) (hj : j < count)
    (h : ringDistance count last i = ringDistance count last j) : i = j := by
  unfold ringDistance at h
  split at h <;> split at h <;> omega

/-- The element behind the last one given is the farthest from it. -/
theorem ringDistance_start {count last j : ℕ} (hlast : last < count) (hj : j < count) :
    ringDistance count last j ≤ ringDistance count last ((last + 1) % count) := by
  have hj := ringDistance_lt hlast hj
  rcases Nat.lt_or_ge (last + 1) count with h | h
  · rw [Nat.mod_eq_of_lt h]
    unfold ringDistance at hj ⊢
    split <;> split <;> split at hj <;> omega
  · obtain rfl : count = last + 1 := by omega
    rw [Nat.mod_self]
    unfold ringDistance at hj ⊢
    split <;> split <;> split at hj <;> omega

/-- **A search that fails has seen every element in use**, from where it started to the last one
given. -/
theorem searchFree_eq_none {c : BufferPool w} {s : Buffers}
    (hlast : s.cspBufferLastGiven.toNat < c.count) {fuel i : ℕ} (hi : i < c.count)
    (h : searchFree c s fuel i = some none) {j : ℕ} (hj : j < c.count)
    (hne : j ≠ s.cspBufferLastGiven.toNat)
    (hd : ringDistance c.count s.cspBufferLastGiven.toNat j ≤
      ringDistance c.count s.cspBufferLastGiven.toNat i) : s.cspBufferList j ≠ .cspBufferFree := by
  induction fuel generalizing i with
  | zero => exact absurd h.symm (Option.some_ne_none _)
  | succ fuel ih =>
    unfold searchFree at h
    split at h
    · rename_i he
      -- at the last one given: no other element is as near
      have hzero : ringDistance c.count s.cspBufferLastGiven.toNat i = 0 := by
        rw [he]
        unfold ringDistance
        rw [if_pos (Nat.le_refl _)]
        omega
      have hji : j = i := ringDistance_inj hj hi (le_antisymm hd (hzero ▸ Nat.zero_le _))
      exact absurd (hji.trans he) hne
    · rename_i hlastne
      split at h
      · exact absurd (Option.some.inj h) (Option.some_ne_none i)
      · rename_i hused
        obtain ⟨hlt, hnext⟩ := ringDistance_next hlast hi hlastne
        by_cases hji : j = i
        · exact hji ▸ hused
        · have hdne : ringDistance c.count s.cspBufferLastGiven.toNat j ≠
              ringDistance c.count s.cspBufferLastGiven.toNat i :=
            fun he => hji (ringDistance_inj hj hi he)
          exact ih hlt h (by omega)

/-- **The search finds a free element**, if one is free besides the last one given. -/
theorem searchFree_finds {c : BufferPool w} {s : Buffers}
    (hlast : s.cspBufferLastGiven.toNat < c.count) {fuel : ℕ} (hfuel : c.count ≤ fuel) :
    (∃ i, searchFree c s fuel ((s.cspBufferLastGiven.toNat + 1) % c.count) = some (some i)) ↔
      ∃ i, i < c.count ∧ i ≠ s.cspBufferLastGiven.toNat ∧ s.cspBufferList i = .cspBufferFree := by
  have hi : (s.cspBufferLastGiven.toNat + 1) % c.count < c.count :=
    Nat.mod_lt _ ((Nat.zero_le _).trans_lt hlast)
  constructor
  · rintro ⟨i, h⟩
    exact ⟨i, searchFree_eq_some hi h⟩
  · rintro ⟨j, hj, hne, hfree⟩
    obtain ⟨r, hr⟩ := Option.isSome_iff_exists.1 (searchFree_isSome hlast fuel _ hi
      ((ringDistance_lt hlast hi).trans_le hfuel))
    cases r with
    | some i => exact ⟨i, hr⟩
    | none =>
      exact absurd hfree (searchFree_eq_none hlast hi hr hj hne (ringDistance_start hlast hj))

/-- **A request that fits gets a buffer** if and only if an element other than the last one given
is free. -/
theorem cspBufferGet_some_iff {c : BufferPool w} {s : Buffers}
    (hlast : s.cspBufferLastGiven.toNat < c.count) {fuel : ℕ} (hfuel : c.count ≤ fuel)
    {bufSize : BitVec w} (hfit : bufSize.toNat + cspBufferPacketOverhead ≤ c.size) :
    (∃ p t, cspBufferGet c fuel bufSize s = some (some p, t)) ↔
      ∃ i, i < c.count ∧ i ≠ s.cspBufferLastGiven.toNat ∧ s.cspBufferList i = .cspBufferFree := by
  have hsum : ¬c.size < (bufSize + BitVec.ofNat w cspBufferPacketOverhead).toNat := by
    rw [BitVec.toNat_add, BitVec.toNat_ofNat, Nat.add_mod_mod]
    exact Nat.not_lt.2 ((Nat.mod_le _ _).trans hfit)
  rw [← searchFree_finds hlast hfuel]
  unfold cspBufferGet cspBufferGetIsr
  rw [if_neg hsum]
  constructor
  · rintro ⟨p, t, h⟩
    split at h
    · exact absurd h.symm (Option.some_ne_none _)
    · exact absurd (Prod.mk.inj (Option.some.inj h)).1.symm (Option.some_ne_none p)
    · rename_i i hi
      exact ⟨i, hi⟩
  · rintro ⟨i, hi⟩
    rw [hi]
    exact ⟨c.element i, s.take i, rfl⟩

/-- The pool has something left exactly if an element is free. -/
theorem cspBufferRemaining_pos {c : BufferPool w} {s : Buffers} :
    0 < cspBufferRemaining c s ↔ ∃ i, i < c.count ∧ s.cspBufferList i = .cspBufferFree := by
  unfold cspBufferRemaining
  rw [List.countP_pos_iff]
  simp only [List.mem_range, decide_eq_true_eq]

/-! ### Reachable pools -/

/-- The search starts in the pool, whatever the program frees. -/
theorem lastGiven_step {c : BufferPool w} {s t : Buffers} {fuel : ℕ} {a : BufferAction w}
    (hlast : s.cspBufferLastGiven.toNat < c.count) (h : bufferStep c fuel s a = some t) :
    t.cspBufferLastGiven.toNat < c.count := by
  have hcount : 0 < c.count := (Nat.zero_le _).trans_lt hlast
  have hgive : ∀ {i}, i < c.count → (BitVec.ofNat 8 i).toNat < c.count := fun hi => by
    rw [BitVec.toNat_ofNat]
    exact (Nat.mod_le _ _).trans_lt hi
  cases a with
  | get bufSize | getIsr bufSize =>
    obtain ⟨r, hr, rfl⟩ := Option.map_eq_some_iff.1 h
    rcases cspBufferGetIsr_cases hcount hr with rfl | ⟨i, hi, -, rfl⟩
    · exact hlast
    · exact hgive hi
  | clone buffer =>
    obtain ⟨r, hr, rfl⟩ := Option.map_eq_some_iff.1 h
    rcases cspBufferClone_cases hcount hr with rfl | ⟨_, i, -, hi, -, rfl⟩
    · exact hlast
    · exact hgive hi
  | free packet =>
    obtain ⟨t, ht, rfl⟩ := Option.map_eq_some_iff.1 h
    unfold cspBufferFree at ht
    split at ht
    · exact absurd ht.symm (Option.some_ne_none t)
    · simp only at ht
      split at ht <;> exact Option.some.inj ht ▸ hlast
  | write memory =>
    obtain rfl := Option.some.inj h
    exact hlast

/-- **A request in a pool that is not empty succeeds** if and only if the last element given is
not the only free one. -/
theorem cspBufferGet_complete (c : BufferPool w) (hcount : 1 ≤ c.count) (fuel : ℕ)
    (hfuel : c.count ≤ fuel) (memory : ℕ → U8) {acts : List (BufferAction w)} {s : Buffers}
    (h : Run (bufferStep c fuel) (fun _ _ => True) (.init memory) acts s) (bufSize : BitVec w)
    (hfit : bufSize.toNat + cspBufferPacketOverhead ≤ c.size) :
    (0 < cspBufferRemaining c s → ∃ p t, cspBufferGet c fuel bufSize s = some (some p, t)) ↔
      (s.cspBufferList s.cspBufferLastGiven.toNat = .cspBufferFree →
        ∃ i, i < c.count ∧ i ≠ s.cspBufferLastGiven.toNat ∧
          s.cspBufferList i = .cspBufferFree) := by
  have hlast : s.cspBufferLastGiven.toNat < c.count :=
    h.invariant (P := fun s => s.cspBufferLastGiven.toNat < c.count)
      (fun _ _ _ hs _ hst => lastGiven_step hs hst) hcount
  rw [cspBufferGet_some_iff hlast hfuel hfit, cspBufferRemaining_pos]
  constructor
  · exact fun hall hfree => hall ⟨_, hlast, hfree⟩
  · rintro hother ⟨i, hi, hfree⟩
    by_cases hne : i = s.cspBufferLastGiven.toNat
    · exact hother (hne ▸ hfree)
    · exact ⟨i, hi, hne, hfree⟩

/-- An element of 320 bytes is no problem for 64 bits. -/
theorem smallSize_lt : 320 < 2 ^ 64 := by decide

/-- Two elements of 320 bytes. -/
def smallPool : BufferPool 64 := ⟨.little, 2, 320, smallSize_lt⟩

/-- The condition at work: both elements given, the first one of them freed. -/
theorem cspBufferGet_complete_two : ∃ s, Run (bufferStep smallPool 2) (fun _ _ => True)
    (.init fun _ => 0) [.get 100, .get 306, .free 320] s ∧
      ∃ p t, cspBufferGet smallPool 2 200 s = some (some p, t) := by
  have hrun : ∃ s, Run (bufferStep smallPool 2) (fun _ _ => True) (.init fun _ => 0)
      [.get 100, .get 306, .free 320] s ∧
        (s.cspBufferLastGiven == 0 && s.cspBufferList 1 == .cspBufferFree) = true :=
    Run.of_any (by decide +kernel)
  obtain ⟨s, hs, h⟩ := hrun
  rw [Bool.and_eq_true, beq_iff_eq, beq_iff_eq] at h
  have hremain : 0 < cspBufferRemaining smallPool s :=
    cspBufferRemaining_pos.2 ⟨1, by decide, h.2⟩
  refine ⟨s, hs, (cspBufferGet_complete smallPool (by decide) 2 (by decide) _ hs 200
    (by decide)).2 (fun _ => ⟨1, by decide, ?_, h.2⟩) hremain⟩
  rw [h.1]
  decide

/-- **The last element given, freed**, is not given again while the others are in use. -/
theorem cspBufferGet_misses : ¬∀ (c : BufferPool 64), 1 ≤ c.count → ∀ fuel, c.count ≤ fuel →
    ∀ memory acts s, Run (bufferStep c fuel) FreesOwn (.init memory) acts s →
      ∀ bufSize : BitVec 64, bufSize.toNat + cspBufferPacketOverhead ≤ c.size →
        0 < cspBufferRemaining c s → ∃ p t, cspBufferGet c fuel bufSize s = some (some p, t) := by
  intro hall
  have hrun : ∃ s, Run (bufferStep smallPool 2) FreesOwn (.init fun _ => 0)
      [.get 100, .get 306, .free 0] s ∧ ((cspBufferRemaining smallPool s == 1) &&
        (cspBufferGet smallPool 2 200 s).all fun r => r.1.isNone) = true :=
    Run.of_any (by decide +kernel)
  obtain ⟨s, hs, h⟩ := hrun
  rw [Bool.and_eq_true, beq_iff_eq] at h
  obtain ⟨p, t, hget⟩ := hall smallPool (by decide) 2 (by decide) _ _ s hs 200 (by decide)
    (by omega)
  rw [hget] at h
  exact Bool.noConfusion h.2

end BufferPool
end LibCSP
