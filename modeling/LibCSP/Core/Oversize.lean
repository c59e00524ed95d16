/-
# Pools that are not what they seem

A pool is sound where its elements have bytes and `count * size` does not wrap
(`run_sound`).  Elements of no bytes all begin at the same one.  And where the product wraps,
`csp_malloc` returns fewer bytes than the elements need: the requests that follow
`csp_buffer_init` take the elements in order (`run_gets`), and sooner or later one of them
lies behind the end.

Only a pool of one element is sound without any of this, because it never gives it away.  So a
pool is sound in every run exactly if it has one element or fits (`bufferPool_sound_iff`).
-/

import LibCSP.Core.Search

namespace LibCSP
namespace BufferPool

open Basis

variable {w : ℕ}

/-! ### Requests in a row -/

/-- A size that is nothing with the overhead of a packet. -/
def wrappingSize (w : ℕ) : BitVec w := -BitVec.ofNat w cspBufferPacketOverhead

/-- The check of the size lets it through in every pool. -/
theorem wrappingSize_fits (c : BufferPool w) :
    ¬ c.size < (wrappingSize w + BitVec.ofNat w cspBufferPacketOverhead).toNat := by
  rw [wrappingSize, BitVec.add_comm, ← BitVec.sub_eq_add_neg, BitVec.sub_self, BitVec.toNat_zero]
  exact Nat.not_lt_zero _

/-- Elements 1 to `n` were given, the last of them last. -/
structure Given (c : BufferPool w) (n : ℕ) (s : Buffers) : Prop where
  used : ∀ i, s.cspBufferList i = .cspBufferUsed ↔ 1 ≤ i ∧ i ≤ n
  last : s.cspBufferLastGiven.toNat = n % 256
  held : 1 ≤ n → c.element n ∈ s.held

/-- The search passes over elements in use and takes the free one behind them. -/
theorem searchFree_reaches {c : BufferPool w} {s : Buffers} {n : ℕ} (hn : n < c.count)
    (hfree : s.cspBufferList n = .cspBufferFree) (hlast : n ≠ s.cspBufferLastGiven.toNat) :
    ∀ {fuel i : ℕ}, i ≤ n → n - i < fuel →
      (∀ m, i ≤ m → m < n → s.cspBufferList m = .cspBufferUsed ∧
        m ≠ s.cspBufferLastGiven.toNat) → searchFree c s fuel i = some (some n) := by
  intro fuel
  induction fuel with
  | zero => exact fun _ hfuel _ => absurd hfuel (Nat.not_lt_zero _)
  | succ fuel ih =>
    intro i hle hfuel hused
    rw [searchFree]
    rcases Nat.eq_or_lt_of_le hle with rfl | hlt
    · rw [if_neg hlast, if_pos hfree]
    · obtain ⟨hi, hne⟩ := hused i le_rfl hlt
      rw [if_neg hne, if_neg (by rw [hi]; exact CspBufferState.noConfusion),
        Nat.mod_eq_of_lt (by omega)]
      exact ih hlt (by omega) fun m hm => hused m (by omega)

/-- **The next request takes the next element.** -/
theorem Given.next {c : BufferPool w} {n : ℕ} {s : Buffers} (h : Given c n s)
    (hn : n + 1 < c.count) :
    ∃ t, bufferStep c c.count s (.get (wrappingSize w)) = some t ∧ Given c (n + 1) t := by
  have hmod : n % 256 ≤ n := Nat.mod_le n 256
  have hfree : s.cspBufferList (n + 1) = .cspBufferFree := by
    cases hst : s.cspBufferList (n + 1) with
    | cspBufferFree => rfl
    | cspBufferUsed => exact absurd ((h.used _).1 hst).2 (by omega)
  have hsearch : searchFree c s c.count ((s.cspBufferLastGiven.toNat + 1) % c.count) =
      some (some (n + 1)) := by
    rw [h.last, Nat.mod_eq_of_lt (by omega : n % 256 + 1 < c.count)]
    refine searchFree_reaches hn hfree (by rw [h.last]; omega) (by omega) (by omega)
      fun m hm hlt => ⟨(h.used m).2 (by omega), ?_⟩
    rw [h.last]
    omega
  have hget : cspBufferGet c c.count (wrappingSize w) s =
      some (some (c.element (n + 1)), s.take (n + 1)) := by
    unfold cspBufferGet cspBufferGetIsr
    rw [if_neg (wrappingSize_fits c), hsearch]
  refine ⟨Buffers.give s.held (some (c.element (n + 1)), s.take (n + 1)), ?_, ?_, ?_, ?_⟩
  · rw [bufferStep, hget]
    rfl
  · intro i
    show Function.update s.cspBufferList (n + 1) .cspBufferUsed i = _ ↔ _
    by_cases hi : i = n + 1
    · subst hi
      rw [Function.update_self]
      exact iff_of_true rfl ⟨by omega, le_rfl⟩
    · rw [Function.update_of_ne hi, h.used i]
      omega
  · show (BitVec.ofNat 8 (n + 1)).toNat = _
    rw [BitVec.toNat_ofNat]
  · exact fun _ => List.mem_cons_self

/-- **The first `n` requests take elements 1 to `n`.** -/
theorem run_gets (c : BufferPool w) {n : ℕ} (hn : n < c.count) (memory : ℕ → U8) :
    ∃ s, Run (bufferStep c c.count) FreesOwn (.init memory)
      (List.replicate n (.get (wrappingSize w))) s ∧ Given c n s := by
  induction n with
  | zero =>
    refine ⟨_, .nil, fun i => iff_of_false CspBufferState.noConfusion (by omega), rfl, ?_⟩
    omega
  | succ n ih =>
    obtain ⟨s, hrun, hs⟩ := ih (by omega)
    obtain ⟨t, hst, ht⟩ := hs.next hn
    refine ⟨t, ?_, ht⟩
    rw [List.replicate_succ']
    exact hrun.snoc trivial hst

/-! ### What goes wrong -/

/-- A pool that is sound in every run. -/
def AlwaysSound (c : BufferPool w) : Prop :=
  ∀ fuel memory acts s, Run (bufferStep c fuel) FreesOwn (.init memory) acts s → Sound c fuel s

/-- **Elements of no bytes**: two of them begin at the same byte. -/
theorem AlwaysSound.size_pos {c : BufferPool w} (h : c.AlwaysSound) (hcount : 2 ≤ c.count) :
    1 ≤ c.size := by
  by_contra hzero
  have hsize : c.size = 0 := by omega
  have hsame : ∀ i, c.element i = 0 := fun i => by
    rw [element, hsize, Nat.mul_zero, Nat.zero_mod]
  obtain ⟨s, hrun, hs⟩ := run_gets c (n := 1) (by omega) fun _ => 0
  have hlast : s.cspBufferLastGiven.toNat = 1 := hs.last
  have hfree : s.cspBufferList 0 = .cspBufferFree := by
    cases hst : s.cspBufferList 0 with
    | cspBufferFree => rfl
    | cspBufferUsed => exact absurd ((hs.used 0).1 hst).1 (by omega)
  obtain ⟨i, hi⟩ := (searchFree_finds (c := c) (s := s) (by omega) le_rfl).2
    ⟨0, by omega, by omega, hfree⟩
  have hstep : bufferStep c c.count s (.get (wrappingSize w)) =
      some (Buffers.give s.held (some (c.element i), s.take i)) := by
    simp only [bufferStep, cspBufferGet, cspBufferGetIsr, if_neg (wrappingSize_fits c), hi,
      Option.map_some]
  refine (h _ _ _ s hrun).fresh (.get (wrappingSize w)) _ (c.element i) trivial hstep rfl ?_
  rw [hsame, ← hsame 1]
  exact hs.held le_rfl

/-- **A product that wraps**: one of the elements lies behind the bytes that there are. -/
theorem AlwaysSound.lt {c : BufferPool w} (h : c.AlwaysSound) (hcount : 2 ≤ c.count)
    (hsize : 1 ≤ c.size) : c.count * c.size < 2 ^ w := by
  by_contra hge
  have hbytes : c.bytes < 2 ^ w := Nat.mod_lt _ (Nat.two_pow_pos w)
  have hdiv := Nat.div_add_mod c.bytes c.size
  have hmod := Nat.mod_lt c.bytes hsize
  -- the first element that ends behind them, apart from element 0
  obtain ⟨k, hk, hkc, hend⟩ : ∃ k, 1 ≤ k ∧ k < c.count ∧ c.bytes < c.element k + c.size := by
    rcases Nat.eq_zero_or_pos (c.bytes / c.size) with hzero | hpos
    · refine ⟨1, le_rfl, hcount, ?_⟩
      rw [hzero, Nat.mul_zero] at hdiv
      rw [element, Nat.one_mul, Nat.mod_eq_of_lt c.size_lt]
      omega
    · have hle : c.bytes / c.size * c.size ≤ c.bytes := Nat.div_mul_le_self _ _
      have hcomm : c.size * (c.bytes / c.size) = c.bytes / c.size * c.size := Nat.mul_comm _ _
      refine ⟨c.bytes / c.size, hpos, Nat.lt_of_mul_lt_mul_right (a := c.size) (by omega), ?_⟩
      rw [element, Nat.mod_eq_of_lt (by omega)]
      omega
  obtain ⟨s, hrun, hs⟩ := run_gets c hkc fun _ => 0
  have hinside := (h _ _ _ s hrun).inside _ (hs.held hk)
  omega

/-! ### One element -/

/-- The only element was never given. -/
structure Untouched (s : Buffers) : Prop where
  held : s.held = []
  last : s.cspBufferLastGiven = 0
  free : s.cspBufferList 0 = .cspBufferFree

/-- The search of a pool of one element ends where it starts, at the last one given. -/
theorem Untouched.search {c : BufferPool w} {s : Buffers} (h : Untouched s) (hcount : c.count = 1)
    (fuel : ℕ) : searchFree c s (fuel + 1) ((s.cspBufferLastGiven.toNat + 1) % c.count) =
      some none := by
  rw [h.last, hcount, searchFree, h.last]
  rfl

/-- So every request fails, and changes nothing. -/
theorem Untouched.get {c : BufferPool w} {s : Buffers} (h : Untouched s) (hcount : c.count = 1)
    (fuel : ℕ) (bufSize : BitVec w) : cspBufferGetIsr c (fuel + 1) bufSize s = some (none, s) := by
  unfold cspBufferGetIsr
  rw [h.search hcount]
  split <;> rfl

/-- A clone is a request. -/
theorem Untouched.clone {c : BufferPool w} {s : Buffers} (h : Untouched s) (hcount : c.count = 1)
    (fuel : ℕ) (buffer : Option ℕ) : cspBufferClone c (fuel + 1) buffer s = some (none, s) := by
  cases buffer with
  | none => rfl
  | some packet =>
    simp only [cspBufferClone, cspBufferGet, h.get hcount]

/-- Nothing was given, so nothing can be freed, and no call returns a buffer. -/
theorem Untouched.step {c : BufferPool w} {s : Buffers} (h : Untouched s) (hcount : c.count = 1)
    (fuel : ℕ) {a : BufferAction w} (hown : FreesOwn s a) :
    ∃ t, bufferStep c (fuel + 1) s a = some t ∧ Untouched t := by
  have hnone : Untouched (Buffers.give s.held (none, s)) := ⟨h.held, h.last, h.free⟩
  cases a with
  | get bufSize =>
    refine ⟨_, ?_, hnone⟩
    rw [bufferStep, cspBufferGet, h.get hcount, Option.map_some]
  | getIsr bufSize =>
    refine ⟨_, ?_, hnone⟩
    rw [bufferStep, h.get hcount, Option.map_some]
  | clone buffer =>
    refine ⟨_, ?_, hnone⟩
    rw [bufferStep, h.clone hcount, Option.map_some]
  | free packet =>
    have hmem : packet ∈ s.held := hown
    rw [h.held] at hmem
    exact absurd hmem List.not_mem_nil
  | write memory => exact ⟨_, rfl, h.held, h.last, h.free⟩

/-- Without a round of the loop only `csp_buffer_clone` of nothing and writes go on. -/
theorem Untouched.stuck {c : BufferPool w} {s t : Buffers} (h : Untouched s)
    {a : BufferAction w} (hown : FreesOwn s a) (hst : bufferStep c 0 s a = some t) :
    Untouched t := by
  have hget : ∀ {bufSize r}, cspBufferGetIsr c 0 bufSize s = some r → r = (none, s) := by
    intro bufSize r hr
    unfold cspBufferGetIsr searchFree at hr
    split at hr
    · exact (Option.some.inj hr).symm
    · exact absurd hr.symm (Option.some_ne_none r)
  cases a with
  | get bufSize | getIsr bufSize =>
    obtain ⟨r, hr, rfl⟩ := Option.map_eq_some_iff.1 hst
    obtain rfl := hget hr
    exact ⟨h.held, h.last, h.free⟩
  | clone buffer =>
    obtain ⟨r, hr, rfl⟩ := Option.map_eq_some_iff.1 hst
    unfold cspBufferClone at hr
    split at hr
    · obtain rfl := Option.some.inj hr
      exact ⟨h.held, h.last, h.free⟩
    · split at hr
      · exact absurd hr.symm (Option.some_ne_none r)
      · rename_i hnone
        obtain rfl := (Prod.mk.inj (hget hnone)).2
        obtain rfl := Option.some.inj hr
        exact ⟨h.held, h.last, h.free⟩
      · rename_i hsome
        exact absurd (Prod.mk.inj (hget hsome)).1 (Option.some_ne_none _)
  | free packet =>
    have hmem : packet ∈ s.held := hown
    rw [h.held] at hmem
    exact absurd hmem List.not_mem_nil
  | write memory =>
    obtain rfl := Option.some.inj hst
    exact ⟨h.held, h.last, h.free⟩

/-- Whatever the number of rounds, it stays so. -/
theorem Untouched.stays {c : BufferPool w} {s t : Buffers} (h : Untouched s) (hcount : c.count = 1)
    {fuel : ℕ} {a : BufferAction w} (hown : FreesOwn s a) (hst : bufferStep c fuel s a = some t) :
    Untouched t := by
  cases fuel with
  | zero => exact h.stuck hown hst
  | succ fuel =>
    obtain ⟨t', ht', hun⟩ := h.step hcount fuel hown
    exact Option.some.inj (ht'.symm.trans hst) ▸ hun

/-- **A pool of one element is sound**: nobody has a buffer of it. -/
theorem Untouched.sound {c : BufferPool w} {s : Buffers} (h : Untouched s) (hcount : c.count = 1)
    (fuel : ℕ) : Sound c fuel s where
  returns := by
    intro hfuel a hown
    obtain ⟨k, rfl⟩ : ∃ k, fuel = k + 1 := ⟨fuel - 1, by omega⟩
    obtain ⟨t, ht, -⟩ := h.step hcount k hown
    rw [ht]
    rfl
  fresh := fun a t p hown hst hp => by
    rw [(h.stays hcount hown hst).held] at hp
    exact absurd hp.symm (List.cons_ne_nil _ _)
  disjoint := by
    rw [h.held]
    exact .nil
  inside := by
    rw [h.held]
    exact fun p hp => absurd hp List.not_mem_nil
  clone := fun packet t q hst hq => by
    rw [(h.stays hcount (a := .clone (some packet)) trivial hst).held] at hq
    exact absurd hq.symm (List.cons_ne_nil _ _)
  remaining := by
    have hone : List.range c.count = [0] := by rw [hcount]; rfl
    unfold cspBufferRemaining
    rw [hone, List.countP_singleton, if_pos (by rw [h.free]; rfl), h.held, hcount]
    rfl

/-! ### The condition -/

/-- **Exactly the pools that fit are sound**, apart from those of one element. -/
theorem bufferPool_sound_iff (c : BufferPool w) (hcount : 1 ≤ c.count) :
    c.AlwaysSound ↔ c.count = 1 ∨ (1 ≤ c.size ∧ c.count * c.size < 2 ^ w) := by
  constructor
  · intro h
    rcases Nat.eq_or_lt_of_le hcount with hone | htwo
    · exact .inl hone.symm
    · have hsize := h.size_pos htwo
      exact .inr ⟨hsize, h.lt htwo hsize⟩
  · rintro (hone | ⟨hsize, hlt⟩)
    · intro fuel memory acts s hrun
      have hun : Untouched s := hrun.invariant (P := Untouched)
        (fun _ _ _ hs hown hst => hs.stays hone hown hst) ⟨rfl, rfl, rfl⟩
      exact hun.sound hone fuel
    · exact fun fuel memory acts s hrun => run_sound hcount ⟨hsize, hlt⟩ fuel memory hrun

/-- A pool of 300 elements of 320 bytes, more than the remembered position can count. -/
def largePool : BufferPool 64 := ⟨.little, 300, 320, smallSize_lt⟩

/-- A buffer, a clone of it, and the buffer given back. -/
theorem bufferPool_sound_large : ∃ s, Run (bufferStep largePool 300) FreesOwn (.init fun _ => 0)
    [.get 306, .clone (some 320), .free 320] s ∧ Sound largePool 300 s := by
  have hrun : ∃ s, Run (bufferStep largePool 300) FreesOwn (.init fun _ => 0)
      [.get 306, .clone (some 320), .free 320] s ∧ (s.held == [640]) = true :=
    Run.of_any (by decide +kernel)
  obtain ⟨s, hs, -⟩ := hrun
  have hfits : 1 ≤ largePool.size ∧ largePool.count * largePool.size < 2 ^ 64 := by decide
  exact ⟨s, hs, (bufferPool_sound_iff largePool (by decide)).2 (.inr hfits) 300 _ _ s hs⟩

/-- 65537 elements of 65536 bytes on a machine of 32 bits. -/
def wrappingPool : BufferPool 32 := ⟨.little, 65537, 65536, by decide⟩

/-- **The pool has 65536 bytes**, and the first buffer begins behind them. -/
theorem bufferPool_wraps : ¬∀ (c : BufferPool 32), 1 ≤ c.count → c.AlwaysSound := by
  intro hall
  have hrun : ∃ s, Run (bufferStep wrappingPool 1) FreesOwn (.init fun _ => 0) [.get 100] s ∧
      (s.held == [65536]) = true := Run.of_any (by decide +kernel)
  obtain ⟨s, hs, hheld⟩ := hrun
  rw [beq_iff_eq] at hheld
  have hsound := hall wrappingPool (by decide) 1 _ _ s hs
  have hinside : 65536 + wrappingPool.size ≤ wrappingPool.bytes :=
    hsound.inside 65536 (hheld ▸ List.mem_cons_self)
  have hbytes : wrappingPool.bytes = 65536 := by decide
  rw [hbytes] at hinside
  exact absurd hinside (by decide)

end BufferPool
end LibCSP
