/-
# The buffer pool

`src/csp_buffer.c` with the pool in dynamic memory.  A buffer is named by the offset of its
first byte from `csp_buffer_p`, and `memory` is the bytes from there on.  `size_t` has `w` bits,
and everything that the code computes in it is taken modulo `2^w`: the sum of a requested size
and the overhead of a packet, the offset `i * size` of an element, and `count * size`, the
bytes that `csp_buffer_init` asks `csp_malloc` for (`BufferPool.bytes`).  `csp_buffer_list` has
its `count` entries.

The search for a free element starts behind the last one given and ends there, and that
position is kept in eight bits.  The truncated position is smaller than the position, so it
stays below `count`, the search comes back to it, and where the elements have bytes and
`count * size` does not wrap everything else follows from the flags in `csp_buffer_list`
(`run_sound`).  Core.Oversize has the pools where one of the two is not so.
-/

import LibCSP.Basis.Run
import LibCSP.Core.Packet

namespace LibCSP

open Basis

/-- `csp_buffer_state_t`. -/
inductive CspBufferState
  | cspBufferFree
  | cspBufferUsed
  deriving DecidableEq, Repr

/-- `CSP_PADDING_BYTES`. -/
def cspPaddingBytes : ℕ := 8

/-- `CSP_BUFFER_PACKET_OVERHEAD`: padding, length and identifier. -/
def cspBufferPacketOverhead : ℕ := cspPaddingBytes + 2 + 4

/-- What `csp_buffer_init` remembers of a pool. -/
structure BufferPool (w : ℕ) where
  host : ByteOrder
  count : ℕ
  /-- A `size_t`. -/
  size : ℕ
  size_lt : size < 2 ^ w

/-- The variables of `csp_buffer.c`, and the buffers that the rest of the program has. -/
structure Buffers where
  cspBufferList : ℕ → CspBufferState
  cspBufferLastGiven : U8
  memory : ℕ → U8
  /-- Returned by a call and not freed since. -/
  held : List ℕ

/-- `csp_buffer_init`. -/
def Buffers.init (memory : ℕ → U8) : Buffers := ⟨fun _ => .cspBufferFree, 0, memory, []⟩

/-- Element `i` is marked as used, and the progress remembered. -/
def Buffers.take (s : Buffers) (i : ℕ) : Buffers :=
  { s with
    cspBufferList := Function.update s.cspBufferList i .cspBufferUsed
    cspBufferLastGiven := BitVec.ofNat 8 i }

/-- The result of a call belongs to its caller. -/
def Buffers.give (held : List ℕ) (r : Option ℕ × Buffers) : Buffers :=
  { r.2 with held := r.1.toList ++ held }

namespace BufferPool

variable {w : ℕ}

/-- The bytes that `csp_buffer_init` asks `csp_malloc` for. -/
def bytes (c : BufferPool w) : ℕ := c.count * c.size % 2 ^ w

/-- Where element `i` begins, `i * size` as a `size_t`. -/
def element (c : BufferPool w) (i : ℕ) : ℕ := i * c.size % 2 ^ w

/-- The loop of `csp_buffer_get_isr` at element `i`, for at most `fuel` rounds: `none` if it has
not come to its end. -/
def searchFree (c : BufferPool w) (s : Buffers) : ℕ → ℕ → Option (Option ℕ)
  | 0, _ => none
  | fuel + 1, i =>
    if i = s.cspBufferLastGiven.toNat then some none
    else if s.cspBufferList i = .cspBufferFree then some (some i)
    else searchFree c s fuel ((i + 1) % c.count)

/-- `csp_buffer_get_isr`. -/
def cspBufferGetIsr (c : BufferPool w) (fuel : ℕ) (bufSize : BitVec w) (s : Buffers) :
    Option (Option ℕ × Buffers) :=
  if c.size < (bufSize + BitVec.ofNat w cspBufferPacketOverhead).toNat then some (none, s)
  else
    match searchFree c s fuel ((s.cspBufferLastGiven.toNat + 1) % c.count) with
    | none => none
    | some none => some (none, s)
    | some (some i) => some (some (c.element i), s.take i)

/-- `csp_buffer_get`: the same in a critical section. -/
def cspBufferGet (c : BufferPool w) (fuel : ℕ) (bufSize : BitVec w) (s : Buffers) :
    Option (Option ℕ × Buffers) :=
  cspBufferGetIsr c fuel bufSize s

/-- `csp_buffer_free`; `none` is a division by zero. -/
def cspBufferFree (c : BufferPool w) (packet : ℕ) (s : Buffers) : Option Buffers :=
  if c.size = 0 then none
  else
    let i := packet / c.size
    if c.count < i then some s
    else some { s with cspBufferList := Function.update s.cspBufferList i .cspBufferFree }

/-- `packet->length`. -/
def packetLength (c : BufferPool w) (packet : ℕ) (s : Buffers) : U16 :=
  load16 c.host (s.memory (packet + cspPaddingBytes)) (s.memory (packet + cspPaddingBytes + 1))

/-- `memcpy(clone, packet, size)`. -/
def copyElement (c : BufferPool w) (clone packet : ℕ) (memory : ℕ → U8) : ℕ → U8 := fun k =>
  if clone ≤ k ∧ k < clone + c.size then memory (packet + (k - clone)) else memory k

/-- `csp_buffer_clone`. -/
def cspBufferClone (c : BufferPool w) (fuel : ℕ) (buffer : Option ℕ) (s : Buffers) :
    Option (Option ℕ × Buffers) :=
  match buffer with
  | none => some (none, s)
  | some packet =>
    match cspBufferGet c fuel ((packetLength c packet s).setWidth w) s with
    | none => none
    | some (none, s) => some (none, s)
    | some (some clone, s) =>
      some (some clone, { s with memory := copyElement c clone packet s.memory })

/-- `csp_buffer_remaining`. -/
def cspBufferRemaining (c : BufferPool w) (s : Buffers) : ℕ :=
  (List.range c.count).countP fun i => s.cspBufferList i = .cspBufferFree

/-! ### Runs -/

inductive BufferAction (w : ℕ)
  | get (bufSize : BitVec w)
  | getIsr (bufSize : BitVec w)
  | clone (buffer : Option ℕ)
  | free (packet : ℕ)
  /-- The rest of the program writes into its buffers, or elsewhere. -/
  | write (memory : ℕ → U8)

def bufferStep (c : BufferPool w) (fuel : ℕ) (s : Buffers) : BufferAction w → Option Buffers
  | .get bufSize => (cspBufferGet c fuel bufSize s).map (Buffers.give s.held)
  | .getIsr bufSize => (cspBufferGetIsr c fuel bufSize s).map (Buffers.give s.held)
  | .clone buffer => (cspBufferClone c fuel buffer s).map (Buffers.give s.held)
  | .free packet => (cspBufferFree c packet s).map fun t => { t with held := s.held.erase packet }
  | .write memory => some { s with memory := memory }

/-- A buffer is freed by who has it, with the pointer it was returned as. -/
def FreesOwn (s : Buffers) : BufferAction w → Prop
  | .free packet => packet ∈ s.held
  | .get _ | .getIsr _ | .clone _ | .write _ => True

instance (s : Buffers) : ∀ a : BufferAction w, Decidable (FreesOwn s a)
  | .free _ => inferInstanceAs (Decidable (_ ∈ _))
  | .get _ | .getIsr _ | .clone _ | .write _ => isTrue trivial

/-! ### The search -/

/-- How many elements lie between `i` and the last one given, going round. -/
def ringDistance (count last i : ℕ) : ℕ := if i ≤ last then last - i else last + count - i

/-- The next index of the scan is one nearer to the element that was given last. -/
theorem ringDistance_next {count last i : ℕ} (hlast : last < count) (hi : i < count)
    (hne : i ≠ last) : (i + 1) % count < count ∧
      ringDistance count last ((i + 1) % count) + 1 = ringDistance count last i := by
  unfold ringDistance
  rcases Nat.lt_or_ge (i + 1) count with h | h
  · rw [Nat.mod_eq_of_lt h]
    refine ⟨h, ?_⟩
    split <;> split <;> omega
  · obtain rfl : count = i + 1 := by omega
    rw [Nat.mod_self]
    refine ⟨by omega, ?_⟩
    split <;> split <;> omega

/-- The scan goes round once at most. -/
theorem ringDistance_lt {count last i : ℕ} (hlast : last < count) (hi : i < count) :
    ringDistance count last i < count := by
  unfold ringDistance
  split <;> omega

/-- **The search ends** when the position it started behind lies in the pool. -/
theorem searchFree_isSome {c : BufferPool w} {s : Buffers}
    (hlast : s.cspBufferLastGiven.toNat < c.count) (fuel i : ℕ) (hi : i < c.count)
    (hfuel : ringDistance c.count s.cspBufferLastGiven.toNat i < fuel) :
    (searchFree c s fuel i).isSome := by
  induction fuel generalizing i with
  | zero => exact absurd hfuel (Nat.not_lt_zero _)
  | succ fuel ih =>
    unfold searchFree
    split
    · rfl
    · rename_i hne
      split
      · rfl
      · obtain ⟨hlt, hd⟩ := ringDistance_next hlast hi hne
        exact ih _ hlt (by omega)

/-- What it finds is a free element, and not the last one given. -/
theorem searchFree_eq_some {c : BufferPool w} {s : Buffers} {fuel i j : ℕ} (hi : i < c.count)
    (h : searchFree c s fuel i = some (some j)) :
    j < c.count ∧ j ≠ s.cspBufferLastGiven.toNat ∧ s.cspBufferList j = .cspBufferFree := by
  induction fuel generalizing i with
  | zero => exact absurd h.symm (Option.some_ne_none _)
  | succ fuel ih =>
    unfold searchFree at h
    split at h
    · exact absurd (Option.some.inj h).symm (Option.some_ne_none j)
    · rename_i hne
      split at h
      · rename_i hfree
        obtain rfl := Option.some.inj (Option.some.inj h)
        exact ⟨hi, hne, hfree⟩
      · exact ih (Nat.mod_lt _ (by omega)) h

/-! ### What the calls do -/

/-- **A request takes a free element, or fails.** -/
theorem cspBufferGetIsr_cases {c : BufferPool w} {s : Buffers} {fuel : ℕ} {bufSize : BitVec w}
    {r : Option ℕ × Buffers} (hcount : 0 < c.count)
    (h : cspBufferGetIsr c fuel bufSize s = some r) :
    r = (none, s) ∨ ∃ i, i < c.count ∧ s.cspBufferList i = .cspBufferFree ∧
      r = (some (c.element i), s.take i) := by
  unfold cspBufferGetIsr at h
  split at h
  · exact .inl (Option.some.inj h).symm
  · split at h
    · exact absurd h.symm (Option.some_ne_none r)
    · exact .inl (Option.some.inj h).symm
    · rename_i i hsearch
      obtain ⟨hi, -, hfree⟩ := searchFree_eq_some (Nat.mod_lt _ hcount) hsearch
      exact .inr ⟨i, hi, hfree, (Option.some.inj h).symm⟩

/-- **So does a clone, and it copies the element.** -/
theorem cspBufferClone_cases {c : BufferPool w} {s : Buffers} {fuel : ℕ} {buffer : Option ℕ}
    {r : Option ℕ × Buffers} (hcount : 0 < c.count)
    (h : cspBufferClone c fuel buffer s = some r) :
    r = (none, s) ∨ ∃ packet i, buffer = some packet ∧ i < c.count ∧
      s.cspBufferList i = .cspBufferFree ∧ r = (some (c.element i),
        { s.take i with memory := copyElement c (c.element i) packet s.memory }) := by
  unfold cspBufferClone at h
  split at h
  · exact .inl (Option.some.inj h).symm
  · rename_i packet
    split at h
    · exact absurd h.symm (Option.some_ne_none r)
    · rename_i s' hget
      rcases cspBufferGetIsr_cases hcount hget with hr | ⟨i, -, -, hr⟩
      · obtain rfl := (Prod.mk.inj hr).2
        exact .inl (Option.some.inj h).symm
      · exact absurd (Prod.mk.inj hr).1.symm (Option.some_ne_none _)
    · rename_i q s' hget
      rcases cspBufferGetIsr_cases hcount hget with hr | ⟨i, hi, hfree, hr⟩
      · exact absurd (Prod.mk.inj hr).1 (Option.some_ne_none _)
      · obtain ⟨hq, rfl⟩ := Prod.mk.inj hr
        obtain rfl := Option.some.inj hq
        exact .inr ⟨packet, i, rfl, hi, hfree, (Option.some.inj h).symm⟩

/-- What one call does: the flag of one element and its place in `held`, or the memory only. -/
inductive Handover (c : BufferPool w) (s t : Buffers) : Prop
  /-- No buffer changes hands. -/
  | keep (hl : t.cspBufferList = s.cspBufferList)
      (hg : t.cspBufferLastGiven = s.cspBufferLastGiven) (hh : t.held = s.held)
  /-- A call returned element `i`. -/
  | give (i : ℕ) (hi : i < c.count) (hfree : s.cspBufferList i = .cspBufferFree)
      (hl : t.cspBufferList = Function.update s.cspBufferList i .cspBufferUsed)
      (hg : t.cspBufferLastGiven = BitVec.ofNat 8 i) (hh : t.held = c.element i :: s.held)
  /-- Element `i` was freed. -/
  | back (i : ℕ) (hi : i < c.count) (hmem : c.element i ∈ s.held)
      (hl : t.cspBufferList = Function.update s.cspBufferList i .cspBufferFree)
      (hg : t.cspBufferLastGiven = s.cspBufferLastGiven) (hh : t.held = s.held.erase (c.element i))

/-! ### Elements -/

/-- The elements have bytes, and there is room for all of them. -/
structure Fits (c : BufferPool w) : Prop where
  size_pos : 1 ≤ c.size
  lt : c.count * c.size < 2 ^ w

/-- Where the pool fits nothing wraps. -/
theorem Fits.element_eq {c : BufferPool w} (h : c.Fits) {i : ℕ} (hi : i < c.count) :
    c.element i = i * c.size :=
  Nat.mod_eq_of_lt ((Nat.mul_le_mul_right _ (Nat.le_of_lt hi)).trans_lt h.lt)

/-- Where the product fits, the pool has all bytes of its elements. -/
theorem Fits.bytes_eq {c : BufferPool w} (h : c.Fits) : c.bytes = c.count * c.size :=
  Nat.mod_eq_of_lt h.lt

/-- Two elements have no byte in common. -/
theorem Fits.element_disjoint {c : BufferPool w} (h : c.Fits) {i j : ℕ} (hi : i < c.count)
    (hj : j < c.count) (hne : i ≠ j) : c.element i + c.size ≤ c.element j ∨
      c.element j + c.size ≤ c.element i := by
  rw [h.element_eq hi, h.element_eq hj, ← Nat.succ_mul, ← Nat.succ_mul]
  rcases Nat.lt_or_gt_of_ne hne with hlt | hlt
  · exact .inl (Nat.mul_le_mul_right _ hlt)
  · exact .inr (Nat.mul_le_mul_right _ hlt)

/-- So they begin at different bytes. -/
theorem Fits.element_inj {c : BufferPool w} (h : c.Fits) {i j : ℕ} (hi : i < c.count)
    (hj : j < c.count) (he : c.element i = c.element j) : i = j := by
  by_contra hne
  have := h.size_pos
  rcases h.element_disjoint hi hj hne with hd | hd <;> omega

/-! ### The invariant -/

/-- The flags say which buffers are out, and the search starts inside the pool. -/
structure PoolOk (c : BufferPool w) (s : Buffers) : Prop where
  last : s.cspBufferLastGiven.toNat < c.count
  used : ∀ i, i < c.count → (s.cspBufferList i = .cspBufferUsed ↔ c.element i ∈ s.held)
  element : ∀ p ∈ s.held, ∃ i, i < c.count ∧ p = c.element i
  nodup : s.held.Nodup
  counted : cspBufferRemaining c s + s.held.length = c.count

/-- One entry of the list changes, and the number of free ones with it. -/
theorem countP_free_update {n i : ℕ} (hi : i < n) (f : ℕ → CspBufferState) (x : CspBufferState) :
    (List.range n).countP (fun j => Function.update f i x j = .cspBufferFree) +
        (if f i = .cspBufferFree then 1 else 0) =
      (List.range n).countP (fun j => f j = .cspBufferFree) +
        if x = .cspBufferFree then 1 else 0 := by
  induction n with
  | zero => exact absurd hi (Nat.not_lt_zero i)
  | succ n ih =>
    rw [List.range_succ, List.countP_append, List.countP_append, List.countP_singleton,
      List.countP_singleton]
    rcases Nat.lt_succ_iff_lt_or_eq.1 hi with h | rfl
    · have := ih h
      rw [Function.update_of_ne (by omega : n ≠ i)]
      omega
    · have hsame : (List.range i).countP (fun j => Function.update f i x j = .cspBufferFree) =
          (List.range i).countP (fun j => f j = .cspBufferFree) := by
        refine List.countP_congr fun j hj => ?_
        have := List.mem_range.1 hj
        rw [Function.update_of_ne (by omega : j ≠ i)]
      rw [hsame, Function.update_self]
      simp only [decide_eq_true_eq]
      omega

/-- **Every call keeps the flags right.** -/
theorem PoolOk.handover {c : BufferPool w} {s t : Buffers} (hfits : c.Fits) (hs : PoolOk c s)
    (h : Handover c s t) : PoolOk c t := by
  cases h with
  | keep hl hg hh =>
    refine ⟨hg ▸ hs.last, ?_, hh ▸ hs.element, hh ▸ hs.nodup, ?_⟩
    · rw [hl, hh]
      exact hs.used
    · rw [cspBufferRemaining, hl, hh]
      exact hs.counted
  | give i hi hfree hl hg hh =>
    have hout : c.element i ∉ s.held := fun hmem => by
      rw [(hs.used i hi).2 hmem] at hfree
      exact CspBufferState.noConfusion hfree
    refine ⟨?_, fun j hj => ?_, fun p hp => ?_, ?_, ?_⟩
    · rw [hg, BitVec.toNat_ofNat]
      exact (Nat.mod_le _ _).trans_lt hi
    · rw [hl, hh, List.mem_cons]
      by_cases hji : j = i
      · subst hji
        rw [Function.update_self]
        exact iff_of_true rfl (.inl rfl)
      · rw [Function.update_of_ne hji, hs.used j hj]
        exact ⟨.inr, fun h => h.resolve_left fun he => hji (hfits.element_inj hj hi he)⟩
    · rw [hh] at hp
      rcases List.mem_cons.1 hp with rfl | hp
      · exact ⟨i, hi, rfl⟩
      · exact hs.element p hp
    · rw [hh]
      exact List.nodup_cons.2 ⟨hout, hs.nodup⟩
    · have hcount := countP_free_update hi s.cspBufferList .cspBufferUsed
      have := hs.counted
      rw [if_pos hfree, if_neg CspBufferState.noConfusion] at hcount
      unfold cspBufferRemaining at this ⊢
      rw [hl, hh, List.length_cons]
      omega
  | back i hi hmem hl hg hh =>
    refine ⟨hg ▸ hs.last, fun j hj => ?_, fun p hp => ?_, ?_, ?_⟩
    · rw [hl, hh, hs.nodup.mem_erase_iff]
      by_cases hji : j = i
      · subst hji
        rw [Function.update_self]
        exact iff_of_false CspBufferState.noConfusion fun h => h.1 rfl
      · rw [Function.update_of_ne hji, hs.used j hj]
        exact ⟨fun h => ⟨fun he => hji (hfits.element_inj hj hi he), h⟩, And.right⟩
    · rw [hh] at hp
      exact hs.element p (List.mem_of_mem_erase hp)
    · rw [hh]
      exact hs.nodup.erase _
    · have hcount := countP_free_update hi s.cspBufferList .cspBufferFree
      have := hs.counted
      have hlen := List.length_erase_of_mem hmem
      have hpos := List.length_pos_of_mem hmem
      have hused : s.cspBufferList i ≠ .cspBufferFree := by
        rw [(hs.used i hi).2 hmem]
        exact CspBufferState.noConfusion
      rw [if_neg hused, if_pos rfl] at hcount
      unfold cspBufferRemaining at this ⊢
      rw [hl, hh, hlen]
      omega

/-- After `csp_buffer_init` every element is free. -/
theorem PoolOk.init {c : BufferPool w} (hcount : 0 < c.count) (memory : ℕ → U8) :
    PoolOk c (.init memory) where
  last := hcount
  used := fun _ _ => iff_of_false CspBufferState.noConfusion List.not_mem_nil
  element := fun _ hp => absurd hp List.not_mem_nil
  nodup := List.nodup_nil
  counted := (List.countP_eq_length.2 fun _ _ => rfl).trans List.length_range

/-- The two results of the search, as what is handed to the program. -/
theorem Handover.of_result {c : BufferPool w} {s : Buffers} {r : Option ℕ × Buffers}
    (h : r = (none, s) ∨ ∃ i m, i < c.count ∧ s.cspBufferList i = .cspBufferFree ∧
      r = (some (c.element i), { s.take i with memory := m })) :
    Handover c s (.give s.held r) := by
  rcases h with rfl | ⟨i, m, hi, hfree, rfl⟩
  · exact .keep rfl rfl rfl
  · exact .give i hi hfree rfl rfl rfl

/-- **A call hands over one buffer, or none.** -/
theorem PoolOk.step {c : BufferPool w} {s t : Buffers} {fuel : ℕ} {a : BufferAction w}
    (hfits : c.Fits) (hs : PoolOk c s) (hown : FreesOwn s a)
    (h : bufferStep c fuel s a = some t) : Handover c s t := by
  have hsize := hfits.size_pos
  have hcount : 0 < c.count := (Nat.zero_le _).trans_lt hs.last
  have hget : ∀ bufSize, (cspBufferGetIsr c fuel bufSize s).map (Buffers.give s.held) = some t →
      Handover c s t := by
    intro bufSize h
    obtain ⟨r, hr, rfl⟩ := Option.map_eq_some_iff.1 h
    refine .of_result ((cspBufferGetIsr_cases hcount hr).imp_right ?_)
    rintro ⟨i, hi, hfree, rfl⟩
    exact ⟨i, s.memory, hi, hfree, rfl⟩
  cases a with
  | get bufSize => exact hget bufSize h
  | getIsr bufSize => exact hget bufSize h
  | clone buffer =>
    obtain ⟨r, hr, rfl⟩ := Option.map_eq_some_iff.1 h
    refine .of_result ((cspBufferClone_cases hcount hr).imp_right ?_)
    rintro ⟨packet, i, -, hi, hfree, rfl⟩
    exact ⟨i, _, hi, hfree, rfl⟩
  | free packet =>
    obtain ⟨t, ht, rfl⟩ := Option.map_eq_some_iff.1 h
    obtain ⟨i, hi, rfl⟩ := hs.element packet hown
    unfold cspBufferFree at ht
    rw [if_neg (by omega), hfits.element_eq hi] at ht
    simp only [Nat.mul_div_cancel _ hsize] at ht
    rw [if_neg (by omega)] at ht
    obtain rfl := Option.some.inj ht
    exact .back i hi hown rfl rfl rfl
  | write memory =>
    obtain rfl := Option.some.inj h
    exact .keep rfl rfl rfl

/-! ### Soundness -/

/-- What the program relies on. -/
structure Sound (c : BufferPool w) (fuel : ℕ) (s : Buffers) : Prop where
  /-- Every call returns, after at most `count` rounds of its loop. -/
  returns : c.count ≤ fuel → ∀ a : BufferAction w, FreesOwn s a → (bufferStep c fuel s a).isSome
  /-- No call returns a buffer that is out. -/
  fresh : ∀ (a : BufferAction w) t p, FreesOwn s a → bufferStep c fuel s a = some t →
    t.held = p :: s.held → p ∉ s.held
  /-- The buffers that are out have no byte in common. -/
  disjoint : s.held.Pairwise fun p q => p + c.size ≤ q ∨ q + c.size ≤ p
  /-- They lie in the pool. -/
  inside : ∀ p ∈ s.held, p + c.size ≤ c.bytes
  /-- A clone is its source, which stays what it was if it is out. -/
  clone : ∀ packet t q, bufferStep c fuel s (.clone (some packet)) = some t →
    t.held = q :: s.held → ∀ k, k < c.size → t.memory (q + k) = s.memory (packet + k) ∧
      (packet ∈ s.held → t.memory (packet + k) = s.memory (packet + k))
  remaining : cspBufferRemaining c s = c.count - s.held.length

/-- **Buffers that are out do not overlap.** -/
theorem PoolOk.disjoint {c : BufferPool w} {s : Buffers} (hfits : c.Fits) (hs : PoolOk c s)
    {p q : ℕ} (hp : p ∈ s.held) (hq : q ∈ s.held) (hne : p ≠ q) :
    p + c.size ≤ q ∨ q + c.size ≤ p := by
  obtain ⟨i, hi, rfl⟩ := hs.element p hp
  obtain ⟨j, hj, rfl⟩ := hs.element q hq
  exact hfits.element_disjoint hi hj fun he => hne (by rw [he])

/-- **A request returns.** -/
theorem PoolOk.get_isSome {c : BufferPool w} {s : Buffers} {fuel : ℕ} (hs : PoolOk c s)
    (hfuel : c.count ≤ fuel) (bufSize : BitVec w) : (cspBufferGetIsr c fuel bufSize s).isSome := by
  have hi : (s.cspBufferLastGiven.toNat + 1) % c.count < c.count :=
    Nat.mod_lt _ ((Nat.zero_le _).trans_lt hs.last)
  obtain ⟨r, hr⟩ := Option.isSome_iff_exists.1 (searchFree_isSome hs.last fuel _ hi
    ((ringDistance_lt hs.last hi).trans_le hfuel))
  unfold cspBufferGetIsr
  rw [hr]
  split
  · rfl
  · cases r <;> rfl

/-- A clone terminates. -/
theorem PoolOk.clone_isSome {c : BufferPool w} {s : Buffers} {fuel : ℕ} (hs : PoolOk c s)
    (hfuel : c.count ≤ fuel) (buffer : Option ℕ) : (cspBufferClone c fuel buffer s).isSome := by
  cases buffer with
  | none => rfl
  | some packet =>
    obtain ⟨r, hr⟩ := Option.isSome_iff_exists.1
      (hs.get_isSome hfuel ((packetLength c packet s).setWidth w))
    unfold cspBufferClone cspBufferGet
    simp only [hr]
    obtain ⟨_ | q, t⟩ := r <;> rfl

/-- **Every call terminates.** -/
theorem PoolOk.step_isSome {c : BufferPool w} {s : Buffers} {fuel : ℕ} (hsize : 0 < c.size)
    (hs : PoolOk c s) (hfuel : c.count ≤ fuel) (a : BufferAction w) :
    (bufferStep c fuel s a).isSome := by
  cases a with
  | get bufSize | getIsr bufSize =>
    exact Option.isSome_map.trans (hs.get_isSome hfuel bufSize)
  | clone buffer => exact Option.isSome_map.trans (hs.clone_isSome hfuel buffer)
  | free packet =>
    refine Option.isSome_map.trans ?_
    unfold cspBufferFree
    rw [if_neg (by omega)]
    simp only
    split <;> rfl
  | write memory => rfl

/-- **What a call returns was free.** -/
theorem PoolOk.fresh {c : BufferPool w} {s t : Buffers} (hs : PoolOk c s) (h : Handover c s t)
    {p : ℕ} (hp : t.held = p :: s.held) : p ∉ s.held := by
  have hlen := congrArg List.length hp
  rw [List.length_cons] at hlen
  cases h with
  | keep hl hg hh =>
    rw [hh] at hlen
    omega
  | give i hi hfree hl hg hh =>
    obtain rfl : c.element i = p := (List.cons.inj (hh.symm.trans hp)).1
    intro hmem
    rw [(hs.used i hi).2 hmem] at hfree
    exact CspBufferState.noConfusion hfree
  | back i hi hmem hl hg hh =>
    rw [hh, List.length_erase_of_mem hmem] at hlen
    omega

/-- **A clone is its source.** -/
theorem PoolOk.clone {c : BufferPool w} {s t : Buffers} {fuel packet q : ℕ} (hfits : c.Fits)
    (hs : PoolOk c s)
    (h : bufferStep c fuel s (.clone (some packet)) = some t) (hq : t.held = q :: s.held)
    {k : ℕ} (hk : k < c.size) : t.memory (q + k) = s.memory (packet + k) ∧
      (packet ∈ s.held → t.memory (packet + k) = s.memory (packet + k)) := by
  obtain ⟨r, hr, rfl⟩ := Option.map_eq_some_iff.1 h
  rcases cspBufferClone_cases ((Nat.zero_le _).trans_lt hs.last) hr with
    rfl | ⟨_, i, hpacket, hi, hfree, rfl⟩
  · have hlen : s.held.length = s.held.length + 1 := congrArg List.length hq
    omega
  · obtain rfl := Option.some.inj hpacket
    obtain rfl : c.element i = q := (List.cons.inj hq).1
    constructor
    · show copyElement c (c.element i) packet s.memory (c.element i + k) = _
      unfold copyElement
      rw [if_pos ⟨by omega, by omega⟩, Nat.add_sub_cancel_left]
    · intro hmem
      obtain ⟨j, hj, rfl⟩ := hs.element packet hmem
      have hne : i ≠ j := by
        rintro rfl
        rw [(hs.used i hi).2 hmem] at hfree
        exact CspBufferState.noConfusion hfree
      show copyElement c (c.element i) (c.element j) s.memory (c.element j + k) = _
      unfold copyElement
      rcases hfits.element_disjoint hi hj hne with h | h <;> rw [if_neg (by omega)]

/-- A pool in order does what the program relies on. -/
theorem PoolOk.sound {c : BufferPool w} {s : Buffers} (hfits : c.Fits) (fuel : ℕ)
    (hs : PoolOk c s) : Sound c fuel s where
  returns := fun hfuel a _ => hs.step_isSome hfits.size_pos hfuel a
  fresh := fun _ _ _ hown hst hp => hs.fresh (hs.step hfits hown hst) hp
  disjoint := hs.nodup.imp_of_mem fun hp hq hne => hs.disjoint hfits hp hq hne
  inside := by
    intro p hp
    obtain ⟨i, hi, rfl⟩ := hs.element p hp
    rw [hfits.element_eq hi, hfits.bytes_eq, ← Nat.succ_mul]
    exact Nat.mul_le_mul_right _ hi
  clone := fun _ _ _ hst hq _ hk => hs.clone hfits hst hq hk
  remaining := by
    have := hs.counted
    omega

/-- **The pool is sound in every run** where it fits, for every number of elements. -/
theorem run_sound {c : BufferPool w} (hcount : 1 ≤ c.count) (hfits : c.Fits)
    (fuel : ℕ) (memory : ℕ → U8) {acts : List (BufferAction w)} {s : Buffers}
    (h : Run (bufferStep c fuel) FreesOwn (.init memory) acts s) : Sound c fuel s := by
  have hok : PoolOk c s := h.invariant (P := PoolOk c)
    (fun _ _ _ hs hown hst => hs.handover hfits (hs.step hfits hown hst))
    (.init hcount memory)
  exact hok.sound hfits fuel

end BufferPool
end LibCSP
