/-
# What the checksum is, and which damage it finds

`src/csp_crc32.c` computes the CRC-32C a byte at a time: eight steps of the register are a
word of the table and a shift (`Crc.iterate_step_split`), so `csp_crc32_memory` is the
bitwise CRC (`cspCrc32Memory_eq_crc32c`).

On a little-endian host the trailer lies in the order in which the register takes bits, so
payload and trailer together leave one and the same register in every packet that
`csp_crc32_verify` accepts (`feed_bytes_of_verify`).  The damage of an accepted packet
therefore leaves nothing, which a burst of at most 32 bits never does
(`cspCrc32Verify_burst`).
-/

import LibCSP.Basis.Crc
import LibCSP.Security.Crc32

namespace LibCSP

open Basis CspPacket

/-- The CRC-32C of a byte string, bit by bit: the register starts with all bits set, takes the
bits of each byte from the least significant on, and is complemented at the end. -/
def crc32c (data : List U8) : U32 := ~~~Crc.feed 0x82F63B78 0xFFFFFFFF (data.flatMap Crc.toBits)

/-- An entry of the table is eight steps of the register. -/
theorem crcTab_eq (i : U32) : crcTab i = (Crc.step cspCrc32Poly)^[8] i := by
  rw [crcTab, List.foldl_const, List.length_range]
  refine congrFun (congrArg (·^[8]) (funext fun crc => ?_)) i
  have hbit : crc &&& 1 = (BitVec.ofBool (crc.getLsbD 0)).setWidth 32 :=
    BitVec.and_one_eq_setWidth_ofBool_getLsbD
  rw [hbit, Crc.step]
  cases crc.getLsbD 0
  · exact (BitVec.xor_zero).symm
  · rfl

/-- A turn of the loop of `csp_crc32_memory` takes the eight bits of a byte. -/
theorem crcTab_byte (crc : U32) (b : U8) :
    crcTab ((crc ^^^ b.setWidth 32) &&& 0xff) ^^^ crc >>> 8 =
      Crc.feed cspCrc32Poly crc (Crc.toBits b) := by
  have hmask : ∀ i, i < 32 → (0xff : U32).getLsbD i = decide (i < 8) := by decide
  have hbyte : b.setWidth 32 >>> 8 = (0#32) := by
    apply BitVec.eq_of_getLsbD_eq
    intro i hi
    rw [BitVec.getLsbD_ushiftRight, BitVec.getLsbD_setWidth, b.getLsbD_of_ge _ (by omega),
      Bool.and_false, BitVec.getLsbD_zero]
  rw [Crc.feed_toBits _ (by decide), Crc.iterate_step_split _ 8 _ _ hmask,
    BitVec.ushiftRight_xor_distrib, hbyte, BitVec.xor_zero, crcTab_eq]

/-- The loop of `csp_crc32_memory`. -/
theorem foldl_crcTab (data : List U8) (crc : U32) :
    data.foldl (fun crc b => crcTab ((crc ^^^ b.setWidth 32) &&& 0xff) ^^^ crc >>> 8) crc =
      Crc.feed cspCrc32Poly crc (data.flatMap Crc.toBits) := by
  induction data generalizing crc with
  | nil => rfl
  | cons b data ih =>
    rw [List.foldl_cons, List.flatMap_cons, Crc.feed_append, ih, crcTab_byte]

/-- The final exclusive or is a complement. -/
theorem cspCrc32Memory_feed (data : List U8) :
    cspCrc32Memory data = ~~~Crc.feed cspCrc32Poly 0xFFFFFFFF (data.flatMap Crc.toBits) := by
  have hnot : ∀ crc : U32, crc ^^^ 0xffffffff = ~~~crc := fun crc => BitVec.xor_allOnes
  rw [cspCrc32Memory, foldl_crcTab, hnot]

/-- **The table computes the bitwise CRC-32C**, of every byte string. -/
theorem cspCrc32Memory_eq_crc32c (data : List U8) : cspCrc32Memory data = crc32c data :=
  cspCrc32Memory_feed data

/-! ### Damage -/

/-- The bits of a word, from the bytes in which a little-endian host stores it. -/
theorem flatMap_toBits_byteOf (x : U32) :
    ((List.range 4).map (byteOf x)).flatMap Crc.toBits = Crc.toBits x := by
  refine List.ext_getElem ?_ fun i hi hi' => ?_
  · rw [Crc.length_flatMap_toBits, Crc.length_toBits, List.length_map, List.length_range]
  · rw [Crc.length_toBits] at hi'
    have hget : ((List.range 4).map (byteOf x)).getD (i / 8) 0#8 = byteOf x (i / 8) := by
      rw [List.getD_eq_getElem _ _ (by rw [List.length_map, List.length_range]; omega),
        List.getElem_map, List.getElem_range]
    rw [← List.getD_eq_getElem _ false hi, ← List.getD_eq_getElem _ false,
      Crc.getD_flatMap_toBits (by decide), Crc.getD_toBits, hget, byteOf, BitVec.getLsbD_setWidth,
      BitVec.getLsbD_ushiftRight, decide_eq_true (Nat.mod_lt i (by decide)), Bool.true_and,
      Nat.div_add_mod]

/-- **A packet is accepted only if its bytes leave the register of all packets that are**: the
trailer is the complement of what the payload leaves. -/
theorem feed_bytes_of_verify {q q' : CspPacket} (hlen : 4 ≤ q.length.toNat)
    (h : cspCrc32Verify .little q = some q') :
    Crc.feed cspCrc32Poly 0xFFFFFFFF (q.bytes.flatMap Crc.toBits) =
      (Crc.step cspCrc32Poly)^[32] (BitVec.allOnes 32) := by
  rw [cspCrc32Verify, verifyTrailer] at h
  split at h
  · rename_i hlast
    have hlt := q.length.isLt
    have hcut : (q.length.setWidth 32 - 4 : U32).toNat = q.length.toNat - 4 := by
      rw [BitVec.toNat_sub, BitVec.toNat_setWidth]
      show (2 ^ 32 - 4 + q.length.toNat % 2 ^ 32) % 2 ^ 32 = _
      omega
    rw [hcut] at hlast
    have htrailer : q.slice (q.length.toNat - 4) 4 =
        (List.range 4).map (byteOf (cspCrc32Memory (q.slice 0 (q.length.toNat - 4)))) := by
      refine List.map_congr_left fun k hk => ?_
      have hk := List.mem_range.1 hk
      have hbyte := hlast ⟨k, hk⟩
      rwa [lastFour, show q.length.toNat + 2 + k = q.length.toNat - 4 + k + 6 by omega,
        mem_add_six] at hbyte
    have hsum : q.bytes = q.slice 0 (q.length.toNat - 4) ++ q.slice (q.length.toNat - 4) 4 := by
      rw [bytes_eq_slice, ← slice_add, Nat.sub_add_cancel hlen]
    rw [hsum, htrailer, List.flatMap_append, flatMap_toBits_byteOf, cspCrc32Memory_feed,
      Crc.feed_append]
    exact Crc.feed_toBits_not _ _
  · cases h

/-- `q` is `r` with at least one bit of the data changed, and with all changes in a run of `n`
bits.  Bits are counted from the least significant of each byte on. -/
structure Damaged (r q : CspPacket) (start n : ℕ) : Prop where
  length : q.length = r.length
  differs : ∃ k, k < r.length.toNat ∧ q.data k ≠ r.data k
  within : ∀ k, k < r.length.toNat → ∀ j, j < 8 →
    (q.data k).getLsbD j ≠ (r.data k).getLsbD j → start ≤ 8 * k + j ∧ 8 * k + j < start + n

/-- The bits in which two packets of one length differ. -/
theorem getD_zipWith_bytes {r q : CspPacket} (hlen : q.length = r.length) {i : ℕ}
    (hi : i / 8 < r.length.toNat) :
    (List.zipWith xor (r.bytes.flatMap Crc.toBits) (q.bytes.flatMap Crc.toBits)).getD i false =
      xor ((r.data (i / 8)).getLsbD (i % 8)) ((q.data (i / 8)).getLsbD (i % 8)) := by
  have hbit : ∀ s : CspPacket, s.length = r.length →
      (s.bytes.flatMap Crc.toBits)[i]? = some ((s.data (i / 8)).getLsbD (i % 8)) := by
    intro s hs
    have hbytes : s.bytes.length = r.length.toNat := by
      rw [bytes, List.length_map, List.length_range, hs]
    have hi' : i < (s.bytes.flatMap Crc.toBits).length := by
      rw [Crc.length_flatMap_toBits, hbytes]
      omega
    rw [List.getElem?_eq_getElem hi', ← List.getD_eq_getElem _ false hi',
      Crc.getD_flatMap_toBits (by decide), List.getD_eq_getElem _ _ (by rwa [hbytes])]
    simp only [bytes, List.getElem_map, List.getElem_range]
  rw [List.getD_eq_getElem?_getD, List.getElem?_zipWith, hbit r rfl, hbit q hlen]
  rfl

/-- **A burst of at most 32 bits is found**, wherever it lies in payload and trailer. -/
theorem cspCrc32Verify_burst {p q : CspPacket} (hroom : p.length.toNat ≤ 65531) (start : ℕ)
    (h : Damaged (cspCrc32Append .little p) q start 32) : cspCrc32Verify .little q = none := by
  set r := cspCrc32Append .little p with hr
  have hlen : r.length.toNat = p.length.toNat + 4 := appendTrailer_length _ (by omega)
  obtain ⟨r', hr', -⟩ := verifyTrailer_appendTrailer (q := r) .little (crcTrailer .little)
    (show p.length.toNat + 4 < 2 ^ 16 by omega) ⟨rfl, fun _ _ => rfl⟩
  have hregister := feed_bytes_of_verify (by omega) hr'
  rcases hq : cspCrc32Verify .little q with _ | q'
  · rfl
  -- The damage of an accepted packet leaves the register empty.
  have hqregister := feed_bytes_of_verify (by rw [h.length]; omega) hq
  have hbytes : ∀ s : CspPacket, s.length = r.length → s.bytes.length = r.length.toNat := by
    intro s hs
    rw [bytes, List.length_map, List.length_range, hs]
  set damage := List.zipWith xor (r.bytes.flatMap Crc.toBits) (q.bytes.flatMap Crc.toBits)
    with hdamage
  have hdamagelen : damage.length = 8 * r.length.toNat := by
    rw [hdamage, List.length_zipWith, Crc.length_flatMap_toBits, Crc.length_flatMap_toBits,
      hbytes r rfl, hbytes q h.length, Nat.min_self]
  have hempty : Crc.feed cspCrc32Poly 0 damage = 0 := by
    have hsum := Crc.feed_xor_feed cspCrc32Poly (a := r.bytes.flatMap Crc.toBits)
      (b := q.bytes.flatMap Crc.toBits) (by
        rw [Crc.length_flatMap_toBits, Crc.length_flatMap_toBits, hbytes r rfl,
          hbytes q h.length]) 0xFFFFFFFF 0xFFFFFFFF
    rw [hregister, hqregister, BitVec.xor_self] at hsum
    exact hsum.symm
  refine absurd hempty (Crc.feed_burst_ne_zero (by decide) start ?_ fun i hi => ?_)
  · obtain ⟨k, hk, hne⟩ := h.differs
    obtain ⟨j, hj, hbit⟩ : ∃ j, j < 8 ∧ (q.data k).getLsbD j ≠ (r.data k).getLsbD j := by
      by_contra hno
      push Not at hno
      exact hne (BitVec.eq_of_getLsbD_eq hno)
    have hget := getD_zipWith_bytes h.length (i := 8 * k + j) (by omega)
    rw [show (8 * k + j) / 8 = k by omega, show (8 * k + j) % 8 = j by omega] at hget
    have htrue : damage.getD (8 * k + j) false = true := by
      rw [hdamage, hget, Bool.xor_comm]
      exact Bool.xor_iff_ne.2 hbit
    rw [List.getD_eq_getElem _ _ (by omega)] at htrue
    exact htrue ▸ List.getElem_mem _
  · have hlt : i < damage.length := by
      by_contra hge
      rw [List.getD_eq_default _ _ (by omega)] at hi
      exact Bool.false_ne_true hi
    rw [hdamage, getD_zipWith_bytes h.length (by omega), Bool.xor_comm] at hi
    have := h.within (i / 8) (by omega) (i % 8) (by omega) (Bool.xor_iff_ne.1 hi)
    omega

/-- A burst that begins in the last byte of the payload and ends in the trailer. -/
theorem cspCrc32Verify_burst_boundary :
    let p : CspPacket := ⟨0, 0, 0, 2, 0, fun k => if k = 0 then 0x43 else 0x53⟩
    let r := cspCrc32Append .little p
    cspCrc32Verify .little
      { r with data := fun k => r.data k ^^^ if k = 1 then 0x80 else if k = 5 then 0x40 else 0 } =
        none := by
  intro p r
  exact cspCrc32Verify_burst (p := p) (by decide) 15
    ⟨rfl, ⟨1, by decide +kernel, by decide +kernel⟩, by decide +kernel⟩

end LibCSP
