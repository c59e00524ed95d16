/-
# The RDP header

`rdp_header_t` and its helpers in `src/transport/csp_rdp.c`.  Five bytes behind
the payload: a flag byte and two 16-bit numbers.  `seq_nr` and `ack_nr` are
network order on the wire and in the retransmit queue; `csp_rdp_new_packet`
converts them in place, so a packet in the reorder queue holds them in host
order.  A header value here holds the two words *as the host loads them*, and
the conversions stay where the source has them.

`csp_rdp_header_ref` reads the five bytes in front of `data[length]`.  When the
packet is shorter than a header these lie in the `length` and `id` fields,
which is what the code then reads and writes.
-/

import LibCSP.Core.Packet

namespace LibCSP

open Basis

/-- `rdp_header_t`. -/
structure RdpHeader where
  flags : U8
  seqNr : U16
  ackNr : U16

namespace RdpHeader

def rst (h : RdpHeader) : Bool := h.flags.getLsbD 0
def eak (h : RdpHeader) : Bool := h.flags.getLsbD 1
def ack (h : RdpHeader) : Bool := h.flags.getLsbD 2
def syn (h : RdpHeader) : Bool := h.flags.getLsbD 3

/-- Byte `k` of the header in memory. -/
def byte (o : ByteOrder) (h : RdpHeader) : ℕ → U8
  | 0 => h.flags
  | 1 => byte16 o h.seqNr 0
  | 2 => byte16 o h.seqNr 1
  | 3 => byte16 o h.ackNr 0
  | _ => byte16 o h.ackNr 1

/-- The header at the five memory bytes `m 0 .. m 4`. -/
def ofBytes (o : ByteOrder) (m : ℕ → U8) : RdpHeader :=
  { flags := m 0, seqNr := load16 o (m 1) (m 2), ackNr := load16 o (m 3) (m 4) }

/-- A header is read as it was written. -/
@[simp] theorem ofBytes_byte (o : ByteOrder) (h : RdpHeader) : ofBytes o (h.byte o) = h := by
  cases h
  simp only [ofBytes, byte, load16_byte16]

end RdpHeader

/-- The `RDP_SYN`, `RDP_ACK`, `RDP_EAK`, `RDP_RST` argument of `csp_rdp_send_cmp`. -/
structure RdpFlags where
  syn : Bool
  ack : Bool
  eak : Bool
  rst : Bool
  deriving DecidableEq, Repr

/-- The flag byte with the four bits set as given and the reserved ones zero. -/
def RdpFlags.byte (f : RdpFlags) : U8 :=
  BitVec.ofNat 8 (f.rst.toNat + 2 * f.eak.toNat + 4 * f.ack.toNat + 8 * f.syn.toNat)

/-- The flags of a header that was built from them. -/
theorem RdpFlags.bits (f : RdpFlags) (s a : U16) :
    (RdpHeader.mk f.byte s a).rst = f.rst ∧ (RdpHeader.mk f.byte s a).eak = f.eak ∧
      (RdpHeader.mk f.byte s a).ack = f.ack ∧ (RdpHeader.mk f.byte s a).syn = f.syn := by
  show f.byte.getLsbD 0 = f.rst ∧ f.byte.getLsbD 1 = f.eak ∧ f.byte.getLsbD 2 = f.ack ∧
    f.byte.getLsbD 3 = f.syn
  obtain ⟨_ | _, _ | _, _ | _, _ | _⟩ := f <;> decide

/-- `sizeof(rdp_header_t)`. -/
def sizeofRdpHeader : ℕ := 5

/-- `csp_rdp_header_ref`: the header in front of `data[length]`. -/
def cspRdpHeaderRef (o : ByteOrder) (p : CspPacket) : RdpHeader :=
  RdpHeader.ofBytes o fun k => p.mem o (p.length.toNat + 1 + k)

/-- What assigning to the header through the pointer of `csp_rdp_header_ref` leaves. -/
def cspRdpHeaderStore (o : ByteOrder) (p : CspPacket) (h : RdpHeader) : CspPacket :=
  p.ofMem o fun k =>
    if p.length.toNat + 1 ≤ k ∧ k < p.length.toNat + 6 then h.byte o (k - (p.length.toNat + 1))
    else p.mem o k

/-- `csp_rdp_header_add` and the assignments through the pointer it returns. -/
def cspRdpHeaderAdd (o : ByteOrder) (p : CspPacket) (h : RdpHeader) : CspPacket :=
  { p with
    length := p.length + 5
    data := fun i =>
      if p.length.toNat ≤ i ∧ i < p.length.toNat + 5 then h.byte o (i - p.length.toNat)
      else p.data i }

/-- `csp_rdp_header_remove`. -/
def cspRdpHeaderRemove (p : CspPacket) : CspPacket := { p with length := p.length - 5 }

/-- The payload of an RDP packet: the bytes in front of the header. -/
def rdpPayload (p : CspPacket) : List U8 := (List.range (p.length.toNat - 5)).map p.data

/-! ### A packet that has a header -/

/-- The header of a packet that is long enough for one. -/
theorem cspRdpHeaderRef_of_le {o : ByteOrder} {p : CspPacket} (h : 5 ≤ p.length.toNat) :
    cspRdpHeaderRef o p = RdpHeader.ofBytes o fun k => p.data (p.length.toNat - 5 + k) := by
  have e : ∀ k, p.mem o (p.length.toNat + 1 + k) = p.data (p.length.toNat - 5 + k) := fun k => by
    rw [show p.length.toNat + 1 + k = p.length.toNat - 5 + k + 6 by omega, CspPacket.mem_add_six]
  simp only [cspRdpHeaderRef, e]

/-- Assigning to the header of a packet that has one touches only its bytes. -/
theorem cspRdpHeaderStore_of_le {o : ByteOrder} {p : CspPacket} (h : 5 ≤ p.length.toNat)
    (hdr : RdpHeader) :
    cspRdpHeaderStore o p hdr =
      { p with data := fun i =>
          if p.length.toNat - 5 ≤ i ∧ i < p.length.toNat then hdr.byte o (i - (p.length.toNat - 5))
          else p.data i } := by
  have hlow : ∀ k, k < 6 → (if p.length.toNat + 1 ≤ k ∧ k < p.length.toNat + 6 then
      hdr.byte o (k - (p.length.toNat + 1)) else p.mem o k) = p.mem o k := fun k hk =>
    if_neg (by omega)
  have h₁ : load16 o (p.mem o 0) (p.mem o 1) = p.length := load16_byte16 o p.length
  have h₂ : load32 o (p.mem o 2) (p.mem o 3) (p.mem o 4) (p.mem o 5) = p.id :=
    load32_byte32 o p.id
  rw [cspRdpHeaderStore, CspPacket.ofMem, hlow 0 (by omega), hlow 1 (by omega),
    hlow 2 (by omega), hlow 3 (by omega), hlow 4 (by omega), hlow 5 (by omega), h₁, h₂]
  congr 1
  funext i
  by_cases hi : p.length.toNat - 5 ≤ i ∧ i < p.length.toNat
  · rw [if_pos (by omega), if_pos hi]
    congr 1
    omega
  · rw [if_neg (by omega), if_neg hi, CspPacket.mem_add_six]

/-- The header of a packet is the one whose bytes lie in front of `data[length]`. -/
theorem cspRdpHeaderRef_eq {o : ByteOrder} {p : CspPacket} {hdr : RdpHeader}
    (h : 5 ≤ p.length.toNat)
    (hb : ∀ k, k < 5 → p.data (p.length.toNat - 5 + k) = hdr.byte o k) :
    cspRdpHeaderRef o p = hdr := by
  rw [cspRdpHeaderRef_of_le h]
  simp only [RdpHeader.ofBytes, hb 0 (by omega), hb 1 (by omega), hb 2 (by omega),
    hb 3 (by omega), hb 4 (by omega)]
  exact RdpHeader.ofBytes_byte o hdr

/-- Packets of one length with the same bytes in front of the header have the
same payload. -/
theorem rdpPayload_congr {p q : CspPacket} (hl : p.length = q.length)
    (hd : ∀ i, i < q.length.toNat - 5 → p.data i = q.data i) : rdpPayload p = rdpPayload q := by
  rw [rdpPayload, rdpPayload, hl]
  exact List.map_congr_left fun i hi => hd i (List.mem_range.1 hi)

/-- Storing a header keeps the length. -/
theorem length_headerStore {o : ByteOrder} {p : CspPacket} (h : 5 ≤ p.length.toNat)
    (hdr : RdpHeader) : (cspRdpHeaderStore o p hdr).length = p.length := by
  rw [cspRdpHeaderStore_of_le h]

/-- **What is assigned to the header is read back.** -/
theorem cspRdpHeaderRef_store {o : ByteOrder} {p : CspPacket} (h : 5 ≤ p.length.toNat)
    (hdr : RdpHeader) : cspRdpHeaderRef o (cspRdpHeaderStore o p hdr) = hdr := by
  refine cspRdpHeaderRef_eq (by rwa [length_headerStore h]) fun k hk => ?_
  rw [length_headerStore h, cspRdpHeaderStore_of_le h]
  show (if p.length.toNat - 5 ≤ p.length.toNat - 5 + k ∧ _ then _ else _) = _
  rw [if_pos (by omega), Nat.add_sub_cancel_left]

/-- And the payload. -/
theorem rdpPayload_store {o : ByteOrder} {p : CspPacket} (h : 5 ≤ p.length.toNat)
    (hdr : RdpHeader) : rdpPayload (cspRdpHeaderStore o p hdr) = rdpPayload p := by
  refine rdpPayload_congr (length_headerStore h hdr) fun i hi => ?_
  rw [cspRdpHeaderStore_of_le h]
  exact if_neg (by omega)

/-- Adding a header makes the packet five bytes longer. -/
theorem length_headerAdd {o : ByteOrder} {p : CspPacket} (h : p.length.toNat + 5 < 2 ^ 16)
    (hdr : RdpHeader) : (cspRdpHeaderAdd o p hdr).length.toNat = p.length.toNat + 5 := by
  show (p.length + 5).toNat = _
  rw [BitVec.toNat_add, show (5 : U16).toNat = 5 from rfl, Nat.mod_eq_of_lt h]

/-- **What `csp_rdp_header_add` appends is the header of the new packet**, unless
the 16-bit length wraps. -/
theorem cspRdpHeaderRef_add {o : ByteOrder} {p : CspPacket} (h : p.length.toNat + 5 < 2 ^ 16)
    (hdr : RdpHeader) : cspRdpHeaderRef o (cspRdpHeaderAdd o p hdr) = hdr := by
  have hl := length_headerAdd (o := o) h hdr
  refine cspRdpHeaderRef_eq (by omega) fun k hk => ?_
  rw [hl, Nat.add_sub_cancel]
  show (if p.length.toNat ≤ p.length.toNat + k ∧ _ then _ else _) = _
  rw [if_pos (by omega), Nat.add_sub_cancel_left]

/-- And its payload is what was there before. -/
theorem rdpPayload_add {o : ByteOrder} {p : CspPacket} (h : p.length.toNat + 5 < 2 ^ 16)
    (hdr : RdpHeader) : rdpPayload (cspRdpHeaderAdd o p hdr) = p.bytes := by
  rw [rdpPayload, length_headerAdd h, Nat.add_sub_cancel]
  refine List.map_congr_left fun i hi => ?_
  rw [List.mem_range] at hi
  exact if_neg (by omega)

/-- The packet handed to user space holds the payload. -/
theorem bytes_headerRemove {p : CspPacket} (h : 5 ≤ p.length.toNat) :
    (cspRdpHeaderRemove p).bytes = rdpPayload p := by
  have hl : (p.length - 5).toNat = p.length.toNat - 5 := by
    rw [BitVec.toNat_sub, show (5 : U16).toNat = 5 from rfl]
    have := p.length.isLt
    omega
  show (List.range (p.length - 5).toNat).map p.data = _
  rw [hl]
  rfl

/-! ### The header on the wire -/

/-- The header of a packet in flight: the last five bytes, in network byte order. -/
def wireHeader (p : CspPacket) : RdpHeader :=
  RdpHeader.ofBytes .big fun k => p.data (p.length.toNat - 5 + k)

/-- **Every host reads the same header from the same bytes** once it has
converted the two numbers. -/
theorem hton16_headerRef {o : ByteOrder} {p : CspPacket} (h : 5 ≤ p.length.toNat) :
    (cspRdpHeaderRef o p).flags = (wireHeader p).flags ∧
      hton16 o (cspRdpHeaderRef o p).seqNr = (wireHeader p).seqNr ∧
      hton16 o (cspRdpHeaderRef o p).ackNr = (wireHeader p).ackNr := by
  rw [cspRdpHeaderRef_of_le h]
  exact ⟨rfl, hton16_load16 o _ _, hton16_load16 o _ _⟩

end LibCSP
