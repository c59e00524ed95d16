/-
# What is read of a packet

`csp_rdp_new_packet` does not look at the length of a packet before it reads the header at
its end, and reads the six options of a SYN from the front of `data` whatever the length is.
`newPacketReads` lists the offsets into `packet->data` that it reads on its way through the
source; the index `packet->length - sizeof(rdp_header_t)` is unsigned there, so the header of a
packet that is too short lies in front of `data`, at a negative offset.  The entries of an
EACK are the only bytes that are read under a check of the length.

A packet as long as the header is read inside its length in every state, and a SYN that
opens a connection has its options when it is as long as header and options together
(`newPacket_tolerates_iff`).
-/

import LibCSP.Rdp.Incoming

namespace LibCSP

open Basis

/-! ### Offsets -/

/-- The header that `csp_rdp_header_ref` points to. -/
def headerReads (packet : CspPacket) : List ℤ :=
  (List.range sizeofRdpHeader).map fun k : ℕ =>
    (packet.length.toNat : ℤ) - sizeofRdpHeader + (k : ℤ)

/-- `data32[0]` to `data32[5]`. -/
def optionReads : List ℤ := (List.range (6 * 4)).map fun k : ℕ => (k : ℤ)

/-- `data16[j]` for the entries of an EACK, when there is an element to compare with. -/
def eackReads (eack : CspPacket) (w : World) : List ℤ :=
  if w.conn.rdp.txQueue.size = 0 then []
  else (List.range ((eack.length.toNat - sizeofRdpHeader) / 2 * 2)).map fun k : ℕ => (k : ℤ)

/-- `case RDP_SYN_RCVD` and `case RDP_OPEN`. -/
def openReads (header : RdpHeader) (packet : CspPacket) (w : World) : List ℤ :=
  if header.syn || !header.ack then []
  else if !w.conn.rdp.seqValid header then []
  else if !w.conn.rdp.ackValid header then []
  else if w.conn.rdp.state = .rdpSynRcvd ∧ header.ackNr ≠ w.conn.rdp.sndIss then []
  else if header.eak then
    if sizeofRdpHeader < packet.length.toNat then eackReads packet w else []
  else []

/-- The offsets into `packet->data` that `csp_rdp_new_packet` reads. -/
def newPacketReads (e : Env) (packet : CspPacket) (w : World) : List ℤ :=
  let header := rxHeader e.host packet
  headerReads packet ++
    if header.rst then []
    else
      match w.conn.rdp.state with
      | .rdpClosed => if header.syn then optionReads else []
      | .rdpSynSent => []
      | .rdpSynRcvd => openReads header packet w
      | .rdpOpen => openReads header packet w
      | .rdpCloseWait => []

/-- Two packets with one length and one byte at every offset of a list. -/
structure AgreeOn (reads : List ℤ) (p q : CspPacket) : Prop where
  length : p.length = q.length
  data : ∀ i : ℕ, (i : ℤ) ∈ reads → p.data i = q.data i

/-- The five places of the header. -/
theorem mem_headerReads {packet : CspPacket} {i : ℤ} : i ∈ headerReads packet ↔
    (packet.length.toNat : ℤ) - sizeofRdpHeader ≤ i ∧ i < packet.length.toNat := by
  unfold headerReads sizeofRdpHeader
  simp only [List.mem_map, List.mem_range]
  constructor
  · rintro ⟨k, hk, rfl⟩
    omega
  · rintro ⟨h₁, h₂⟩
    exact ⟨(i - packet.length.toNat + 5).toNat, by omega, by omega⟩

/-- The 24 places of the options. -/
theorem mem_optionReads {i : ℕ} : (i : ℤ) ∈ optionReads ↔ i < 24 := by
  unfold optionReads
  simp only [List.mem_map, List.mem_range, Nat.cast_inj, exists_eq_right]

/-- **The header is a function of the bytes listed.** -/
theorem rxHeader_congr {o : ByteOrder} {p q : CspPacket} (h : AgreeOn (headerReads p) p q)
    (hlen : sizeofRdpHeader ≤ p.length.toNat) : rxHeader o p = rxHeader o q := by
  unfold sizeofRdpHeader at hlen
  have hdata : ∀ k, k < 5 → p.data (p.length.toNat - 5 + k) = q.data (q.length.toNat - 5 + k) := by
    intro k hk
    rw [← h.length]
    refine h.data _ (mem_headerReads.2 ?_)
    unfold sizeofRdpHeader
    omega
  have href : cspRdpHeaderRef o p = cspRdpHeaderRef o q := by
    rw [cspRdpHeaderRef_of_le hlen, cspRdpHeaderRef_of_le (h.length ▸ hlen)]
    simp only [RdpHeader.ofBytes, hdata 0 (by omega), hdata 1 (by omega), hdata 2 (by omega),
      hdata 3 (by omega), hdata 4 (by omega)]
  unfold rxHeader
  rw [href]

/-- **So are the options of a SYN.** -/
theorem passiveOpen_congr {e : Env} {header : RdpHeader} {p q : CspPacket} {w : World}
    (h : AgreeOn optionReads p q) : passiveOpen e header p w = passiveOpen e header q w := by
  have hword : ∀ k, k < 6 → p.data32 e.host k = q.data32 e.host k := by
    intro k hk
    have hdata : ∀ i, i < 24 → p.data i = q.data i := fun i hi => h.data i (mem_optionReads.2 hi)
    unfold CspPacket.data32
    rw [hdata (4 * k) (by omega), hdata (4 * k + 1) (by omega), hdata (4 * k + 2) (by omega),
      hdata (4 * k + 3) (by omega)]
  unfold passiveOpen
  rw [hword 0 (by omega), hword 1 (by omega), hword 2 (by omega), hword 3 (by omega),
    hword 4 (by omega), hword 5 (by omega)]

/-- The places of the list in an EACK lie inside it. -/
theorem mem_eackReads {eack : CspPacket} {w : World} {i : ℤ} (h : i ∈ eackReads eack w) :
    0 ≤ i ∧ i < eack.length.toNat := by
  unfold eackReads sizeofRdpHeader at h
  split at h
  · exact absurd h List.not_mem_nil
  · obtain ⟨k, hk, rfl⟩ := List.mem_map.1 h
    have := List.mem_range.1 hk
    omega

/-- **So are the entries of an EACK**, for every element they are compared with. -/
theorem cspRdpFlushEack_congr {e : Env} {p q : CspPacket} {w : World}
    (h : AgreeOn (eackReads p w) p q) : cspRdpFlushEack e p w = cspRdpFlushEack e q w := by
  by_cases hsize : w.conn.rdp.txQueue.size = 0
  · unfold cspRdpFlushEack
    rw [hsize]
    simp only [Queue.sweep]
  have hentry : flushEackEntry e p = flushEackEntry e q := by
    funext w' x
    have hfold : (List.range ((p.length.toNat - sizeofRdpHeader) / 2)).foldl (eackCompare e p)
        (false, x, w') = (List.range ((q.length.toNat - sizeofRdpHeader) / 2)).foldl
          (eackCompare e q) (false, x, w') := by
      rw [← h.length]
      refine List.foldl_ext _ _ _ fun s j hj => ?_
      have hj := List.mem_range.1 hj
      have hdata : ∀ i, i < (p.length.toNat - sizeofRdpHeader) / 2 * 2 → p.data i = q.data i := by
        intro i hi
        refine h.data i ?_
        rw [eackReads, if_neg hsize]
        exact List.mem_map.2 ⟨i, List.mem_range.2 hi, rfl⟩
      unfold eackCompare CspPacket.data16
      rw [hdata (2 * j) (by omega), hdata (2 * j + 1) (by omega)]
    unfold flushEackEntry
    rw [hfold]
  unfold cspRdpFlushEack
  rw [hentry]

/-! ### Malformed packets -/

/-- The packet opens a connection. -/
def AcceptsSyn (e : Env) (p : CspPacket) (w : World) : Prop :=
  w.conn.rdp.state = .rdpClosed ∧ (cspRdpNewPacket e p w).conn.rdp.state = .rdpSynRcvd

/-- What a receiver of arbitrary packets has to do with their lengths. -/
structure Tolerates (e : Env) (p : CspPacket) (w : World) : Prop where
  /-- A packet shorter than the header is discarded. -/
  short : p.length.toNat < sizeofRdpHeader → (cspRdpNewPacket e p w).conn = w.conn ∧
    Event.free p.buf ∈ (cspRdpNewPacket e p w).log.drop w.log.length
  /-- A SYN that is accepted has six options in its payload. -/
  options : AcceptsSyn e p w → 6 * 4 ≤ p.length.toNat - sizeofRdpHeader
  /-- What is read lies in the packet. -/
  reads : ∀ i ∈ newPacketReads e p w, 0 ≤ i ∧ i < p.length.toNat

/-- The packet is a SYN for a closed connection. -/
def IsSyn (e : Env) (p : CspPacket) (w : World) : Prop :=
  w.conn.rdp.state = .rdpClosed ∧ (rxHeader e.host p).rst = false ∧
    (rxHeader e.host p).syn = true

/-- A SYN in `RDP_CLOSED` is answered, whatever its length. -/
theorem newPacketClosed_state {e : Env} {h : RdpHeader} (hsyn : h.syn = true) (p : CspPacket)
    (w : World) : (newPacketClosed e h p w).conn.rdp.state = .rdpSynRcvd :=
  congrArg Control.state (newPacketClosed_syn e hsyn p w).control

/-- A closed connection that is closed once more is not opened. -/
theorem Closes.state_ne {w w' : World} (h : Closes w w') (hst : w.conn.rdp.state = .rdpClosed) :
    w'.conn.rdp.state ≠ .rdpSynRcvd := by
  obtain ⟨st, hclosing, hc⟩ := h.control
  have hst' : w'.conn.rdp.state = st := congrArg Control.state hc
  rw [hst, RdpState.Closing] at hclosing
  rw [hst']
  rcases hclosing with rfl | rfl | rfl <;> decide

/-- **A connection is opened by a SYN and nothing else.** -/
theorem acceptsSyn_iff {e : Env} {p : CspPacket} {w : World} :
    AcceptsSyn e p w ↔ IsSyn e p w := by
  unfold AcceptsSyn IsSyn
  refine and_congr_right fun hst => ?_
  have hnew : cspRdpNewPacket e p w = if (rxHeader e.host p).rst then
      newPacketRst e (rxHeader e.host p) (rxPacket e.host p) w
        else newPacketClosed e (rxHeader e.host p) (rxPacket e.host p) w := by
    unfold cspRdpNewPacket
    simp only [hst]
  rw [hnew]
  cases hrst : (rxHeader e.host p).rst with
  | true =>
    have hw := newPacketRst_closes e (rxHeader e.host p) (rxPacket e.host p) w
    have hst' : (if (rxHeader e.host p).ack then storeAck (rxHeader e.host p) w
        else w).conn.rdp.state = .rdpClosed := by
      split <;> exact hst
    exact iff_of_false (hw.state_ne hst') (by simp)
  | false =>
    rw [if_neg Bool.false_ne_true]
    cases hsyn : (rxHeader e.host p).syn with
    | true => exact iff_of_true (newPacketClosed_state hsyn _ w) ⟨rfl, rfl⟩
    | false =>
      exact iff_of_false ((newPacketClosed_closes e hsyn _ w).state_ne hst) (by simp)

/-- In `RDP_OPEN` only the packet itself is read. -/
theorem openReads_lt {h : RdpHeader} {p : CspPacket} {w : World} :
    ∀ i ∈ openReads h p w, 0 ≤ i ∧ i < p.length.toNat := by
  intro i hi
  unfold openReads at hi
  split_ifs at hi
  all_goals first
    | exact absurd hi List.not_mem_nil
    | exact mem_eackReads hi

/-- **A packet with a header, and options if it needs them, is read inside its length.** -/
theorem newPacketReads_lt {e : Env} {p : CspPacket} {w : World}
    (hlen : sizeofRdpHeader ≤ p.length.toNat)
    (hsyn : IsSyn e p w → 6 * 4 ≤ p.length.toNat - sizeofRdpHeader) :
    ∀ i ∈ newPacketReads e p w, 0 ≤ i ∧ i < p.length.toNat := by
  have hopen : ∀ i ∈ openReads (rxHeader e.host p) p w, 0 ≤ i ∧ i < (p.length.toNat : ℤ) :=
    openReads_lt
  intro i hi
  rcases List.mem_append.1 hi with hi | hi
  · have := mem_headerReads.1 hi
    omega
  cases hrst : (rxHeader e.host p).rst with
  | true =>
    rw [hrst, if_pos rfl] at hi
    exact absurd hi List.not_mem_nil
  | false =>
    rw [hrst, if_neg Bool.false_ne_true] at hi
    cases hst : w.conn.rdp.state with
    | rdpClosed =>
      simp only [hst] at hi
      split at hi
      · rename_i hs
        obtain ⟨k, hk, rfl⟩ := List.mem_map.1 hi
        have := List.mem_range.1 hk
        have := hsyn ⟨hst, hrst, hs⟩
        omega
      · exact absurd hi List.not_mem_nil
    | rdpSynSent | rdpCloseWait =>
      simp only [hst] at hi
      exact absurd hi List.not_mem_nil
    | rdpSynRcvd | rdpOpen =>
      simp only [hst] at hi
      exact hopen i hi

/-- **Packets are tolerated exactly if they have a header, and options if they are a SYN** for a
closed connection. -/
theorem newPacket_tolerates_iff (e : Env) (p : CspPacket) (w : World) :
    Tolerates e p w ↔ sizeofRdpHeader ≤ p.length.toNat ∧
      (IsSyn e p w → sizeofRdpHeader + 6 * 4 ≤ p.length.toNat) := by
  constructor
  · intro h
    have hlen : sizeofRdpHeader ≤ p.length.toNat := by
      have hmem : (p.length.toNat : ℤ) - sizeofRdpHeader ∈ newPacketReads e p w :=
        List.mem_append_left _ (mem_headerReads.2 ⟨le_rfl, by unfold sizeofRdpHeader; omega⟩)
      have := (h.reads _ hmem).1
      omega
    refine ⟨hlen, fun hsyn => ?_⟩
    have := h.options (acceptsSyn_iff.2 hsyn)
    omega
  · rintro ⟨hlen, hsyn⟩
    have hopts : IsSyn e p w → 6 * 4 ≤ p.length.toNat - sizeofRdpHeader := fun hs => by
      have := hsyn hs
      omega
    exact ⟨fun hshort => absurd hshort (Nat.not_lt.2 hlen),
      fun hacc => hopts (acceptsSyn_iff.1 hacc), newPacketReads_lt hlen hopts⟩

/-- A SYN of five bytes opens a connection, with its own header and what lies behind it for
options; and a packet of no bytes at all is read in front of its data. -/
theorem not_tolerates :
    ¬Tolerates (.favourable .big) (segment .synOnly 7 0 []) Endpoint.fresh.world ∧
      ¬Tolerates (.favourable .big) (.blank 0) Endpoint.fresh.world := by
  constructor
  · intro h
    have := h.options (acceptsSyn_iff.2 ⟨rfl, by decide, by decide⟩)
    exact absurd this (by decide)
  · intro h
    have hmem : (-5 : ℤ) ∈ newPacketReads (.favourable .big) (.blank 0) Endpoint.fresh.world :=
      List.mem_append_left _ (mem_headerReads.2 (by decide))
    exact absurd (h.reads _ hmem).1 (by decide)

end LibCSP
