/-
# Which sequence numbers are taken in

In `RDP_OPEN` the number of a packet is compared with
`[rcv_cur + 1, rcv_cur + 2 * window_size]` modulo `2^16` (`csp_rdp_seq_between`).  The
window size is 32 bits from the SYN of the peer.  The interval is the next
`2 * window_size mod 2^16` numbers, but a width of 0 makes it the whole circle: its end is
just behind its beginning.  And from a width of `2^15` on it contains numbers behind
`rcv_cur`, in the order of `csp_rdp_seq_before`.  So nothing but the next
`2 * window_size` numbers, none of them at or behind `rcv_cur`, is taken in exactly if the
window size modulo `2^15` is at least 1 and less than `2^14` (`receiveWindow_iff`).
-/

import LibCSP.Rdp.Incoming

namespace LibCSP

open Basis

/-- `csp_rdp_new_packet` delivers the data of the packet to the user, or stores it. -/
def TakesIn (e : Env) (p : CspPacket) (w : World) : Prop :=
  (∃ st, Event.deliver st (cspRdpHeaderRemove (rxPacket e.host p)) ∈
      (cspRdpNewPacket e p w).log.drop w.log.length) ∨
    (cspRdpNewPacket e p w).conn.rdp.rxQueue.items.Perm
      (rxPacket e.host p :: w.conn.rdp.rxQueue.items)

/-- `seq_nr` is one of the next `n` numbers after `c`. -/
def IsNext (n : ℕ) (c seqNr : U16) : Prop := 1 ≤ (seqNr - c).toNat ∧ (seqNr - c).toNat ≤ n

instance (n : ℕ) (c seqNr : U16) : Decidable (IsNext n c seqNr) :=
  inferInstanceAs (Decidable (_ ∧ _))

/-- `seq_nr` is one of the next `n` numbers after `c`, and not behind `c`. -/
def InReceiveWindow (n : ℕ) (c seqNr : U16) : Prop :=
  IsNext n c seqNr ∧ cspRdpSeqBefore seqNr c = false

/-! ### The interval -/

/-- An interval from `c + 1` to `c + n` is the next `n` numbers, or the whole circle. -/
theorem between_next_iff {s c n : U16} :
    cspRdpSeqBetween s (c + 1) (c + n) = true ↔ n = 0 ∨ IsNext n.toNat c s := by
  rw [Serial.between_iff, IsNext]
  bv_omega

/-- What `2 * window_size` is as a 16-bit number. -/
theorem toNat_window (windowSize : U32) :
    ((windowSize * 2).setWidth 16 : U16).toNat = 2 * (windowSize.toNat % 2 ^ 15) := by
  rw [BitVec.toNat_setWidth, BitVec.toNat_mul, show (2 : U32).toNat = 2 from rfl]
  omega

/-- The interval is empty for the multiples of `2^15`. -/
theorem window_eq_zero {windowSize : U32} :
    ((windowSize * 2).setWidth 16 : U16) = 0 ↔ windowSize.toNat % 2 ^ 15 = 0 := by
  rw [← BitVec.toNat_inj, toNat_window, show (0 : U16).toNat = 0 from rfl]
  omega

/-- **What the sequence check lets through**: for the multiples of `2^15` everything. -/
theorem seqValid_iff (rdp : Rdp) (h : RdpHeader) : rdp.seqValid h = true ↔
    rdp.windowSize.toNat % 2 ^ 15 = 0 ∨
      IsNext (2 * (rdp.windowSize.toNat % 2 ^ 15)) rdp.rcvCur h.seqNr := by
  rw [Rdp.seqValid, between_next_iff, window_eq_zero, toNat_window]

/-! ### What is not taken in -/

/-- A calm call takes nothing in. -/
theorem Calm.not_takesIn {e : Env} {p : CspPacket} {w : World}
    (h : Calm w (cspRdpNewPacket e p w)) : ¬TakesIn e p w := by
  rintro (⟨st, hmem⟩ | hperm)
  · obtain ⟨evs, hlog, hcalm⟩ := h.log
    rw [hlog, List.drop_left] at hmem
    exact hcalm _ hmem
  · have hlen := h.stored.length_le
    rw [hperm.length_eq, List.length_cons] at hlen
    omega

/-- **A packet whose number fails the check is not taken in.** -/
theorem outside_calm {e : Env} {p : CspPacket} {w : World} (hst : w.conn.rdp.state = .rdpOpen)
    (hseq : w.conn.rdp.seqValid (rxHeader e.host p) = false) : Calm w (cspRdpNewPacket e p w) := by
  refine cspRdpNewPacket_calm hst fun hp => ?_
  exact absurd (hseq.symm.trans hp.seqNr) (by decide)

/-! ### What is taken in -/

/-- A data packet that passes the checks of an open connection. -/
structure Acceptable (e : Env) (p : CspPacket) (rdp : Rdp) : Prop where
  rst : (rxHeader e.host p).rst = false
  syn : (rxHeader e.host p).syn = false
  ack : (rxHeader e.host p).ack = true
  eak : (rxHeader e.host p).eak = false
  seqNr : rdp.seqValid (rxHeader e.host p) = true
  ackNr : rdp.ackValid (rxHeader e.host p) = true
  length : sizeofRdpHeader < p.length.toNat

/-- An acceptable packet goes straight to the data branch, with its ACK number stored. -/
theorem Acceptable.newPacket {e : Env} {p : CspPacket} {w : World} (h : Acceptable e p w.conn.rdp)
    (hst : w.conn.rdp.state = .rdpOpen) :
    cspRdpNewPacket e p w = newPacketData e (rxHeader e.host p) (rxPacket e.host p)
      (storeAck (rxHeader e.host p) w) := by
  have hlen : sizeofRdpHeader < (rxPacket e.host p).length.toNat := by
    rw [length_rxPacket]
    exact h.length
  rw [cspRdpNewPacket_open h.rst (.inr hst),
    newPacketOpen_passes e _ ⟨h.syn, h.ack, h.seqNr, h.ackNr⟩ hst, newPacketAcked_data e h.eak hlen]

/-- A node without a free buffer, so that nothing is sent. -/
def Env.exhausted : Env := { Env.favourable .big with bufferGet := fun _ => none }

/-- A data packet with sequence number `seqNr` that acknowledges nothing new. -/
def dataPacket (seqNr : U16) : CspPacket := segment .ackOnly seqNr 0 [0x55]

/-- The header of the test packet, as it comes in. -/
theorem rxHeader_dataPacket (seqNr : U16) :
    rxHeader .big (dataPacket seqNr) = ⟨RdpFlags.ackOnly.byte, seqNr, 0⟩ := by
  have h : cspRdpHeaderRef .big (dataPacket seqNr) = ⟨RdpFlags.ackOnly.byte, seqNr, 0⟩ :=
    cspRdpHeaderRef_add (by decide) _
  unfold rxHeader
  rw [h]
  rfl

/-- **A packet that the sequence check lets through is stored**, if it is not the next. -/
theorem takesIn_of_seqValid {windowSize : U32} {rcvCur seqNr : U16}
    (hseq : windowSize.toNat % 2 ^ 15 = 0 ∨ IsNext (2 * (windowSize.toNat % 2 ^ 15)) rcvCur seqNr)
    (hne : seqNr ≠ rcvCur + 1) :
    TakesIn .exhausted (dataPacket seqNr) ⟨.opened 0 rcvCur windowSize, 0, []⟩ := by
  have hh : rxHeader Env.exhausted.host (dataPacket seqNr) =
      ⟨RdpFlags.ackOnly.byte, seqNr, 0⟩ := rxHeader_dataPacket seqNr
  obtain ⟨hrst, heak, hack, hsyn⟩ := RdpFlags.bits .ackOnly seqNr 0
  have hackNr : (Conn.opened 0 rcvCur windowSize).rdp.ackValid
      ⟨RdpFlags.ackOnly.byte, seqNr, 0⟩ = true := by
    show cspRdpSeqBetween 0 (0 + 1 - 1 - (windowSize * 2).setWidth 16) (0 + 1 - 1) = true
    rw [Serial.between_iff]
    generalize (windowSize * 2).setWidth 16 = d
    bv_omega
  have hacc : Acceptable .exhausted (dataPacket seqNr) (Conn.opened 0 rcvCur windowSize).rdp :=
    { rst := by rw [hh, hrst]; rfl
      syn := by rw [hh, hsyn]; rfl
      ack := by rw [hh, hack]; rfl
      eak := by rw [hh, heak]; rfl
      seqNr := by rw [hh]; exact (seqValid_iff _ _).2 hseq
      ackNr := by rw [hh]; exact hackNr
      length := (by decide : 5 < 6) }
  refine .inr ?_
  rw [hacc.newPacket rfl, hh]
  unfold newPacketData
  simp only
  rw [if_pos (by exact hne)]
  exact .refl _

/-- **With a window size that is a multiple of `2^15` a packet numbered `rcv_cur` is stored.** -/
theorem takesIn_rcvCur {windowSize : U32} (h : windowSize.toNat % 2 ^ 15 = 0) (rcvCur : U16) :
    TakesIn .exhausted (dataPacket rcvCur) ⟨.opened 0 rcvCur windowSize, 0, []⟩ :=
  takesIn_of_seqValid (.inl h) (by bv_omega)

/-- **With a window size of `2^14` or more modulo `2^15` the number half the circle behind
`rcv_cur` is stored.** -/
theorem takesIn_behind {windowSize : U32} (h : 2 ^ 14 ≤ windowSize.toNat % 2 ^ 15)
    (rcvCur : U16) :
    TakesIn .exhausted (dataPacket (rcvCur + 0x8000)) ⟨.opened 0 rcvCur windowSize, 0, []⟩ := by
  have hd : rcvCur + 0x8000 - rcvCur = 0x8000 := by bv_omega
  refine takesIn_of_seqValid (.inr ?_) (by bv_omega)
  rw [IsNext, hd]
  exact ⟨by decide, (by decide : (0x8000 : U16).toNat ≤ 2 * 2 ^ 14).trans (by omega)⟩

/-- **The receive window holds exactly for the window sizes that are at least 1 and less
than `2^14` modulo `2^15`.** -/
theorem receiveWindow_iff (windowSize : U32) (rcvCur : U16) :
    (∀ e p w, w.conn.rdp.state = .rdpOpen → w.conn.rdp.windowSize = windowSize →
      w.conn.rdp.rcvCur = rcvCur → TakesIn e p w →
        InReceiveWindow (2 * windowSize.toNat) rcvCur (rxHeader e.host p).seqNr) ↔
      1 ≤ windowSize.toNat % 2 ^ 15 ∧ windowSize.toNat % 2 ^ 15 < 2 ^ 14 := by
  have hhost : ∀ seqNr, (rxHeader Env.exhausted.host (dataPacket seqNr)).seqNr = seqNr :=
    fun seqNr => congrArg RdpHeader.seqNr (rxHeader_dataPacket seqNr)
  constructor
  · intro hall
    refine ⟨Nat.one_le_iff_ne_zero.2 fun hzero => ?_, Nat.lt_of_not_le fun hbig => ?_⟩
    · have hnext := (hall _ _ ⟨.opened 0 rcvCur windowSize, 0, []⟩ rfl rfl rfl
        (takesIn_rcvCur hzero rcvCur)).1
      rw [hhost, IsNext, BitVec.sub_self] at hnext
      exact absurd hnext.1 (by decide)
    · have hbehind := (hall _ _ ⟨.opened 0 rcvCur windowSize, 0, []⟩ rfl rfl rfl
        (takesIn_behind hbig rcvCur)).2
      have hd : rcvCur + 0x8000 - rcvCur = 0x8000 := by bv_omega
      rw [hhost, cspRdpSeqBefore, Serial.before_eq_false_iff, hd] at hbehind
      exact absurd hbehind (by decide)
  · rintro ⟨hpos, hlt⟩ e p w hst rfl rfl htaken
    cases hseq : w.conn.rdp.seqValid (rxHeader e.host p) with
    | false => exact absurd htaken (outside_calm hst hseq).not_takesIn
    | true =>
      obtain ⟨h₁, h₂⟩ := ((seqValid_iff _ _).1 hseq).resolve_left (Nat.ne_of_gt hpos)
      have := Nat.mod_le w.conn.rdp.windowSize.toNat (2 ^ 15)
      refine ⟨⟨h₁, by omega⟩, Serial.before_eq_false_iff.2 (by omega)⟩

/-- With window size 0 a packet numbered `rcv_cur` is stored. -/
theorem receiveWindow_zero : ¬∀ e p w, w.conn.rdp.state = .rdpOpen → TakesIn e p w →
    InReceiveWindow (2 * w.conn.rdp.windowSize.toNat) w.conn.rdp.rcvCur
      (rxHeader e.host p).seqNr := by
  intro hall
  have hnext := (hall _ _ ⟨.opened 0 100 0, 0, []⟩ rfl (takesIn_rcvCur rfl 100)).1
  exact absurd hnext.1 (by decide)

end LibCSP
