/-
# Which messages take a number

`csp_rdp_send` moves `snd_nxt` for every message it takes, whatever its length.
The receiver decides by the length whether a packet has data: one that is no
longer than its header is an acknowledgement and nothing else, and `rcv_cur`
stays (`cspRdpNewPacket_short`).  So an empty message takes a number on the
sender's side only, and everything behind it waits for ever.  A message of one byte
or more is delivered when its turn comes and there is room for it
(`cspRdpNewPacket_inSequence`), unless the 16-bit length of the packet wraps.
-/

import LibCSP.Rdp.Conservation

namespace LibCSP

open Basis

/-! ### A packet without data -/

/-- A packet without data delivers nothing. -/
theorem newPacketAcked_short {e : Env} {h : RdpHeader} {p : CspPacket} {w : World}
    (hp : p.length.toNat ≤ sizeofRdpHeader) : Calm w (newPacketAcked e h p w) := by
  have hstore := storeAck_calm h w
  unfold newPacketAcked
  simp only
  split
  · rw [if_neg (Nat.not_lt.2 hp)]
    exact hstore.trans (discardOpen_quiet p _).toCalm
  · exact hstore.trans (discardOpen_quiet p _).toCalm

/-- **A packet that is no longer than a header delivers nothing** and leaves `rcv_cur`. -/
theorem cspRdpNewPacket_short {e : Env} {p : CspPacket} {w : World}
    (hst : w.conn.rdp.state = .rdpOpen) (hp : p.length.toNat ≤ sizeofRdpHeader) :
    Calm w (cspRdpNewPacket e p w) :=
  cspRdpNewPacket_calm hst fun _ => newPacketAcked_short (by rwa [length_rxPacket])

/-! ### A packet in sequence -/

/-- Each round of the flush moves `rcv_cur` by one, and there are no more rounds
than stored packets. -/
theorem flushRounds_rcvCur (e : Env) (n : ℕ) (w : World) :
    ∃ k ≤ n, (flushRounds e n w).conn.rdp.rcvCur = w.conn.rdp.rcvCur + BitVec.ofNat 16 k := by
  induction n generalizing w with
  | zero => exact ⟨0, le_rfl, (BitVec.add_zero _).symm⟩
  | succ n ih =>
    rw [flushRounds]
    cases hr : flushRound e w with
    | none => exact ⟨0, Nat.zero_le _, (BitVec.add_zero _).symm⟩
    | some w' =>
      obtain ⟨k, hk, hcur⟩ := ih w'
      obtain ⟨pre, x, post, q, -, -, -, -, hw'⟩ := flushRound_cases hr
      have hround : w'.conn.rdp.rcvCur = w.conn.rdp.rcvCur + 1 := by
        rw [hw']
        show (cspRdpReceiveData e x (w.setReorder q)).2.conn.rdp.rcvCur + 1 = _
        rw [cspRdpReceiveData_rdp]
        rfl
      refine ⟨k + 1, by omega, ?_⟩
      rw [hcur, hround]
      bv_omega

/-- A packet with this payload was delivered between `w` and `w'`. -/
def Delivers (w w' : World) (payload : List U8) : Prop :=
  ∃ evs st q, w'.log = w.log ++ evs ∧ Event.deliver st q ∈ evs ∧ q.bytes = payload

/-- What was delivered stays delivered. -/
theorem Delivers.then {w w' w'' : World} {payload : List U8} (h : Delivers w w' payload)
    (hl : w'.log <+: w''.log) : Delivers w w'' payload := by
  obtain ⟨evs, st, q, hlog, hmem, hq⟩ := h
  obtain ⟨more, hmore⟩ := hl
  refine ⟨evs ++ more, st, q, ?_, List.mem_append_left _ hmem, hq⟩
  rw [← hmore, hlog, List.append_assoc]

/-- **Data that has room is delivered**, and nothing else. -/
theorem cspRdpReceiveData_delivers {e : Env} {p : CspPacket} {w : World}
    (hpost : HandleFits e w) (hroom : w.conn.Room p) :
    Delivers w (cspRdpReceiveData e p w).2 (cspRdpHeaderRemove p).bytes := by
  have hposted := postHandle_posted e w
  obtain ⟨evs, hlog, -⟩ := hposted.log
  unfold cspRdpReceiveData
  simp only [postHandle_eq_true.2 hpost, if_true]
  generalize (postHandle e w).2 = w₁ at hposted hlog ⊢
  rw [Conn.Room, ← hposted.rxQueue] at hroom
  obtain ⟨q, hq⟩ := Option.ne_none_iff_exists'.1 fun hn :
      (w₁.conn.rxQueue (rxq p)).enqueue (cspRdpHeaderRemove p) = none =>
    absurd hroom (Nat.not_lt.2 (Queue.enqueue_eq_none.1 hn))
  unfold rxq at hq
  refine ⟨evs ++ [.deliver w₁.conn.rdp.state (cspRdpHeaderRemove p)], _, _, ?_,
    List.mem_append_right _ (List.mem_singleton_self _), rfl⟩
  simp only [cspConnEnqueuePacket, show (cspRdpHeaderRemove p).id = p.id from rfl, hq]
  rw [← List.append_assoc, ← hlog]
  split <;> rfl

/-- `rcv_cur` is at least `seq`, in serial order. -/
def Reached (seq : U16) (w : World) : Prop := cspRdpSeqBefore w.conn.rdp.rcvCur seq = false

/-- **A data packet in sequence is delivered, and `rcv_cur` reaches it**, when its queues
have room. -/
theorem newPacketData_inSequence {e : Env} {h : RdpHeader} {p : CspPacket} {w : World}
    (hs : h.seqNr = w.conn.rdp.rcvCur + 1) (hpost : HandleFits e w) (hroom : w.conn.Room p)
    (hev : w.conn.rxEvent.size < cspConnQueueLength) :
    Delivers w (newPacketData e h p w) (cspRdpHeaderRemove p).bytes ∧
      Reached h.seqNr (newPacketData e h p w) := by
  have hdelivers := cspRdpReceiveData_delivers hpost hroom
  obtain ⟨-, hsocket, -, hres⟩ := cspRdpReceiveData_queued (postHandle_eq_true.2 hpost) hroom
  have hrdp := cspRdpReceiveData_rdp e p w
  unfold newPacketData
  simp only [hs, ne_eq, not_true_eq_false, if_false, hres.2 hev, if_true]
  generalize (cspRdpReceiveData e p w).2 = w₁ at hdelivers hsocket hrdp ⊢
  obtain ⟨w₂, hw₂⟩ : ∃ w₂, w₂ = dataAck e p (w₁.setRcvCur (w.conn.rdp.rcvCur + 1)) := ⟨_, rfl⟩
  have hq : Quiet (w₁.setRcvCur (w.conn.rdp.rcvCur + 1)) w₂ := hw₂ ▸ dataAck_quiet e p _
  have hack := dataAck_linear e p (w₁.setRcvCur (w.conn.rdp.rcvCur + 1))
  rw [← hw₂] at hack
  show Delivers w (cspRdpRxQueueFlush e (dataAck e p (w₁.setRcvCur (w.conn.rdp.rcvCur + 1)))) _ ∧
    Reached _ (cspRdpRxQueueFlush e (dataAck e p (w₁.setRcvCur (w.conn.rdp.rcvCur + 1))))
  rw [← hw₂, cspRdpRxQueueFlush]
  constructor
  · obtain ⟨lost, hflush, -⟩ := flushRounds_linear e w₂.conn.rdp.rxQueue.size
      ((congrArg Inbound.rxSocket hq.inbound).trans hsocket)
    exact hdelivers.then (hack.log.trans hflush.log)
  · obtain ⟨k, hk, hcur⟩ := flushRounds_rcvCur e w₂.conn.rdp.rxQueue.size w₂
    have hfew : k ≤ 40 := hk.trans w₂.conn.rdp.rxQueue.le
    have hcur₂ : w₂.conn.rdp.rcvCur = w.conn.rdp.rcvCur + 1 := congrArg Inbound.rcvCur hq.inbound
    unfold Reached cspRdpSeqBefore
    rw [Serial.before_eq_false_iff, hcur, hcur₂]
    generalize w.conn.rdp.rcvCur + 1 = s
    have hdist : s + BitVec.ofNat 16 k - s = BitVec.ofNat 16 k := by bv_omega
    rw [hdist, BitVec.toNat_ofNat]
    omega

/-- A packet that passes the checks of `RDP_OPEN` gets to the data path. -/
theorem cspRdpNewPacket_data {e : Env} {p : CspPacket} {w : World} (hd : IsData p)
    (hack : (wireHeader p).ack = true) (hst : w.conn.rdp.state = .rdpOpen)
    (hs : w.conn.rdp.seqValid (wireHeader p) = true)
    (hv : w.conn.rdp.ackValid (wireHeader p) = true) :
    cspRdpNewPacket e p w =
      newPacketData e (wireHeader p) (rxPacket e.host p) (storeAck (wireHeader p) w) := by
  obtain ⟨hlong, hsyn, hrst, heak⟩ := hd
  have hlen : sizeofRdpHeader < (rxPacket e.host p).length.toNat := by
    rw [length_rxPacket]
    exact hlong
  have hh : rxHeader e.host p = wireHeader p := rxHeader_eq (Nat.le_of_lt hlong)
  rw [cspRdpNewPacket_open (by rw [hh, hrst]) (.inr hst), hh,
    newPacketOpen_passes e _ ⟨hsyn, hack, hs, hv⟩ hst, newPacketAcked_data e heak hlen]

/-! ### Both sides -/

/-- `csp_rdp_send` took the message `p`, and `t` is the packet it sent for it or a
retransmission of that. -/
def SentAs (e : Env) (p : CspPacket) (w : World) (t : CspPacket) : Prop :=
  (cspRdpSendCommit e p w).1 = .none ∧ SameSegment t (txPacket e p w)

/-- The connection `w` waits for the number `seq`, and everything a packet `t` with that
number needs is there: an ACK number it accepts, room in its receive queue and for its event,
and in the accept queue if the handle is to be posted. -/
structure Awaits (e : Env) (seq : U16) (t : CspPacket) (w : World) : Prop where
  isOpen : w.conn.rdp.state = .rdpOpen
  rcvCur : w.conn.rdp.rcvCur = seq - 1
  ackNr : w.conn.rdp.ackValid (rxHeader e.host t) = true
  room : w.conn.Room t
  event : w.conn.rxEvent.size < cspConnQueueLength
  accept : HandleFits e w

/-- The message with number `seq` is delivered, and `rcv_cur` reaches the number. -/
def Consumes (e : Env) (seq : U16) (payload : List U8) (t : CspPacket) (w : World) : Prop :=
  Delivers w (cspRdpNewPacket e t w) payload ∧ Reached seq (cspRdpNewPacket e t w)

/-- A length that leaves a packet with its header longer than a header: it is not zero, and
does not wrap. -/
theorem short_iff (n : U16) :
    (n + 5).toNat ≤ sizeofRdpHeader ↔ ¬ (0 < n.toNat ∧ n.toNat + 5 < 2 ^ 16) := by
  have hn := n.isLt
  rw [BitVec.toNat_add, show (5 : U16).toNat = 5 from rfl, sizeofRdpHeader]
  omega

/-- **A message that `csp_rdp_send` takes is delivered and consumes its number exactly if
it is not empty** and its packet's length does not wrap. -/
theorem message_consumed_iff {e e' : Env} {p t : CspPacket} {w v : World} (ht : SentAs e p w t)
    (hv : Awaits e' w.conn.rdp.sndNxt t v) :
    Consumes e' w.conn.rdp.sndNxt p.bytes t v ↔
      0 < p.length.toNat ∧ p.length.toNat + 5 < 2 ^ 16 := by
  obtain ⟨-, hsame⟩ := ht
  have hlength : t.length = p.length + 5 := hsame.length
  by_cases hp : 0 < p.length.toNat ∧ p.length.toNat + 5 < 2 ^ 16
  · refine iff_of_true ?_ hp
    have hheader : wireHeader (txPacket e p w) =
        ⟨RdpFlags.ackOnly.byte, w.conn.rdp.sndNxt, w.conn.rdp.rcvCur⟩ := wireHeader_add hp.2 _ _ _
    have hpayload : rdpPayload (txPacket e p w) = p.bytes := rdpPayload_add hp.2 _
    have hlong : sizeofRdpHeader < t.length.toNat := by
      rw [hlength]
      exact Nat.not_le.1 fun h => (short_iff _).1 h hp
    have hflags : (wireHeader t).flags = RdpFlags.ackOnly.byte := by rw [hsame.flags, hheader]
    have hseq : (wireHeader t).seqNr = w.conn.rdp.sndNxt := by rw [hsame.seqNr, hheader]
    obtain ⟨hrst, heak, hack, hsyn⟩ := RdpFlags.bits .ackOnly 0 0
    have hd : IsData t := by
      unfold IsData RdpHeader.syn RdpHeader.rst RdpHeader.eak
      rw [hflags]
      exact ⟨hlong, hsyn, hrst, heak⟩
    have hack : (wireHeader t).ack = true := by
      unfold RdpHeader.ack
      rw [hflags]
      exact hack
    have hnext : (wireHeader t).seqNr = v.conn.rdp.rcvCur + 1 := by
      rw [hseq, hv.rcvCur, BitVec.sub_add_cancel]
    have hwindow : v.conn.rdp.seqValid (wireHeader t) = true := by
      unfold Rdp.seqValid cspRdpSeqBetween
      rw [Serial.between_iff, hnext, BitVec.sub_self]
      exact Nat.zero_le _
    have hackNr := hv.ackNr
    rw [rxHeader_eq (Nat.le_of_lt hlong)] at hackNr
    unfold Consumes
    rw [cspRdpNewPacket_data hd hack hv.isOpen hwindow hackNr, ← hseq]
    have hlong' : 5 ≤ t.length.toNat := Nat.le_of_lt hlong
    have hid : (rxPacket e'.host t).id = t.id := by
      rw [rxPacket, cspRdpHeaderStore_of_le hlong']
    have hroom : (storeAck (wireHeader t) v).conn.Room (rxPacket e'.host t) := by
      unfold Conn.Room rxq
      rw [hid]
      exact hv.room
    have hbytes : (cspRdpHeaderRemove (rxPacket e'.host t)).bytes = p.bytes := by
      rw [bytes_headerRemove (by rwa [length_rxPacket]), rxPacket, rdpPayload_store hlong',
        hsame.payload, hpayload]
    rw [← hbytes]
    exact newPacketData_inSequence (w := storeAck (wireHeader t) v) hnext hv.accept hroom hv.event
  · refine iff_of_false ?_ hp
    rintro ⟨-, hreached⟩
    have hcalm := cspRdpNewPacket_short (e := e') hv.isOpen (p := t) (by
      rw [hlength]
      exact (short_iff _).2 hp)
    unfold Reached cspRdpSeqBefore at hreached
    rw [hcalm.rcvCur, hv.rcvCur, Serial.before_eq_false_iff] at hreached
    generalize w.conn.rdp.sndNxt = s at hreached
    have hdist : s - 1 - s = -1 := by bv_omega
    rw [hdist] at hreached
    exact absurd hreached (by decide)

/-- The hypotheses are met by the first message of a connection. -/
theorem message_consumed_opened : Consumes (.favourable .little) 101 [0, 0, 0]
    (txPacket (.favourable .little) (.blank 3) (Endpoint.opened 100 200 4).world)
    (Endpoint.opened 200 100 4).world :=
  (message_consumed_iff (e := .favourable .little) (p := .blank 3)
    (w := (Endpoint.opened 100 200 4).world) ⟨by decide, .refl _⟩
    ⟨rfl, rfl, by decide, by decide, by decide, .inl rfl⟩).2 ⟨by decide, by decide⟩

/-- **An empty message is taken and never delivered**: `snd_nxt` moves to 102, and the peer
still waits for 101. -/
theorem empty_message_not_consumed :
    ¬ ∀ (e e' : Env) (p t : CspPacket) (w v : World), SentAs e p w t →
      Awaits e' w.conn.rdp.sndNxt t v → Consumes e' w.conn.rdp.sndNxt p.bytes t v := by
  intro h
  have hc := h (.favourable .little) (.favourable .little) (.blank 0) _
    (Endpoint.opened 100 200 4).world (Endpoint.opened 200 100 4).world ⟨by decide, .refl _⟩
    ⟨rfl, rfl, by decide, by decide, by decide, .inl rfl⟩
  have hreached : Reached 101 _ := hc.2
  unfold Reached at hreached
  revert hreached
  decide +kernel

end LibCSP
