/-
# Delayed acknowledgements

With `delayed_acks` set, a packet in sequence is acknowledged when the last acknowledgement is
too long ago or more than `ack_delay_count` packets are unacknowledged.  `csp_rdp_new_packet`
decides this after it has counted the packet itself, and before `csp_rdp_rx_queue_flush` hands
over the stored packets that follow it; nobody asks again for these.  So the number of
unacknowledged packets stays within `ack_delay_count` exactly when there is room left for what
the flush releases (`run_ackDelay_iff`).
-/

import LibCSP.Rdp.Accept
import LibCSP.Rdp.Safety
import LibCSP.Rdp.Conservation

namespace LibCSP

open Basis

/-! ### The user's queues in every run -/

/-- A segment without a packet leaves the user's queues in order. -/
theorem cspRdpSendCmp_none_userOk {e : Env} {f : RdpFlags} {s a : U16} {w : World}
    (h : w.conn.UserOk) : (cspRdpSendCmp e none f s a w).2.conn.UserOk :=
  userOk_of_inbound (cspRdpSendCmp_none_sends e f s a w).inbound h

/-- So does a packet in `RDP_CLOSED`. -/
theorem newPacketClosed_userOk {e : Env} {h : RdpHeader} {p : CspPacket} {w : World}
    (hu : w.conn.UserOk) : (newPacketClosed e h p w).conn.UserOk := by
  cases hsyn : h.syn with
  | true => exact (newPacketClosed_syn e hsyn p w).user hu
  | false => exact (newPacketClosed_closes e hsyn p w).user hu

/-- And a packet in `RDP_SYN_SENT`. -/
theorem newPacketSynSent_userOk {e : Env} {h : RdpHeader} {p : CspPacket} {w : World}
    (hu : w.conn.UserOk) : (newPacketSynSent e h p w).conn.UserOk := by
  rcases newPacketSynSent_cases e h p w with ⟨-, -, v, hq, hw⟩ | ⟨v, hq, hw⟩ | hw
  · rw [hw]
    exact hq.user hu
  · rw [hw]
    exact hq.user hu
  · exact hw.user hu

/-- The ACK of the SYN/ACK may have data. -/
theorem newPacketSynRcvd_userOk {e : Env} {p : CspPacket} {w : World} (hu : w.conn.UserOk)
    (hst : w.conn.rdp.state = .rdpSynRcvd) (hrst : (rxHeader e.host p).rst = false) :
    (newPacketOpen e (rxHeader e.host p) (rxPacket e.host p) w).conn.UserOk := by
  refine newPacketOpen_induct (P := fun v => v.conn.UserOk)
    ((discardClose_closes e _ w).user hu) hu ?_ (fun hp _ _ => ?_) fun _ hst' => absurd hst hst'
  · show (outsideWindow e w).conn.UserOk
    exact outsideWindow_induct (P := fun v => v.conn.UserOk) hu (cspRdpSendCmp_none_userOk hu)
      fun w₁ h => (cspRdpSendEack_quiet e w₁).user h
  · -- the checks do not look at the state
    have hopen : ({ w.conn.rdp with state := .rdpOpen } : Rdp).Passes (rxHeader e.host p) :=
      ⟨hp.syn, hp.ack, hp.seqNr, hp.ackNr⟩
    exact (newPacketAcked_received (w := { w with conn.rdp.state := .rdpOpen }) hu hp.syn hrst
      rfl (hopen.storesAck_open hrst rfl)).sameSender.user hu

/-- **A packet keeps an event for every packet of the user**, in every state. -/
theorem cspRdpNewPacket_userOk {e : Env} {p : CspPacket} {w : World} (hu : w.conn.UserOk) :
    (cspRdpNewPacket e p w).conn.UserOk := by
  by_cases hs : Settled w (rxHeader e.host p)
  · exact (cspRdpNewPacket_received hu hs).sameSender.user hu
  · exact cspRdpNewPacket_induct (P := fun v => v.conn.UserOk)
      (fun _ => (newPacketRst_calm e _ _ w).user hu) (fun _ _ => newPacketClosed_userOk hu)
      (fun _ _ => newPacketSynSent_userOk hu)
      (fun hrst hst =>
        newPacketSynRcvd_userOk hu (hst.resolve_right fun ho => hs (.inl ho)) hrst)
      fun _ hst => absurd (.inr (.inl hst)) hs

/-- And the second half of `csp_send`. -/
theorem cspSendCommit_userOk {e : Env} {p : CspPacket} {w : World} (hu : w.conn.UserOk) :
    (cspSendCommit e p w).conn.UserOk := ((cspSendCommit_sending e p w).accepted hu).1

/-- **A call keeps an event for every packet of the user.** -/
theorem step_userOk {e : Env} {s t : Endpoint} {i : Input} (hu : s.world.conn.UserOk)
    (hst : step e s i = some t) : t.world.conn.UserOk := by
  have hsyn : ∀ v : World, v.conn.UserOk → (cspRdpSendSyn e v).2.conn.UserOk := fun v =>
    (cspRdpSendSyn_quiet e v).user
  obtain ⟨w, task⟩ := s
  cases step_stepped hst with
  | packet _ p => exact cspRdpNewPacket_userOk hu
  | checkTimeouts => exact (cspRdpCheckTimeouts_calm e w).user hu
  | checkAck => exact (cspRdpCheckAck_quiet e w).user hu
  | read => exact (cspRead_calm e w).1.user hu
  | close => exact (cspClose_closes e w).user hu
  | send p =>
    exact sendEnter_world (P := fun v => v.conn.UserOk) hu hu (cspSendCommit_userOk hu)
  | sendWake p _ => exact cspSendCommit_userOk (w := txWaitTake w) hu
  | sendTimeout p => exact hu
  | connect =>
    rw [connectEnter_world]
    exact connectRetry_induct (P := fun v => v.conn.UserOk) (fun _ h => h) hsyn (fun _ h => h)
      (w := applyOptions e w) hu
  | connectWake retry _ =>
    rw [connectEnter_world]
    exact cspRdpConnectWoken_induct (P := fun v => v.conn.UserOk) (fun _ h => h) hsyn
      (fun _ h => h) (fun _ h => h) retry (w := txWaitTake w) hu
  | connectTimeout retry => exact hu

/-! ### The flush and the user's queues -/

/-- Taking data in takes nothing out of the user's queues. -/
theorem cspRdpReceiveData_size (e : Env) (p : CspPacket) (w : World) (prio : Fin cspPriorities) :
    (w.conn.rxQueue prio).size ≤ ((cspRdpReceiveData e p w).2.conn.rxQueue prio).size := by
  by_cases hfits : (postHandle e w).1 = true ∧ w.conn.Room p
  · obtain ⟨-, -, hsize, -⟩ := cspRdpReceiveData_queued hfits.1 hfits.2
    rw [hsize]
    exact Nat.le_add_right _ _
  · obtain ⟨-, -, hsame, -⟩ := cspRdpReceiveData_refused (e := e) (p := p) (w := w)
      fun hpost hroom => hfits ⟨hpost, hroom⟩
    rw [hsame]

/-- Nor does the flush of the reorder queue. -/
theorem flushRounds_size (e : Env) (n : ℕ) (w : World) (prio : Fin cspPriorities) :
    (w.conn.rxQueue prio).size ≤ ((flushRounds e n w).conn.rxQueue prio).size := by
  refine flushRounds_induct (P := fun w' => (w.conn.rxQueue prio).size ≤
    (w'.conn.rxQueue prio).size) (fun w₁ w₂ h hr => ?_) n le_rfl
  obtain ⟨-, x, -, q, -, -, -, -, rfl⟩ := flushRound_cases hr
  exact h.trans (cspRdpReceiveData_size e x (w₁.setReorder q) prio)

/-- At most one element is released for each round. -/
theorem released_length_le (o : ByteOrder) {cap : ℕ} (n : ℕ) (seq : U16) (q : Queue CspPacket cap) :
    (released o n seq q).length ≤ n := by
  induction n generalizing seq q with
  | zero => exact le_rfl
  | succ n ih =>
    rw [released]
    split
    · exact Nat.zero_le _
    · exact Nat.succ_le_succ (ih _ _)

/-- **The flush moves `rcv_cur`** by what it releases, and acknowledges nothing. -/
theorem flushRounds_released (e : Env) (n : ℕ) (w : World) :
    (flushRounds e n w).conn.rdp.rcvCur = w.conn.rdp.rcvCur + BitVec.ofNat 16
        (released e.host n (w.conn.rdp.rcvCur + 1) w.conn.rdp.rxQueue).length ∧
      (flushRounds e n w).conn.rdp.rcvLsa = w.conn.rdp.rcvLsa := by
  induction n generalizing w with
  | zero => exact ⟨(BitVec.add_zero _).symm, rfl⟩
  | succ n ih =>
    rcases htake : Queue.takeFirst (fun x => hostSeq e.host x == w.conn.rdp.rcvCur + 1)
        w.conn.rdp.rxQueue.size w.conn.rdp.rxQueue with ⟨_ | x, q⟩
    · have hround : flushRound e w = none := flushRound_of_takeFirst htake
      rw [flushRounds, hround, released, htake]
      exact ⟨(BitVec.add_zero _).symm, rfl⟩
    · obtain ⟨w₁, hw₁⟩ : ∃ w₁, w₁ = (cspRdpReceiveData e x (w.setReorder q)).2 := ⟨_, rfl⟩
      obtain ⟨hcur₁, hlsa₁, hq₁⟩ : w₁.conn.rdp.rcvCur = w.conn.rdp.rcvCur ∧
          w₁.conn.rdp.rcvLsa = w.conn.rdp.rcvLsa ∧ w₁.conn.rdp.rxQueue = q := by
        rw [hw₁, cspRdpReceiveData_rdp]
        exact ⟨rfl, rfl, rfl⟩
      have hround : flushRound e w = some (w₁.setRcvCur (w₁.conn.rdp.rcvCur + 1)) := by
        rw [hw₁]
        exact flushRound_of_takeFirst htake
      rw [hcur₁] at hround
      obtain ⟨hcur, hlsa⟩ := ih (w₁.setRcvCur (w.conn.rdp.rcvCur + 1))
      rw [show (w₁.setRcvCur (w.conn.rdp.rcvCur + 1)).conn.rdp.rxQueue = q from hq₁] at hcur
      rw [flushRounds, hround, released, htake]
      refine ⟨hcur.trans ?_, hlsa.trans hlsa₁⟩
      show w.conn.rdp.rcvCur + 1 + BitVec.ofNat 16 (released e.host n (w.conn.rdp.rcvCur + 1 + 1)
        q).length = w.conn.rdp.rcvCur + BitVec.ofNat 16 ((released e.host n
          (w.conn.rdp.rcvCur + 1 + 1) q).length + 1)
      bv_omega

/-! ### The decision -/

/-- `(uint16_t)(rcv_cur - rcv_lsa)`. -/
def Rdp.unacked (rdp : Rdp) : ℕ := (rdp.rcvCur - rdp.rcvLsa).toNat

/-- With one more packet an acknowledgement is due: the last one is too long ago, or too many
packets are unacknowledged. -/
def Rdp.ackDue (rdp : Rdp) (now : U32) : Prop :=
  cspRdpTimeAfter now (rdp.ackTimestamp + rdp.ackTimeout) = true ∨
    (rdp.ackDelayCount.toNat < rdp.unacked + 1 ∧
      rdp.unacked + 1 ≤ rdp.ackDelayCount.toNat + 2 ^ 15)

instance (rdp : Rdp) (now : U32) : Decidable (rdp.ackDue now) :=
  inferInstanceAs (Decidable (_ ∨ _))

/-- `csp_rdp_should_ack` after the packet was counted. -/
theorem cspRdpShouldAck_iff {e : Env} {w : World} {rdp : Rdp}
    (hdelayed : w.conn.rdp.delayedAcks ≠ 0) (hdelay : rdp.ackDelayCount.toNat < 2 ^ 15)
    (hw : w.conn.rdp.rcvCur = rdp.rcvCur + 1 ∧ w.conn.rdp.rcvLsa = rdp.rcvLsa ∧
      w.conn.rdp.ackDelayCount = rdp.ackDelayCount ∧
      w.conn.rdp.ackTimestamp = rdp.ackTimestamp ∧ w.conn.rdp.ackTimeout = rdp.ackTimeout) :
    (cspRdpShouldAck e w).1 = true ↔ rdp.ackDue (e.getMs w.tick) := by
  obtain ⟨hcur, hlsa, hcount, hstamp, htimeout⟩ := hw
  have hseq : cspRdpSeqAfter (rdp.rcvCur + 1) (rdp.rcvLsa + rdp.ackDelayCount.setWidth 16) = true ↔
      rdp.ackDelayCount.toNat < rdp.unacked + 1 ∧
        rdp.unacked + 1 ≤ rdp.ackDelayCount.toNat + 2 ^ 15 := by
    unfold Rdp.unacked cspRdpSeqAfter Serial.after
    rw [Serial.before_iff]
    bv_omega
  unfold cspRdpShouldAck Rdp.ackDue
  rw [if_neg hdelayed, hcur, hlsa, hcount, hstamp, htimeout, ← hseq]
  exact Bool.or_eq_true_iff

/-- From this moment on there are buffers, and the interface takes every packet. -/
def Supplied (e : Env) (tick : ℕ) : Prop :=
  ∀ t, tick ≤ t → (e.bufferGet t).isSome = true ∧ e.sendDirect t = true

/-- **An acknowledgement is sent exactly if it is due**, when the user has room for a window. -/
theorem dataAck_rcvLsa {e : Env} {p : CspPacket} {w : World} (hsupply : Supplied e w.tick)
    (hdelayed : w.conn.rdp.delayedAcks ≠ 0)
    (hroom : (w.conn.rxQueue (rxq p)).size + w.conn.rdp.windowSize.toNat ≤ cspRxQueueLength) :
    (dataAck e p w).conn.rdp.rcvLsa =
      if (cspRdpShouldAck e w).1 then w.conn.rdp.rcvCur else w.conn.rdp.rcvLsa := by
  have hfits : BitVec.ofNat 32 (w.conn.rxQueue (cspConnGetRxq p.id.pri)).size +
      w.conn.rdp.windowSize ≤ BitVec.ofNat 32 cspRxQueueLength := by
    unfold rxq cspRxQueueLength cspConnQueueLength cspPriorities at hroom
    unfold cspRxQueueLength cspConnQueueLength cspPriorities
    bv_omega
  have hworld : (cspRdpShouldAck e w).2 = w.next := by
    unfold cspRdpShouldAck
    rw [if_neg hdelayed]
    rfl
  unfold dataAck
  rw [if_pos hfits]
  simp only [hworld]
  split
  · obtain ⟨b, hb⟩ := Option.isSome_iff_exists.1 (hsupply (w.tick + 1) (by omega)).1
    have hsend := (hsupply (w.tick + 2) (by omega)).2
    have hget : cspBufferGet e w.next = (some b, w.next.next.emit (.alloc b.buf)) := by
      unfold cspBufferGet
      rw [show w.next.tick = w.tick + 1 from rfl, hb]
    unfold cspRdpSendCmp
    rw [hget]
    unfold cspRdpSendPacket cspRdpSendNow cspSendDirect
    simp only [RdpFlags.ackOnly, Bool.false_eq_true, if_false, if_true,
      show (w.next.next.emit (.alloc b.buf)).tick = w.tick + 2 from rfl, hsend]
    rfl
  · rfl

/-! ### A packet in sequence -/

/-- A data packet that comes in sequence to an open connection with delayed acknowledgements,
buffers, an accepting interface, and room for a full window once it has been processed. -/
structure DelayedAck (e : Env) (p : CspPacket) (w : World) : Prop where
  isOpen : w.conn.rdp.state = .rdpOpen
  delayed : w.conn.rdp.delayedAcks ≠ 0
  window_pos : 1 ≤ w.conn.rdp.windowSize.toNat
  window_le : w.conn.rdp.windowSize.toNat ≤ cspRdpMaxWindow
  delay : w.conn.rdp.ackDelayCount.toNat < 2 ^ 15
  supply : Supplied e w.tick
  acceptable : Acceptable e p w.conn.rdp
  inSequence : (rxHeader e.host p).seqNr = w.conn.rdp.rcvCur + 1
  room : ((cspRdpNewPacket e p w).conn.rxQueue (rxq (rxPacket e.host p))).size +
    w.conn.rdp.windowSize.toNat ≤ cspRxQueueLength

/-- How many stored packets follow the packet with the next number. -/
def followers (o : ByteOrder) (rdp : Rdp) : ℕ :=
  (released o rdp.rxQueue.size (rdp.rcvCur + 2) rdp.rxQueue).length

instance (e : Env) (w : World) : Decidable (HandleFits e w) := inferInstanceAs (Decidable (_ ∨ _))

/-- Posting the handle does not turn the clock back. -/
theorem postHandle_tick (e : Env) (w : World) : w.tick ≤ (postHandle e w).2.tick := by
  unfold postHandle
  split
  · exact le_rfl
  · split <;> exact Nat.le_succ _

/-- A stored ACK number makes no difference to the clock. -/
theorem postHandle_storeAck_tick (e : Env) (h : RdpHeader) (w : World) :
    (postHandle e (storeAck h w)).2.tick = (postHandle e w).2.tick := by
  unfold postHandle storeAck
  simp only
  split
  · rfl
  · split <;> rfl

/-- Only the post of the handle asks the clock. -/
theorem cspRdpReceiveData_tick (e : Env) (p : CspPacket) (w : World) :
    (cspRdpReceiveData e p w).2.tick = (postHandle e w).2.tick := by
  unfold cspRdpReceiveData
  simp only
  split
  · unfold cspConnEnqueuePacket
    simp only
    split
    · rfl
    · split <;> rfl
  · rfl

/-- **What a packet in sequence leaves unacknowledged:** the stored packets that follow it, and
those before them if no acknowledgement is due.  Nothing changes if the accept queue has no room
for the connection. -/
theorem newPacketData_unacked {e : Env} {h : RdpHeader} {p : CspPacket} {w : World}
    (hu : w.conn.UserOk) (hs : h.seqNr = w.conn.rdp.rcvCur + 1) (hsupply : Supplied e w.tick)
    (hdelayed : w.conn.rdp.delayedAcks ≠ 0) (hdelay : w.conn.rdp.ackDelayCount.toNat < 2 ^ 15)
    (hpos : 1 ≤ w.conn.rdp.windowSize.toNat)
    (hafter : ((newPacketData e h p w).conn.rxQueue (rxq p)).size + w.conn.rdp.windowSize.toNat ≤
      cspRxQueueLength) :
    (newPacketData e h p w).conn.rdp.unacked =
      if HandleFits e w then
        ((if w.conn.rdp.ackDue (e.getMs (postHandle e w).2.tick) then 0
          else w.conn.rdp.unacked + 1) + followers e.host w.conn.rdp) % 2 ^ 16
      else w.conn.rdp.unacked := by
  have hrdp := cspRdpReceiveData_rdp e p w
  have htick := cspRdpReceiveData_tick e p w
  unfold newPacketData at hafter ⊢
  simp only [hs, ne_eq, not_true_eq_false, if_false] at hafter ⊢
  by_cases hfits : HandleFits e w
  · have hpost : (postHandle e w).1 = true := postHandle_eq_true.2 hfits
    by_cases hroom : w.conn.Room p
    · obtain ⟨-, -, -, hres⟩ := cspRdpReceiveData_queued hpost hroom
      rw [if_pos (hres.2 (rxEvent_lt hu hroom))] at hafter ⊢
      rw [if_pos hfits]
      generalize (cspRdpReceiveData e p w).2 = w₁ at hrdp htick hafter ⊢
      obtain ⟨w₂, hw₂⟩ : ∃ w₂, w₂ = w₁.setRcvCur (w.conn.rdp.rcvCur + 1) := ⟨_, rfl⟩
      have hrdp₂ : w₂.conn.rdp = { w.conn.rdp with rcvCur := w.conn.rdp.rcvCur + 1 } := by
        rw [hw₂, ← hrdp]
        rfl
      have htick₂ : w₂.tick = (postHandle e w).2.tick := by rw [hw₂, ← htick]; rfl
      have hpast := postHandle_tick e w
      obtain ⟨w₃, hw₃⟩ : ∃ w₃, w₃ = dataAck e p w₂ := ⟨_, rfl⟩
      have hinbound : w₃.inbound = w₂.inbound := hw₃ ▸ (dataAck_quiet e p w₂).inbound
      have hqueue : w₃.conn.rxQueue = w₂.conn.rxQueue := congrArg Inbound.rxQueue hinbound
      change (((cspRdpRxQueueFlush e (dataAck e p (w₁.setRcvCur _))).conn.rxQueue _).size + _ ≤ _)
        at hafter
      show (cspRdpRxQueueFlush e (dataAck e p (w₁.setRcvCur _))).conn.rdp.unacked = _
      rw [← hw₂, ← hw₃] at hafter ⊢
      unfold cspRdpRxQueueFlush at hafter ⊢
      -- the room after the flush was there when the decision was made
      have hroom₂ : (w₂.conn.rxQueue (rxq p)).size + w₂.conn.rdp.windowSize.toNat ≤
          cspRxQueueLength := by
        have hgrown := flushRounds_size e w₃.conn.rdp.rxQueue.size w₃ (rxq p)
        rw [hqueue] at hgrown
        rw [hrdp₂]
        exact (Nat.add_le_add_right hgrown _).trans hafter
      have hlsa := dataAck_rcvLsa (e := e) (fun t ht => hsupply t (by omega)) (by rwa [hrdp₂])
        hroom₂
      have hdue := @cspRdpShouldAck_iff e w₂ w.conn.rdp (by rwa [hrdp₂]) hdelay
        (by rw [hrdp₂]; exact ⟨rfl, rfl, rfl, rfl, rfl⟩)
      rw [← hw₃, hrdp₂] at hlsa
      rw [htick₂] at hdue
      obtain ⟨hcur, hkept⟩ := flushRounds_released e w₃.conn.rdp.rxQueue.size w₃
      have hcur₃ : w₃.conn.rdp.rcvCur = w.conn.rdp.rcvCur + 1 :=
        (congrArg Inbound.rcvCur hinbound).trans (by rw [hw₂]; rfl)
      have hreorder : w₃.conn.rdp.rxQueue = w.conn.rdp.rxQueue :=
        (congrArg Inbound.reorder hinbound).trans
          (show w₂.conn.rdp.rxQueue = _ by rw [hrdp₂])
      have hfollow : followers e.host w.conn.rdp = (released e.host w₃.conn.rdp.rxQueue.size
          (w₃.conn.rdp.rcvCur + 1) w₃.conn.rdp.rxQueue).length := by
        rw [hcur₃, hreorder, BitVec.add_assoc]
        rfl
      unfold Rdp.unacked
      rw [hcur, hkept, ← hfollow, hcur₃, hlsa]
      simp only [hdue]
      by_cases hack : w.conn.rdp.ackDue (e.getMs (postHandle e w).2.tick)
      · simp only [if_pos hack]
        bv_omega
      · simp only [if_neg hack]
        bv_omega
    · -- a full queue stays full, which leaves no room for a window
      obtain ⟨-, hres, hsame, -⟩ := cspRdpReceiveData_refused (e := e) (p := p) (w := w)
        fun _ => hroom
      rw [if_neg (by rw [hres]; exact Bool.false_ne_true)] at hafter
      change ((cspRdpReceiveData e p w).2.conn.rxQueue (rxq p)).size + _ ≤ _ at hafter
      rw [hsame] at hafter
      unfold Conn.Room at hroom
      omega
  · obtain ⟨-, hres, -, -⟩ := cspRdpReceiveData_refused (e := e) (p := p) (w := w)
      fun hpost => absurd (postHandle_eq_true.1 hpost) hfits
    rw [if_neg (by rw [hres]; exact Bool.false_ne_true), if_neg hfits]
    show (cspRdpReceiveData e p w).2.conn.rdp.unacked = _
    rw [hrdp]

/-- What the flush releases fits into `ack_delay_count`, together with what no acknowledgement
is due for. -/
def ReleaseFits (e : Env) (w : World) : Prop :=
  if HandleFits e w then
    if w.conn.rdp.ackDue (e.getMs (postHandle e w).2.tick) then
      followers e.host w.conn.rdp ≤ w.conn.rdp.ackDelayCount.toNat
    else (w.conn.rdp.unacked + 1 + followers e.host w.conn.rdp) % 2 ^ 16 ≤
      w.conn.rdp.ackDelayCount.toNat
  else w.conn.rdp.unacked ≤ w.conn.rdp.ackDelayCount.toNat

/-- **Delayed acknowledgements are bounded**, in every state a run reaches, exactly when what the
flush releases fits. -/
theorem run_ackDelay_iff {e : Env} {s t : Endpoint} {is : List Input} {p : CspPacket}
    (hu : s.world.conn.UserOk) (hrun : Run (step e) (fun _ _ => True) s is t)
    (h : DelayedAck e p t.world) :
    (cspRdpNewPacket e p t.world).conn.rdp.unacked ≤ t.rdp.ackDelayCount.toNat ↔
      ReleaseFits e t.world := by
  have hok := hrun.invariant (P := fun t => t.world.conn.UserOk)
    (fun _ _ _ ht _ hst => step_userOk ht hst) hu
  have hafter := h.room
  rw [h.acceptable.newPacket h.isOpen] at hafter ⊢
  rw [newPacketData_unacked (w := storeAck (rxHeader e.host p) t.world) hok h.inSequence h.supply
    h.delayed h.delay h.window_pos hafter, postHandle_storeAck_tick]
  change (if HandleFits e t.world then ((if t.rdp.ackDue _ then 0 else t.rdp.unacked + 1) +
    followers e.host t.rdp) % 2 ^ 16 else t.rdp.unacked) ≤ _ ↔ _
  have hfew : followers e.host t.rdp ≤ 40 :=
    (released_length_le e.host _ _ _).trans t.rdp.rxQueue.le
  unfold ReleaseFits
  split
  · split
    · rw [Nat.zero_add, Nat.mod_eq_of_lt (by omega)]
    · rfl
  · rfl

/-- A data packet of a peer that has acknowledged everything up to `ackNr`. -/
def nextData (seqNr ackNr : U16) : CspPacket := segment .ackOnly seqNr ackNr [7]

/-- What is decidable of `DelayedAck`. -/
def delayedAckChecks (e : Env) (p : CspPacket) (w : World) : Bool :=
  decide (w.conn.rdp.state = .rdpOpen ∧ w.conn.rdp.delayedAcks ≠ 0 ∧
    1 ≤ w.conn.rdp.windowSize.toNat ∧ w.conn.rdp.windowSize.toNat ≤ cspRdpMaxWindow ∧
    w.conn.rdp.ackDelayCount.toNat < 2 ^ 15 ∧ sizeofRdpHeader < p.length.toNat ∧
    (rxHeader e.host p).seqNr = w.conn.rdp.rcvCur + 1 ∧
    ((cspRdpNewPacket e p w).conn.rxQueue (rxq (rxPacket e.host p))).size +
      w.conn.rdp.windowSize.toNat ≤ cspRxQueueLength) &&
    !(rxHeader e.host p).rst && !(rxHeader e.host p).syn && (rxHeader e.host p).ack &&
    !(rxHeader e.host p).eak && w.conn.rdp.seqValid (rxHeader e.host p) &&
    w.conn.rdp.ackValid (rxHeader e.host p)

/-- Checks that `decide` can run, for surroundings in which nothing fails. -/
theorem delayedAck_favourable {o : ByteOrder} {p : CspPacket} {w : World}
    (h : delayedAckChecks (.favourable o) p w = true) : DelayedAck (.favourable o) p w := by
  simp only [delayedAckChecks, Bool.and_eq_true, Bool.not_eq_true', decide_eq_true_eq] at h
  obtain ⟨⟨⟨⟨⟨⟨⟨hopen, hdelayed, hpos, hle, hdelay, hlen, hseq, hroom⟩, hrst⟩, hsyn⟩, hack⟩, heak⟩,
    hvalid⟩, hackNr⟩ := h
  exact ⟨hopen, hdelayed, hpos, hle, hdelay, fun _ _ => ⟨rfl, rfl⟩,
    ⟨hrst, hsyn, hack, heak, hvalid, hackNr, hlen⟩, hseq, hroom⟩

/-- An open connection, and the packet it waits for. -/
theorem run_ackDelay_opened : (cspRdpNewPacket (.favourable .big) (nextData 201 100)
    (Endpoint.opened 100 200 4).world).conn.rdp.unacked ≤ 2 :=
  (run_ackDelay_iff (s := .opened 100 200 4) Finset.sum_const_zero.symm .nil
    (delayedAck_favourable (by decide +kernel))).2 (by unfold ReleaseFits; decide +kernel)

/-- **Released packets are not acknowledged.**  After the handshake 202, 203 and 204 come before
201, which releases them: four packets are unacknowledged, and `ack_delay_count` is 2. -/
theorem released_unacked :
    ¬ ∀ (e : Env) (s t : Endpoint) (is : List Input) (p : CspPacket), s.world.conn.UserOk →
      Run (step e) (fun _ _ => True) s is t → DelayedAck e p t.world →
        (cspRdpNewPacket e p t.world).conn.rdp.unacked ≤ t.rdp.ackDelayCount.toNat := by
  intro h
  have hrun : ∃ t, Run (step (.favourable .big)) (fun _ _ => True) .fresh
      [.connect, .packet (segment .synAck 200 0 []), .connectWake, .packet (nextData 202 0),
        .packet (nextData 203 0), .packet (nextData 204 0)] t ∧
      (delayedAckChecks (.favourable .big) (nextData 201 0) t.world &&
        decide ((cspRdpNewPacket (.favourable .big) (nextData 201 0) t.world).conn.rdp.unacked = 4 ∧
          t.rdp.ackDelayCount = 2)) = true := by
    refine Run.of_any ?_
    decide +kernel
  obtain ⟨t, hrun, ht⟩ := hrun
  rw [Bool.and_eq_true, decide_eq_true_eq] at ht
  obtain ⟨hchecks, hfour, hcount⟩ := ht
  have hle := h (.favourable .big) .fresh t _ _ Finset.sum_const_zero.symm hrun
    (delayedAck_favourable hchecks)
  rw [hfour, hcount] at hle
  exact absurd hle (by decide)

end LibCSP
