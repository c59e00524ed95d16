/-
# What an incoming packet does

`csp_rdp_new_packet` seen twice.  On the control fields it makes one of the six
moves of `ControlStep`; an ACK number is stored exactly in the states and under
the checks of `Rdp.storesAck`.  On the receiving half of a connection that is
not in a handshake it is calm, or stores one packet in the reorder queue, or
accepts one packet in sequence (`cspRdpNewPacket_received`).
-/

import LibCSP.Rdp.Deliver

namespace LibCSP

open Basis

/-! ### The control fields -/

/-- `csp_rdp_new_packet` stores the ACK number of a packet with this header. -/
def Rdp.storesAck (rdp : Rdp) (h : RdpHeader) : Bool :=
  if h.rst then h.ack
  else
    match rdp.state with
    | .rdpClosed => false
    | .rdpSynSent => h.syn && h.ack
    | .rdpSynRcvd =>
      !h.syn && h.ack && rdp.seqValid h && rdp.ackValid h && h.ackNr == rdp.sndIss
    | .rdpOpen => !h.syn && h.ack && rdp.seqValid h && rdp.ackValid h
    | .rdpCloseWait => !h.syn && h.ack && rdp.ackValid h

/-- In `RDP_SYN_RCVD` the answer to our SYN is stored. -/
theorem Rdp.Passes.storesAck_synRcvd {rdp : Rdp} {h : RdpHeader} (hp : rdp.Passes h)
    (hr : h.rst = false) (hst : rdp.state = .rdpSynRcvd) (hn : h.ackNr = rdp.sndIss) :
    rdp.storesAck h = true := by
  simp only [Rdp.storesAck, hr, hst, hp.syn, hp.ack, hp.seqNr, hp.ackNr, hn, Bool.false_eq_true,
    if_false, Bool.not_false, Bool.and_self, beq_self_eq_true]

/-- In `RDP_OPEN` the ACK number of a packet that passes is stored. -/
theorem Rdp.Passes.storesAck_open {rdp : Rdp} {h : RdpHeader} (hp : rdp.Passes h)
    (hr : h.rst = false) (hst : rdp.state = .rdpOpen) : rdp.storesAck h = true := by
  simp only [Rdp.storesAck, hr, hst, hp.syn, hp.ack, hp.seqNr, hp.ackNr, Bool.false_eq_true,
    if_false, Bool.not_false, Bool.and_self]

/-- The moves of the control fields under a packet with header `h`. -/
inductive ControlStep (rdp : Rdp) (c : Control) (h : RdpHeader) : Control → Prop
  /-- Nothing, or the connection closes. -/
  | close {st : RdpState} (hst : c.state.Closing st) : ControlStep rdp c h { c with state := st }
  /-- The ACK number is stored. -/
  | ack {st : RdpState} (hs : rdp.storesAck h = true) (hst : c.state.Closing st) :
      ControlStep rdp c h { c with state := st, sndUna := h.ackNr + 1 }
  /-- The ACK of the SYN/ACK opens the passive side. -/
  | accepted (hc : c.state = .rdpSynRcvd) (hs : rdp.storesAck h = true) (ha : h.ack = true)
      (hn : h.ackNr = c.sndIss) :
      ControlStep rdp c h { c with state := .rdpOpen, sndUna := h.ackNr + 1 }
  /-- The SYN/ACK opens the active side. -/
  | opened (hc : c.state = .rdpSynSent) (hr : h.rst = false) (hs : h.syn = true)
      (ha : h.ack = true) :
      ControlStep rdp c h { c with state := .rdpOpen, sndUna := h.ackNr + 1, txWait := true }
  /-- A half-open connection was found. -/
  | halfOpen (hc : c.state = .rdpSynSent) : ControlStep rdp c h { c with txWait := true }
  /-- A SYN starts a connection. -/
  | passive (hc : c.state = .rdpClosed) (hs : h.syn = true) (iss : U16) (windowSize : U32) :
      ControlStep rdp c h
        { c with
          state := .rdpSynRcvd
          sndIss := iss
          sndNxt := iss + 1
          sndUna := iss
          windowSize := windowSize }

/-- Nothing changed is a step. -/
theorem ControlStep.of_eq {rdp : Rdp} {c c' : Control} {h : RdpHeader} (hc : c' = c) :
    ControlStep rdp c h c' := by
  rw [hc]
  exact .close (.inl rfl)

/-- Closing is a step, whatever the header. -/
theorem Closes.step {w w' : World} (h : Closes w w') (hdr : RdpHeader) :
    ControlStep w.conn.rdp w.control hdr w'.control := by
  obtain ⟨st, hst, e⟩ := h.control
  rw [e]
  exact .close hst

/-- A quiet call is a step. -/
theorem Quiet.step {w w' : World} (h : Quiet w w') (hdr : RdpHeader) :
    ControlStep w.conn.rdp w.control hdr w'.control := h.closes.step hdr

/-- Storing the ACK number delivers nothing. -/
theorem storeAck_calm (h : RdpHeader) (w : World) : Calm w (storeAck h w) :=
  ⟨rfl, rfl, .refl _, fun _ hx => .refl hx, id, [], (List.append_nil _).symm, by simp⟩

/-- After the ACK number was stored the rest closes at most. -/
theorem Closes.ackStep {w w' : World} {h : RdpHeader} (hs : w.conn.rdp.storesAck h = true)
    (hw : Closes (storeAck h w) w') : ControlStep w.conn.rdp w.control h w'.control := by
  obtain ⟨st, hst, e⟩ := hw.control
  rw [e]
  exact .ack hs hst

/-- The flush of the reorder queue leaves the send variables alone. -/
theorem flushRounds_control (e : Env) (n : ℕ) (w : World) :
    (flushRounds e n w).control = w.control := by
  refine flushRounds_induct (P := fun w' => w'.control = w.control) (fun w₁ w₂ h hr => ?_) n rfl
  obtain ⟨-, x, -, q, -, -, -, -, rfl⟩ := flushRound_cases hr
  have hrdp := cspRdpReceiveData_rdp e x (w₁.setReorder q)
  rw [← h]
  unfold World.control
  simp only [hrdp]
  rfl

/-- So does a data packet. -/
theorem newPacketData_control (e : Env) (h : RdpHeader) (p : CspPacket) (w : World) :
    (newPacketData e h p w).control = w.control := by
  have hrdp := cspRdpReceiveData_rdp e p w
  unfold newPacketData
  simp only
  split
  · rcases cspRdpRxQueueAdd_cases e p h.seqNr w with ⟨hr, -, q, hq, -⟩ | ⟨hr, q, hq, -⟩
    · rw [hr, hq, if_pos rfl]
      exact (cspRdpSendEack_quiet e _).control
    · rw [hr, hq, if_neg Bool.false_ne_true]
      rfl
  · split
    · rw [cspRdpRxQueueFlush, flushRounds_control, (dataAck_quiet e p _).control]
      unfold World.control
      simp only [hrdp]
    · show World.control _ = _
      rw [discardOpen, World.free, World.control]
      simp only [World.emit_conn, hrdp]
      rfl

/-- A packet that was acknowledged stores the ACK number, and that is all. -/
theorem newPacketAcked_control (e : Env) (h : RdpHeader) (p : CspPacket) (w : World) :
    (newPacketAcked e h p w).control = { w.control with sndUna := h.ackNr + 1 } := by
  unfold newPacketAcked
  simp only
  split
  · split
    · exact (cspRdpFlushEack_quiet e p (storeAck h w)).control
    · rfl
  · split
    · rfl
    · exact newPacketData_control e h p (storeAck h w)

/-- **RST:** stores the ACK number if it has one, and closes. -/
theorem newPacketRst_closes (e : Env) (h : RdpHeader) (p : CspPacket) (w : World) :
    Closes (if h.ack then storeAck h w else w) (newPacketRst e h p w) := by
  unfold newPacketRst
  generalize (if h.ack then storeAck h w else w) = w₁
  simp only
  split
  · exact (Quiet.free w₁ p).closes.trans (cspClose_closes e _)
  · split
    · exact (sendRst_closes e w₁).trans (discardClose_closes e p _)
    · exact (discardOpen_quiet p w₁).closes

/-- Which is a step. -/
theorem newPacketRst_step (e : Env) {h : RdpHeader} (hr : h.rst = true) (p : CspPacket)
    (w : World) : ControlStep w.conn.rdp w.control h (newPacketRst e h p w).control := by
  have hw := newPacketRst_closes e h p w
  cases ha : h.ack with
  | true =>
    rw [ha, if_pos rfl] at hw
    exact hw.ackStep (by rw [Rdp.storesAck, hr, if_pos rfl, ha])
  | false =>
    rw [ha, if_neg Bool.false_ne_true] at hw
    exact hw.step h

/-- A SYN sets up the connection, and the rest is quiet. -/
theorem newPacketClosed_syn (e : Env) {h : RdpHeader} (hsyn : h.syn = true) (p : CspPacket)
    (w : World) : Quiet (passiveOpen e h p w) (newPacketClosed e h p w) := by
  have hq := cspRdpSendCmp_none_quiet (e := e) (f := .synAck)
    (s := (passiveOpen e h p w).conn.rdp.sndIss) (a := (passiveOpen e h p w).conn.rdp.rcvIrs)
    (w := passiveOpen e h p w) fun _ => rfl
  unfold newPacketClosed
  rw [if_pos hsyn]
  exact hq.trans (discardOpen_quiet p _)

/-- Any other packet is answered with a RST. -/
theorem newPacketClosed_closes (e : Env) {h : RdpHeader} (hsyn : h.syn = false) (p : CspPacket)
    (w : World) : Closes w (newPacketClosed e h p w) := by
  unfold newPacketClosed
  rw [hsyn, if_neg Bool.false_ne_true]
  exact (cspRdpSendCmp_none_quiet fun _ => rfl).closes.trans (discardClose_closes e p _)

/-- In `RDP_CLOSED` only a SYN changes anything. -/
theorem newPacketClosed_step (e : Env) (h : RdpHeader) (p : CspPacket) {w : World}
    (hst : w.conn.rdp.state = .rdpClosed) :
    ControlStep w.conn.rdp w.control h (newPacketClosed e h p w).control := by
  cases hsyn : h.syn with
  | true =>
    rw [(newPacketClosed_syn e hsyn p w).control]
    exact .passive hst hsyn _ _
  | false => exact (newPacketClosed_closes e hsyn p w).step h

/-- The ACK that answers a SYN/ACK changes nothing here. -/
theorem synSentAck_quiet (e : Env) (w : World) : Quiet w (synSentAck e w) := by
  unfold synSentAck
  split
  · exact cspRdpSendCmp_none_quiet fun _ => rfl
  · exact .refl w

/-- In `RDP_SYN_SENT` a SYN/ACK opens the connection, an ACK is answered and wakes the task, and
anything else closes. -/
theorem newPacketSynSent_cases (e : Env) (h : RdpHeader) (p : CspPacket) (w : World) :
    (h.syn = true ∧ h.ack = true ∧ ∃ v, Quiet (activeOpen e h w) v ∧
        newPacketSynSent e h p w = discardOpen p (txWaitPost v)) ∨
      (∃ v, Quiet w v ∧ newPacketSynSent e h p w = discardOpen p (txWaitPost v)) ∨
        Closes w (newPacketSynSent e h p w) := by
  unfold newPacketSynSent
  split
  · rename_i hsa
    rw [Bool.and_eq_true] at hsa
    exact .inl ⟨hsa.1, hsa.2, _, synSentAck_quiet e _, rfl⟩
  · split
    · exact .inr (.inl ⟨_, cspRdpSendCmp_none_quiet fun _ => rfl, rfl⟩)
    · exact .inr (.inr (discardClose_closes e p w))

/-- In `RDP_SYN_SENT` the answer to our SYN opens the connection. -/
theorem newPacketSynSent_step (e : Env) {h : RdpHeader} (hr : h.rst = false) (p : CspPacket)
    {w : World} (hst : w.conn.rdp.state = .rdpSynSent) :
    ControlStep w.conn.rdp w.control h (newPacketSynSent e h p w).control := by
  have hpost : ∀ v, (discardOpen p (txWaitPost v)).control = { v.control with txWait := true } :=
    fun v => (discardOpen_quiet p (txWaitPost v)).control
  rcases newPacketSynSent_cases e h p w with ⟨hsyn, hack, v, hq, hw⟩ | ⟨v, hq, hw⟩ | hw
  · rw [hw, hpost, hq.control]
    exact .opened hst hr hsyn hack
  · rw [hw, hpost, hq.control]
    exact .halfOpen hst
  · exact hw.step h

/-- In `RDP_CLOSE_WAIT` nothing is taken in. -/
theorem newPacketCloseWait_step (e : Env) {h : RdpHeader} (hr : h.rst = false) (p : CspPacket)
    {w : World} (hst : w.conn.rdp.state = .rdpCloseWait) :
    ControlStep w.conn.rdp w.control h (newPacketCloseWait e h p w).control := by
  rcases newPacketCloseWait_cases e h p w with hw | ⟨hsyn, hack, hv, hw⟩
  · rw [hw]
    exact (discardOpen_quiet p w).step h
  · rw [hw]
    have hq : Quiet (storeAck h w) _ := cspRdpSendCmp_none_quiet (e := e)
      (f := .rstAck) (s := w.conn.rdp.sndNxt) (a := w.conn.rdp.rcvCur) fun _ => rfl
    refine (hq.trans (discardOpen_quiet p _)).closes.ackStep ?_
    simp only [Rdp.storesAck, hr, hst, hsyn, hack, hv, Bool.false_eq_true, if_false,
      Bool.not_false, Bool.and_self]

/-- **A packet outside the receive window is answered**, with a SYN/ACK or an EACK: what both keep
is kept. -/
theorem outsideWindow_induct {e : Env} {P : World → Prop} {w : World} (hw : P w)
    (hsyn : P (cspRdpSendCmp e none .synAck w.conn.rdp.sndIss w.conn.rdp.rcvIrs w).2)
    (heack : ∀ w₁, P w₁ → P (cspRdpSendEack e w₁).2) : P (outsideWindow e w) := by
  have hfirst : P (if w.conn.rdp.state = .rdpSynRcvd then (cspRdpSendCmp e none .synAck
      w.conn.rdp.sndIss w.conn.rdp.rcvIrs w).2 else w) := by
    split
    · exact hsyn
    · exact hw
  unfold outsideWindow
  simp only
  generalize (if w.conn.rdp.state = .rdpSynRcvd then (cspRdpSendCmp e none .synAck
      w.conn.rdp.sndIss w.conn.rdp.rcvIrs w).2 else w) = w₁ at hfirst ⊢
  split
  · exact heack w₁ hfirst
  · exact hfirst

/-- A packet outside the window is answered, with an ACK or the SYN/ACK again. -/
theorem outsideWindow_sends (e : Env) (w : World) : Sends w (outsideWindow e w) :=
  outsideWindow_induct (P := Sends w) (Quiet.refl w).sends (cspRdpSendCmp_none_sends e _ _ _ w)
    fun w₁ h => h.trans (cspRdpSendEack_quiet e w₁).sends

/-- **In `RDP_SYN_RCVD` and `RDP_OPEN`** a packet is checked before it changes anything. -/
theorem newPacketOpen_step (e : Env) {h : RdpHeader} (hr : h.rst = false) (p : CspPacket)
    {w : World} (hst : w.conn.rdp.state = .rdpSynRcvd ∨ w.conn.rdp.state = .rdpOpen) :
    ControlStep w.conn.rdp w.control h (newPacketOpen e h p w).control := by
  refine newPacketOpen_induct (P := fun v => ControlStep w.conn.rdp w.control h v.control)
    ((discardClose_closes e p w).step h) ((discardOpen_quiet p w).step h)
    (.of_eq ((discardOpen_quiet p _).control.trans (outsideWindow_sends e w).control)) ?_ ?_
  · intro hp hst' hn
    rw [newPacketAcked_control]
    exact .accepted hst' (hp.storesAck_synRcvd hr hst' hn) hp.ack hn
  · intro hp hst'
    rw [newPacketAcked_control]
    exact .ack (hp.storesAck_open hr (hst.resolve_left hst')) (.inl rfl)

/-- **A packet makes one of six moves.** -/
theorem cspRdpNewPacket_step (e : Env) (p : CspPacket) (w : World) :
    ControlStep w.conn.rdp w.control (rxHeader e.host p) (cspRdpNewPacket e p w).control :=
  cspRdpNewPacket_induct
    (P := fun v => ControlStep w.conn.rdp w.control (rxHeader e.host p) v.control)
    (fun hr => newPacketRst_step e hr _ w) (fun _ hst => newPacketClosed_step e _ _ hst)
    (fun hr hst => newPacketSynSent_step e hr _ hst) (fun hr hst => newPacketOpen_step e hr _ hst)
    fun hr hst => newPacketCloseWait_step e hr _ hst

/-! ### The receiving half -/

/-- The connection with another `rcv_cur`. -/
def World.setRcvCur (w : World) (c : U16) : World := { w with conn.rdp.rcvCur := c }

/-- What a packet does to the receiving half. -/
inductive Received (e : Env) (p : CspPacket) (w : World) : World → Prop
  | calm {w' : World} (h : Calm w w') : Received e p w w'
  /-- A data packet came early, with a number not stored yet. -/
  | stored {w₁ w' : World} {q : Queue CspPacket (cspRdpMaxWindow * 2)} (hd : IsData p)
      (h₁ : Calm w w₁) (hi : w₁.inbound = w.inbound)
      (hnew : ∀ y ∈ w.conn.rdp.rxQueue.items, hostSeq e.host y ≠ (rxHeader e.host p).seqNr)
      (hq : q.items.Perm (rxPacket e.host p :: w.conn.rdp.rxQueue.items))
      (h₂ : Quiet (w₁.setReorder q) w') : Received e p w w'
  /-- A data packet came in sequence and was handed over; stored ones follow it. -/
  | accepted {w₁ w₂ w₃ w₄ : World} (hd : IsData p)
      (hs : (rxHeader e.host p).seqNr = w.conn.rdp.rcvCur + 1)
      (hst : w.conn.rdp.state = .rdpOpen)
      (hack : w.conn.rdp.storesAck (rxHeader e.host p) = true) (hpost : (postHandle e w).1 = true)
      (h₁ : Calm w w₁) (hi : w₁.inbound = w.inbound) (hp : Posted w₁ w₂)
      (hn : w₂.conn.rxSocket = none)
      (hh : Handed w₂ (cspRdpHeaderRemove (rxPacket e.host p)) w₃)
      (hq : Quiet (w₃.setRcvCur (rxHeader e.host p).seqNr) w₄) :
      Received e p w (cspRdpRxQueueFlush e w₄)

/-- Whether the handle is posted depends on the socket and the accept queue only. -/
theorem postHandle_congr (e : Env) {w w' : World} (hs : w'.conn.rxSocket = w.conn.rxSocket)
    (ht : w'.tick = w.tick) : (postHandle e w').1 = (postHandle e w).1 := by
  unfold postHandle
  rw [hs, ht]
  cases w.conn.rxSocket with
  | none => rfl
  | some socket => cases e.acceptQueue w.tick <;> rfl

/-- Whether the handle can be posted does not depend on the ACK number. -/
theorem postHandle_storeAck (e : Env) (h : RdpHeader) (w : World) :
    (postHandle e (storeAck h w)).1 = (postHandle e w).1 := postHandle_congr e rfl rfl

/-- **Data in `RDP_OPEN`** is delivered, stored or dropped, as `Received` says. -/
theorem newPacketData_received {e : Env} {p : CspPacket} {w : World} (hu : w.conn.UserOk)
    (hd : IsData p) (hst : w.conn.rdp.state = .rdpOpen)
    (hack : w.conn.rdp.storesAck (rxHeader e.host p) = true) :
    Received e p w (newPacketData e (rxHeader e.host p) (rxPacket e.host p)
      (storeAck (rxHeader e.host p) w)) := by
  have h₁ := storeAck_calm (rxHeader e.host p) w
  unfold newPacketData
  simp only
  split
  · rcases cspRdpRxQueueAdd_cases e (rxPacket e.host p) (rxHeader e.host p).seqNr
        (storeAck (rxHeader e.host p) w) with ⟨hr, hnew, q, hw, hperm⟩ | ⟨hr, q, hw, hperm⟩
    · rw [hr, hw, if_pos rfl]
      exact .stored hd h₁ rfl hnew hperm (cspRdpSendEack_quiet e _)
    · rw [hr, hw, if_neg Bool.false_ne_true]
      exact .calm (h₁.trans ((setReorder_calm hperm.subperm).trans (discardOpen_quiet _ _).toCalm))
  · rename_i hs
    rcases cspRdpReceiveData_cases (h₁.user hu) e (rxPacket e.host p) with
      ⟨hr, hpost, w₂, hp, hn, hh⟩ | ⟨hr, hp, -⟩
    · rw [hr, if_pos rfl]
      exact .accepted hd (not_not.1 hs) hst hack (postHandle_storeAck e _ w ▸ hpost) h₁ rfl hp hn
        hh (dataAck_quiet e _ _)
    · rw [hr, if_neg Bool.false_ne_true]
      exact .calm (h₁.trans (hp.toCalm.trans (discardOpen_quiet _ _).toCalm))

/-- A packet comes in with the length it was sent with. -/
theorem length_rxPacket (o : ByteOrder) (p : CspPacket) : (rxPacket o p).length = p.length :=
  length_headerStore_flags o p _ _

/-- The host reads the flags of the packet on the wire. -/
theorem rxHeader_eq {o : ByteOrder} {p : CspPacket} (h : 5 ≤ p.length.toNat) :
    rxHeader o p = wireHeader p := by
  obtain ⟨h₁, h₂, h₃⟩ := hton16_headerRef (o := o) h
  show RdpHeader.mk _ _ _ = _
  rw [h₁, h₂, h₃]

/-- What passed the checks in front of the data path is data. -/
theorem isData_of_checks {o : ByteOrder} {p : CspPacket}
    (hl : sizeofRdpHeader < p.length.toNat) (hsyn : (rxHeader o p).syn = false)
    (hrst : (rxHeader o p).rst = false) (heak : (rxHeader o p).eak = false) : IsData p := by
  have h : 5 ≤ p.length.toNat := Nat.le_of_lt hl
  rw [rxHeader_eq h] at hsyn hrst heak
  exact ⟨hl, hsyn, hrst, heak⟩

/-- So is a packet that passed the checks of its ACK number. -/
theorem newPacketAcked_received {e : Env} {p : CspPacket} {w : World} (hu : w.conn.UserOk)
    (hsyn : (rxHeader e.host p).syn = false) (hrst : (rxHeader e.host p).rst = false)
    (hst : w.conn.rdp.state = .rdpOpen)
    (hack : w.conn.rdp.storesAck (rxHeader e.host p) = true) :
    Received e p w (newPacketAcked e (rxHeader e.host p) (rxPacket e.host p) w) := by
  have hstore := storeAck_calm (rxHeader e.host p) w
  unfold newPacketAcked
  simp only
  split
  · refine .calm (hstore.trans (Calm.trans ?_ (discardOpen_quiet _ _).toCalm))
    split
    · exact (cspRdpFlushEack_quiet e _ _).toCalm
    · exact .refl _
  · rename_i heak
    split
    · exact .calm (hstore.trans (discardOpen_quiet _ _).toCalm)
    · rename_i hl
      rw [length_rxPacket, Nat.not_le] at hl
      exact newPacketData_received hu
        (isData_of_checks hl hsyn hrst (Bool.not_eq_true _ ▸ heak)) hst hack

/-- RST delivers nothing. -/
theorem newPacketRst_calm (e : Env) (h : RdpHeader) (p : CspPacket) (w : World) :
    Calm w (newPacketRst e h p w) := by
  refine Calm.trans ?_ (newPacketRst_closes e h p w).toCalm
  split
  · exact storeAck_calm h w
  · exact .refl w

/-- In `RDP_OPEN` all is calm but what the checks let through. -/
theorem cspRdpNewPacket_calm {e : Env} {p : CspPacket} {w : World}
    (hst : w.conn.rdp.state = .rdpOpen)
    (hacked : w.conn.rdp.Passes (rxHeader e.host p) →
      Calm w (newPacketAcked e (rxHeader e.host p) (rxPacket e.host p) w)) :
    Calm w (cspRdpNewPacket e p w) := by
  cases hrst : (rxHeader e.host p).rst with
  | true =>
    have hnew : cspRdpNewPacket e p w = newPacketRst e _ (rxPacket e.host p) w := if_pos hrst
    rw [hnew]
    exact newPacketRst_calm e _ _ w
  | false =>
    rw [cspRdpNewPacket_open hrst (.inr hst)]
    refine newPacketOpen_induct (P := Calm w) (discardClose_closes e _ w).toCalm
      (discardOpen_quiet _ w).toCalm ?_ (fun _ hst' _ => ?_) fun hp _ => hacked hp
    · rw [outsideWindow_open e hst]
      exact (cspRdpSendEack_quiet e w).toCalm.trans (discardOpen_quiet _ _).toCalm
    · exact absurd (hst.symm.trans hst') (by decide)

/-- The states in which a connection has agreed on its sequence numbers, or
never will again without a SYN. -/
def Settled (w : World) (h : RdpHeader) : Prop :=
  w.conn.rdp.state = .rdpOpen ∨ w.conn.rdp.state = .rdpCloseWait ∨
    (w.conn.rdp.state = .rdpClosed ∧ h.syn = false)

/-- **Outside a handshake a packet is calm, stored, or accepted in sequence.** -/
theorem cspRdpNewPacket_received {e : Env} {p : CspPacket} {w : World} (hu : w.conn.UserOk)
    (hs : Settled w (rxHeader e.host p)) : Received e p w (cspRdpNewPacket e p w) := by
  refine cspRdpNewPacket_induct (P := Received e p w) (fun _ => .calm (newPacketRst_calm e _ _ w))
    (fun _ hst => ?_) (fun _ hst => ?_) (fun hrst hst => ?_) fun _ _ => ?_
  · have hsyn : (rxHeader e.host p).syn = false := by
      simpa only [Settled, hst, reduceCtorEq, false_or, true_and] using hs
    exact .calm (newPacketClosed_closes e hsyn _ w).toCalm
  · simp only [Settled, hst, reduceCtorEq, false_or, false_and] at hs
  · have hst : w.conn.rdp.state = .rdpOpen := hst.resolve_left fun hst => by
      simp only [Settled, hst, reduceCtorEq, false_or, false_and] at hs
    refine newPacketOpen_induct (P := Received e p w) (.calm (discardClose_closes e _ w).toCalm)
      (.calm (discardOpen_quiet _ w).toCalm) ?_ (fun _ hst' _ => ?_) fun hp _ => ?_
    · rw [outsideWindow_open e hst]
      exact .calm ((cspRdpSendEack_quiet e w).toCalm.trans (discardOpen_quiet _ _).toCalm)
    · exact absurd (hst.symm.trans hst') (by decide)
    · exact newPacketAcked_received hu hp.syn hrst hst (hp.storesAck_open hrst hst)
  · rcases newPacketCloseWait_cases e (rxHeader e.host p) (rxPacket e.host p) w with
      hw | ⟨-, -, -, hw⟩
    · rw [hw]
      exact .calm (discardOpen_quiet _ w).toCalm
    · rw [hw]
      have hq : Quiet (storeAck (rxHeader e.host p) w) _ := cspRdpSendCmp_none_quiet (e := e)
        (f := .rstAck) (s := w.conn.rdp.sndNxt) (a := w.conn.rdp.rcvCur) fun _ => rfl
      exact .calm ((storeAck_calm _ w).trans (hq.toCalm.trans (discardOpen_quiet _ _).toCalm))

end LibCSP
