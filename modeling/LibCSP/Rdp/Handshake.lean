/-
# The handshake

A connection should become open only on the word of the other side that it has
received this side's initial number: an acknowledgement of `snd_iss`.  The
passive side checks that (`case RDP_SYN_RCVD`).  The active side does not look
at the ACK number of the SYN/ACK it gets, so an old SYN/ACK opens it
(`old_syn_ack_opens`).  When every SYN/ACK that reaches a connection in
`RDP_SYN_SENT` acknowledges `snd_iss`, the law holds in every run
(`run_handshake`), and data goes to the user in `RDP_OPEN` only, whatever
arrives.
-/

import LibCSP.Rdp.Incoming
import LibCSP.Rdp.Send

namespace LibCSP

open Basis

/-- Deliveries happen in `RDP_OPEN`. -/
def Event.InOpen : Event → Prop
  | .deliver st _ => st = .rdpOpen
  | _ => True

/-- The step opens the connection only by a packet that acknowledges `snd_iss`,
and delivers in `RDP_OPEN` only. -/
structure Sound (e : Env) (s : Endpoint) (i : Input) (t : Endpoint) : Prop where
  opens : s.rdp.state ≠ .rdpOpen → t.rdp.state = .rdpOpen →
    ∃ p, i = .packet p ∧ (rxHeader e.host p).ack = true ∧
      (rxHeader e.host p).ackNr = s.rdp.sndIss ∧ t.rdp.sndIss = s.rdp.sndIss
  delivers : ∃ evs, t.world.log = s.world.log ++ evs ∧ ∀ ev ∈ evs, ev.InOpen

/-- A SYN/ACK that reaches a connection in `RDP_SYN_SENT` acknowledges `snd_iss`. -/
def SynAckMatches (e : Env) (s : Endpoint) : Input → Prop
  | .packet p => s.rdp.state = .rdpSynSent → (rxHeader e.host p).rst = false →
      (rxHeader e.host p).syn = true → (rxHeader e.host p).ack = true →
        (rxHeader e.host p).ackNr = s.rdp.sndIss
  | _ => True

instance (e : Env) (s : Endpoint) (i : Input) : Decidable (SynAckMatches e s i) :=
  match i with
  | .packet _ => inferInstanceAs (Decidable (_ → _))
  | .checkTimeouts | .checkAck | .read | .send _ | .sendWake | .sendTimeout | .connect
  | .connectWake | .connectTimeout | .close => isTrue trivial

/-! ### Deliveries -/

/-- The log grows by events that respect `InOpen`. -/
def DeliversInOpen (w w' : World) : Prop :=
  ∃ evs, w'.log = w.log ++ evs ∧ ∀ ev ∈ evs, ev.InOpen

/-- A call that logs nothing delivers nothing. -/
theorem DeliversInOpen.refl {w w' : World} (h : w'.log = w.log) : DeliversInOpen w w' :=
  ⟨[], by rw [h, List.append_nil], by simp⟩

/-- One call after the other. -/
theorem DeliversInOpen.trans {w w' w'' : World} (h₁ : DeliversInOpen w w')
    (h₂ : DeliversInOpen w' w'') : DeliversInOpen w w'' := by
  obtain ⟨evs₁, e₁, hevs₁⟩ := h₁
  obtain ⟨evs₂, e₂, hevs₂⟩ := h₂
  exact ⟨evs₁ ++ evs₂, by rw [e₂, e₁, List.append_assoc], List.forall_mem_append.2 ⟨hevs₁, hevs₂⟩⟩

/-- A call that delivers nothing does so in no state. -/
theorem DeliversInOpen.of_noDeliver {w w' : World}
    (h : ∃ evs, w'.log = w.log ++ evs ∧ ∀ ev ∈ evs, ∀ st p, ev ≠ Event.deliver st p) :
    DeliversInOpen w w' := by
  obtain ⟨evs, hl, hevs⟩ := h
  refine ⟨evs, hl, fun ev hev => ?_⟩
  cases ev with
  | deliver st p => exact absurd rfl (hevs _ hev st p)
  | _ => trivial

/-- A call that is calm delivers nothing. -/
theorem Calm.deliversInOpen {w w' : World} (h : Calm w w') : DeliversInOpen w w' :=
  .of_noDeliver h.noDeliver

/-- A call that sends delivers nothing. -/
theorem Sends.deliversInOpen {w w' : World} (h : Sends w w') : DeliversInOpen w w' :=
  .of_noDeliver h.log

/-- Taking data in delivers in the state of the connection, which is open. -/
theorem cspRdpReceiveData_deliversInOpen (e : Env) (p : CspPacket) {w : World}
    (h : w.conn.rdp.state = .rdpOpen) : DeliversInOpen w (cspRdpReceiveData e p w).2 := by
  have hp := postHandle_posted e w
  have hst : (postHandle e w).2.conn.rdp.state = .rdpOpen := by rw [hp.rdp, h]
  have hpost := hp.toCalm.deliversInOpen
  unfold cspRdpReceiveData cspConnEnqueuePacket
  simp only
  split
  · refine hpost.trans ?_
    split
    · exact .refl rfl
    · split <;> refine ⟨[.deliver _ _], rfl, fun ev hev => ?_⟩ <;> rw [List.mem_singleton.1 hev] <;>
        exact hst
  · exact hpost

/-- So does the flush of the reorder queue. -/
theorem flushRounds_deliversInOpen (e : Env) (n : ℕ) {w : World} (h : w.conn.rdp.state = .rdpOpen) :
    DeliversInOpen w (flushRounds e n w) := by
  refine (flushRounds_induct
    (P := fun w' => w'.conn.rdp.state = .rdpOpen ∧ DeliversInOpen w w') (fun w₁ w₂ h₁ hr => ?_) n
    ⟨h, .refl rfl⟩).2
  obtain ⟨hst, hw⟩ := h₁
  obtain ⟨-, x, -, q, -, -, -, -, rfl⟩ := flushRound_cases hr
  have hrdp := cspRdpReceiveData_rdp e x (w₁.setReorder q)
  refine ⟨?_, hw.trans (.trans (.refl rfl) (cspRdpReceiveData_deliversInOpen e x
    (w := w₁.setReorder q) hst))⟩
  show (cspRdpReceiveData e x (w₁.setReorder q)).2.conn.rdp.state = _
  rw [hrdp]
  exact hst

/-- So does a data packet. -/
theorem newPacketData_deliversInOpen (e : Env) (h : RdpHeader) (p : CspPacket) {w : World}
    (hst : w.conn.rdp.state = .rdpOpen) : DeliversInOpen w (newPacketData e h p w) := by
  have hrdp := cspRdpReceiveData_rdp e p w
  have hrec := cspRdpReceiveData_deliversInOpen e p hst
  unfold newPacketData
  simp only
  split
  · rcases cspRdpRxQueueAdd_cases e p h.seqNr w with ⟨hr, -, q, hq, -⟩ | ⟨hr, q, hq, -⟩
    · rw [hr, hq, if_pos rfl]
      exact .trans (.refl rfl) (cspRdpSendEack_quiet e (w.setReorder q)).toCalm.deliversInOpen
    · rw [hr, hq, if_neg Bool.false_ne_true]
      exact .trans (.refl rfl) (discardOpen_quiet p (w.setReorder q)).toCalm.deliversInOpen
  · split
    · have hq := dataAck_quiet e p ((cspRdpReceiveData e p w).2.setRcvCur h.seqNr)
      refine (hrec.trans (.trans (.refl rfl) hq.toCalm.deliversInOpen)).trans
        (flushRounds_deliversInOpen e _ ?_)
      refine (congrArg Control.state hq.control).trans ?_
      show (cspRdpReceiveData e p w).2.conn.rdp.state = _
      rw [hrdp, hst]
    · exact hrec.trans (discardOpen_quiet p _).toCalm.deliversInOpen

/-- So does a packet that was acknowledged. -/
theorem newPacketAcked_deliversInOpen (e : Env) (h : RdpHeader) (p : CspPacket) {w : World}
    (hst : w.conn.rdp.state = .rdpOpen) : DeliversInOpen w (newPacketAcked e h p w) := by
  have hstore := (storeAck_calm h w).deliversInOpen
  unfold newPacketAcked
  simp only
  split
  · refine hstore.trans (.trans ?_ (discardOpen_quiet p _).toCalm.deliversInOpen)
    split
    · exact (cspRdpFlushEack_quiet e p _).toCalm.deliversInOpen
    · exact .refl rfl
  · split
    · exact hstore.trans (discardOpen_quiet p _).toCalm.deliversInOpen
    · exact hstore.trans (newPacketData_deliversInOpen e h p hst)

/-- A packet in `RDP_SYN_RCVD` delivers only after the connection has opened. -/
theorem newPacketOpen_deliversInOpen (e : Env) (h : RdpHeader) (p : CspPacket) {w : World}
    (hst : w.conn.rdp.state = .rdpSynRcvd ∨ w.conn.rdp.state = .rdpOpen) :
    DeliversInOpen w (newPacketOpen e h p w) := by
  refine newPacketOpen_induct (P := DeliversInOpen w)
    (discardClose_closes e p w).toCalm.deliversInOpen
    (discardOpen_quiet p w).toCalm.deliversInOpen ?_ (fun _ _ _ => ?_) fun _ hn => ?_
  · exact (outsideWindow_sends e w).deliversInOpen.trans
      (discardOpen_quiet p _).toCalm.deliversInOpen
  · exact .trans (.refl rfl) (newPacketAcked_deliversInOpen e h p
      (w := { w with conn.rdp.state := .rdpOpen }) rfl)
  · exact newPacketAcked_deliversInOpen e h p (hst.resolve_left hn)

/-- A packet in `RDP_SYN_SENT` delivers nothing. -/
theorem newPacketSynSent_deliversInOpen (e : Env) (h : RdpHeader) (p : CspPacket) (w : World) :
    DeliversInOpen w (newPacketSynSent e h p w) := by
  have hpost : ∀ v, DeliversInOpen v (discardOpen p (txWaitPost v)) := fun v =>
    .trans (.refl rfl) (discardOpen_quiet p (txWaitPost v)).toCalm.deliversInOpen
  rcases newPacketSynSent_cases e h p w with ⟨-, -, v, hq, hw⟩ | ⟨v, hq, hw⟩ | hw
  · rw [hw]
    exact .trans (.refl rfl) (hq.toCalm.deliversInOpen.trans (hpost v))
  · rw [hw]
    exact hq.toCalm.deliversInOpen.trans (hpost v)
  · exact hw.toCalm.deliversInOpen

/-- A packet in `RDP_CLOSED` delivers nothing. -/
theorem newPacketClosed_deliversInOpen (e : Env) (h : RdpHeader) (p : CspPacket) (w : World) :
    DeliversInOpen w (newPacketClosed e h p w) := by
  cases hsyn : h.syn with
  | true => exact .trans (.refl rfl) (newPacketClosed_syn e hsyn p w).toCalm.deliversInOpen
  | false => exact (newPacketClosed_closes e hsyn p w).toCalm.deliversInOpen

/-- **Nothing is delivered before the connection is open**, whatever packet comes
in whatever state. -/
theorem cspRdpNewPacket_deliversInOpen (e : Env) (p : CspPacket) (w : World) :
    DeliversInOpen w (cspRdpNewPacket e p w) := by
  refine cspRdpNewPacket_induct (P := DeliversInOpen w)
    (fun _ => (newPacketRst_calm e _ _ w).deliversInOpen)
    (fun _ _ => newPacketClosed_deliversInOpen e _ _ w)
    (fun _ _ => newPacketSynSent_deliversInOpen e _ _ w)
    (fun _ hst => newPacketOpen_deliversInOpen e _ _ hst) fun _ _ => ?_
  rcases newPacketCloseWait_cases e (rxHeader e.host p) (rxPacket e.host p) w with
    hw | ⟨-, -, -, hw⟩
  · rw [hw]
    exact (discardOpen_quiet _ w).toCalm.deliversInOpen
  · rw [hw]
    exact (storeAck_calm _ w).deliversInOpen.trans
      ((cspRdpSendCmp_none_sends e _ _ _ _).deliversInOpen.trans
        (discardOpen_quiet _ _).toCalm.deliversInOpen)

/-- Sending delivers nothing. -/
theorem cspSendCommit_deliversInOpen (e : Env) (p : CspPacket) (w : World) :
    DeliversInOpen w (cspSendCommit e p w) := by
  cases cspSendCommit_sending e p w with
  | refused h => exact h.toCalm.deliversInOpen
  | sent _ _ _ hevs hlog _ _ =>
    refine ⟨_, hlog, fun ev hev => ?_⟩
    rw [List.mem_cons, List.mem_cons] at hev
    rcases hev with rfl | rfl | hev
    · trivial
    · trivial
    · rcases hevs with rfl | rfl
      · exact absurd hev List.not_mem_nil
      · obtain rfl := List.mem_singleton.1 hev
        trivial

/-! ### The state -/

/-- **Only a SYN/ACK in `RDP_SYN_SENT`, or an ACK of `snd_iss` in `RDP_SYN_RCVD`,
opens a connection.** -/
theorem cspRdpNewPacket_opens {e : Env} {p : CspPacket} {w : World}
    (hs : w.conn.rdp.state ≠ .rdpOpen) (ht : (cspRdpNewPacket e p w).conn.rdp.state = .rdpOpen) :
    (rxHeader e.host p).ack = true ∧
      (cspRdpNewPacket e p w).conn.rdp.sndIss = w.conn.rdp.sndIss ∧
      ((rxHeader e.host p).ackNr = w.conn.rdp.sndIss ∨ (w.conn.rdp.state = .rdpSynSent ∧
        (rxHeader e.host p).rst = false ∧ (rxHeader e.host p).syn = true)) := by
  have hstep := cspRdpNewPacket_step e p w
  change (cspRdpNewPacket e p w).control.state = _ at ht
  change _ ∧ (cspRdpNewPacket e p w).control.sndIss = w.control.sndIss ∧ _
  change w.control.state ≠ _ at hs
  generalize (cspRdpNewPacket e p w).control = c at hstep ht
  have hclosing : ∀ st, w.control.state.Closing st → st ≠ .rdpOpen := by
    rintro st (rfl | rfl | rfl)
    · exact hs
    · exact nofun
    · exact nofun
  cases hstep with
  | close hst => exact absurd ht (hclosing _ hst)
  | ack _ hst => exact absurd ht (hclosing _ hst)
  | accepted _ _ ha hn => exact ⟨ha, rfl, .inl hn⟩
  | opened hst hr hsyn ha => exact ⟨ha, rfl, .inr ⟨hst, hr, hsyn⟩⟩
  | halfOpen hst => exact absurd (hst.symm.trans ht) (by simp)
  | passive _ _ _ _ => exact absurd ht (by simp)

/-- No call but `csp_rdp_new_packet` opens a connection or delivers. -/
structure OpensNot (w w' : World) : Prop where
  state : w'.conn.rdp.state = .rdpOpen → w.conn.rdp.state = .rdpOpen
  delivers : DeliversInOpen w w'

/-- Two calls that do not open the connection. -/
theorem OpensNot.trans {w w' w'' : World} (h₁ : OpensNot w w') (h₂ : OpensNot w' w'') :
    OpensNot w w'' := ⟨h₁.state ∘ h₂.state, h₁.delivers.trans h₂.delivers⟩

/-- A call that does not open the connection has nothing to justify. -/
theorem OpensNot.sound {e : Env} {s t : Endpoint} {i : Input} (h : OpensNot s.world t.world) :
    Sound e s i t := ⟨fun hs ht => absurd (h.state ht) hs, h.delivers⟩

/-- A call that keeps the state does not open the connection. -/
theorem OpensNot.of_control {w w' : World} (hc : w'.conn.rdp.state = w.conn.rdp.state)
    (hd : DeliversInOpen w w') : OpensNot w w' := ⟨fun h => hc ▸ h, hd⟩

/-- A quiet call does not open it. -/
theorem Quiet.opensNot {w w' : World} (h : Quiet w w') : OpensNot w w' :=
  .of_control (congrArg Control.state h.control) h.toCalm.deliversInOpen

/-- Closing does not lead to `RDP_OPEN`. -/
theorem RdpState.Closing.opensNot {st st' : RdpState} (h : st.Closing st')
    (ho : st' = .rdpOpen) : st = .rdpOpen := by
  rcases h with rfl | rfl | rfl
  · exact ho
  · exact nomatch ho
  · exact nomatch ho

/-- A call that closes does not open it. -/
theorem Closes.opensNot {w w' : World} (h : Closes w w') : OpensNot w w' := by
  obtain ⟨st, hst, hc⟩ := h.control
  refine ⟨fun ho => hst.opensNot ?_, h.toCalm.deliversInOpen⟩
  exact (congrArg Control.state hc).symm.trans ho

/-- A look at the timeouts does not open it. -/
theorem cspRdpCheckTimeouts_opensNot (e : Env) (w : World) :
    OpensNot w (cspRdpCheckTimeouts e w) := by
  refine ⟨fun ho => ?_, (cspRdpCheckTimeouts_calm e w).deliversInOpen⟩
  rcases cspRdpCheckTimeouts_control e w with ⟨st, hst, hc⟩ | ⟨-, hc⟩
  · exact hst.opensNot ((congrArg Control.state hc).symm.trans ho)
  · exact (congrArg Control.state hc).symm.trans ho

/-- Sending does not open it. -/
theorem cspSendCommit_opensNot (e : Env) (p : CspPacket) (w : World) :
    OpensNot w (cspSendCommit e p w) := by
  refine .of_control ?_ (cspSendCommit_deliversInOpen e p w)
  rcases cspSendCommit_control e p w with hc | hc
  · exact congrArg Control.state hc
  · exact congrArg Control.state hc

/-- The SYN of `csp_rdp_connect` does not open it. -/
theorem connectStart_opensNot (e : Env) (w : World) : OpensNot w (connectStart e w) :=
  ⟨nofun, .refl rfl⟩

/-- A failed `csp_rdp_connect` does not open it. -/
theorem connectError_opensNot (w : World) : OpensNot w (connectError w).2 := ⟨nofun, .refl rfl⟩

/-- A connection attempt leaves an open connection alone and opens none. -/
theorem connectRetry_opensNot (e : Env) (w : World) : OpensNot w (connectRetry e w).2 :=
  connectRetry_induct (P := OpensNot w) (fun v h => h.trans (connectStart_opensNot e v))
    (fun v h => h.trans (cspRdpSendSyn_quiet e v).opensNot)
    (fun v h => h.trans (connectError_opensNot v)) (.of_control rfl (.refl rfl))

/-- Nor does the task that waited in it: the answer has opened it before. -/
theorem cspRdpConnectWoken_opensNot (e : Env) (retry : Bool) (w : World) :
    OpensNot w (cspRdpConnectWoken e retry w).2 :=
  cspRdpConnectWoken_induct (P := OpensNot w) (fun v h => h.trans (connectStart_opensNot e v))
    (fun v h => h.trans (cspRdpSendSyn_quiet e v).opensNot)
    (fun v h => h.trans (connectError_opensNot v))
    (fun v h => h.trans (cspRdpFlushAll_closes v).opensNot) retry (.of_control rfl (.refl rfl))

/-! ### Steps and runs -/

/-- **A step is sound** when the SYN/ACK it may process acknowledges `snd_iss`. -/
theorem sound_step {e : Env} {s t : Endpoint} {i : Input} (hi : SynAckMatches e s i)
    (hst : step e s i = some t) : Sound e s i t := by
  obtain ⟨w, task⟩ := s
  have htake : OpensNot w (txWaitTake w) := .of_control rfl (.refl rfl)
  cases step_stepped hst with
  | packet _ p =>
    refine ⟨fun hs ht => ?_, cspRdpNewPacket_deliversInOpen e p w⟩
    obtain ⟨ha, hiss, hn⟩ := cspRdpNewPacket_opens hs ht
    refine ⟨p, rfl, ha, ?_, hiss⟩
    rcases hn with hn | ⟨hsent, hr, hsyn⟩
    · exact hn
    · exact hi hsent hr hsyn ha
  | checkTimeouts => exact (cspRdpCheckTimeouts_opensNot e w).sound
  | checkAck => exact (cspRdpCheckAck_quiet e w).opensNot.sound
  | read =>
    obtain ⟨hcalm, hc⟩ := cspRead_calm e w
    exact OpensNot.sound ⟨fun ho => (congrArg Control.state hc).symm.trans ho,
      hcalm.deliversInOpen⟩
  | close => exact (cspClose_closes e w).opensNot.sound
  | send p =>
    exact OpensNot.sound (sendEnter_world (P := OpensNot w) (.of_control rfl (.refl rfl)) htake
      (cspSendCommit_opensNot e p w))
  | sendWake p _ => exact (htake.trans (cspSendCommit_opensNot e p _)).sound
  | sendTimeout p => exact OpensNot.sound (.of_control rfl (.refl rfl))
  | connect =>
    have happly : OpensNot w (applyOptions e w) := .of_control rfl (.refl rfl)
    refine OpensNot.sound ?_
    rw [connectEnter_world]
    exact happly.trans (connectRetry_opensNot e _)
  | connectWake retry _ =>
    refine OpensNot.sound ?_
    rw [connectEnter_world]
    exact htake.trans (cspRdpConnectWoken_opensNot e retry _)
  | connectTimeout retry => exact OpensNot.sound ⟨nofun, .refl rfl⟩

/-- **The handshake, in every run.**  From a connection that has delivered nothing
yet, in a run in which every SYN/ACK met in `RDP_SYN_SENT` acknowledges `snd_iss`,
every delivery was made in `RDP_OPEN`, and the next step opens the connection
only by a packet that acknowledges `snd_iss`. -/
theorem run_handshake {e : Env} {s t : Endpoint} {is : List Input} (h : s.world.log = [])
    (hrun : Run (step e) (SynAckMatches e) s is t) :
    (∀ ev ∈ t.world.log, ev.InOpen) ∧
      ∀ i u, SynAckMatches e t i → step e t i = some u → Sound e t i u := by
  refine ⟨?_, fun i u hi hst => sound_step hi hst⟩
  refine hrun.invariant (P := fun t => ∀ ev ∈ t.world.log, ev.InOpen) (fun s i u hs hi hst => ?_)
    (by rw [h]; simp)
  obtain ⟨evs, hl, hevs⟩ := (sound_step hi hst).delivers
  rw [hl]
  exact List.forall_mem_append.2 ⟨hs, hevs⟩

/-- A connection attempt answered by a SYN/ACK of its number, and data after it. -/
theorem run_handshake_fresh : ∃ t, Run (step (.favourable .big))
    (SynAckMatches (.favourable .big)) .fresh [.connect, .packet (segment .synAck 200 0 []),
      .connectWake, .packet (segment .ackOnly 201 0 [7])] t ∧
      t.rdp.state = .rdpOpen ∧ t.rdp.rcvCur = 201 ∧ ∀ ev ∈ t.world.log, ev.InOpen := by
  refine (Run.of_any (p := fun t : Endpoint =>
    decide (t.rdp.state = .rdpOpen ∧ t.rdp.rcvCur = 201)) ?_).imp fun t ht =>
      ⟨ht.1, (of_decide_eq_true ht.2).1, (of_decide_eq_true ht.2).2, (run_handshake rfl ht.1).1⟩
  decide +kernel

/-- **An old SYN/ACK opens the active side**: it acknowledges 77, the connection
has just sent its SYN with number 0. -/
theorem old_syn_ack_opens :
    ¬ ∀ (e : Env) (s t u : Endpoint) (is : List Input) (i : Input), s.rdp.state = .rdpClosed →
      s.world.log = [] → Run (step e) (fun _ _ => True) s is t → step e t i = some u →
        Sound e t i u := by
  intro h
  have h₁ : step (.favourable .big) .fresh .connect =
      some (connectEnter true (cspRdpConnect (.favourable .big) Endpoint.fresh.world)) := rfl
  have h₂ : step (.favourable .big)
      (connectEnter true (cspRdpConnect (.favourable .big) Endpoint.fresh.world))
      (.packet (segment .synAck 200 77 [])) = some _ := rfl
  have hs := h (.favourable .big) .fresh _ _ _ _ rfl rfl (.snoc .nil trivial h₁) h₂
  obtain ⟨p, hp, -, hn, -⟩ := hs.opens (by decide +kernel) (by decide +kernel)
  obtain rfl := Input.packet.inj hp
  revert hn
  decide +kernel

end LibCSP
