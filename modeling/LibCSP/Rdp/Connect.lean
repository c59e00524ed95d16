/-
# From `csp_rdp_connect` on

Two connections that were not used before, and a network that loses, duplicates, delays and
reorders.  `csp_rdp_connect` at the end `near` sends its SYN until the SYN/ACK comes in; the SYN
opens half of the connection `far`, and the ACK of the SYN/ACK, or the first data, opens it.  The
run goes through five phases (`Phase`), and in each one the two ends know of each other what they
need: once `near` is open both ends have agreed on the initial numbers and on the options of
`near`, and nothing that is accepted is lost (`run_connects`).

Half open, the passive end takes in the packet that opens it as an open end would take it in
(`Endpoint.ripe`), so that the law of the open connection covers that packet too.
-/

import LibCSP.Rdp.Handshake
import LibCSP.Rdp.Greeting

namespace LibCSP

open Basis

/-! ### Steps -/

/-- An open end that `csp_close` is called for is still open, or in `RDP_CLOSE_WAIT`. -/
theorem cspClose_state (e : Env) {w : World} (hst : w.conn.rdp.state = .rdpOpen)
    (hcw : (cspClose e w).2.conn.rdp.state ≠ .rdpCloseWait) :
    (cspClose e w).2.conn.rdp.state = .rdpOpen := by
  revert hcw
  rcases cspClose_live e (w := w) (by rw [hst]; decide) (by rw [hst]; decide) with
    h | h | h | h <;> rw [h]
  · exact fun _ => hst
  · have hsend := cspRdpSendCmp_none_sends e .rstAck (enterCloseWait e w).conn.rdp.sndNxt
      (enterCloseWait e w).conn.rdp.rcvCur (enterCloseWait e w)
    exact fun hcw => absurd (congrArg Control.state hsend.control) hcw
  · exact fun _ => hst
  · exact fun _ => hst

/-- **Without a RESET an open end stays open** until it is closed. -/
theorem step_stays {e : Env} {s t : Endpoint} {i : Input} (hopen : s.rdp.state = .rdpOpen)
    (hi : i.isConnect = false) (hrst : ∀ p, i = .packet p → (rxHeader e.host p).rst = false)
    (hst : step e s i = some t) (hcw : t.rdp.state ≠ .rdpCloseWait) :
    t.rdp.state = .rdpOpen := by
  have hcontrol : ∀ {w' : World}, w'.control = s.world.control →
      w'.conn.rdp.state = .rdpOpen := fun hc => (congrArg Control.state hc).trans hopen
  have hcall := openCall hopen hi hst
  change t.world.conn.rdp.state ≠ _ at hcw
  show t.world.conn.rdp.state = _
  generalize t.world = w' at hcall hcw
  cases hcall with
  | packet p =>
    rw [cspRdpNewPacket_open (hrst p rfl) (.inr hopen)] at hcw ⊢
    revert hcw
    refine newPacketOpen_induct
      (P := fun v => v.conn.rdp.state ≠ .rdpCloseWait → v.conn.rdp.state = .rdpOpen)
      (fun hcw => ?_) (fun _ => hopen) (fun _ => ?_) (fun _ hst' => ?_) fun _ _ _ => ?_
    · unfold discardClose at hcw ⊢
      split at hcw
      · exact hopen
      · exact cspClose_state e hopen hcw
    · exact hcontrol (outsideWindow_sends e s.world).control
    · exact absurd (hopen.symm.trans hst') (by decide)
    · exact (congrArg Control.state (newPacketAcked_control e _ _ s.world)).trans hopen
  | checkTimeouts =>
    have hstate : s.world.conn.rdp.state = .rdpOpen := hopen
    revert hcw
    unfold cspRdpCheckTimeouts
    simp only [cspGetMs, World.next_conn, hstate, reduceCtorEq, if_false]
    split
    · exact cspClose_state e hopen
    · have hloop := (cspRdpCheckMessages_quiet e (e.getMs s.world.tick) s.world.next).trans
        (cspRdpCheckAck_quiet e _)
      rcases cspRdpWake_control (cspRdpCheckAck e (cspRdpCheckMessages e
        (e.getMs s.world.tick) s.world.next)) with hc | ⟨-, hc⟩
      · exact fun _ => hcontrol (hc.trans hloop.control)
      · exact fun _ => (congrArg Control.state hc).trans (hcontrol hloop.control)
  | checkAck => exact hcontrol (cspRdpCheckAck_quiet e s.world).control
  | read => exact hcontrol (cspRead_calm e s.world).2
  | close => exact cspClose_state e hopen hcw
  | @commit _ p w _ hw =>
    have hsame : w.control.state = .rdpOpen := by rcases hw with rfl | rfl <;> exact hopen
    rcases cspSendCommit_control e p w with hc | hc
    · exact (congrArg Control.state hc).trans hsame
    · exact (congrArg Control.state hc).trans hsame
  | take => exact hopen
  | none => exact hopen
  | giveUp => exact absurd rfl hcw

/-! ### The ends before they are open -/

/-- A connection that was not used before. -/
structure Untouched (s : Endpoint) : Prop where
  state : s.rdp.state = .rdpClosed
  task : s.task = .idle
  log : s.world.log = []
  txQueue : s.rdp.txQueue.items = []
  rxQueue : s.rdp.rxQueue.items = []
  current : s.rdp.rcvLsa = s.rdp.rcvCur
  user : s.world.conn.UserOk

/-- The SYN, with the options of the connection. -/
def Hello.syn (iss : U16) (opts : RdpOptions) : Hello := ⟨.synOnly, iss, 0, opts.bytes⟩

/-- The SYN/ACK, which is empty. -/
def Hello.synAck (iss irs : U16) : Hello := ⟨.synAck, iss, irs, []⟩

/-- The end waits in `csp_rdp_connect`, for the answer to a SYN with the number `iss`. -/
structure Calling (iss : U16) (opts : RdpOptions) (s : Endpoint) : Prop where
  greeting : Greeting (.syn iss opts) s.world.control s.rdp.terms s.world
  state : s.rdp.state = .rdpSynSent
  sndIss : s.rdp.sndIss = iss
  sndNxt : s.rdp.sndNxt = iss + 1
  opts : s.rdp.terms.opts = opts
  txWait : s.rdp.txWait = false
  task : ∃ retry, s.task = .connectWait retry

/-- The end has got a SYN with the number `irs` and these options, and starts with `iss`. -/
structure Answering (iss irs : U16) (opts : RdpOptions) (s : Endpoint) : Prop where
  greeting : Greeting (.synAck iss irs) s.world.control ⟨irs, opts⟩ s.world
  state : s.rdp.state = .rdpSynRcvd
  sndIss : s.rdp.sndIss = iss
  sndNxt : s.rdp.sndNxt = iss + 1
  task : s.task = .idle

section Ends

variable {e : Env} {iss irs : U16} {opts : RdpOptions} {s t : Endpoint} {w : World} {i : Input}
  {p q : CspPacket}

/-- Nothing was transmitted or queued. -/
theorem Untouched.greeting (h : Untouched s) {g : Hello} (hl : w.log = s.world.log)
    (ht : w.conn.rdp.txQueue = s.rdp.txQueue) (hr : w.conn.rdp.rxQueue = s.rdp.rxQueue)
    (hlsa : w.conn.rdp.rcvLsa = w.conn.rdp.rcvCur)
    (hack : g.flags.ack = true → w.conn.rdp.rcvCur = g.irs) (hu : w.conn.UserOk) :
    Greeting g w.control w.conn.rdp.terms w := by
  refine ⟨fun x hx => ?_, fun ev hev => ?_, by rw [hr]; exact h.rxQueue, hlsa, hack, hu, rfl, rfl⟩
  · rw [ht, h.txQueue] at hx
    exact absurd hx List.not_mem_nil
  · rw [hl, h.log] at hev
    exact absurd hev List.not_mem_nil

/-- The facts that make an end that has sent its SYN. -/
theorem Greeting.calling {c : Control} {tm : Terms} (h : Greeting (.syn iss opts) c tm s.world)
    (hst : c.state = .rdpSynSent) (hiss : c.sndIss = iss) (hnxt : c.sndNxt = iss + 1)
    (hwait : c.txWait = false) (hopts : tm.opts = opts)
    (htask : ∃ retry, s.task = .connectWait retry) : Calling iss opts s := by
  obtain rfl := h.control
  obtain rfl := h.terms
  exact ⟨h, hst, hiss, hnxt, hopts, hwait, htask⟩

/-- The facts that make an end that has answered with its SYN/ACK. -/
theorem Greeting.answering {c : Control} (h : Greeting (.synAck iss irs) c ⟨irs, opts⟩ s.world)
    (hst : c.state = .rdpSynRcvd) (hiss : c.sndIss = iss) (hnxt : c.sndNxt = iss + 1)
    (htask : s.task = .idle) : Answering iss irs opts s := by
  obtain rfl := h.control
  exact ⟨h, hst, hiss, hnxt, htask⟩

/-- **`csp_rdp_connect`** sends the SYN and waits. -/
theorem Untouched.connect (h : Untouched s) (hst : step e s .connect = some t)
    (hcw : t.rdp.state ≠ .rdpCloseWait) : ∃ iss, Calling iss e.opts t := by
  obtain ⟨w, task⟩ := s
  cases step_stepped hst with
  | connect =>
    have hopen : ¬ (applyOptions e w).conn.rdp.state = .rdpOpen := by
      rw [show (applyOptions e w).conn.rdp.state = .rdpClosed from h.state]
      decide
    have hstart := h.greeting (w := connectStart e (applyOptions e w))
      (g := .syn (connectStart e (applyOptions e w)).conn.rdp.sndIss e.opts) rfl rfl rfl h.current
      (fun hack => absurd hack Bool.false_ne_true) h.user
    have hsyn := hstart.sendSyn (e := e) rfl rfl rfl
    revert hcw
    unfold cspRdpConnect connectRetry
    rw [if_neg hopen]
    simp only
    generalize cspRdpSendSyn e (connectStart e (applyOptions e w)) = r at hsyn
    split
    · exact fun _ => ⟨_, Greeting.calling hsyn rfl rfl rfl rfl rfl ⟨true, rfl⟩⟩
    · exact fun hcw => absurd rfl hcw

/-- A copy of the segment, as it is read. -/
theorem Greets.copy {o : ByteOrder} {g : Hello} (h : Greets g q) (hc : Copy p q) :
    5 ≤ p.length.toNat ∧ rxHeader o p = wireHeader q ∧ rdpPayload p = g.payload := by
  have hl : 5 ≤ p.length.toNat := hc.length ▸ h.header
  refine ⟨hl, by rw [rxHeader_eq hl, hc.wireHeader h.header], ?_⟩
  exact (rdpPayload_congr hc.length fun i hi => hc.data i (by omega)).trans h.payload

/-- **The SYN comes in** and is answered. -/
theorem Untouched.syn (h : Untouched s) (hq : Greets (.syn irs opts) q) (hc : Copy p q) :
    ∃ iss, Answering iss irs opts ⟨cspRdpNewPacket e p s.world, s.task⟩ := by
  obtain ⟨hl, hheader, hpay⟩ := hq.copy (o := e.host) hc
  obtain ⟨hrst, -, -, hsyn⟩ := hq.bits
  have hseq : (rxHeader e.host p).seqNr = irs := (congrArg RdpHeader.seqNr hheader).trans hq.seqNr
  rw [← hheader] at hrst hsyn
  have hcall : cspRdpNewPacket e p s.world = discardOpen (rxPacket e.host p)
      (cspRdpSendCmp e none .synAck (passiveOpen e (rxHeader e.host p) (rxPacket e.host p)
        s.world).conn.rdp.sndIss (rxHeader e.host p).seqNr
        (passiveOpen e (rxHeader e.host p) (rxPacket e.host p) s.world)).2 := by
    have hstate : s.world.conn.rdp.state = .rdpClosed := h.state
    unfold cspRdpNewPacket newPacketClosed
    simp only [hrst, hstate, hsyn, Hello.syn, RdpFlags.synOnly, Bool.false_eq_true, if_false,
      if_true]
    rfl
  have hdata : rdpPayload (rxPacket e.host p) = opts.bytes := (rdpPayload_store hl _).trans hpay
  have hlen : (rxPacket e.host p).length.toNat - 5 = 24 := by
    have hbytes := congrArg List.length hdata
    rw [rdpPayload, List.length_map, List.length_range] at hbytes
    exact hbytes
  rw [rdpPayload, hlen] at hdata
  have hterms := passiveOpen_terms (e := e) (h := rxHeader e.host p) (w := s.world) hdata
  rw [hseq] at hterms
  rw [hcall, hseq]
  generalize hw : passiveOpen e (rxHeader e.host p) (rxPacket e.host p) s.world = w at hterms ⊢
  have hopen : Greeting (.synAck w.conn.rdp.sndIss irs) w.control ⟨irs, opts⟩ w := by
    rw [← hterms]
    subst hw
    exact h.greeting rfl rfl rfl rfl (fun _ => hseq) h.user
  have hsent := (hopen.sendCmp (e := e) (a := irs) rfl fun _ => rfl).free (rxPacket e.host p)
  have hst : w.control.state = .rdpSynRcvd ∧ w.control.sndNxt = w.control.sndIss + 1 := by
    subst hw
    exact ⟨rfl, rfl⟩
  exact ⟨_, Greeting.answering hsent hst.1 rfl hst.2 h.task⟩

/-- **The SYN/ACK comes in**: the end is open, and what it has sent is the handshake. -/
theorem Calling.synAck (h : Calling iss opts s) (hwin : s.rdp.WindowFits)
    (hq : Greets (.synAck irs iss) q) (hc : Copy p q)
    (ht : t = ⟨cspRdpNewPacket e p s.world, s.task⟩) :
    t.rdp.state = .rdpOpen ∧ t.rdp.sndIss = iss ∧ t.rdp.sndUna = iss + 1 ∧
      Begun e.host iss ⟨irs, opts⟩ t.world := by
  obtain ⟨hl, hheader, -⟩ := hq.copy (o := e.host) hc
  obtain ⟨hrst, -, hack, hsyn⟩ := hq.bits
  have hseq : (rxHeader e.host p).seqNr = irs := (congrArg RdpHeader.seqNr hheader).trans hq.seqNr
  have hnr : (rxHeader e.host p).ackNr = iss :=
    (congrArg RdpHeader.ackNr hheader).trans (hq.ackNr rfl)
  rw [← hheader] at hrst hack hsyn
  have hcall : cspRdpNewPacket e p s.world = discardOpen (rxPacket e.host p)
      (txWaitPost (synSentAck e (activeOpen e (rxHeader e.host p) s.world))) := by
    have hstate : s.world.conn.rdp.state = .rdpSynSent := h.state
    unfold cspRdpNewPacket newPacketSynSent
    simp only [hrst, hstate, hsyn, hack, Hello.synAck, RdpFlags.synAck, Bool.false_eq_true,
      if_false, Bool.and_self, if_true]
  have hterms : (activeOpen e (rxHeader e.host p) s.world).conn.rdp.terms = ⟨irs, opts⟩ := by
    rw [← h.opts, ← hseq]
    rfl
  have hbegun : Begun e.host iss ⟨irs, opts⟩ (activeOpen e (rxHeader e.host p) s.world) :=
    h.greeting.begun rfl rfl rfl h.sndNxt hseq hterms (fun hack => absurd hack Bool.false_ne_true)
      h.greeting.user hwin rfl rfl
  have hquiet := synSentAck_quiet e (activeOpen e (rxHeader e.host p) s.world)
  have hacked : Begun e.host iss ⟨irs, opts⟩
      (synSentAck e (activeOpen e (rxHeader e.host p) s.world)) := by
    refine hbegun.quiet hquiet ?_
    unfold synSentAck
    split
    · exact hbegun.truthful.sendCmp (fun hsyn => absurd hsyn (by decide)) (fun _ => rfl) _
    · exact hbegun.truthful
  rw [ht, hcall]
  have hcontrol := hquiet.control
  generalize synSentAck e (activeOpen e (rxHeader e.host p) s.world) = w at hacked hcontrol ⊢
  refine ⟨congrArg Control.state hcontrol, (congrArg Control.sndIss hcontrol).trans h.sndIss,
    (congrArg Control.sndUna hcontrol).trans (congrArg (· + 1) hnr), ?_⟩
  have hpost : Begun e.host iss ⟨irs, opts⟩ (txWaitPost w) :=
    { hacked with truthful := hacked.truthful.of_eq rfl rfl rfl rfl }
  exact hpost.quiet (discardOpen_quiet _ _) (hpost.truthful.free _)

/-- Every call but a packet keeps the end waiting, or ends the attempt. -/
theorem Calling.keep (h : Calling iss opts s) (hi : i.isConnect = false)
    (hp : ∀ p, i ≠ .packet p) (hst : step e s i = some t) (hcw : t.rdp.state ≠ .rdpCloseWait) :
    Calling iss opts t := by
  obtain ⟨retry, htask⟩ := h.task
  obtain ⟨hg, htask'⟩ := h.greeting.step (.inl h.state) (fun p hp => by rw [htask] at hp; cases hp)
    (fun _ _ => h.txWait) hi hp hst hcw
  exact hg.calling h.state h.sndIss h.sndNxt h.txWait h.opts ⟨retry, htask'.trans htask⟩

/-- An end that has answered stays there until a packet comes, or it closes. -/
theorem Answering.keep (h : Answering iss irs opts s) (hi : i.isConnect = false)
    (hp : ∀ p, i ≠ .packet p) (hst : step e s i = some t) (hcw : t.rdp.state ≠ .rdpCloseWait) :
    Answering iss irs opts t := by
  obtain ⟨hg, htask⟩ := h.greeting.step (.inr h.state) (fun p hp => by rw [h.task] at hp; cases hp)
    (fun retry hr => by rw [h.task] at hr; cases hr) hi hp hst hcw
  exact hg.answering h.state h.sndIss h.sndNxt (htask.trans h.task)

/-- A packet that it frees makes no difference. -/
theorem Answering.free (h : Answering iss irs opts s) (p : CspPacket) :
    Answering iss irs opts ⟨s.world.free p, s.task⟩ :=
  Greeting.answering (h.greeting.free p) h.state h.sndIss h.sndNxt h.task

/-- The SYN comes in again and is dropped. -/
theorem Answering.syn (h : Answering iss irs opts s) (hrst : (rxHeader e.host p).rst = false)
    (hsyn : (rxHeader e.host p).syn = true) (hseq : (rxHeader e.host p).seqNr = irs) :
    Answering iss irs opts ⟨cspRdpNewPacket e p s.world, s.task⟩ := by
  have hirs : s.world.conn.rdp.rcvIrs = irs := congrArg Terms.irs h.greeting.terms
  rw [cspRdpNewPacket_open hrst (.inl h.state)]
  simp only [newPacketOpen, hsyn, hseq, hirs, Bool.true_or, if_true, ne_eq, not_true_eq_false,
    if_false]
  exact h.free _

/-- A segment outside the window is answered with another SYN/ACK. -/
theorem Answering.outsideWindow (h : Answering iss irs opts s) :
    Answering iss irs opts ⟨outsideWindow e s.world, s.task⟩ := by
  have hstate : s.world.conn.rdp.state = .rdpSynRcvd := h.state
  have hiss : s.world.conn.rdp.sndIss = iss := h.sndIss
  have hirs : s.world.conn.rdp.rcvIrs = irs := congrArg Terms.irs h.greeting.terms
  have hsent := h.greeting.sendCmp (e := e) (a := irs) rfl fun _ => rfl
  have hst : (cspRdpSendCmp e none .synAck iss irs s.world).2.conn.rdp.state = .rdpSynRcvd :=
    (congrArg Control.state hsent.control).trans hstate
  unfold LibCSP.outsideWindow
  simp only [hstate, hiss, hirs, if_true, hst, reduceCtorEq, if_false]
  exact Greeting.answering hsent h.state h.sndIss h.sndNxt h.task

/-- The passive end as the ACK of its SYN/ACK would find it if it were open. -/
def Endpoint.ripe (s : Endpoint) : Endpoint :=
  ⟨{ s.world with conn.rdp.state := .rdpOpen, conn.rdp.sndUna := s.rdp.sndIss + 1 }, s.task⟩

/-- The ACK of the SYN/ACK is acceptable. -/
theorem Answering.ackValid (h : Answering iss irs opts s) {hdr : RdpHeader}
    (hn : hdr.ackNr = iss) : s.ripe.rdp.ackValid hdr = true := by
  show cspRdpSeqBetween hdr.ackNr (s.rdp.sndIss + 1 - 1 - (s.rdp.windowSize * 2).setWidth 16)
    (s.rdp.sndNxt - 1) = true
  rw [hn, h.sndNxt, h.sndIss, Serial.between_iff]
  generalize (s.rdp.windowSize * 2).setWidth 16 = win
  bv_omega

/-- **An acknowledgement comes in at the passive end**: the end goes on waiting, or it opens and
takes the segment in as an open end. -/
theorem Answering.acked (h : Answering iss irs opts s) (hrst : (rxHeader e.host p).rst = false)
    (hsyn : (rxHeader e.host p).syn = false) (hack : (rxHeader e.host p).ack = true)
    (hn : (rxHeader e.host p).ackNr = iss) :
    Answering iss irs opts ⟨cspRdpNewPacket e p s.world, s.task⟩ ∨
      cspRdpNewPacket e p s.world = cspRdpNewPacket e p s.ripe.world ∧
        (cspRdpNewPacket e p s.world).conn.rdp.state = .rdpOpen ∧
        (cspRdpNewPacket e p s.world).conn.rdp.sndIss = iss := by
  have hstate : s.world.conn.rdp.state = .rdpSynRcvd := h.state
  have hiss : s.world.conn.rdp.sndIss = iss := h.sndIss
  rw [cspRdpNewPacket_open hrst (.inl hstate),
    cspRdpNewPacket_open (w := s.ripe.world) hrst (.inr rfl)]
  cases hseq : s.world.conn.rdp.seqValid (rxHeader e.host p) with
  | false =>
    left
    simp only [newPacketOpen, hsyn, hack, hseq, Bool.not_true, Bool.not_false, Bool.or_self,
      Bool.false_eq_true, if_false, if_true]
    exact h.outsideWindow.free _
  | true =>
    cases hvalid : s.world.conn.rdp.ackValid (rxHeader e.host p) with
    | false =>
      left
      simp only [newPacketOpen, hsyn, hack, hseq, hvalid, Bool.not_true, Bool.not_false,
        Bool.or_self, Bool.false_eq_true, if_false, if_true]
      exact h.free _
    | true =>
      right
      have hopens : newPacketOpen e (rxHeader e.host p) (rxPacket e.host p) s.world =
          newPacketAcked e (rxHeader e.host p) (rxPacket e.host p)
            { s.world with conn.rdp.state := .rdpOpen } := by
        simp only [newPacketOpen, hsyn, hack, hseq, hvalid, hn, hiss, hstate, Bool.not_true,
          Bool.or_self, Bool.false_eq_true, if_false, if_true, ne_eq, not_true_eq_false]
      have hcontrol := newPacketAcked_control e (rxHeader e.host p) (rxPacket e.host p)
        { s.world with conn.rdp.state := .rdpOpen }
      rw [hopens, newPacketOpen_passes (w := s.ripe.world) e _
        ⟨hsyn, hack, hseq, h.ackValid hn⟩ rfl]
      exact ⟨rfl, congrArg Control.state hcontrol, (congrArg Control.sndIss hcontrol).trans hiss⟩

/-- It begins the data phase with what it knows. -/
theorem Answering.begun {o : ByteOrder} (h : Answering iss irs opts s) (hwin : s.rdp.WindowFits) :
    Begun o iss ⟨irs, opts⟩ s.ripe.world :=
  h.greeting.begun rfl rfl rfl h.sndNxt (h.greeting.acks rfl) h.greeting.terms (fun _ => rfl)
    h.greeting.user hwin rfl rfl

end Ends

/-! ### The phases of a connection -/

/-- Where the two ends are, of which `near` has called `csp_rdp_connect` with its options. -/
inductive Phase (e f : Env) (near far : Endpoint) : Prop
  | idle (hnear : Untouched near) (hfar : Untouched far)
  /-- The SYN was sent. -/
  | calling (iss : U16) (hnear : Calling iss e.opts near) (hfar : Untouched far)
  /-- The SYN has come in. -/
  | answering (iss irs : U16) (hnear : Calling iss e.opts near)
      (hfar : Answering irs iss e.opts far)
  /-- The SYN/ACK has come in. -/
  | opening (iss irs : U16) (hopen : near.rdp.state = .rdpOpen) (hiss : near.rdp.sndIss = iss)
      (hfar : Answering irs iss e.opts far) (hoffers : Offers e iss near ∅)
      (hgathers : Gathers e irs iss e.opts [] ∅ near)
  /-- The ACK of the SYN/ACK has come in. -/
  | opened (iss irs : U16) (hopen : near.rdp.state = .rdpOpen) (hopen' : far.rdp.state = .rdpOpen)
      (hiss : near.rdp.sndIss = iss) (hirs : far.rdp.sndIss = irs)
      (hforth : ∃ got, Flow e f iss irs e.opts near far got)
      (hback : ∃ got, Flow f e irs iss e.opts far near got)

/-- The input is a packet. -/
def Input.isPacket : Input → Bool
  | .packet _ => true
  | _ => false

/-- The input that is a packet. -/
theorem Input.eq_packet {i : Input} (h : i.isPacket = true) : ∃ p, i = .packet p := by
  cases i <;> first | exact ⟨_, rfl⟩ | exact absurd h Bool.false_ne_true

/-- What comes to the end `near`: `csp_rdp_connect` first. -/
def NearInput (e : Env) (near far : Endpoint) (i : Input) : Prop :=
  (near.rdp.state = .rdpClosed ∧ i.isConnect = true) ∨
    (near.rdp.state ≠ .rdpClosed ∧ Conveyed e far near i)

/-- What comes to the end `far`: a packet first. -/
def FarInput (f : Env) (near far : Endpoint) (i : Input) : Prop :=
  Conveyed f near far i ∧ (far.rdp.state = .rdpClosed → i.isPacket = true)

section Phases

variable {e f : Env} {iss irs : U16} {near far t : Endpoint} {i : Input}

/-- What a copy of a segment of the handshake is a copy of. -/
theorem Greeting.conveyed {g : Hello} {c : Control} {tm : Terms} {p : CspPacket}
    (h : Greeting g c tm far.world) (hi : Conveyed e far near (.packet p)) :
    ∃ q, Greets g q ∧ Copy p q := by
  obtain ⟨-, q, hq, hcopy⟩ := hi.copy p rfl
  exact ⟨q, h.events _ hq, hcopy⟩

/-- Nothing comes from an end that has done nothing. -/
theorem Untouched.conveyed {p : CspPacket} (h : Untouched far)
    (hi : Conveyed e far near (.packet p)) : False := by
  obtain ⟨-, q, hq, -⟩ := hi.copy p rfl
  rw [h.log] at hq
  exact List.not_mem_nil hq

/-- The window of the connection is the one of the options. -/
theorem windowFits_of_opts {opts : RdpOptions} {rdp : Rdp} (h : rdp.terms.opts = opts)
    (hwin : 1 ≤ opts.windowSize.toNat ∧ opts.windowSize.toNat ≤ cspRdpMaxWindow) :
    rdp.WindowFits := by
  rw [← h] at hwin
  exact hwin

/-- Before the passive end is open, its number is all that was acknowledged. -/
theorem Gathers.ackNr {opts : RdpOptions} {q : CspPacket}
    (h : Gathers e irs iss opts [] ∅ near) (hq : Event.transmit q ∈ near.world.log)
    (hack : (wireHeader q).ack = true) : (wireHeader q).ackNr = irs := by
  obtain ⟨k, hk, hnr⟩ := h.taken.acknowledged (by decide) hq (h.truthful.told q hq).header hack
  rw [firstMissing_empty, Nat.le_zero] at hk
  rw [hnr, hk]
  exact BitVec.add_zero _

/-- Both directions, once the active end is open. -/
theorem Answering.flows {opts : RdpOptions} (hfar : Answering irs iss opts far)
    (hwin : far.rdp.WindowFits) (hoffers : Offers e iss near ∅)
    (hgathers : Gathers e irs iss opts [] ∅ near) :
    Flow e f iss irs opts near far.ripe ∅ ∧ Flow f e irs iss opts far.ripe near ∅ := by
  have hbegun : Begun f.host irs ⟨iss, opts⟩ far.ripe.world := hfar.begun hwin
  refine ⟨⟨hoffers, hbegun.gathers (.inl rfl) _⟩, hbegun.offers ?_ (fun p hp => ?_) ∅, ?_⟩
  · exact congrArg (· + 1) hfar.sndIss
  · exact absurd (hfar.task.symm.trans hp) (by simp)
  · rw [hbegun.accepted]
    exact hgathers

/-- **A step of the passive end.** -/
theorem Phase.passive (h : Phase e f near far)
    (hwin : 1 ≤ e.opts.windowSize.toNat ∧ e.opts.windowSize.toNat ≤ cspRdpMaxWindow)
    (hi : FarInput f near far i) (hst : step f far i = some t)
    (hcw : t.rdp.state ≠ .rdpCloseWait) (hlt : (accepted t.world.log).length < 2 ^ 15)
    (hlt' : (accepted near.world.log).length < 2 ^ 15) : Phase e f near t := by
  obtain ⟨hi, hpacket⟩ := hi
  cases h with
  | idle hnear hfar =>
    obtain ⟨p, rfl⟩ := Input.eq_packet (hpacket hfar.state)
    exact (hnear.conveyed hi).elim
  | calling iss hnear hfar =>
    obtain ⟨p, rfl⟩ := Input.eq_packet (hpacket hfar.state)
    obtain rfl := Option.some.inj hst
    obtain ⟨q, hq, hcopy⟩ := hnear.greeting.conveyed hi
    obtain ⟨irs, hanswering⟩ := hfar.syn (e := f) hq hcopy
    exact .answering iss irs hnear hanswering
  | answering iss irs hnear hfar =>
    by_cases hp : ∃ p, i = .packet p
    · obtain ⟨p, rfl⟩ := hp
      obtain rfl := Option.some.inj hst
      obtain ⟨q, hq, hcopy⟩ := hnear.greeting.conveyed hi
      obtain ⟨-, hheader, -⟩ := hq.copy (o := f.host) hcopy
      obtain ⟨hrst, -, -, hsyn⟩ := hq.bits
      rw [← hheader] at hrst hsyn
      exact .answering iss irs hnear
        (hfar.syn hrst hsyn ((congrArg RdpHeader.seqNr hheader).trans hq.seqNr))
    · exact .answering iss irs hnear
        (hfar.keep hi.ongoing (fun p heq => hp ⟨p, heq⟩) hst hcw)
  | opening iss irs hopen hiss hfar hoffers hgathers =>
    by_cases hp : ∃ p, i = .packet p
    · obtain ⟨p, rfl⟩ := hp
      obtain rfl := Option.some.inj hst
      obtain ⟨hrst, q, hq, hcopy⟩ := hi.copy p rfl
      have hspoken := (hgathers.truthful.told q hq).toSpoken
      have hheader : rxHeader f.host p = wireHeader q := by
        rw [rxHeader_eq (hcopy.length ▸ hspoken.header), hcopy.wireHeader hspoken.header]
      cases hsyn : (rxHeader f.host p).syn with
      | true =>
        have hseq : (rxHeader f.host p).seqNr = iss := by
          rw [hheader] at hsyn ⊢
          exact hspoken.syn hsyn
        exact .opening iss irs hopen hiss (hfar.syn hrst hsyn hseq) hoffers hgathers
      | false =>
        have hack : (wireHeader q).ack = true := hspoken.ack (hheader ▸ hsyn)
        have hnr : (rxHeader f.host p).ackNr = irs := hheader ▸ hgathers.ackNr hq hack
        rcases hfar.acked hrst hsyn (hheader ▸ hack) hnr with hwaits | ⟨hripe, hopen', hirs⟩
        · exact .opening iss irs hopen hiss hwaits hoffers hgathers
        · have hfits := windowFits_of_opts (congrArg Terms.opts hfar.greeting.terms) hwin
          obtain ⟨hforth, hback⟩ := hfar.flows (f := f) hfits hoffers hgathers
          have hi' : Conveyed f near far.ripe (.packet p) :=
            ⟨hi.ongoing, hi.copy, hi.fits, hi.room⟩
          have hst' : step f far.ripe (.packet p) =
              some ⟨cspRdpNewPacket f p far.world, far.task⟩ := by
            rw [hripe]
            rfl
          obtain ⟨got, -, hreceived, -⟩ := hforth.receives hback rfl hi' hst' hlt'
          exact .opened iss irs hopen hopen' hiss hirs ⟨got, hreceived⟩
            ⟨∅, hback.sends hforth rfl hi' hst' hlt⟩
    · exact .opening iss irs hopen hiss
        (hfar.keep hi.ongoing (fun p heq => hp ⟨p, heq⟩) hst hcw) hoffers hgathers
  | opened iss irs hopen hopen' hiss hirs hforth hback =>
    obtain ⟨got, hforth⟩ := hforth
    obtain ⟨got', hback⟩ := hback
    obtain ⟨got'', -, hreceived, -⟩ := hforth.receives hback hopen' hi hst hlt'
    exact .opened iss irs hopen
      (step_stays hopen' hi.ongoing (fun p hp => (hi.copy p hp).1) hst hcw) hiss
      ((step_sndIss hopen' hi.ongoing hst).trans hirs) ⟨got'', hreceived⟩
      ⟨got', hback.sends hforth hopen' hi hst hlt⟩

end Phases

/-- A step of a connection that the end `near` establishes, and neither end closes. -/
structure Connecting (env : Side → Env) (n : Net) (i : Side × Input) : Prop where
  ongoing : ∀ x, (n.ends x).rdp.state ≠ .rdpCloseWait
  near : i.1 = .near → NearInput (env .near) (n.ends .near) (n.ends .far) i.2
  far : i.1 = .far → FarInput (env .far) (n.ends .near) (n.ends .far) i.2

instance (e : Env) (near far : Endpoint) (i : Input) : Decidable (NearInput e near far i) :=
  inferInstanceAs (Decidable (_ ∨ _))

instance (f : Env) (near far : Endpoint) (i : Input) : Decidable (FarInput f near far i) :=
  inferInstanceAs (Decidable (_ ∧ _))

instance (env : Side → Env) (n : Net) (i : Side × Input) : Decidable (Connecting env n i) :=
  decidable_of_iff (((n.ends .near).rdp.state ≠ .rdpCloseWait ∧
      (n.ends .far).rdp.state ≠ .rdpCloseWait) ∧
      (i.1 = .near → NearInput (env .near) (n.ends .near) (n.ends .far) i.2) ∧
      (i.1 = .far → FarInput (env .far) (n.ends .near) (n.ends .far) i.2))
    ⟨fun h => ⟨fun x => by cases x; exacts [h.1.1, h.1.2], h.2.1, h.2.2⟩,
      fun h => ⟨⟨h.ongoing .near, h.ongoing .far⟩, h.near, h.far⟩⟩

/-- Two connections that were not used before. -/
def Net.fresh : Net := ⟨fun _ => .fresh⟩

end LibCSP
