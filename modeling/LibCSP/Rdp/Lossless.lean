/-
# Nothing accepted is lost

Two open ends and a network that loses, duplicates, delays and reorders.  What `csp_rdp_send`
takes goes to the retransmit queue, and an element leaves the queue only when `snd_una` is behind
its number, or an EACK lists it (`step_spares`).  Whether that is safe depends on what the other
end tells: its acknowledgements cover only what its user was given (`Honest`), and its EACKs list
only what it has stored (`Truthful`).  `Flow` puts the two ends of one direction together, with
the set `got` of the messages that have come in.

So each message is delivered, or waits in the reorder queue for the ones in front of it, or is in
the retransmit queue still, and the user is given the messages in order and without a gap
(`run_lossless`).
-/

import LibCSP.Rdp.Telling

namespace LibCSP

open Basis

/-! ### What leaves the retransmit queue -/

/-- An element that is not done is in the queue afterwards, with its number and its payload. -/
def Spared (o : ByteOrder) (isDone : CspPacket → Bool) (w w' : World) : Prop :=
  ∀ x ∈ w.conn.rdp.txQueue.items, isDone x = false →
    ∃ y ∈ w'.conn.rdp.txQueue.items, netSeq o y = netSeq o x ∧ rdpPayload y = rdpPayload x

/-- A queue that only grows spares everything. -/
theorem Grows.spared {w w' : World} (h : Grows w w') (o : ByteOrder)
    (isDone : CspPacket → Bool) : Spared o isDone w w' :=
  fun x hx _ => ⟨x, h.subset hx, rfl, rfl⟩

/-- And still does when it grows afterwards. -/
theorem Spared.grows {o : ByteOrder} {isDone : CspPacket → Bool} {w w' w'' : World}
    (h : Spared o isDone w w') (hw : Grows w' w'') : Spared o isDone w w'' := fun x hx hdone => by
  obtain ⟨y, hy, hkey⟩ := h x hx hdone
  exact ⟨y, hw.subset hy, hkey⟩

/-- **A loop over the retransmit queue** spares what it does not free. -/
theorem Rotation.spared (e : Env) (rot : Rotation) (w : World) :
    ∀ x ∈ w.conn.rdp.txQueue.items, rot.frees e.host w x = false →
      ∃ y ∈ (Queue.sweepList (rot.entry e) w w.conn.rdp.txQueue.items).2,
        netSeq e.host y = netSeq e.host x ∧ rdpPayload y = rdpPayload x := by
  intro x hx hdone
  have hkeep : ∀ v : World, v.conn = w.conn →
      ∃ y, (rot.entry e v x).2 = some y ∧ y.key e.host = x.key e.host := fun v hv => by
    have hfree : rot.frees e.host v x = false := by
      rw [← hdone]
      cases rot with
      | timeouts now => exact congrArg (fun c : Conn => ackedBy e.host c.rdp.sndUna x) hv
      | flushEack eack => rfl
    have hentry := (rot.entry_cases e v x).2
    cases hres : (rot.entry e v x).2 with
    | none =>
      rw [hres] at hentry
      exact absurd (hfree.symm.trans hentry) Bool.false_ne_true
    | some y =>
      rw [hres] at hentry
      exact ⟨y, rfl, hentry.2⟩
  have hsweep : ∃ y ∈ (Queue.sweepList (rot.entry e) w w.conn.rdp.txQueue.items).2,
      y.key e.host = x.key e.host :=
    Queue.exists_mem_sweepList (R := fun x y : CspPacket => y.key e.host = x.key e.host) hx
      (fun v y _ hv => ((rot.entry_cases e v y).1).trans hv) hkeep rfl
  obtain ⟨y, hy, hkey⟩ := hsweep
  exact ⟨y, hy, congrArg (fun k => k.2.1) hkey, congrArg (fun k => k.2.2) hkey⟩

/-- **The message loop spares** what is not acknowledged. -/
theorem cspRdpCheckMessages_spared (e : Env) (now : U32) (w : World) :
    Spared e.host (ackedBy e.host w.conn.rdp.sndUna) w (cspRdpCheckMessages e now w) := by
  obtain ⟨-, hitems⟩ := Queue.sweep_size (timeoutEntry e now) w w.conn.rdp.txQueue
  intro x hx hdone
  obtain ⟨y, hy, hkey⟩ := Rotation.spared e (.timeouts now) w x hx hdone
  exact ⟨y, hitems ▸ hy, hkey⟩

/-- **`csp_rdp_flush_eack` spares** what is not listed. -/
theorem cspRdpFlushEack_spared (e : Env) (eack : CspPacket) (w : World) :
    Spared e.host (listedBy e.host eack) w (cspRdpFlushEack e eack w) := by
  obtain ⟨-, hitems⟩ := Queue.sweep_size (flushEackEntry e eack) w w.conn.rdp.txQueue
  intro x hx hdone
  obtain ⟨y, hy, hkey⟩ := Rotation.spared e (.flushEack eack) w x hx hdone
  exact ⟨y, hitems ▸ hy, hkey⟩

/-- **`csp_close` on a connection that is not closed yet** sends a RESET; without RDP it empties
the queues of the user. -/
theorem cspClose_live (e : Env) {w : World} (hc : w.conn.rdp.state ≠ .rdpClosed)
    (hw : w.conn.rdp.state ≠ .rdpCloseWait) : (cspClose e w).2 = w ∨
      (cspClose e w).2 = (cspRdpSendCmp e none .rstAck (enterCloseWait e w).conn.rdp.sndNxt
        (enterCloseWait e w).conn.rdp.rcvCur (enterCloseWait e w)).2 ∨ (cspClose e w).2 = w.next ∨
      (cspClose e w).2 = cspConnFlushRxQueue { w.next with conn.state := .connClosed } := by
  unfold cspClose
  split
  · exact .inl rfl
  · split
    · have hclose : cspRdpClose e w = (1, (cspRdpSendCmp e none .rstAck
          (enterCloseWait e w).conn.rdp.sndNxt (enterCloseWait e w).conn.rdp.rcvCur
          (enterCloseWait e w)).2) := by
        unfold cspRdpClose
        split
        · exact absurd ‹_› hc
        · exact absurd ‹_› hw
        · rfl
      rw [hclose]
      exact .inr (.inl rfl)
    · rename_i hrdp
      rw [Bool.or_eq_true, not_or, Bool.not_eq_true] at hrdp
      unfold cspCloseNow
      split
      · simp only
        rw [if_neg (Bool.not_eq_true _ ▸ hrdp.1)]
        exact .inr (.inr (.inr rfl))
      · exact .inr (.inr (.inl rfl))

/-- It keeps the retransmit queue until the RESET is through. -/
theorem cspClose_grows {e : Env} {w : World} (hst : w.conn.rdp.state = .rdpOpen) :
    Grows w (cspClose e w).2 := by
  rcases cspClose_live e (w := w) (by rw [hst]; decide) (by rw [hst]; decide) with
    h | h | h | h <;> rw [h]
  · exact .refl w
  · exact cspRdpSendCmp_grows e none .rstAck _ _ (enterCloseWait e w)
  · exact .of_eq rfl
  · exact .of_eq rfl

/-- The element may leave the queue: it is acknowledged, or the packet that comes in lists it. -/
def doneBy (e : Env) (rdp : Rdp) (i : Input) (x : CspPacket) : Bool :=
  ackedBy e.host rdp.sndUna x ||
    match i with
    | .packet p => (rxHeader e.host p).eak && sizeofRdpHeader < p.length.toNat &&
        listedBy e.host (rxPacket e.host p) x
    | _ => false

/-- **An incoming segment** spares what it neither acknowledged before nor lists. -/
theorem cspRdpNewPacket_spared {e : Env} {p : CspPacket} {w : World}
    (hst : w.conn.rdp.state = .rdpOpen) (hp : OpenSegment e p) :
    Spared e.host (doneBy e w.conn.rdp (.packet p)) w (cspRdpNewPacket e p w) := by
  have hgrows : ∀ {v}, Grows w v → Spared e.host (doneBy e w.conn.rdp (.packet p)) w v :=
    fun h => h.spared _ _
  have hclose : Grows w (discardClose e (rxPacket e.host p) w) := by
    unfold discardClose
    split
    · exact .refl w
    · exact cspClose_grows hst
  rw [cspRdpNewPacket_open hp.rst (.inr hst)]
  refine newPacketOpen_induct (hgrows hclose) (hgrows (.of_eq rfl))
    (hgrows (outsideWindow_grows e w)) (fun _ hst' => ?_) fun _ _ => ?_
  · exact absurd (hst.symm.trans hst') (by decide)
  · by_cases hflush : (rxHeader e.host p).eak = true ∧ sizeofRdpHeader < p.length.toNat
    · obtain ⟨heak, hlen⟩ := hflush
      unfold newPacketAcked
      simp only
      rw [if_pos heak, length_rxPacket, if_pos hlen]
      intro x hx hdone
      refine cspRdpFlushEack_spared e (rxPacket e.host p) (storeAck (rxHeader e.host p) w) x hx ?_
      simp only [doneBy, heak, hlen, decide_true, Bool.true_and, Bool.or_eq_false_iff] at hdone
      exact hdone.2
    · refine hgrows (newPacketAcked_grows (fun heak => ?_) w)
      rw [length_rxPacket]
      exact Nat.le_of_not_lt fun hlen => hflush ⟨heak, hlen⟩

/-- `csp_send` queues at most its packet. -/
theorem cspSendCommit_grows (e : Env) (p : CspPacket) (w : World) :
    Grows w (cspSendCommit e p w) := by
  unfold cspSendCommit cspRdpSendCommit
  rcases cspBufferClone_cases e (txPacket e p w) w with hb | ⟨buf, hb⟩
  · rw [hb]
    exact .refl w
  · rw [hb]
    simp only
    cases hq : Queue.enqueue _ _ with
    | none => exact .refl w
    | some q =>
      obtain ⟨-, hitems⟩ := Queue.enqueue_eq_some.1 hq
      have hgrows : w.conn.rdp.txQueue.items <+: q.items := by
        rw [hitems]
        exact List.prefix_append _ _
      simp only [if_true]
      unfold cspSendDirect
      simp only
      split <;> exact hgrows

/-- **A step of an open end spares what is not done.** -/
theorem step_spares {e : Env} {s t : Endpoint} {i : Input} (hopen : s.rdp.state = .rdpOpen)
    (hi : i.isConnect = false) (hp : ∀ p, i = .packet p → OpenSegment e p)
    (hst : step e s i = some t) : Spared e.host (doneBy e s.rdp i) s.world t.world := by
  have hgrows : ∀ {v}, Grows s.world v → Spared e.host (doneBy e s.rdp i) s.world v :=
    fun h => h.spared _ _
  have hcall := openCall hopen hi hst
  generalize t.world = w' at hcall
  cases hcall with
  | packet p => exact cspRdpNewPacket_spared hopen (hp p rfl)
  | checkTimeouts =>
    unfold cspRdpCheckTimeouts
    simp only
    split
    · have hnext : Grows s.world (cspGetMs e s.world).2 := .of_eq rfl
      exact hgrows (hnext.trans (cspClose_grows hopen))
    · split
      · rename_i hwait
        exact absurd (hopen.symm.trans hwait) (by decide)
      · have hloop := cspRdpCheckMessages_spared e (cspGetMs e s.world).1 (cspGetMs e s.world).2
        intro x hx hdone
        simp only [doneBy, Bool.or_false] at hdone
        obtain ⟨y, hy, hkey⟩ := hloop x hx hdone
        exact ⟨y, ((cspRdpCheckAck_grows e _).trans (cspRdpWake_grows _)).subset hy, hkey⟩
  | checkAck => exact hgrows (cspRdpCheckAck_grows e s.world)
  | read => exact hgrows (cspRead_grows e s.world)
  | close => exact hgrows (cspClose_grows hopen)
  | @commit _ p w _ hw =>
    rcases hw with rfl | rfl
    · exact hgrows (cspSendCommit_grows e p _)
    · have htake : Grows s.world (txWaitTake s.world) := .of_eq rfl
      exact hgrows (htake.trans (cspSendCommit_grows e p _))
  | take => exact hgrows (.of_eq rfl)
  | none => exact hgrows (.refl _)
  | giveUp => exact hgrows (.of_eq rfl)

/-! ### What is accepted, and what is acknowledged -/

/-- Message `j` is in the retransmit queue under its number. -/
def Queued (o : ByteOrder) (iss : U16) (msgs : List (List U8)) (w : World) (j : ℕ) : Prop :=
  ∃ x ∈ w.conn.rdp.txQueue.items, netSeq o x = messageSeq iss j ∧ msgs[j]? = some (rdpPayload x)

/-- The packets that the user sends have room for a header. -/
def Roomy (s : Endpoint) (i : Input) : Prop :=
  ∀ p, i = .send p ∨ s.task = .sendWait p → p.length.toNat + 5 < 2 ^ 16

/-- **What is accepted is queued** under the next number. -/
theorem cspSendCommit_queued {e : Env} {iss : U16} {p : CspPacket} {w : World}
    (h : Sender iss w) (hp : p.length.toNat + 5 < 2 ^ 16) :
    accepted (cspSendCommit e p w).log = accepted w.log ∨
      (accepted (cspSendCommit e p w).log = accepted w.log ++ [p.bytes] ∧
        Queued e.host iss (accepted w.log ++ [p.bytes]) (cspSendCommit e p w)
          (accepted w.log).length) := by
  cases cspSendCommit_sending e p w with
  | refused hq => exact .inl hq.toCalm.sameSender.accepted
  | @sent c evs hq hl hd hevs hlog _ _ =>
    refine .inr ⟨?_, c, by rw [hq]; simp, ?_, ?_⟩
    · rw [hlog, accepted_append]
      rcases hevs with rfl | rfl <;> rfl
    · have hlen : 5 ≤ c.length.toNat := by
        rw [hl, txPacket, length_headerAdd hp]
        omega
      rw [netSeq, (hton16_headerRef hlen).2.1, (sameSegment_of_eq hl hd).seqNr, txPacket,
        wireHeader_add hp]
      exact h.sndNxt
    · rw [List.getElem?_concat_length, (sameSegment_of_eq hl hd).payload, txPacket,
        rdpPayload_add hp]

/-- **A step accepts nothing, or queues what it accepts.** -/
theorem step_queues {e : Env} {iss : U16} {s t : Endpoint} {i : Input} (h : Sender iss s.world)
    (hopen : s.rdp.state = .rdpOpen) (hi : i.isConnect = false) (hu : s.world.conn.UserOk)
    (hroom : Roomy s i) (hst : step e s i = some t) :
    accepted t.world.log = accepted s.world.log ∨
      ∃ m, accepted t.world.log = accepted s.world.log ++ [m] ∧
        Queued e.host iss (accepted s.world.log ++ [m]) t.world (accepted s.world.log).length := by
  have hcalm : ∀ {v}, Calm s.world v → accepted v.log = accepted s.world.log :=
    fun hv => hv.sameSender.accepted
  have hcall := openCall hopen hi hst
  generalize t.world = w' at hcall ⊢
  cases hcall with
  | packet p => exact .inl (cspRdpNewPacket_received hu (.inl hopen)).sameSender.accepted
  | checkTimeouts => exact .inl (hcalm (cspRdpCheckTimeouts_calm e s.world))
  | checkAck => exact .inl (hcalm (cspRdpCheckAck_quiet e s.world).toCalm)
  | read => exact .inl (hcalm (cspRead_calm e s.world).1)
  | close => exact .inl (hcalm (cspClose_closes e s.world).toCalm)
  | @commit _ p w hp hw =>
    have hcw : Calm s.world w := by
      rcases hw with rfl | rfl
      · exact .refl _
      · exact txWaitTake_calm _
    rw [← hcalm hcw]
    exact (cspSendCommit_queued (h.same hcw.sameSender) (hroom p hp)).imp_right fun hq => ⟨_, hq⟩
  | take => exact .inl rfl
  | none => exact .inl rfl
  | giveUp => exact .inl rfl

/-- **`snd_una`** stays, or is behind the ACK number of a packet. -/
theorem step_sndUna {e : Env} {s t : Endpoint} {i : Input} (hopen : s.rdp.state = .rdpOpen)
    (hi : i.isConnect = false) (hst : step e s i = some t) :
    t.rdp.sndUna = s.rdp.sndUna ∨
      ∃ p, i = .packet p ∧ t.rdp.sndUna = (rxHeader e.host p).ackNr + 1 := by
  have hcontrol : ∀ {v : World} {c : Control}, v.control = c → c.sndUna = s.rdp.sndUna →
      v.conn.rdp.sndUna = s.rdp.sndUna := fun hv hc => (congrArg Control.sndUna hv).trans hc
  have hcall := openCall hopen hi hst
  show t.world.conn.rdp.sndUna = _ ∨ ∃ p, i = .packet p ∧ t.world.conn.rdp.sndUna = _
  generalize t.world = w' at hcall ⊢
  cases hcall with
  | packet p =>
    have hstep := cspRdpNewPacket_step e p s.world
    have hstate : s.world.control.state = .rdpOpen := hopen
    generalize hc : (cspRdpNewPacket e p s.world).control = c at hstep
    cases hstep with
    | close _ => exact .inl (hcontrol hc rfl)
    | ack _ _ => exact .inr ⟨p, rfl, congrArg Control.sndUna hc⟩
    | accepted hst' | opened hst' | halfOpen hst' | passive hst' =>
      exact absurd (hstate.symm.trans hst') (by decide)
  | checkTimeouts =>
    rcases cspRdpCheckTimeouts_control e s.world with ⟨st, -, hc⟩ | ⟨-, hc⟩
    · exact .inl (hcontrol hc rfl)
    · exact .inl (hcontrol hc rfl)
  | checkAck => exact .inl (hcontrol (cspRdpCheckAck_quiet e s.world).control rfl)
  | read => exact .inl (hcontrol (cspRead_calm e s.world).2 rfl)
  | close =>
    obtain ⟨st, -, hc⟩ := (cspClose_closes e s.world).control
    exact .inl (hcontrol hc rfl)
  | @commit _ p w _ hw =>
    have hsame : w.control.sndUna = s.rdp.sndUna := by rcases hw with rfl | rfl <;> rfl
    rcases cspSendCommit_control e p w with hc | hc
    · exact .inl (hcontrol hc hsame)
    · exact .inl (hcontrol hc hsame)
  | take => exact .inl rfl
  | none => exact .inl rfl
  | giveUp => exact .inl rfl

/-! ### One direction -/

/-- The number belongs to a message that has come in. -/
def Known (iss : U16) (got : Finset ℕ) (s : U16) : Prop := ∃ j ∈ got, s = messageSeq iss j

/-- What comes to the end `near`: the calls of its user, and copies of segments without RST that
the end `far` has transmitted.  What a data packet releases fits into the user's queues. -/
structure Conveyed (e : Env) (far near : Endpoint) (i : Input) : Prop where
  ongoing : i.isConnect = false
  copy : ∀ p, i = .packet p →
    (rxHeader e.host p).rst = false ∧ ∃ q, Event.transmit q ∈ far.world.log ∧ Copy p q
  fits : ∀ p, i = .packet p → IsData p → Fits e near.world p
  room : ∀ p, i = .send p → p.length.toNat + 5 < 2 ^ 16

/-- At most `bound` messages are accepted, also when the waiting task goes on. -/
structure Paced (bound : ℕ) (s : Endpoint) : Prop where
  count : (accepted s.world.log).length ≤ bound
  posted : ∀ p, s.task = .sendWait p → s.rdp.txWait = true →
    (accepted s.world.log).length < bound

/-- The end `s`, which started with `iss`, sends: what it has accepted has come in, as one of `got`,
or is queued. -/
structure Offers (e : Env) (iss : U16) (s : Endpoint) (got : Finset ℕ) : Prop where
  sender : Sender iss s.world
  waiting : ∀ p, s.task = .sendWait p → p.length.toNat + 5 < 2 ^ 16
  acked : ∃ k ≤ firstMissing got, s.rdp.sndUna = messageSeq iss k
  kept : ∀ j < (accepted s.world.log).length,
    j ∈ got ∨ Queued e.host iss (accepted s.world.log) s.world j
  paced : Paced (firstMissing got + 2 * s.rdp.windowSize.toNat) s

/-- Of the messages `msgs` of an end that started with `iss`, `got` have come in at `r`, which
started with `irs`. -/
structure Gathers (f : Env) (iss irs : U16) (opts : RdpOptions) (msgs : List (List U8))
    (got : Finset ℕ) (r : Endpoint) : Prop where
  taken : Resequences f.host iss msgs got r.world
  truthful : Truthful f.host irs ⟨iss, opts⟩ (Known iss got) r.world

/-- One direction. -/
structure Flow (e f : Env) (iss irs : U16) (opts : RdpOptions) (s r : Endpoint)
    (got : Finset ℕ) : Prop extends Offers e iss s got,
    Gathers f iss irs opts (accepted s.world.log) got r

/-- A copy has the header of what it is a copy of. -/
theorem Copy.wireHeader {p q : CspPacket} (h : Copy p q) (hl : 5 ≤ q.length.toNat) :
    wireHeader p = wireHeader q := by
  have hd : ∀ k, k < 5 → p.data (p.length.toNat - 5 + k) = q.data (q.length.toNat - 5 + k) :=
    fun k hk => by rw [h.length, h.data _ (by omega)]
  simp only [LibCSP.wireHeader, RdpHeader.ofBytes, hd 0 (by omega), hd 1 (by omega),
    hd 2 (by omega), hd 3 (by omega), hd 4 (by omega)]

section Messages

variable {o : ByteOrder} {e f : Env} {iss irs : U16} {opts opts' : RdpOptions}
  {msgs : List (List U8)} {got got' : Finset ℕ} {w : World} {s r t : Endpoint} {i : Input}

/-- More messages are accepted. -/
theorem Resequences.more (h : Resequences o iss msgs got w) {more : List (List U8)}
    (hlt : (msgs ++ more).length < 2 ^ 15) : Resequences o iss (msgs ++ more) got w := by
  rw [List.length_append] at hlt
  refine ⟨h.receiver.mono more, h.delivering, h.reordered, h.fits, fun j hj => ?_, h.next,
    fun j hj hle => ?_⟩
  · rw [List.length_append]
    exact Nat.lt_add_right _ (h.bound j hj)
  · rw [List.length_append] at hj
    rcases Nat.lt_or_ge j msgs.length with hold | hnew
    · exact h.held j hold hle
    · refine iff_of_false (fun hmem => absurd (h.bound j hmem) (Nat.not_lt.2 hnew)) fun hmem => ?_
      obtain ⟨k, hk, heq⟩ := h.receiver.messageSeq_stored hmem
      have := messageSeq_inj (by omega) (by omega) heq
      omega

/-- **What was acknowledged** was given to the user. -/
theorem Resequences.acknowledged (h : Resequences o iss msgs got w) (hlt : msgs.length < 2 ^ 15)
    {q : CspPacket} (hq : Event.transmit q ∈ w.log) (hl : 5 ≤ q.length.toNat)
    (hack : (wireHeader q).ack = true) :
    ∃ k ≤ firstMissing got, (wireHeader q).ackNr = iss + BitVec.ofNat 16 k := by
  obtain ⟨pre, post, hlog⟩ := List.append_of_mem hq
  refine ⟨(deliveries pre).length, ?_, h.delivering.honest.acked pre q post hlog hl hack⟩
  have hall : (deliveries w.log).length = firstMissing got := by
    have hdel := congrArg List.length (h.delivered hlt)
    rw [List.length_take, Nat.min_eq_left (firstMissing_le_length h.bound)] at hdel
    rw [← hdel]
    exact (List.length_map _).symm
  rw [← hall, hlog, deliveries_append, List.length_append]
  exact Nat.le_add_right _ _

/-- **An incoming segment** is an arrival, or nothing. -/
theorem Resequences.packet {p : CspPacket} (h : Resequences e.host iss msgs got w)
    (hlt : msgs.length < 2 ^ 15) (hst : w.conn.rdp.state = .rdpOpen) (hp : OpenSegment e p)
    (hc : Carries iss msgs p) (hfits : IsData p → Fits e w p) :
    ∃ got', got ⊆ got' ∧ Resequences e.host iss msgs got' (cspRdpNewPacket e p w) ∧
      (Acceptable e p w.conn.rdp → Known iss got' (rxHeader e.host p).seqNr) ∧
      (IsData p → w.conn.rdp.ackValid (rxHeader e.host p) = true →
        messageIndex iss p < firstMissing got + 2 * w.conn.rdp.windowSize.toNat →
          messageIndex iss p ∈ got') := by
  have hindex : IsData p → msgs[messageIndex iss p]? = some (rdpPayload p) := fun hd => by
    obtain ⟨j, hj, hseq⟩ := hc hd
    obtain ⟨hjlt, -⟩ := List.getElem?_eq_some_iff.1 hj
    have hj' : messageIndex iss p = j := by
      unfold messageIndex
      rw [hseq]
      bv_omega
    rwa [hj']
  by_cases hacc : Acceptable e p w.conn.rdp
  · have hd : IsData p := isData_of_checks hacc.length hacc.syn hacc.rst hacc.eak
    have hl : 5 ≤ p.length.toNat := Nat.le_of_lt hd.1
    obtain ⟨hjlt, -⟩ := List.getElem?_eq_some_iff.1 (hindex hd)
    obtain ⟨-, hwindow⟩ := (h.seqValid_iff hlt hl hjlt).1 hacc.seqNr
    have hmem : messageIndex iss p ∈
        Basis.accept (2 * w.conn.rdp.windowSize.toNat) got (messageIndex iss p) := by
      rw [accept_of_lt hwindow]
      exact Finset.mem_insert_self _ _
    refine ⟨_, subset_accept _ _ _, h.data hlt hst hp hd (hindex hd) hacc.ackNr (hfits hd),
      fun _ => ⟨messageIndex iss p, hmem, ?_⟩, fun _ _ _ => hmem⟩
    rw [rxHeader_eq hl, messageSeq_index]
  · obtain ⟨hsteady, hrefused⟩ := (segment_cases hst hp).resolve_left hacc
    refine ⟨got, Finset.Subset.refl got, h.steady hsteady, fun hacc' => absurd hacc' hacc,
      fun hd hack hwindow => ?_⟩
    obtain ⟨hjlt, -⟩ := List.getElem?_eq_some_iff.1 (hindex hd)
    have hout : w.conn.rdp.seqValid (rxHeader e.host p) = false :=
      (hrefused hd).resolve_right (by rw [hack]; decide)
    refine mem_of_lt_firstMissing (Nat.lt_of_not_le fun hfirst => ?_)
    rw [(h.seqValid_iff hlt (Nat.le_of_lt hd.1) hjlt).2 ⟨hfirst, hwindow⟩] at hout
    exact Bool.false_ne_true hout.symm

/-! ### Steps of the two ends -/

/-- **What is acknowledged has come in.** -/
theorem Flow.mem_of_ackedBy (h : Flow e f iss irs opts s r got)
    (hlt : (accepted s.world.log).length < 2 ^ 15) {x : CspPacket} {j : ℕ}
    (hj : j < (accepted s.world.log).length) (hx : netSeq e.host x = messageSeq iss j)
    (hacked : ackedBy e.host s.rdp.sndUna x = true) : j ∈ got := by
  have hle := firstMissing_le_length h.taken.bound
  obtain ⟨k, hk, huna⟩ := h.acked
  change cspRdpSeqBefore (netSeq e.host x) s.rdp.sndUna = true at hacked
  rw [hx, huna, Serial.before_iff] at hacked
  refine mem_of_lt_firstMissing (Nat.lt_of_lt_of_le ?_ hk)
  unfold messageSeq at hacked
  bv_omega

/-- **What may leave the retransmit queue has come in.** -/
theorem Flow.mem_of_doneBy (h : Flow e f iss irs opts s r got)
    (hlt : (accepted s.world.log).length < 2 ^ 15) (hi : Conveyed e r s i) {x : CspPacket} {j : ℕ}
    (hj : j < (accepted s.world.log).length) (hx : netSeq e.host x = messageSeq iss j)
    (hdone : doneBy e s.rdp i x = true) : j ∈ got := by
  rcases Bool.or_eq_true_iff.1 hdone with hacked | hlisted
  · exact h.mem_of_ackedBy hlt hj hx hacked
  · cases i with
    | packet p =>
      obtain ⟨-, q, hq, hcopy⟩ := hi.copy p rfl
      have htold := h.truthful.told q hq
      simp only [Bool.and_eq_true, listedBy, List.any_eq_true, List.mem_range, beq_iff_eq,
        length_rxPacket, sizeofRdpHeader] at hlisted
      obtain ⟨⟨heak, -⟩, l, hl, heq⟩ := hlisted
      have hlen := hcopy.length
      rw [hton16_data16, wireEntry_rxPacket (by omega),
        wireEntry_congr (n := q.length.toNat) hcopy.data (by rw [hlen] at hl; omega)] at heq
      rw [rxHeader_eq (by rw [hlen]; exact htold.header), hcopy.wireHeader htold.header] at heak
      obtain ⟨k, hk, hentry⟩ := htold.entries heak l (by rw [hlen] at hl; omega)
      change wireEntry q l = netSeq e.host x at heq
      have hjk : messageSeq iss j = messageSeq iss k := by rw [← hx, ← heq, hentry]
      have hklt := h.taken.bound k hk
      rwa [messageSeq_inj (by omega) (by omega) hjk]
    | _ => exact absurd hlisted Bool.false_ne_true

/-- The packet that the user task waits with is the one it waited with, or was given. -/
theorem step_waiting {p : CspPacket} (hst : step e s i = some t) (ht : t.task = .sendWait p) :
    i = .send p ∨ s.task = .sendWait p := by
  obtain ⟨w, task⟩ := s
  cases step_stepped hst with
  | packet | checkTimeouts | checkAck | read | close => exact .inr ht
  | send q =>
    unfold sendEnter at ht
    split at ht
    · exact nomatch ht
    · split at ht
      · exact .inl (congrArg Input.send (Task.sendWait.inj ht))
      · exact nomatch ht
  | sendWake | sendTimeout | connectTimeout => exact nomatch ht
  | connect | connectWake =>
    unfold connectEnter at ht
    split at ht <;> exact nomatch ht

/-- A higher bound is a bound; used where the other end accepts one more message. -/
theorem Paced.mono {b b' : ℕ} (h : Paced b s) (hb : b ≤ b') : Paced b' s :=
  ⟨h.count.trans hb, fun p ht hx => (h.posted p ht hx).trans_le hb⟩

/-- Nothing is accepted, and the semaphore is not posted. -/
theorem Paced.keep {b : ℕ} (h : Paced b s)
    (hacc : accepted t.world.log = accepted s.world.log)
    (hp : ∀ p, t.task = .sendWait p → t.rdp.txWait = true →
      s.task = .sendWait p ∧ s.rdp.txWait = true) : Paced b t := by
  refine ⟨hacc ▸ h.count, fun p ht hx => ?_⟩
  obtain ⟨hs, hsx⟩ := hp p ht hx
  exact hacc ▸ h.posted p hs hsx

/-- A message is accepted, or refused. -/
theorem Paced.commit {b : ℕ} {p : CspPacket} (h : (accepted w.log).length < b) :
    Paced b ⟨cspSendCommit e p w, .idle⟩ := by
  refine ⟨?_, fun _ ht => nomatch ht⟩
  cases cspSendCommit_sending e p w with
  | refused hq => exact hq.toCalm.sameSender.accepted ▸ Nat.le_of_lt h
  | @sent c evs _ _ _ hevs hlog _ _ =>
    have hone : (accepted (cspSendCommit e p w).log).length = (accepted w.log).length + 1 := by
      rw [hlog, accepted_append, List.length_append]
      rcases hevs with rfl | rfl <;> rfl
    exact hone ▸ h

/-- A step leaves what the handshake settled: the initial number and the window. -/
theorem step_settled (hopen : s.rdp.state = .rdpOpen) (hi : i.isConnect = false)
    (hst : step e s i = some t) : ∃ st nxt una wait, t.world.control =
      { s.world.control with state := st, sndNxt := nxt, sndUna := una, txWait := wait } := by
  have hsame : ∀ {w' : World}, w'.control = s.world.control → ∃ st nxt una wait, w'.control =
      { s.world.control with state := st, sndNxt := nxt, sndUna := una, txWait := wait } :=
    fun hc => ⟨_, _, _, _, hc⟩
  have hcall := openCall hopen hi hst
  generalize t.world = w' at hcall
  cases hcall with
  | packet p =>
    have hstep := cspRdpNewPacket_step e p s.world
    have hstate : s.world.control.state = .rdpOpen := hopen
    generalize (cspRdpNewPacket e p s.world).control = c at hstep
    cases hstep with
    | close | ack => exact ⟨_, _, _, _, rfl⟩
    | accepted hst' | opened hst' | halfOpen hst' | passive hst' =>
      exact absurd (hstate.symm.trans hst') (by decide)
  | checkTimeouts =>
    rcases cspRdpCheckTimeouts_control e s.world with ⟨st, -, hc⟩ | ⟨-, hc⟩
    · exact ⟨_, _, _, _, hc⟩
    · exact ⟨_, _, _, _, hc⟩
  | checkAck => exact hsame (cspRdpCheckAck_quiet e s.world).control
  | read => exact hsame (cspRead_calm e s.world).2
  | close =>
    obtain ⟨st, -, hc⟩ := (cspClose_closes e s.world).control
    exact ⟨_, _, _, _, hc⟩
  | @commit _ p w _ hw =>
    rcases hw with rfl | rfl <;> rcases cspSendCommit_control e p _ with hc | hc <;>
      exact ⟨_, _, _, _, hc⟩
  | take => exact ⟨_, _, _, _, rfl⟩
  | none => exact hsame rfl
  | giveUp => exact ⟨_, _, _, _, rfl⟩

/-- The window stays as it was agreed on while the connection is open. -/
theorem step_windowSize (hopen : s.rdp.state = .rdpOpen) (hi : i.isConnect = false)
    (hst : step e s i = some t) : t.rdp.windowSize = s.rdp.windowSize := by
  obtain ⟨st, nxt, una, wait, hc⟩ := step_settled hopen hi hst
  exact congrArg Control.windowSize hc

/-- And so does the initial number. -/
theorem step_sndIss (hopen : s.rdp.state = .rdpOpen) (hi : i.isConnect = false)
    (hst : step e s i = some t) : t.rdp.sndIss = s.rdp.sndIss := by
  obtain ⟨st, nxt, una, wait, hc⟩ := step_settled hopen hi hst
  exact congrArg Control.sndIss hc

/-- **The sender stays two windows ahead at most** of the first message that has not come in. -/
theorem Flow.paces (h : Flow e f iss irs opts s r got) (hopen : s.rdp.state = .rdpOpen)
    (hw : s.rdp.WindowFits) (hu : s.world.conn.UserOk) (hi : Conveyed e r s i)
    (hst : step e s i = some t) (hlt : (accepted s.world.log).length < 2 ^ 15) :
    Paced (firstMissing got + 2 * s.rdp.windowSize.toNat) t := by
  obtain ⟨k, hk, huna⟩ := h.acked
  have hnxt := h.sender.sndNxt
  have hfirst := firstMissing_le_length h.taken.bound
  have hpaced := h.paced
  obtain ⟨w, task⟩ := s
  change w.conn.rdp.sndUna = _ at huna
  change w.conn.rdp.sndNxt = _ at hnxt
  obtain ⟨hpos, hle⟩ := hw
  change 1 ≤ w.conn.rdp.windowSize.toNat at hpos
  change w.conn.rdp.windowSize.toNat ≤ 20 at hle
  change firstMissing got ≤ (accepted w.log).length at hfirst
  change (accepted w.log).length < 2 ^ 15 at hlt
  have hquiet : ∀ {v : World}, Calm w v → v.conn.rdp.txWait = w.conn.rdp.txWait →
      Paced (firstMissing got + 2 * w.conn.rdp.windowSize.toNat) ⟨v, task⟩ := fun {v} hv hc =>
    hpaced.keep hv.sameSender.accepted fun p ht hx => ⟨ht, hc.symm.trans hx⟩
  cases step_stepped hst with
  | packet _ p =>
    refine hpaced.keep (cspRdpNewPacket_received hu (.inl hopen)).sameSender.accepted
      fun q ht hx => ⟨ht, ?_⟩
    have hstep := cspRdpNewPacket_step e p w
    have hstate : w.control.state = .rdpOpen := hopen
    have hx' : (cspRdpNewPacket e p w).control.txWait = true := hx
    generalize (cspRdpNewPacket e p w).control = c at hstep hx'
    cases hstep with
    | close | ack => exact hx'
    | accepted hst' | opened hst' | halfOpen hst' | passive hst' =>
      exact absurd (hstate.symm.trans hst') (by decide)
  | checkTimeouts =>
    rcases cspRdpCheckTimeouts_control e w with ⟨st, -, hc⟩ | ⟨hpost, -⟩
    · have hpost := congrArg Control.txWait hc
      exact hquiet (cspRdpCheckTimeouts_calm e w) hpost
    · have hacc := (cspRdpCheckTimeouts_calm e w).sameSender.accepted
      refine ⟨hacc ▸ hpaced.count, fun p _ _ => ?_⟩
      have hroom := Serial.before_iff.1 hpost.2
      change 2 ^ 16 ≤ 2 * ((w.conn.rdp.sndNxt - w.conn.rdp.sndUna) -
        (w.conn.rdp.windowSize * 2).setWidth 16).toNat at hroom
      rw [hnxt, huna] at hroom
      rw [hacc]
      change (accepted w.log).length < _
      unfold messageSeq at hroom
      generalize w.conn.rdp.windowSize = win at hle hpos hroom ⊢
      generalize (accepted w.log).length = n at hfirst hlt hroom ⊢
      bv_omega
  | checkAck =>
    have hpost := congrArg Control.txWait (cspRdpCheckAck_quiet e w).control
    exact hquiet (cspRdpCheckAck_quiet e w).toCalm hpost
  | read =>
    have hpost := congrArg Control.txWait (cspRead_calm e w).2
    exact hquiet (cspRead_calm e w).1 hpost
  | close =>
    obtain ⟨st, -, hc⟩ := (cspClose_closes e w).control
    have hpost := congrArg Control.txWait hc
    exact hquiet (cspClose_closes e w).toCalm hpost
  | send p =>
    unfold sendEnter
    split
    · exact hpaced.keep rfl fun _ ht => by cases ht
    · split
      · exact hpaced.keep rfl fun _ _ hx => absurd hx Bool.false_ne_true
      · rename_i hfull
        refine Paced.commit ?_
        rw [Bool.not_eq_true] at hfull
        unfold Rdp.windowFull at hfull
        rw [decide_eq_false_iff_not, hnxt, huna] at hfull
        unfold messageSeq at hfull
        generalize w.conn.rdp.windowSize = win at hle hpos hfull ⊢
        generalize (accepted w.log).length = n at hfirst hlt hfull ⊢
        bv_omega
  | sendWake p hpost => exact Paced.commit (hpaced.posted p rfl hpost)
  | sendTimeout p => exact hpaced.keep rfl fun _ ht => by cases ht
  | connect => exact absurd hi.ongoing (by decide)
  | connectWake retry _ =>
    have hdone : cspRdpConnectWoken e retry (txWaitTake w) = (some .none, txWaitTake w) := by
      have hstate : (txWaitTake w).conn.rdp.state = .rdpOpen := hopen
      simp only [cspRdpConnectWoken, hstate]
    rw [hdone]
    exact hpaced.keep rfl fun _ ht => by cases ht
  | connectTimeout retry => exact hpaced.keep rfl fun _ ht => by cases ht

/-- **What comes in at an open end** is no segment of the handshake, or a SYN that is dropped. -/
theorem Conveyed.segment (h : Conveyed e r s i) (hopen : s.rdp.state = .rdpOpen)
    (hspoken : ∀ q, Event.transmit q ∈ r.world.log → Spoken s.rdp.rcvIrs q)
    (hst : step e s i = some t) : (∀ p, i = .packet p → OpenSegment e p) ∨
      ∃ p, i = .packet p ∧ ¬ IsData p ∧ t = ⟨s.world.free (rxPacket e.host p), s.task⟩ := by
  by_cases hp : ∃ p, i = .packet p ∧ (rxHeader e.host p).syn = true
  · obtain ⟨p, rfl, hsyn⟩ := hp
    obtain rfl := Option.some.inj hst
    obtain ⟨hrst, q, hq, hcopy⟩ := h.copy p rfl
    have hl := (hspoken q hq).header
    have hlp : 5 ≤ p.length.toNat := hcopy.length ▸ hl
    have hheader : rxHeader e.host p = wireHeader q := by
      rw [rxHeader_eq hlp, hcopy.wireHeader hl]
    have hseq : (rxHeader e.host p).seqNr = s.world.conn.rdp.rcvIrs := by
      rw [hheader] at hsyn ⊢
      exact (hspoken q hq).syn hsyn
    refine .inr ⟨p, rfl, fun hd => ?_, ?_⟩
    · rw [rxHeader_eq hlp, hd.2.1] at hsyn
      exact Bool.false_ne_true hsyn
    · rw [cspRdpNewPacket_open hrst (.inr hopen)]
      simp only [newPacketOpen, hsyn, hseq, Bool.true_or, if_true, ne_eq, not_true_eq_false,
        if_false]
      rfl
  · refine .inl fun p hip => ?_
    obtain ⟨hrst, q, hq, hcopy⟩ := h.copy p hip
    have hsyn : (rxHeader e.host p).syn = false :=
      Bool.eq_false_iff.2 fun hsyn => hp ⟨p, hip, hsyn⟩
    have hl := (hspoken q hq).header
    have hheader : rxHeader e.host p = wireHeader q := by
      rw [rxHeader_eq (hcopy.length ▸ hl), hcopy.wireHeader hl]
    refine ⟨hsyn, hrst, ?_⟩
    rw [hheader] at hsyn ⊢
    exact (hspoken q hq).ack hsyn

/-- The sender drops a packet. -/
theorem Flow.sender_free (h : Flow e f iss irs opts s r got) (p : CspPacket) :
    Flow e f iss irs opts ⟨s.world.free p, s.task⟩ r got := by
  have hcalm := (Quiet.free s.world p).toCalm
  have hacc : accepted (s.world.free p).log = accepted s.world.log := hcalm.sameSender.accepted
  refine ⟨⟨h.sender.same hcalm.sameSender, h.waiting, h.acked, fun j hj => ?_,
    h.paced.keep hacc fun _ ht hx => ⟨ht, hx⟩⟩, ?_, h.truthful⟩
  · simp only [hacc] at hj ⊢
    exact h.kept j hj
  · simp only [hacc]
    exact h.taken

/-- The receiver drops a packet. -/
theorem Flow.receiver_free (h : Flow e f iss irs opts s r got) (p : CspPacket) :
    Flow e f iss irs opts s ⟨r.world.free p, r.task⟩ got :=
  { h with
    taken := h.taken.steady (Quiet.free r.world p).steady
    truthful := h.truthful.free p }

/-- A segment comes in at the sender, or its user or a timer acts. -/
theorem Flow.sends_segment (h : Flow e f iss irs opts s r got) (hopen : s.rdp.state = .rdpOpen)
    (hw : s.rdp.WindowFits) (hu : s.world.conn.UserOk) (hi : Conveyed e r s i)
    (hseg : ∀ p, i = .packet p → OpenSegment e p) (hst : step e s i = some t)
    (hlt : (accepted t.world.log).length < 2 ^ 15) : Flow e f iss irs opts t r got := by
  have hroom : Roomy s i := fun p hp => hp.elim (hi.room p) (h.waiting p)
  have hqueues := step_queues h.sender hopen hi.ongoing hu hroom hst
  obtain ⟨more, hmore⟩ : ∃ more, accepted t.world.log = accepted s.world.log ++ more := by
    rcases hqueues with heq | ⟨m, heq, -⟩
    · exact ⟨[], by rw [heq, List.append_nil]⟩
    · exact ⟨[m], heq⟩
  have hle : (accepted s.world.log).length ≤ (accepted t.world.log).length := by
    rw [hmore, List.length_append]
    exact Nat.le_add_right _ _
  have hlt' := Nat.lt_of_le_of_lt hle hlt
  have hspares := step_spares hopen hi.ongoing hseg hst
  have hwin := step_windowSize hopen hi.ongoing hst
  refine ⟨⟨h.sender.step hu hopen (open_step hopen hst),
    fun p hp => hroom p (step_waiting hst hp), ?_, fun j hj => ?_, ?_⟩, ?_, h.truthful⟩
  · rcases step_sndUna hopen hi.ongoing hst with heq | ⟨p, rfl, heq⟩
    · rw [heq]
      exact h.acked
    · obtain ⟨-, q, hq, hcopy⟩ := hi.copy p rfl
      have hl := (h.truthful.told q hq).header
      have hlp : 5 ≤ p.length.toNat := hcopy.length ▸ hl
      have hack := (hseg p rfl).ack
      rw [rxHeader_eq hlp, hcopy.wireHeader hl] at hack
      obtain ⟨k, hk, hnr⟩ := h.taken.acknowledged hlt' hq hl hack
      refine ⟨k, hk, ?_⟩
      rw [heq, rxHeader_eq hlp, hcopy.wireHeader hl, hnr, messageSeq]
      bv_omega
  · rcases Nat.lt_or_ge j (accepted s.world.log).length with hold | hnew
    · rcases h.kept j hold with hmem | ⟨x, hx, hseq, hpay⟩
      · exact .inl hmem
      · cases hdone : doneBy e s.rdp i x with
        | true => exact .inl (h.mem_of_doneBy hlt' hi hold hseq hdone)
        | false =>
          obtain ⟨y, hy, hyseq, hypay⟩ := hspares x hx hdone
          refine .inr ⟨y, hy, hyseq.trans hseq, ?_⟩
          rw [hmore, List.getElem?_append_left hold, hypay]
          exact hpay
    · rcases hqueues with heq | ⟨m, heq, hqueued⟩
      · rw [heq] at hj
        exact absurd hj (Nat.not_lt.2 hnew)
      · have hlast : j = (accepted s.world.log).length := by
          rw [heq, List.length_append, List.length_singleton] at hj
          omega
        rw [heq, hlast]
        exact .inr hqueued
  · rw [hwin]
    exact h.paces hopen hw hu hi hst hlt'
  · rw [hmore] at hlt ⊢
    exact h.taken.more hlt

/-- **A step of the sender**, which is the receiver of the other direction. -/
theorem Flow.sends (h : Flow e f iss irs opts s r got) (hback : Flow f e irs iss opts' r s got')
    (hopen : s.rdp.state = .rdpOpen) (hi : Conveyed e r s i) (hst : step e s i = some t)
    (hlt : (accepted t.world.log).length < 2 ^ 15) : Flow e f iss irs opts t r got := by
  have hspoken : ∀ q, Event.transmit q ∈ r.world.log → Spoken s.rdp.rcvIrs q := fun q hq => by
    rw [show s.rdp.rcvIrs = irs from congrArg Terms.irs hback.truthful.terms]
    exact (h.truthful.told q hq).toSpoken
  rcases hi.segment hopen hspoken hst with hseg | ⟨p, -, -, rfl⟩
  · exact h.sends_segment hopen hback.taken.fits hback.taken.receiver.user hi hseg hst hlt
  · exact h.sender_free _

/-- A segment comes in at the receiver, or its user or a timer acts. -/
theorem Flow.receives_segment (h : Flow e f iss irs opts s r got) (hopen : r.rdp.state = .rdpOpen)
    (hroom : Roomy r i) (hi : Conveyed f s r i) (hseg : ∀ p, i = .packet p → OpenSegment f p)
    (hst : step f r i = some t) (hlt : (accepted s.world.log).length < 2 ^ 15) :
    ∃ got', got ⊆ got' ∧ Flow e f iss irs opts s t got' ∧
      ∀ p, i = .packet p → IsData p → r.rdp.ackValid (rxHeader f.host p) = true →
        messageIndex iss p < firstMissing got + 2 * r.rdp.windowSize.toNat →
          messageIndex iss p ∈ got' := by
  have hknown : ∃ got', got ⊆ got' ∧
      Resequences f.host iss (accepted s.world.log) got' t.world ∧
      ∀ p, i = .packet p →
        (Acceptable f p r.rdp → Known iss got' (rxHeader f.host p).seqNr) ∧
        (IsData p → r.rdp.ackValid (rxHeader f.host p) = true →
          messageIndex iss p < firstMissing got + 2 * r.rdp.windowSize.toNat →
            messageIndex iss p ∈ got') := by
    by_cases hp : ∃ p, i = .packet p
    · obtain ⟨p, rfl⟩ := hp
      obtain rfl := Option.some.inj hst
      obtain ⟨-, q, hq, hcopy⟩ := hi.copy p rfl
      obtain ⟨got', hsub, htaken, hknown, harrive⟩ := h.taken.packet hlt hopen (hseg p rfl)
        (hcopy.carries (h.sender.transmitted q hq)) (hi.fits p rfl)
      refine ⟨got', hsub, htaken, fun p' hp' => ?_⟩
      obtain rfl := Input.packet.inj hp'
      exact ⟨hknown, harrive⟩
    · refine ⟨got, Finset.Subset.refl got, ?_, fun p heq => absurd ⟨p, heq⟩ hp⟩
      rcases step_steady hopen hi.ongoing (fun p heq => hp ⟨p, heq⟩) hst with
        hs | ⟨p, w, hs, hsend⟩
      · exact h.taken.steady hs
      · exact (h.taken.steady hs).sending hsend
  obtain ⟨got', hsub, htaken, hnew⟩ := hknown
  have hfirst := firstMissing_mono hsub
  refine ⟨got', hsub, ⟨⟨h.sender, h.waiting, ?_, fun j hj =>
    (h.kept j hj).imp_left fun hmem => hsub hmem, h.paced.mono (Nat.add_le_add_right hfirst _)⟩,
    htaken, ?_⟩, fun p hp => (hnew p hp).2⟩
  · obtain ⟨k, hk, huna⟩ := h.acked
    exact ⟨k, hk.trans hfirst, huna⟩
  · have hmono : Truthful f.host irs ⟨iss, opts⟩ (Known iss got') r.world :=
      h.truthful.mono fun seq ⟨j, hj, heq⟩ => ⟨j, hsub hj, heq⟩
    exact step_truthful hmono hopen hi.ongoing (fun p hp => ⟨hseg p hp, (hnew p hp).1⟩) hroom hst

/-- **A step of the receiver**, which is the sender of the other direction. -/
theorem Flow.receives (h : Flow e f iss irs opts s r got) (hback : Flow f e irs iss opts' r s got')
    (hopen : r.rdp.state = .rdpOpen) (hi : Conveyed f s r i) (hst : step f r i = some t)
    (hlt : (accepted s.world.log).length < 2 ^ 15) :
    ∃ got'', got ⊆ got'' ∧ Flow e f iss irs opts s t got'' ∧
      ∀ p, i = .packet p → IsData p → r.rdp.ackValid (rxHeader f.host p) = true →
        messageIndex iss p < firstMissing got + 2 * r.rdp.windowSize.toNat →
          messageIndex iss p ∈ got'' := by
  have hspoken : ∀ q, Event.transmit q ∈ s.world.log → Spoken r.rdp.rcvIrs q := fun q hq => by
    rw [show r.rdp.rcvIrs = iss from congrArg Terms.irs h.truthful.terms]
    exact (hback.truthful.told q hq).toSpoken
  rcases hi.segment hopen hspoken hst with hseg | ⟨p, rfl, hnot, rfl⟩
  · exact h.receives_segment hopen (fun p hp => hp.elim (hi.room p) (hback.waiting p)) hi hseg hst
      hlt
  · refine ⟨got, Finset.Subset.refl got, h.receiver_free _, fun p' hp' hd => ?_⟩
    obtain rfl := Input.packet.inj hp'
    exact absurd hd hnot

/-- **What was accepted is delivered, stored or queued.** -/
theorem Flow.lossless (h : Flow e f iss irs opts s r got)
    (hlt : (accepted s.world.log).length < 2 ^ 15) :
    ∃ k ≤ (accepted s.world.log).length,
      delivered r.world.log = (accepted s.world.log).take k ∧
      ∀ j, k ≤ j → j < (accepted s.world.log).length →
        messageSeq iss j ∈ r.rdp.storedSeqs f.host ∨
          Queued e.host iss (accepted s.world.log) s.world j :=
  ⟨firstMissing got, firstMissing_le_length h.taken.bound, h.taken.delivered hlt,
    fun j hle hj => (h.kept j hj).imp_left fun hgot => (h.taken.held j hj hle).1 hgot⟩

end Messages

/-! ### The network -/

/-- A step at one end. -/
def Exchanged (env : Side → Env) (n : Net) (i : Side × Input) : Prop :=
  (∀ x, (n.ends x).rdp.state = .rdpOpen) ∧
    Conveyed (env i.1) (n.ends i.1.other) (n.ends i.1) i.2

/-- What is exchanged may be admitted: it was transmitted at the other end. -/
theorem Exchanged.admitted {env : Side → Env} {n : Net} {i : Side × Input}
    (h : Exchanged env n i) : Admitted n i :=
  ⟨h.1, fun p hp => .inr (h.2.copy p hp).2⟩

/-- An end that was given no data and has sent none: what it has transmitted belongs to the
handshake, in which it started with `iss` and agreed to these terms. -/
structure Begun (o : ByteOrder) (iss : U16) (tm : Terms) (w : World) : Prop where
  truthful : Truthful o iss tm (fun _ => False) w
  accepted : accepted w.log = []
  deliveries : deliveries w.log = []
  sndNxt : w.conn.rdp.sndNxt = iss + 1
  rcvCur : w.conn.rdp.rcvCur = tm.irs
  queued : ∀ p ∈ w.conn.rdp.txQueue.items, ¬ IsData p
  told : ∀ p, Event.transmit p ∈ w.log →
    ¬ IsData p ∧ ((wireHeader p).ack = true → (wireHeader p).ackNr = tm.irs)
  user : w.conn.UserOk
  window : w.conn.rdp.WindowFits

section Begun

variable {o : ByteOrder} {e f : Env} {iss irs : U16} {tm : Terms} {opts : RdpOptions}
  {s r : Endpoint} {w w' : World}

/-- What it sends besides is no data either. -/
theorem Begun.quiet (h : Begun o iss tm w) (hq : Quiet w w')
    (ht : Truthful o iss tm (fun _ => False) w') : Begun o iss tm w' := by
  obtain ⟨evs, hlog, hevs⟩ := hq.log
  have hwin : w'.conn.rdp.windowSize = w.conn.rdp.windowSize :=
    congrArg Control.windowSize hq.control
  refine ⟨ht, hq.toCalm.sameSender.accepted.trans h.accepted, ?_, hq.sndNxt.trans h.sndNxt,
    hq.rcvCur.trans h.rcvCur, fun p hp hd => ?_, fun p hp => ?_, hq.user h.user, ?_⟩
  · rw [hlog, deliveries_append, h.deliveries, List.nil_append]
    refine List.filterMap_eq_nil_iff.2 fun ev hev => ?_
    have hcalm := hevs ev hev
    cases ev with
    | deliver => exact absurd hcalm id
    | _ => rfl
  · obtain ⟨y, hy, hsame⟩ := hq.retained p hp hd
    exact h.queued y hy (hsame.isData hd)
  · rw [hlog, List.mem_append] at hp
    rcases hp with hold | hnew
    · exact h.told p hold
    · obtain ⟨hack, hretained⟩ := hevs _ hnew
      refine ⟨fun hd => ?_, fun hackbit => ?_⟩
      · obtain ⟨y, hy, hsame⟩ := hretained hd
        exact h.queued y hy (hsame.isData hd)
      · exact (hack (ht.told p (hlog ▸ List.mem_append_right _ hnew)).header hackbit).trans h.rcvCur
  · unfold Rdp.WindowFits
    rw [hwin]
    exact h.window

/-- An end that has sent nothing yet offers everything it will send. -/
theorem Begun.offers (h : Begun o iss tm s.world) (huna : s.rdp.sndUna = iss + 1)
    (htask : ∀ p, s.task ≠ .sendWait p) (got : Finset ℕ) : Offers e iss s got := by
  refine ⟨⟨?_, fun p hp hd => absurd hd (h.queued p hp), fun p hp hd =>
    absurd hd (h.told p hp).1⟩, fun p hp => absurd hp (htask p), ⟨0, Nat.zero_le _, ?_⟩,
    fun j hj => ?_, ⟨?_, fun p hp => absurd hp (htask p)⟩⟩
  · rw [h.accepted]
    exact h.sndNxt.trans (BitVec.add_zero _).symm
  · exact huna.trans (BitVec.add_zero _).symm
  · rw [h.accepted] at hj
    exact absurd hj (Nat.not_lt_zero j)
  · rw [h.accepted]
    exact Nat.zero_le _

/-- An end that has got nothing yet has gathered nothing. -/
theorem Begun.gathers (h : Begun f.host irs ⟨iss, opts⟩ r.world) (hst : r.rdp.state.Opened)
    (msgs : List (List U8)) : Gathers f iss irs opts msgs ∅ r := by
  have hnone : ∀ s, s ∉ r.rdp.storedSeqs f.host := fun s hs => h.truthful.stored s hs
  have hempty : r.rdp.rxQueue.items = [] :=
    List.map_eq_nil_iff.1 (List.eq_nil_iff_forall_not_mem.2 hnone)
  refine ⟨⟨⟨fun p hp => ?_, .inl ?_, h.user⟩, ⟨hst, ⟨?_, ?_, ?_⟩, h.user, ?_⟩,
    reordered_nil hempty, h.window, fun j hj => absurd hj (Finset.notMem_empty j), ?_,
    fun j _ _ => iff_of_false (Finset.notMem_empty j) (hnone _)⟩,
    h.truthful.mono fun _ hs => hs.elim⟩
  · exact absurd (List.mem_map_of_mem hp) (hnone _)
  · unfold delivered
    rw [h.deliveries]
    rfl
  · rw [h.deliveries]
    rfl
  · rw [h.deliveries]
    exact h.rcvCur.trans (BitVec.add_zero _).symm
  · intro pre p post hlog _ hack
    have hbefore := h.deliveries
    rw [hlog, deliveries_append, List.append_eq_nil_iff] at hbefore
    rw [hbefore.1]
    have hp : Event.transmit p ∈ r.world.log := by
      rw [hlog]
      exact List.mem_append_right _ List.mem_cons_self
    exact ((h.told p hp).2 hack).trans (BitVec.add_zero _).symm
  · show (r.rdp.rxQueue.items.map (hostSeq f.host)).Nodup
    rw [hempty]
    exact List.nodup_nil
  · rw [firstMissing_empty]
    exact h.rcvCur.trans (BitVec.add_zero _).symm

end Begun

/-- Both ends have just become open, and agree on where their numbers start. -/
structure Established (env : Side → Env) (n : Net) : Prop where
  justOpen : ∀ x, JustOpen (env x).host (n.ends x)
  irs : ∀ x, (n.ends x).rdp.rcvIrs = (n.ends x.other).rdp.sndIss
  sndNxt : ∀ x, (n.ends x).rdp.sndNxt = (n.ends x).rdp.sndIss + 1
  sndUna : ∀ x, (n.ends x).rdp.sndUna = (n.ends x).rdp.sndIss + 1
  txQueue : ∀ x, ∀ p ∈ (n.ends x).rdp.txQueue.items,
    ¬ IsData p ∧ Plain (n.ends x).rdp.sndIss p
  rxQueue : ∀ x, (n.ends x).rdp.rxQueue.items = []
  window : ∀ x, (n.ends x).rdp.WindowFits
  task : ∀ x p, (n.ends x).task ≠ .sendWait p

/-- Both directions. -/
def Net.Flows (env : Side → Env) (iss : Side → U16) (opts : Side → RdpOptions) (n : Net) : Prop :=
  ∀ x, ∃ got, Flow (env x) (env x.other) (iss x) (iss x.other) (opts x.other) (n.ends x)
    (n.ends x.other) got

/-- Each end of an established connection begins so. -/
theorem Established.begun {env : Side → Env} {n : Net} (h : Established env n) (x : Side) :
    Begun (env x).host (n.ends x).rdp.sndIss
      ⟨(n.ends x.other).rdp.sndIss, (n.ends x).rdp.terms.opts⟩ (n.ends x).world := by
  have hlog := (h.justOpen x).log
  have hnone : ∀ p, Event.transmit p ∉ (n.ends x).world.log := fun p hp => by
    rw [hlog] at hp
    exact List.not_mem_nil hp
  refine ⟨⟨congrArg (Terms.mk · _) (h.irs x), fun s hs => ?_, fun p hp => (h.txQueue x p hp).2,
    fun p hp => absurd hp (hnone p)⟩, by rw [hlog]; rfl, by rw [hlog]; rfl, h.sndNxt x,
    (h.justOpen x).rcvCur.trans (h.irs x), fun p hp => (h.txQueue x p hp).1,
    fun p hp => absurd hp (hnone p), (h.justOpen x).user, h.window x⟩
  obtain ⟨y, hy, -⟩ := List.mem_map.1 hs
  have hempty := h.rxQueue x
  change y ∈ (n.ends x).rdp.rxQueue.items at hy
  rw [hempty] at hy
  exact List.not_mem_nil hy

/-- **An established connection flows in both directions**, with nothing received. -/
theorem Established.flows {env : Side → Env} {n : Net} (h : Established env n) :
    n.Flows env (fun x => (n.ends x).rdp.sndIss) fun x => (n.ends x).rdp.terms.opts := by
  intro x
  have hother := h.begun x.other
  rw [Side.other_other] at hother
  exact ⟨∅, (h.begun x).offers (h.sndUna x) (h.task x) ∅,
    hother.gathers (.inl (h.justOpen x.other).state) _⟩

/-- **A step keeps both directions**: the end that moves is the sender of the one and the receiver
of the other. -/
theorem Net.Flows.step {env : Side → Env} {iss : Side → U16} {opts : Side → RdpOptions}
    {n m : Net} {i : Side × Input} (h : n.Flows env iss opts) (hi : Exchanged env n i)
    (hst : n.step env i = some m) (hlt : ∀ x, (m.messages x).length < 2 ^ 15) :
    m.Flows env iss opts := by
  obtain ⟨a, inp⟩ := i
  obtain ⟨hopen, hconv⟩ := hi
  obtain ⟨s, hs, rfl⟩ := Option.map_eq_some_iff.1 hst
  have hother : (Function.update n.ends a s) a.other = n.ends a.other :=
    Function.update_of_ne a.other_ne _ _
  obtain ⟨got, hforth⟩ := h a
  obtain ⟨got', hback⟩ := h a.other
  rw [Side.other_other] at hback
  intro x
  rcases x.eq_or a with rfl | rfl
  · have hlt' := hlt x
    simp only [Net.messages, Function.update_self] at hlt'
    refine ⟨got, ?_⟩
    simp only [Function.update_self, hother]
    exact hforth.sends hback (hopen x) hconv hs hlt'
  · have hlt' := hlt a.other
    simp only [Net.messages, hother] at hlt'
    obtain ⟨got'', -, hflow, -⟩ := hback.receives hforth (hopen a) hconv hs hlt'
    refine ⟨got'', ?_⟩
    simp only [Function.update_self, Side.other_other, hother]
    exact hflow

/-- Neither window changes. -/
theorem Net.step_windowSize {env : Side → Env} {n m : Net} {i : Side × Input}
    (hi : Exchanged env n i) (hst : n.step env i = some m) (x : Side) :
    (m.ends x).rdp.windowSize = (n.ends x).rdp.windowSize := by
  obtain ⟨a, inp⟩ := i
  obtain ⟨hopen, hconv⟩ := hi
  obtain ⟨s, hs, rfl⟩ := Option.map_eq_some_iff.1 hst
  rcases eq_or_ne x a with rfl | hx
  · simp only [Function.update_self]
    exact LibCSP.step_windowSize (hopen x) hconv.ongoing hs
  · simp only [Function.update_of_ne hx]

/-- Fewer messages were accepted before than afterwards. -/
theorem Net.messages_lt {n m : Net} {b : ℕ}
    (hmore : ∀ x, ∃ more, m.messages x = n.messages x ++ more)
    (hlt : ∀ x, (m.messages x).length < b) (x : Side) : (n.messages x).length < b := by
  obtain ⟨more, hx⟩ := hmore x
  have hlong := hlt x
  rw [hx, List.length_append] at hlong
  omega

/-- In a run the messages grow at their ends. -/
theorem Net.run_messages {env : Side → Env} {n m : Net} {is : List (Side × Input)}
    (hu : ∀ x, (n.ends x).world.conn.UserOk)
    (hrun : Run (fun n i => n.step env i) (Exchanged env) n is m) :
    (∀ x, (m.ends x).world.conn.UserOk) ∧ ∀ x, ∃ more, m.messages x = n.messages x ++ more := by
  refine hrun.invariant (P := fun m => (∀ x, (m.ends x).world.conn.UserOk) ∧
    ∀ x, ∃ more, m.messages x = n.messages x ++ more) (fun t i u ht hi hst => ?_)
    ⟨hu, fun x => ⟨[], (List.append_nil _).symm⟩⟩
  obtain ⟨hu', hmore'⟩ := Net.step_messages ht.1 hi.admitted hst
  refine ⟨hu', fun x => ?_⟩
  obtain ⟨more, hmore⟩ := ht.2 x
  obtain ⟨last, hlast⟩ := hmore' x
  exact ⟨more ++ last, by rw [hlast, hmore, List.append_assoc]⟩

/-- **Every run keeps both directions**, as long as neither end sends 2¹⁵ messages. -/
theorem Established.run {env : Side → Env} {n m : Net} {is : List (Side × Input)}
    (h : Established env n) (hrun : Run (fun n i => n.step env i) (Exchanged env) n is m)
    (hlt : ∀ x, (m.messages x).length < 2 ^ 15) :
    m.Flows env (fun x => (n.ends x).rdp.sndIss) fun x => (n.ends x).rdp.terms.opts := by
  induction hrun with
  | nil => exact h.flows
  | @snoc is t u i hrun hi hst ih =>
    obtain ⟨hu, -⟩ := Net.run_messages (fun y => (h.justOpen y).user) hrun
    obtain ⟨-, hmore⟩ := Net.step_messages hu hi.admitted hst
    exact (ih (Net.messages_lt hmore hlt)).step hi hst hlt

instance (p q : CspPacket) : Decidable (Copy p q) :=
  decidable_of_iff (p.length = q.length ∧ ∀ i < q.length.toNat, p.data i = q.data i)
    ⟨fun h => ⟨h.1, h.2⟩, fun h => ⟨h.length, h.data⟩⟩

/-- The event is the transmission of what arrives as `p`. -/
def Event.brings (p : CspPacket) : Event → Bool
  | .transmit q => Copy p q
  | _ => false

instance (p : CspPacket) (log : List Event) :
    Decidable (∃ q, Event.transmit q ∈ log ∧ Copy p q) :=
  decidable_of_iff (log.any (Event.brings p) = true) <| by
    rw [List.any_eq_true]
    constructor
    · rintro ⟨ev, hev, hbrings⟩
      cases ev with
      | transmit q => exact ⟨q, hev, of_decide_eq_true hbrings⟩
      | _ => exact absurd hbrings Bool.false_ne_true
    · rintro ⟨q, hq, hcopy⟩
      exact ⟨_, hq, decide_eq_true hcopy⟩

instance (e : Env) (far near : Endpoint) (i : Input) : Decidable (Conveyed e far near i) :=
  match i with
  | .packet p => decidable_of_iff (((rxHeader e.host p).rst = false ∧
      ∃ q, Event.transmit q ∈ far.world.log ∧ Copy p q) ∧ (IsData p → Fits e near.world p))
    ⟨fun h => ⟨rfl, fun _ hp => Input.packet.inj hp ▸ h.1, fun _ hp => Input.packet.inj hp ▸ h.2,
      fun _ hp => (nomatch hp)⟩, fun h => ⟨h.copy p rfl, h.fits p rfl⟩⟩
  | .send p => decidable_of_iff (p.length.toNat + 5 < 2 ^ 16)
    ⟨fun h => ⟨rfl, fun _ hp => (nomatch hp), fun _ hp => (nomatch hp),
      fun _ hp => Input.send.inj hp ▸ h⟩, fun h => h.room p rfl⟩
  | .connect => isFalse fun h => absurd h.ongoing (by decide)
  | .checkTimeouts | .checkAck | .read | .sendWake | .sendTimeout | .connectWake
  | .connectTimeout | .close => isTrue ⟨rfl, fun _ hp => (nomatch hp), fun _ hp => (nomatch hp),
      fun _ hp => (nomatch hp)⟩

instance (env : Side → Env) (n : Net) (i : Side × Input) : Decidable (Exchanged env n i) :=
  decidable_of_iff (((n.ends .near).rdp.state = .rdpOpen ∧ (n.ends .far).rdp.state = .rdpOpen) ∧
      Conveyed (env i.1) (n.ends i.1.other) (n.ends i.1) i.2) <|
    and_congr_left fun _ => ⟨fun h x => by cases x; exacts [h.1, h.2], fun h => ⟨h _, h _⟩⟩

end LibCSP
