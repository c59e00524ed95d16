/-
# The segments of the handshake

Until its connection is open an end transmits one segment only, over and over: the active end its
SYN, with the options of the connection, and the passive end its SYN/ACK.  `Greets g p` says that
`p` is this segment, and `Greeting g c tm w` that the end has transmitted and retains nothing else,
was given nothing, and keeps its control fields and its terms.  Every call that does not open the
connection keeps this, or closes it (`Greeting.step`).

The options are the same on every machine: six words in network byte order
(`bytes_synOptions`, `hton32_data32_word`).
-/

import LibCSP.Rdp.Lossless

namespace LibCSP

open Basis

/-! ### The options on the wire -/

/-- The options in the order of `csp_rdp_send_syn`. -/
def RdpOptions.words (opts : RdpOptions) : List U32 :=
  [opts.windowSize, opts.connTimeout, opts.packetTimeout, opts.delayedAcks, opts.ackTimeout,
    opts.ackDelayCount]

/-- A word in network byte order. -/
def netBytes (x : U32) : List U8 := [byteOf x 3, byteOf x 2, byteOf x 1, byteOf x 0]

def RdpOptions.bytes (opts : RdpOptions) : List U8 := opts.words.flatMap netBytes

/-- Storing a converted word leaves the other ones. -/
theorem data_setData32 (o : ByteOrder) (p : CspPacket) {k k' j : ℕ} (x : U32) (hj : j < 4) :
    (p.setData32 o k (hton32 o x)).data (4 * k' + j) =
      if k' = k then byteOf x (3 - j) else p.data (4 * k' + j) := by
  unfold CspPacket.setData32
  by_cases hk : k' = k
  · subst hk
    simp only [if_true]
    rw [if_pos (by omega), Nat.add_sub_cancel_left, byte32_hton32 o x hj]
  · rw [if_neg hk]
    exact if_neg (by omega)

/-- The packet that `csp_rdp_send_syn` makes of a buffer. -/
def synOptions (e : Env) (p : CspPacket) : CspPacket :=
  let o := e.host
  let p := p.setData32 o 0 (hton32 o e.opts.windowSize)
  let p := p.setData32 o 1 (hton32 o e.opts.connTimeout)
  let p := p.setData32 o 2 (hton32 o e.opts.packetTimeout)
  let p := p.setData32 o 3 (hton32 o e.opts.delayedAcks)
  let p := p.setData32 o 4 (hton32 o e.opts.ackTimeout)
  let p := p.setData32 o 5 (hton32 o e.opts.ackDelayCount)
  { p with length := 6 * 4 }

/-- **On every machine the SYN carries the same bytes.** -/
theorem bytes_synOptions (e : Env) (p : CspPacket) : (synOptions e p).bytes = e.opts.bytes := by
  have hword : ∀ k < 6, ∀ j < 4,
      (synOptions e p).data (4 * k + j) = byteOf (e.opts.words.getD k 0) (3 - j) := by
    intro k hk j hj
    simp only [synOptions, data_setData32 _ _ _ hj]
    interval_cases k <;> rfl
  have hrow : ∀ k < 6, [4 * k, 4 * k + 1, 4 * k + 2, 4 * k + 3].map (synOptions e p).data =
      netBytes (e.opts.words.getD k 0) := fun k hk => by
    have h₀ := hword k hk 0 (by decide)
    have h₁ := hword k hk 1 (by decide)
    have h₂ := hword k hk 2 (by decide)
    have h₃ := hword k hk 3 (by decide)
    simp only [List.map_cons, List.map_nil, h₁, h₂, h₃, netBytes]
    rw [← h₀]
    rfl
  have hrange : List.range 24 =
      (List.range 6).flatMap fun k => [4 * k, 4 * k + 1, 4 * k + 2, 4 * k + 3] := by decide
  show (List.range 24).map (synOptions e p).data = e.opts.bytes
  rw [hrange, List.map_flatMap, List.flatMap_congr fun k hk => hrow k (List.mem_range.1 hk)]
  rfl

/-- **Every machine reads the options that were sent.** -/
theorem hton32_data32_word {o : ByteOrder} {p : CspPacket} {opts : RdpOptions} {k : ℕ}
    (hp : (List.range 24).map p.data = opts.bytes) (hk : k < 6) :
    hton32 o (p.data32 o k) = opts.words.getD k 0 := by
  have hbyte : ∀ i < 24, p.data i = opts.bytes.getD i 0 := fun i hi => by
    rw [← hp, List.getD_eq_getElem _ _ (by rwa [List.length_map, List.length_range]),
      List.getElem_map, List.getElem_range]
  unfold CspPacket.data32
  rw [hton32_load32, hbyte _ (by omega), hbyte _ (by omega), hbyte _ (by omega),
    hbyte _ (by omega)]
  interval_cases k <;> exact word32_byteOf _

/-- **The SYN settles the terms** of the passive end. -/
theorem passiveOpen_terms {e : Env} {h : RdpHeader} {p : CspPacket} {w : World}
    {opts : RdpOptions} (hp : (List.range 24).map p.data = opts.bytes) :
    (passiveOpen e h p w).conn.rdp.terms = ⟨h.seqNr, opts⟩ := by
  have hword : ∀ k < 6, hton32 e.host (p.data32 e.host k) = opts.words.getD k 0 :=
    fun _ hk => hton32_data32_word hp hk
  unfold passiveOpen Rdp.terms
  simp only [hword 0 (by decide), hword 1 (by decide), hword 2 (by decide), hword 3 (by decide),
    hword 4 (by decide), hword 5 (by decide)]
  rfl

/-! ### The one segment -/

/-- What an end transmits until its connection is open. -/
structure Hello where
  flags : RdpFlags
  iss : U16
  irs : U16
  payload : List U8

/-- `p` is this segment; the ACK number counts only with the flag. -/
structure Greets (g : Hello) (p : CspPacket) : Prop where
  header : 5 ≤ p.length.toNat
  flags : (wireHeader p).flags = g.flags.byte
  seqNr : (wireHeader p).seqNr = g.iss
  ackNr : g.flags.ack = true → (wireHeader p).ackNr = g.irs
  payload : rdpPayload p = g.payload

section Segments

variable {g : Hello} {p q : CspPacket}

/-- A greeting is a property of length and data. -/
theorem Greets.of_eq (h : Greets g p) (hl : q.length = p.length) (hd : q.data = p.data) :
    Greets g q := by
  have hwire : wireHeader q = wireHeader p := by rw [wireHeader, wireHeader, hl, hd]
  refine ⟨hl ▸ h.header, hwire ▸ h.flags, hwire ▸ h.seqNr, hwire ▸ h.ackNr, ?_⟩
  rw [rdpPayload, hl, hd]
  exact h.payload

/-- A retransmission refreshes the ACK number. -/
theorem Greets.store {o : ByteOrder} {a : U16} (h : Greets g p)
    (ha : g.flags.ack = true → hton16 o a = g.irs) :
    Greets g (cspRdpHeaderStore o p { cspRdpHeaderRef o p with ackNr := a }) := by
  have hwire := wireHeader_storeAck (o := o) h.header a
  refine ⟨?_, by rw [hwire]; exact h.flags, by rw [hwire]; exact h.seqNr,
    by rw [hwire]; exact ha, (rdpPayload_store h.header _).trans h.payload⟩
  rw [length_headerStore h.header]
  exact h.header

/-- **What is a greeting when it is built.** -/
theorem greets_add {o : ByteOrder} {a : U16} (hp : p.length.toNat + 5 < 2 ^ 16)
    (hpay : p.bytes = g.payload) (ha : g.flags.ack = true → a = g.irs) :
    Greets g (cspRdpHeaderAdd o p ⟨g.flags.byte, hton16 o g.iss, hton16 o a⟩) := by
  refine ⟨?_, by rw [wireHeader_add hp], by rw [wireHeader_add hp],
    by rw [wireHeader_add hp]; exact ha, (rdpPayload_add hp _).trans hpay⟩
  rw [length_headerAdd hp]
  exact Nat.le_add_left 5 _

/-- The flags of a greeting on the wire. -/
theorem Greets.bits (h : Greets g p) : (wireHeader p).rst = g.flags.rst ∧
    (wireHeader p).eak = g.flags.eak ∧ (wireHeader p).ack = g.flags.ack ∧
      (wireHeader p).syn = g.flags.syn := by
  have hbits := g.flags.bits (wireHeader p).seqNr (wireHeader p).ackNr
  have hheader : wireHeader p =
      ⟨g.flags.byte, (wireHeader p).seqNr, (wireHeader p).ackNr⟩ := by rw [← h.flags]
  rw [hheader]
  exact hbits

/-- A SYN is no data. -/
theorem Greets.plain (h : Greets g p) (hsyn : g.flags.syn = true) (heak : g.flags.eak = false) :
    ¬ IsData p ∧ Plain g.iss p := by
  obtain ⟨-, heakbit, -, hsynbit⟩ := h.bits
  refine ⟨fun hd => ?_, ⟨h.header, fun _ => h.seqNr, fun hnot => ?_⟩, fun _ => ?_⟩
  · exact absurd (hd.2.1.symm.trans (hsynbit.trans hsyn)) Bool.false_ne_true
  · exact absurd (hnot.symm.trans (hsynbit.trans hsyn)) Bool.false_ne_true
  · exact heakbit.trans heak

end Segments

/-- The event transmits only this segment, and concerns no data. -/
def Event.Greets (g : Hello) : Event → Prop
  | .transmit p => LibCSP.Greets g p
  | .deliver _ _ => False
  | .sent _ => False
  | _ => True

/-- An end that is not open yet. -/
structure Greeting (g : Hello) (c : Control) (tm : Terms) (w : World) : Prop where
  queued : ∀ x ∈ w.conn.rdp.txQueue.items, Greets g x
  events : ∀ ev ∈ w.log, ev.Greets g
  stored : w.conn.rdp.rxQueue.items = []
  current : w.conn.rdp.rcvLsa = w.conn.rdp.rcvCur
  acks : g.flags.ack = true → w.conn.rdp.rcvCur = g.irs
  user : w.conn.UserOk
  control : w.control = c
  terms : w.conn.rdp.terms = tm

namespace Greeting

variable {g : Hello} {c : Control} {tm : Terms} {e : Env} {w w' : World} {p : CspPacket}

/-- In the handshake nothing was accepted from the user. -/
theorem accepted (h : Greeting g c tm w) : accepted w.log = [] :=
  List.filterMap_eq_nil_iff.2 fun ev hev => by
    have hgreets := h.events ev hev
    cases ev with
    | sent => exact absurd hgreets id
    | _ => rfl

/-- And nothing was delivered. -/
theorem deliveries (h : Greeting g c tm w) : deliveries w.log = [] :=
  List.filterMap_eq_nil_iff.2 fun ev hev => by
    have hgreets := h.events ev hev
    cases ev with
    | deliver => exact absurd hgreets id
    | _ => rfl

/-- The RDP state stays. -/
theorem of_rdp {evs : List Event} (h : Greeting g c tm w) (hr : w'.conn.rdp = w.conn.rdp)
    (hu : w'.conn.UserOk) (hl : w'.log = w.log ++ evs) (hevs : ∀ ev ∈ evs, ev.Greets g) :
    Greeting g c tm w' := by
  have hcontrol : w'.control = w.control := by unfold World.control; rw [hr]
  refine ⟨by rw [hr]; exact h.queued, fun ev hev => ?_, by rw [hr]; exact h.stored,
    by rw [hr]; exact h.current, by rw [hr]; exact h.acks, hu, hcontrol.trans h.control,
    by rw [hr]; exact h.terms⟩
  rw [hl, List.mem_append] at hev
  exact hev.elim (h.events ev) (hevs ev)

/-- The clock makes no difference. -/
theorem next (h : Greeting g c tm w) : Greeting g c tm w.next :=
  h.of_rdp rfl h.user (List.append_nil _).symm fun _ hev => absurd hev List.not_mem_nil

/-- A greeting that is sent, or an event that sends nothing. -/
theorem emit {ev : Event} (h : Greeting g c tm w) (hev : ev.Greets g) :
    Greeting g c tm (w.emit ev) :=
  h.of_rdp rfl h.user rfl fun _ hmem => List.mem_singleton.1 hmem ▸ hev

/-- A release sends nothing. -/
theorem free (h : Greeting g c tm w) (p : CspPacket) : Greeting g c tm (w.free p) :=
  h.emit (show Event.Greets g (.free p.buf) from trivial)

/-- An allocation sends nothing. -/
theorem alloc (h : Greeting g c tm w) (buf : ℕ) : Greeting g c tm (w.next.emit (.alloc buf)) :=
  h.next.emit (show Event.Greets g (.alloc buf) from trivial)

/-! ### Sending the segment -/

/-- A greeting that is sent at once. -/
theorem sendNow {a : U16} (h : Greeting g c tm w) (hp : Greets g p)
    (ha : g.flags.ack = true → a = g.irs) :
    Greeting g c tm (cspRdpSendNow e p g.flags a w).2 := by
  have hsent : Greeting g c tm (w.next.emit (.transmit { p with id := w.conn.idout })) :=
    h.next.emit (show Greets g _ from hp.of_eq rfl rfl)
  rcases cspRdpSendNow_cases e p g.flags a w with ⟨-, hack, now, hw⟩ | ⟨-, -, hw⟩ | ⟨-, hw⟩
  · rw [hw]
    exact ⟨hsent.queued, hsent.events, hsent.stored, (ha hack).trans (hsent.acks hack).symm,
      hsent.acks, hsent.user, hsent.control, hsent.terms⟩
  · rw [hw]
    exact hsent
  · rw [hw]
    exact h.next.free p

/-- A greeting that is kept in `tx_queue`. -/
theorem retain (h : Greeting g c tm w) (hp : Greets g p) :
    Greeting g c tm (cspRdpRetain p w) := by
  unfold cspRdpRetain
  cases hq : w.conn.rdp.txQueue.enqueue p with
  | none => exact h.free p
  | some q =>
    obtain ⟨-, hitems⟩ := Queue.enqueue_eq_some.1 hq
    refine ⟨fun x hx => ?_, h.events, h.stored, h.current, h.acks, h.user, h.control, h.terms⟩
    change x ∈ q.items at hx
    rw [hitems, List.mem_append, List.mem_singleton] at hx
    rcases hx with hx | rfl
    · exact h.queued x hx
    · exact hp

/-- A greeting that is built, kept and sent. -/
theorem sendPacket {a : U16} (h : Greeting g c tm w) (hp : p.length.toNat + 5 < 2 ^ 16)
    (hpay : p.bytes = g.payload) (ha : g.flags.ack = true → a = g.irs) :
    Greeting g c tm (cspRdpSendPacket e p g.flags g.iss a w).2 := by
  have hgreets : Greets g (cspRdpHeaderAdd e.host p
      ⟨g.flags.byte, hton16 e.host g.iss, hton16 e.host a⟩) := greets_add hp hpay ha
  rcases cspRdpSendPacket_cases e p g.flags g.iss a w with hb | ⟨tx, rfl, hb | ⟨buf, t, hb⟩⟩
  · rw [hb]
    exact h.next
  · rw [hb]
    exact h.sendNow hgreets ha
  · rw [hb]
    refine Greeting.sendNow ((h.alloc buf).next.retain ?_) hgreets ha
    exact hgreets.of_eq rfl rfl

/-- **The SYN/ACK**, which is empty. -/
theorem sendCmp {a : U16} (h : Greeting g c tm w) (hpay : g.payload = [])
    (ha : g.flags.ack = true → a = g.irs) :
    Greeting g c tm (cspRdpSendCmp e none g.flags g.iss a w).2 := by
  rcases cspRdpSendCmp_none_cases e g.flags g.iss a w with hb | ⟨b, hb⟩
  · rw [hb]
    exact h.next
  · rw [hb]
    exact (h.alloc b.buf).sendPacket (Nat.lt_of_sub_eq_succ rfl) hpay.symm ha

/-! ### Timers and the user -/

/-- An element of `tx_queue` is sent again, freed or left: always as the greeting it is. -/
theorem timeoutEntry (h : Greeting g c tm w) (hp : Greets g p) (now : U32) :
    Greeting g c tm (timeoutEntry e now w p).1 ∧
      ∀ y, (LibCSP.timeoutEntry e now w p).2 = some y → Greets g y := by
  unfold LibCSP.timeoutEntry
  simp only
  split
  · exact ⟨h.free p, fun y hy => absurd hy.symm (Option.some_ne_none y)⟩
  · split
    · have hstore := hp.store (o := e.host) (a := hton16 e.host w.conn.rdp.rcvCur) fun hack =>
        (hton16_hton16 e.host _).trans (h.acks hack)
      refine ⟨?_, fun y hy => ?_⟩
      · generalize cspRdpHeaderStore e.host p _ = x at hstore ⊢
        rcases cspBufferClone_cases e { x with timestamp := (cspGetMs e w).1 } (cspGetMs e w).2 with
          hb | ⟨buf, hb⟩
        · rw [hb]
          exact h.next.next
        · rw [hb]
          rcases cspRdpRetransmit_cases e { x with
              buf := buf, timestamp := (cspGetMs e w).1 } ((cspGetMs e w).2.next.emit (.alloc buf))
            with ⟨-, hw⟩ | ⟨-, hw⟩
          · simp only [hw]
            exact (h.next.alloc buf).next.emit (show Greets g _ from hstore.of_eq rfl rfl)
          · simp only [hw]
            exact (h.next.alloc buf).next.free _
      · obtain rfl := Option.some.inj hy
        exact hstore.of_eq rfl rfl
    · refine ⟨h, fun y hy => ?_⟩
      obtain rfl := Option.some.inj hy
      exact hp

/-- The message loop sends greetings only. -/
theorem checkMessages (h : Greeting g c tm w) (now : U32) :
    Greeting g c tm (cspRdpCheckMessages e now w) := by
  obtain ⟨hstate, hitems⟩ := Queue.sweep_size (LibCSP.timeoutEntry e now) w w.conn.rdp.txQueue
  obtain ⟨hworld, hkept⟩ := Queue.sweepList_invariant
    (fun v x hx (hv : Greeting g c tm v) => hv.timeoutEntry (e := e) (h.queued x hx) now) h
  rw [← hstate] at hworld
  rw [← hitems] at hkept
  exact ⟨hkept, hworld.events, hworld.stored, hworld.current, hworld.acks, hworld.user,
    hworld.control, hworld.terms⟩

/-- There is nothing to acknowledge. -/
theorem checkAck (h : Greeting g c tm w) : cspRdpCheckAck e w = w := by
  unfold cspRdpCheckAck
  rw [if_neg (not_not.2 h.current)]

/-- `csp_close` leaves the handshake, or only empties the user's queues. -/
theorem close (h : Greeting g c tm w) (hst : c.state = .rdpSynSent ∨ c.state = .rdpSynRcvd) :
    (cspClose e w).2.conn.rdp.state = .rdpCloseWait ∨ Greeting g c tm (cspClose e w).2 := by
  have hstate : w.conn.rdp.state = c.state := congrArg Control.state h.control
  have hclosed : w.conn.rdp.state ≠ .rdpClosed := by
    rw [hstate]
    rcases hst with hst | hst <;> rw [hst] <;> decide
  have hwait : w.conn.rdp.state ≠ .rdpCloseWait := by
    rw [hstate]
    rcases hst with hst | hst <;> rw [hst] <;> decide
  rcases cspClose_live e hclosed hwait with heq | heq | heq | heq <;> rw [heq]
  · exact .inr h
  · have hsend := cspRdpSendCmp_none_sends e .rstAck (enterCloseWait e w).conn.rdp.sndNxt
      (enterCloseWait e w).conn.rdp.rcvCur (enterCloseWait e w)
    exact .inl (congrArg Control.state hsend.control)
  · exact .inr h.next
  · refine .inr (h.of_rdp rfl ((cspConnFlushRxQueue_closes _).user h.user) rfl fun ev hev => ?_)
    obtain ⟨k, -, hev⟩ := List.mem_flatMap.1 hev
    obtain ⟨p, -, rfl⟩ := List.mem_map.1 hev
    trivial

/-- **A look at the timeouts** ends the handshake, or sends greetings again. -/
theorem checkTimeouts (h : Greeting g c tm w)
    (hst : c.state = .rdpSynSent ∨ c.state = .rdpSynRcvd) :
    (cspRdpCheckTimeouts e w).conn.rdp.state = .rdpCloseWait ∨
      Greeting g c tm (cspRdpCheckTimeouts e w) := by
  have hwake : ∀ v, Greeting g c tm v → cspRdpWake v = v := fun v hv => by
    have hstate : v.conn.rdp.state = c.state := congrArg Control.state hv.control
    unfold cspRdpWake
    refine if_neg fun hwoken => ?_
    rw [hstate] at hwoken
    rcases hst with hst | hst <;> rw [hst] at hwoken <;> exact absurd hwoken.1 (by decide)
  have hstate : w.next.conn.rdp.state = c.state := congrArg Control.state h.control
  unfold cspRdpCheckTimeouts
  simp only
  split
  · exact h.next.close hst
  · split
    · rename_i hwait
      have hclosed : c.state = .rdpCloseWait := hstate.symm.trans hwait
      rcases hst with hst | hst <;> exact absurd (hst.symm.trans hclosed) (by decide)
    · have hloop := h.next.checkMessages (e := e) (cspGetMs e w).1
      right
      simp only [cspGetMs] at hloop ⊢
      rw [hloop.checkAck, hwake _ hloop]
      exact hloop

/-- A call of `csp_read` sends nothing. -/
theorem read (h : Greeting g c tm w) : Greeting g c tm (cspRead e w).2 := by
  have huser := (cspRead_calm e w).1.user h.user
  revert huser
  unfold cspRead
  split
  · exact fun _ => h
  · split
    · exact fun _ => h
    · rename_i ev _
      obtain ⟨q, hq⟩ := readPacket_world { w with conn.rxEvent := ev }
      have hcheck : cspRdpCheckAck e { w with conn.rxEvent := ev, conn.rxQueue := q } =
          { w with conn.rxEvent := ev, conn.rxQueue := q } := by
        unfold cspRdpCheckAck
        exact if_neg (not_not.2 h.current)
      intro huser
      simp only [hq, hcheck, ite_self] at huser ⊢
      exact h.of_rdp rfl huser (List.append_nil _).symm fun _ hev => absurd hev List.not_mem_nil

/-- **The SYN**, with the options of the connection. -/
theorem sendSyn (h : Greeting g c tm w) (hf : g.flags = .synOnly) (hiss : g.iss = c.sndIss)
    (hpay : g.payload = e.opts.bytes) : Greeting g c tm (cspRdpSendSyn e w).2 := by
  unfold cspRdpSendSyn
  rcases cspBufferGet_cases e w with hb | ⟨b, hb⟩
  · rw [hb]
    exact h.next
  · rw [hb]
    have halloc : Greeting g c tm (w.next.emit (.alloc b.buf)) := h.alloc b.buf
    have hsnd : (w.next.emit (.alloc b.buf)).conn.rdp.sndIss = g.iss :=
      (congrArg Control.sndIss halloc.control).trans hiss.symm
    have hsyn := halloc.sendPacket (e := e) (p := synOptions e b) (a := 0)
      (show (24 : U16).toNat + 5 < 2 ^ 16 by decide) ((bytes_synOptions e b).trans hpay.symm)
      fun hack => by rw [hf] at hack; cases hack
    rw [hf, ← hsnd] at hsyn
    exact hsyn

/-- **Every call but a packet** keeps the handshake, or ends it. -/
theorem step {s t : Endpoint} {i : Input} (h : Greeting g c tm s.world)
    (hst : c.state = .rdpSynSent ∨ c.state = .rdpSynRcvd) (htask : ∀ p, s.task ≠ .sendWait p)
    (hpost : ∀ retry, s.task = .connectWait retry → c.txWait = false)
    (hi : i.isConnect = false) (hp : ∀ p, i ≠ .packet p) (hstep : LibCSP.step e s i = some t)
    (hopen : t.rdp.state ≠ .rdpCloseWait) : Greeting g c tm t.world ∧ t.task = s.task := by
  obtain ⟨w, task⟩ := s
  cases step_stepped hstep with
  | packet _ p => exact absurd rfl (hp p)
  | checkTimeouts => exact ⟨(h.checkTimeouts hst).resolve_left hopen, rfl⟩
  | checkAck => exact ⟨h.checkAck (e := e) ▸ h, rfl⟩
  | read => exact ⟨h.read, rfl⟩
  | close => exact ⟨(h.close hst).resolve_left hopen, rfl⟩
  | send p =>
    have hstate : w.conn.rdp.state ≠ .rdpOpen := by
      rw [show w.conn.rdp.state = c.state from congrArg Control.state h.control]
      rcases hst with hst | hst <;> rw [hst] <;> decide
    unfold sendEnter
    rw [if_pos (.inr hstate)]
    exact ⟨h, rfl⟩
  | sendWake p => exact absurd rfl (htask p)
  | sendTimeout p => exact absurd rfl (htask p)
  | connect => exact absurd hi (by decide)
  | connectWake retry hwoken =>
    have hwait : w.conn.rdp.txWait = c.txWait := congrArg Control.txWait h.control
    rw [hwait, hpost retry rfl] at hwoken
    exact absurd hwoken Bool.false_ne_true
  | connectTimeout => exact absurd rfl hopen

/-- **The end of the handshake**: nothing but the control fields and the terms has changed. -/
theorem begun {o : ByteOrder} {tm' : Terms} (h : Greeting g c tm w) (hl : w'.log = w.log)
    (ht : w'.conn.rdp.txQueue = w.conn.rdp.txQueue) (hr : w'.conn.rdp.rxQueue = w.conn.rdp.rxQueue)
    (hnxt : w'.conn.rdp.sndNxt = g.iss + 1) (hcur : w'.conn.rdp.rcvCur = tm'.irs)
    (htm : w'.conn.rdp.terms = tm') (hirs : g.flags.ack = true → g.irs = tm'.irs)
    (hu : w'.conn.UserOk) (hwin : w'.conn.rdp.WindowFits) (hsyn : g.flags.syn = true)
    (heak : g.flags.eak = false) : Begun o g.iss tm' w' := by
  have htold : ∀ p, Event.transmit p ∈ w'.log → Greets g p := fun p hp => by
    rw [hl] at hp
    exact h.events _ hp
  have hqueued : ∀ p ∈ w'.conn.rdp.txQueue.items, Greets g p := fun p hp => by
    rw [ht] at hp
    exact h.queued p hp
  refine ⟨⟨htm, fun s hs => ?_, fun p hp => ((hqueued p hp).plain hsyn heak).2,
    fun p hp => ((htold p hp).plain hsyn heak).2.tells _⟩, hl ▸ h.accepted, hl ▸ h.deliveries,
    hnxt, hcur, fun p hp => ((hqueued p hp).plain hsyn heak).1, fun p hp =>
    ⟨((htold p hp).plain hsyn heak).1, fun hack => ?_⟩, hu, hwin⟩
  · rw [Rdp.storedSeqs, hr, h.stored] at hs
    exact absurd hs List.not_mem_nil
  · rw [(htold p hp).bits.2.2.1] at hack
    exact ((htold p hp).ackNr hack).trans (hirs hack)

end Greeting

end LibCSP
