/-
# What does not move a sequence number

Most of `csp_rdp.c` sends acknowledgements, retransmits, frees and closes.
None of that delivers data, takes a message from the user or moves `rcv_cur`
and `snd_nxt`, and it transmits only two kinds of packets: control packets, and
copies of what is in the retransmit queue.  `Calm w w'` says so about the two
worlds before and after, `Quiet w w'` adds that the state, the send window and
the semaphore are untouched as well.  Both compose (`Calm.trans`,
`Quiet.trans`), so a function is calm because the functions it calls are.

An acknowledgement on the wire always names the present `rcv_cur`; this is the
first half of `CalmEvent`.
-/

import Mathlib.Algebra.BigOperators.Fin
import LibCSP.Rdp.Endpoint

namespace LibCSP

open Basis

/-! ### Segments -/

/-- A packet in wire order that a receiver may take as data. -/
def IsData (p : CspPacket) : Prop :=
  sizeofRdpHeader < p.length.toNat ∧ (wireHeader p).syn = false ∧ (wireHeader p).rst = false ∧
    (wireHeader p).eak = false

instance (p : CspPacket) : Decidable (IsData p) := inferInstanceAs (Decidable (_ ∧ _))

/-- Copies of one segment: the ACK number, the identifier and the timestamps
may differ. -/
structure SameSegment (x y : CspPacket) : Prop where
  length : x.length = y.length
  flags : (wireHeader x).flags = (wireHeader y).flags
  seqNr : (wireHeader x).seqNr = (wireHeader y).seqNr
  payload : rdpPayload x = rdpPayload y

/-- A packet is the same segment as itself. -/
theorem SameSegment.refl (x : CspPacket) : SameSegment x x := ⟨rfl, rfl, rfl, rfl⟩

/-- The same segment as a third one. -/
theorem SameSegment.trans {x y z : CspPacket} (h₁ : SameSegment x y) (h₂ : SameSegment y z) :
    SameSegment x z :=
  ⟨h₁.1.trans h₂.1, h₁.2.trans h₂.2, h₁.3.trans h₂.3, h₁.4.trans h₂.4⟩

/-- It has data if the other one has. -/
theorem SameSegment.isData {x y : CspPacket} (h : SameSegment x y) (hy : IsData y) : IsData x := by
  unfold IsData RdpHeader.syn RdpHeader.rst RdpHeader.eak at hy ⊢
  rwa [h.length, h.flags]

/-- The length field survives an assignment to the header's numbers, also when
the header lies in front of the data. -/
theorem length_headerStore_flags (o : ByteOrder) (p : CspPacket) (s a : U16) :
    (cspRdpHeaderStore o p ⟨(cspRdpHeaderRef o p).flags, s, a⟩).length = p.length := by
  by_cases h : 5 ≤ p.length.toNat
  · exact length_headerStore h _
  · have hlow : ∀ k, k < 2 → (if p.length.toNat + 1 ≤ k ∧ k < p.length.toNat + 6 then
        RdpHeader.byte o ⟨(cspRdpHeaderRef o p).flags, s, a⟩ (k - (p.length.toNat + 1))
        else p.mem o k) = p.mem o k := fun k hk => by
      by_cases hc : p.length.toNat + 1 ≤ k ∧ k < p.length.toNat + 6
      · -- the flag byte is the only header byte that can lie here
        have hk1 : k = 1 := by omega
        have hl : p.length.toNat = 0 := by omega
        rw [if_pos hc, hk1, hl]
        show p.mem o (p.length.toNat + 1 + 0) = _
        rw [hl]
      · rw [if_neg hc]
    rw [cspRdpHeaderStore, CspPacket.ofMem, hlow 0 (by omega), hlow 1 (by omega)]
    exact load16_byte16 o p.length

/-- Changing only the ACK number leaves a copy of the same segment. -/
theorem sameSegment_store {o : ByteOrder} {x : CspPacket} (a : U16)
    (hx : sizeofRdpHeader < x.length.toNat) :
    SameSegment x (cspRdpHeaderStore o x { cspRdpHeaderRef o x with ackNr := a }) := by
  have hx : 5 ≤ x.length.toNat := by
    unfold sizeofRdpHeader at hx
    omega
  have hl := length_headerStore (o := o) hx { cspRdpHeaderRef o x with ackNr := a }
  have hr := cspRdpHeaderRef_store (o := o) hx { cspRdpHeaderRef o x with ackNr := a }
  obtain ⟨f₁, s₁, -⟩ := hton16_headerRef (o := o) hx
  obtain ⟨f₂, s₂, -⟩ := hton16_headerRef (o := o)
    (p := cspRdpHeaderStore o x { cspRdpHeaderRef o x with ackNr := a }) (by rwa [hl])
  rw [hr] at f₂ s₂
  exact ⟨hl.symm, f₁.symm.trans f₂, s₁.symm.trans s₂, (rdpPayload_store hx _).symm⟩

/-- The header that `csp_rdp_send_cmp` and `csp_rdp_send` put on the wire. -/
theorem wireHeader_add {o : ByteOrder} {p : CspPacket} (hp : p.length.toNat + 5 < 2 ^ 16)
    (f : U8) (s a : U16) :
    wireHeader (cspRdpHeaderAdd o p ⟨f, hton16 o s, hton16 o a⟩) = ⟨f, s, a⟩ := by
  have hl := length_headerAdd (o := o) hp ⟨f, hton16 o s, hton16 o a⟩
  have h := hton16_headerRef (o := o) (p := cspRdpHeaderAdd o p ⟨f, hton16 o s, hton16 o a⟩)
    (by omega)
  rw [cspRdpHeaderRef_add hp, hton16_hton16, hton16_hton16] at h
  obtain ⟨h₁, h₂, h₃⟩ := h
  generalize wireHeader _ = v at h₁ h₂ h₃
  obtain ⟨_, _, _⟩ := v
  exact RdpHeader.mk.injEq .. ▸ ⟨h₁.symm, h₂.symm, h₃.symm⟩

/-- A packet with the same length and data is a copy of the same segment. -/
theorem sameSegment_of_eq {x y : CspPacket} (hl : x.length = y.length) (hd : x.data = y.data) :
    SameSegment x y := by
  have hw : wireHeader x = wireHeader y := by rw [wireHeader, wireHeader, hl, hd]
  exact ⟨hl, by rw [hw], by rw [hw], by rw [rdpPayload, rdpPayload, hl, hd]⟩

/-- The identifier is not part of the segment. -/
theorem sameSegment_id (x : CspPacket) (id : CspId) : SameSegment x { x with id := id } :=
  ⟨rfl, rfl, rfl, rfl⟩

/-! ### The user's receive queues -/

/-- `rx_event` has one event for each packet in the receive queues. -/
def Conn.UserOk (c : Conn) : Prop := c.rxEvent.size = ∑ prio, (c.rxQueue prio).size

/-! ### Calm and quiet calls -/

/-- The fields of `csp_rdp_t` that steer it. -/
structure Control where
  state : RdpState
  sndNxt : U16
  sndUna : U16
  sndIss : U16
  windowSize : U32
  txWait : Bool
  deriving DecidableEq

/-- The control fields of a connection. -/
def World.control (w : World) : Control :=
  { state := w.conn.rdp.state
    sndNxt := w.conn.rdp.sndNxt
    sndUna := w.conn.rdp.sndUna
    sndIss := w.conn.rdp.sndIss
    windowSize := w.conn.rdp.windowSize
    txWait := w.conn.rdp.txWait }

/-- What a connection holds for its user. -/
structure Inbound where
  rcvCur : U16
  rcvIrs : U16
  reorder : Queue CspPacket (cspRdpMaxWindow * 2)
  rxQueue : Fin cspPriorities → Queue CspPacket cspRxQueueLength
  rxEvent : Queue Unit cspConnQueueLength
  rxSocket : Option ℕ

/-- The receiving half of a connection. -/
def World.inbound (w : World) : Inbound :=
  { rcvCur := w.conn.rdp.rcvCur
    rcvIrs := w.conn.rdp.rcvIrs
    reorder := w.conn.rdp.rxQueue
    rxQueue := w.conn.rxQueue
    rxEvent := w.conn.rxEvent
    rxSocket := w.conn.rxSocket }

/-- If `x` is data, the retransmit queue of `w` holds this segment. -/
def Retained (w : World) (x : CspPacket) : Prop :=
  IsData x → ∃ y ∈ w.conn.rdp.txQueue.items, SameSegment y x

/-- The events of a call that moves no sequence number. -/
def CalmEvent (w : World) : Event → Prop
  | .transmit p =>
    (5 ≤ p.length.toNat → (wireHeader p).ack = true → (wireHeader p).ackNr = w.conn.rdp.rcvCur) ∧
      Retained w p
  | .free _ => True
  | .alloc _ => True
  | .accept _ => True
  | .deliver _ _ => False
  | .sent _ => False

structure Calm (w w' : World) : Prop where
  rcvCur : w'.conn.rdp.rcvCur = w.conn.rdp.rcvCur
  sndNxt : w'.conn.rdp.sndNxt = w.conn.rdp.sndNxt
  stored : w'.conn.rdp.rxQueue.items.Subperm w.conn.rdp.rxQueue.items
  retained : ∀ x ∈ w'.conn.rdp.txQueue.items, Retained w x
  user : w.conn.UserOk → w'.conn.UserOk
  log : ∃ evs, w'.log = w.log ++ evs ∧ ∀ ev ∈ evs, CalmEvent w ev

structure Quiet (w w' : World) : Prop extends Calm w w' where
  control : w'.control = w.control
  inbound : w'.inbound = w.inbound

/-- An element of `tx_queue` is one that is retained. -/
theorem Retained.refl {w : World} {x : CspPacket} (h : x ∈ w.conn.rdp.txQueue.items) :
    Retained w x := fun _ => ⟨x, h, .refl x⟩

/-- So is a packet that, if it has data, is the same segment. -/
theorem Retained.of_same {w : World} {x y : CspPacket} (hx : Retained w x)
    (h : IsData y → SameSegment x y) : Retained w y := fun hy => by
  obtain ⟨z, hz, hzx⟩ := hx ((h hy).isData hy)
  exact ⟨z, hz, hzx.trans (h hy)⟩

/-- What a calm call retains was retained before. -/
theorem Calm.retained_of {w w' : World} (h : Calm w w') {x : CspPacket} (hx : Retained w' x) :
    Retained w x := fun hd => by
  obtain ⟨y, hy, hyx⟩ := hx hd
  obtain ⟨z, hz, hzy⟩ := h.retained y hy (hyx.isData hd)
  exact ⟨z, hz, hzy.trans hyx⟩

/-- What is calm afterwards was calm before. -/
theorem Calm.event {w w' : World} (h : Calm w w') {ev : Event} (hev : CalmEvent w' ev) :
    CalmEvent w ev := by
  cases ev with
  | transmit p => exact ⟨fun hl ha => (hev.1 hl ha).trans h.rcvCur, h.retained_of hev.2⟩
  | _ => exact hev

/-- Nothing happens. -/
theorem Calm.refl (w : World) : Calm w w :=
  ⟨rfl, rfl, .refl _, fun _ h => .refl h, id, [], (List.append_nil _).symm, by simp⟩

/-- Two calm calls, one after the other. -/
theorem Calm.trans {w w' w'' : World} (h₁ : Calm w w') (h₂ : Calm w' w'') : Calm w w'' where
  rcvCur := h₂.rcvCur.trans h₁.rcvCur
  sndNxt := h₂.sndNxt.trans h₁.sndNxt
  stored := h₂.stored.trans h₁.stored
  retained := fun x hx => h₁.retained_of (h₂.retained x hx)
  user := h₂.user ∘ h₁.user
  log := by
    obtain ⟨evs₁, e₁, hevs₁⟩ := h₁.log
    obtain ⟨evs₂, e₂, hevs₂⟩ := h₂.log
    refine ⟨evs₁ ++ evs₂, by rw [e₂, e₁, List.append_assoc], fun ev hev => ?_⟩
    rcases List.mem_append.1 hev with hev | hev
    · exact hevs₁ ev hev
    · exact h₁.event (hevs₂ ev hev)

/-- Nothing happens. -/
theorem Quiet.refl (w : World) : Quiet w w := ⟨.refl w, rfl, rfl⟩

/-- Two quiet calls, one after the other. -/
theorem Quiet.trans {w w' w'' : World} (h₁ : Quiet w w') (h₂ : Quiet w' w'') : Quiet w w'' :=
  ⟨h₁.toCalm.trans h₂.toCalm, h₂.control.trans h₁.control, h₂.inbound.trans h₁.inbound⟩

/-- The user's queues stay in order where they stay the same. -/
theorem userOk_of_inbound {w w' : World} (hi : w'.inbound = w.inbound) (h : w.conn.UserOk) :
    w'.conn.UserOk := by
  have h₁ : w'.conn.rxEvent = w.conn.rxEvent := congrArg Inbound.rxEvent hi
  have h₂ : w'.conn.rxQueue = w.conn.rxQueue := congrArg Inbound.rxQueue hi
  rwa [Conn.UserOk, h₁, h₂]

/-- A quiet call is one that leaves the two halves alone, puts nothing new into
the retransmit queue and has only calm events. -/
theorem Quiet.mk' {w w' : World} (hc : w'.control = w.control) (hi : w'.inbound = w.inbound)
    (ht : ∀ x ∈ w'.conn.rdp.txQueue.items, Retained w x)
    (hl : ∃ evs, w'.log = w.log ++ evs ∧ ∀ ev ∈ evs, CalmEvent w ev) : Quiet w w' where
  rcvCur := congrArg Inbound.rcvCur hi
  sndNxt := congrArg Control.sndNxt hc
  stored := by
    have : w'.conn.rdp.rxQueue = w.conn.rdp.rxQueue := congrArg Inbound.reorder hi
    rw [this]
  retained := ht
  user := userOk_of_inbound hi
  log := hl
  control := hc
  inbound := hi

/-- A world that differs from `w` in nothing that matters here. -/
theorem Quiet.of_eq {w w' : World} (hc : w'.control = w.control) (hi : w'.inbound = w.inbound)
    (ht : w'.conn.rdp.txQueue = w.conn.rdp.txQueue) (hl : w'.log = w.log) : Quiet w w' :=
  .mk' hc hi (fun _ hx => .refl (ht ▸ hx)) ⟨[], by rw [hl, List.append_nil], by simp⟩

/-- The clock changes nothing else. -/
theorem Quiet.next (w : World) : Quiet w w.next := .of_eq rfl rfl rfl rfl

/-- An event that is calm for `w` may follow a quiet call from `w`. -/
theorem Quiet.emit {w w' : World} {ev : Event} (h : Quiet w w') (hev : CalmEvent w ev) :
    Quiet w (w'.emit ev) := by
  obtain ⟨evs, hl, hevs⟩ := h.log
  refine .mk' h.control h.inbound h.retained ⟨evs ++ [ev], ?_, ?_⟩
  · rw [World.emit_log, hl, List.append_assoc]
  · exact List.forall_mem_append.2 ⟨hevs, List.forall_mem_singleton.2 hev⟩

/-- A release only logs. -/
theorem Quiet.free (w : World) (p : CspPacket) : Quiet w (w.free p) :=
  (Quiet.refl w).emit (show CalmEvent w (.free p.buf) from trivial)

/-- An allocation only logs. -/
theorem Quiet.alloc (w : World) (buf : ℕ) : Quiet w (w.next.emit (.alloc buf)) :=
  (Quiet.next w).emit (show CalmEvent w (.alloc buf) from trivial)

/-- A copy allocates, or nothing. -/
theorem cspBufferClone_quiet (e : Env) (p : CspPacket) (w : World) :
    Quiet w (cspBufferClone e p w).2 := by
  rcases cspBufferClone_cases e p w with h | ⟨buf, h⟩
  · rw [h]
    exact .next w
  · rw [h]
    exact .alloc w buf

/-- The retransmit queue may be replaced by one that holds nothing new. -/
theorem Quiet.setTxQueue {w w' : World} (h : Quiet w w')
    {q : Queue CspPacket cspRdpMaxWindow} (hq : ∀ x ∈ q.items, Retained w x) :
    Quiet w { w' with conn.rdp.txQueue := q } := .mk' h.control h.inbound hq h.log

/-! ### Control messages -/

/-- What makes a packet to which `csp_rdp_send_cmp` adds this header a control packet. -/
structure ControlPacket (w : World) (p : CspPacket) (f : RdpFlags) (a : U16) : Prop where
  room : p.length.toNat + 5 < 2 ^ 16
  notData : p.length = 0 ∨ f.syn = true ∨ f.eak = true
  ack : f.ack = true → a = w.conn.rdp.rcvCur

/-- A control packet that is not data and acknowledges `rcv_cur`. -/
structure Acks (w : World) (p : CspPacket) : Prop where
  ack : 5 ≤ p.length.toNat → (wireHeader p).ack = true → (wireHeader p).ackNr = w.conn.rdp.rcvCur
  notData : ¬ IsData p

/-- A control packet may be sent in a calm call. -/
theorem Acks.event {w : World} {p : CspPacket} (h : Acks w p) (id : CspId) :
    CalmEvent w (.transmit { p with id := id }) := ⟨h.ack, fun hd => absurd hd h.notData⟩

/-- What is built without data acknowledges, and carries no data. -/
theorem ControlPacket.acks {w : World} {p : CspPacket} {f : RdpFlags} {a : U16}
    (h : ControlPacket w p f a) (o : ByteOrder) (s : U16) :
    Acks w (cspRdpHeaderAdd o p ⟨f.byte, hton16 o s, hton16 o a⟩) := by
  have hw := wireHeader_add (o := o) h.room f.byte s a
  obtain ⟨-, heak, hack, hsyn⟩ := f.bits s a
  refine ⟨fun _ ha => ?_, fun hd => ?_⟩
  · rw [hw, hack] at ha
    rw [hw]
    exact h.ack ha
  · obtain ⟨h₁, h₂, -, h₄⟩ := hd
    rw [hw, hsyn] at h₂
    rw [hw, heak] at h₄
    rw [length_headerAdd h.room] at h₁
    rcases h.notData with hl | hs | he
    · rw [hl] at h₁
      exact absurd h₁ (by decide)
    · exact Bool.false_ne_true (h₂.symm.trans hs)
    · exact Bool.false_ne_true (h₄.symm.trans he)

/-- Sending it at once is quiet. -/
theorem cspRdpSendNow_quiet {e : Env} {p : CspPacket} {f : RdpFlags} {a : U16} {w : World}
    (hp : Acks w p) : Quiet w (cspRdpSendNow e p f a w).2 := by
  have hsent : Quiet w (w.next.emit (.transmit { p with id := w.conn.idout })) :=
    (Quiet.next w).emit (hp.event w.conn.idout)
  rcases cspRdpSendNow_cases e p f a w with ⟨-, -, now, h⟩ | ⟨-, -, h⟩ | ⟨-, h⟩
  · rw [h]
    exact hsent.trans (.of_eq rfl rfl rfl rfl)
  · rw [h]
    exact hsent
  · rw [h]
    exact (Quiet.next w).trans (.free _ p)

/-- Keeping it for retransmission is quiet. -/
theorem cspRdpRetain_quiet {c : CspPacket} {w : World} (hc : ¬ IsData c) :
    Quiet w (cspRdpRetain c w) := by
  unfold cspRdpRetain
  split
  · exact .free w c
  · rename_i q hq
    obtain ⟨-, hq⟩ := Queue.enqueue_eq_some.1 hq
    refine (Quiet.refl w).setTxQueue fun x hx => ?_
    rw [hq, List.mem_append, List.mem_singleton] at hx
    rcases hx with hx | rfl
    · exact .refl hx
    · exact fun hd => absurd hd hc

/-- Sending and keeping it is quiet. -/
theorem cspRdpSendPacket_quiet {e : Env} {p : CspPacket} {f : RdpFlags} {s a : U16} {w : World}
    (h : ControlPacket w p f a) : Quiet w (cspRdpSendPacket e p f s a w).2 := by
  have hp := h.acks e.host s
  rcases cspRdpSendPacket_cases e p f s a w with h' | ⟨tx, rfl, h' | ⟨buf, t, h'⟩⟩
  · rw [h']
    exact .next w
  · rw [h']
    exact cspRdpSendNow_quiet hp
  · rw [h']
    have hr := ((Quiet.alloc w buf).trans (.next _)).trans (cspRdpRetain_quiet
      (w := (w.next.emit (.alloc buf)).next)
      (c := { cspRdpHeaderAdd e.host p ⟨f.byte, hton16 e.host s, hton16 e.host a⟩ with
        buf := buf, timestamp := t }) hp.notData)
    exact hr.trans (cspRdpSendNow_quiet ⟨by rw [hr.rcvCur]; exact hp.ack, hp.notData⟩)

/-- **`csp_rdp_send_cmp` is quiet** when it acknowledges `rcv_cur` and does not
turn the bytes it is given into data. -/
theorem cspRdpSendCmp_quiet {e : Env} {p : CspPacket} {f : RdpFlags} {s a : U16} {w : World}
    (h : ControlPacket w p f a) : Quiet w (cspRdpSendCmp e (some p) f s a w).2 :=
  cspRdpSendPacket_quiet h

/-- **An empty control message is quiet** when it acknowledges `rcv_cur`. -/
theorem cspRdpSendCmp_none_quiet {e : Env} {f : RdpFlags} {s a : U16} {w : World}
    (h : f.ack = true → a = w.conn.rdp.rcvCur) : Quiet w (cspRdpSendCmp e none f s a w).2 := by
  rcases cspRdpSendCmp_none_cases e f s a w with hb | ⟨b, hb⟩
  · rw [hb]
    exact .next w
  · rw [hb]
    exact (Quiet.alloc w b.buf).trans
      (cspRdpSendPacket_quiet ⟨Nat.lt_of_sub_eq_succ rfl, .inl rfl, h⟩)

/-- A call that only sends: whatever it acknowledges, it leaves both halves alone. -/
structure Sends (w w' : World) : Prop where
  control : w'.control = w.control
  inbound : w'.inbound = w.inbound
  log : ∃ evs, w'.log = w.log ++ evs ∧ ∀ ev ∈ evs, ∀ st p, ev ≠ .deliver st p

/-- Two calls that only send. -/
theorem Sends.trans {w w' w'' : World} (h₁ : Sends w w') (h₂ : Sends w' w'') : Sends w w'' := by
  obtain ⟨evs₁, e₁, hevs₁⟩ := h₁.log
  obtain ⟨evs₂, e₂, hevs₂⟩ := h₂.log
  exact ⟨h₂.control.trans h₁.control, h₂.inbound.trans h₁.inbound, evs₁ ++ evs₂,
    by rw [e₂, e₁, List.append_assoc], List.forall_mem_append.2 ⟨hevs₁, hevs₂⟩⟩

/-- A calm call delivers nothing. -/
theorem Calm.noDeliver {w w' : World} (h : Calm w w') :
    ∃ evs, w'.log = w.log ++ evs ∧ ∀ ev ∈ evs, ∀ st p, ev ≠ .deliver st p := by
  obtain ⟨evs, hl, hevs⟩ := h.log
  refine ⟨evs, hl, ?_⟩
  rintro ev hev st p rfl
  exact hevs _ hev

/-- A quiet call only sends. -/
theorem Quiet.sends {w w' : World} (h : Quiet w w') : Sends w w' :=
  ⟨h.control, h.inbound, h.noDeliver⟩

/-- Sending a packet at once is sending. -/
theorem cspRdpSendNow_sends (e : Env) (p : CspPacket) (f : RdpFlags) (a : U16) (w : World) :
    Sends w (cspRdpSendNow e p f a w).2 := by
  rcases cspRdpSendNow_cases e p f a w with ⟨-, -, now, h⟩ | ⟨-, -, h⟩ | ⟨-, h⟩
  · rw [h]
    exact ⟨rfl, rfl, [.transmit { p with id := w.conn.idout }], rfl, by simp⟩
  · rw [h]
    exact ⟨rfl, rfl, [.transmit { p with id := w.conn.idout }], rfl, by simp⟩
  · rw [h]
    exact ⟨rfl, rfl, [.free p.buf], rfl, by simp⟩

/-- So is keeping it for retransmission. -/
theorem cspRdpRetain_sends (c : CspPacket) (w : World) : Sends w (cspRdpRetain c w) := by
  unfold cspRdpRetain
  split
  · exact ⟨rfl, rfl, [.free c.buf], rfl, by simp⟩
  · exact ⟨rfl, rfl, [], (List.append_nil _).symm, by simp⟩

/-- **`csp_rdp_send_cmp` only sends**, whatever it is asked to acknowledge. -/
theorem cspRdpSendCmp_none_sends (e : Env) (f : RdpFlags) (s a : U16) (w : World) :
    Sends w (cspRdpSendCmp e none f s a w).2 := by
  rcases cspRdpSendCmp_none_cases e f s a w with hb | ⟨b, hb⟩
  · rw [hb]
    exact (Quiet.next w).sends
  · rw [hb]
    refine (Quiet.alloc w b.buf).sends.trans ?_
    rcases cspRdpSendPacket_cases e { b with length := 0 } f s a (w.next.emit (.alloc b.buf))
      with h | ⟨tx, -, h | ⟨buf, t, h⟩⟩
    · simp only [h]
      exact (Quiet.next _).sends
    · simp only [h]
      exact cspRdpSendNow_sends e tx f a _
    · simp only [h]
      exact ((Quiet.alloc _ buf).trans (.next _)).sends.trans
        ((cspRdpRetain_sends _ _).trans (cspRdpSendNow_sends e tx f a _))

/-- Only a SYN is kept for retransmission. -/
theorem cspRdpSendCmp_txQueue {e : Env} {p : Option CspPacket} {f : RdpFlags} {s a : U16}
    {w : World} (hsyn : f.syn = false) :
    (cspRdpSendCmp e p f s a w).2.conn.rdp.txQueue = w.conn.rdp.txQueue := by
  have hpacket : ∀ q v, (cspRdpSendPacket e q f s a v).2.conn.rdp.txQueue =
      v.conn.rdp.txQueue := by
    intro q v
    unfold cspRdpSendPacket
    simp only [hsyn, Bool.false_eq_true, if_false]
    rcases cspRdpSendNow_cases e (cspRdpHeaderAdd e.host q ⟨f.byte, hton16 e.host s,
      hton16 e.host a⟩) f a v with ⟨-, -, now, h⟩ | ⟨-, -, h⟩ | ⟨-, h⟩ <;> rw [h] <;> rfl
  cases p with
  | some p => exact hpacket p w
  | none =>
    rcases cspRdpSendCmp_none_cases e f s a w with hb | ⟨b, hb⟩
    · rw [hb]
      rfl
    · rw [hb]
      exact hpacket _ _

/-! ### EACKs -/

/-- The sweep of `csp_rdp_send_eack` leaves the stored packets where they are. -/
theorem sweepList_eack (o : ByteOrder) (xs : List CspPacket) (eack : CspPacket) :
    Queue.sweepList (fun eack x => (eackEntry o eack x, some x)) eack xs =
      (xs.foldl (eackEntry o) eack, xs) := by
  induction xs generalizing eack with
  | nil => rfl
  | cons x xs ih =>
    rw [Queue.sweepList, ih]
    rfl

/-- The length of the EACK grows by one entry for each stored packet. -/
theorem length_foldl_eackEntry (o : ByteOrder) (xs : List CspPacket) (eack : CspPacket) :
    (xs.foldl (eackEntry o) eack).length = eack.length + BitVec.ofNat 16 (2 * xs.length) := by
  induction xs generalizing eack with
  | nil => exact (BitVec.add_zero _).symm
  | cons x xs ih =>
    rw [List.foldl_cons, ih, List.length_cons]
    show eack.length + 2 + _ = _
    apply BitVec.eq_of_toNat_eq
    simp only [BitVec.toNat_add, BitVec.toNat_ofNat, show (2 : U16).toNat = 2 from rfl]
    omega

/-- **`csp_rdp_send_eack`** gets no buffer, or sends what the stored packets append to it. -/
theorem cspRdpSendEack_cases (e : Env) (w : World) : cspRdpSendEack e w = (.nomem, w.next) ∨
    ∃ b : CspPacket, cspRdpSendEack e w = cspRdpSendCmp e
      (some (w.conn.rdp.rxQueue.items.foldl (eackEntry e.host) { b with length := 0 })) .ackEak
        w.conn.rdp.sndNxt w.conn.rdp.rcvCur (w.next.emit (.alloc b.buf)) := by
  unfold cspRdpSendEack
  rcases cspBufferGet_cases e w with hb | ⟨b, hb⟩
  · rw [hb]
    exact .inl rfl
  · refine .inr ⟨b, ?_⟩
    obtain ⟨h₁, h₂⟩ := Queue.sweep_size (fun eack x => (eackEntry e.host eack x, some x))
      { b with length := 0 } w.conn.rdp.rxQueue
    rw [sweepList_eack] at h₁ h₂
    have hq := Queue.ext_items h₂
    rw [hb]
    simp only [World.emit_conn, World.next_conn]
    generalize Queue.sweep _ _ _ _ = r at h₁ hq ⊢
    rw [h₁, hq]
    rfl

/-- **`csp_rdp_send_eack` is quiet**. -/
theorem cspRdpSendEack_quiet (e : Env) (w : World) : Quiet w (cspRdpSendEack e w).2 := by
  rcases cspRdpSendEack_cases e w with hb | ⟨b, hb⟩
  · rw [hb]
    exact .next w
  · have hlen : (w.conn.rdp.rxQueue.items.foldl (eackEntry e.host)
        { b with length := 0 }).length.toNat + 5 < 2 ^ 16 := by
      have hcap := w.conn.rdp.rxQueue.le
      unfold cspRdpMaxWindow at hcap
      rw [length_foldl_eackEntry, BitVec.toNat_add, BitVec.toNat_ofNat]
      show (0 + _) % _ + 5 < _
      omega
    rw [hb]
    exact (Quiet.alloc w b.buf).trans
      (cspRdpSendCmp_quiet ⟨hlen, .inr (.inr rfl), fun _ => rfl⟩)

/-- `csp_rdp_send_syn` is quiet. -/
theorem cspRdpSendSyn_quiet (e : Env) (w : World) : Quiet w (cspRdpSendSyn e w).2 := by
  unfold cspRdpSendSyn
  rcases cspBufferGet_cases e w with hb | ⟨b, hb⟩
  · rw [hb]
    exact .next w
  · rw [hb]
    exact (Quiet.alloc w b.buf).trans (cspRdpSendCmp_quiet
      ⟨Nat.lt_of_sub_eq_succ rfl, .inr (.inl rfl), fun h => absurd h Bool.false_ne_true⟩)

/-! ### Acknowledgements -/

/-- The question whether to acknowledge changes the times only. -/
theorem cspRdpShouldAck_quiet (e : Env) (w : World) : Quiet w (cspRdpShouldAck e w).2 := by
  unfold cspRdpShouldAck
  split
  · exact .refl w
  · exact .next w

/-- The plain ACK after `csp_rdp_should_ack`, in `csp_rdp_check_ack` and in the data path. -/
theorem ackIfShould_quiet (e : Env) (w : World) :
    Quiet w (if (cspRdpShouldAck e w).1 then
        (cspRdpSendCmp e none .ackOnly (cspRdpShouldAck e w).2.conn.rdp.sndNxt
          (cspRdpShouldAck e w).2.conn.rdp.rcvCur (cspRdpShouldAck e w).2).2
      else (cspRdpShouldAck e w).2) := by
  have h := cspRdpShouldAck_quiet e w
  split
  · exact h.trans (cspRdpSendCmp_none_quiet fun _ => rfl)
  · exact h

/-- **`csp_rdp_check_ack` is quiet.** -/
theorem cspRdpCheckAck_quiet (e : Env) (w : World) : Quiet w (cspRdpCheckAck e w) := by
  unfold cspRdpCheckAck
  split
  · split
    · exact ackIfShould_quiet e w
    · exact .refl w
  · exact .refl w

/-- The answer to a data packet is quiet. -/
theorem dataAck_quiet (e : Env) (p : CspPacket) (w : World) : Quiet w (dataAck e p w) := by
  unfold dataAck
  split
  · exact ackIfShould_quiet e w
  · exact .refl w

/-! ### The two loops over the retransmit queue -/

/-- A round of either loop is quiet and keeps the segment it looks at. -/
structure QuietEntry (w : World) (f : World → CspPacket → World × Option CspPacket) : Prop where
  quiet : ∀ s, ∀ x ∈ w.conn.rdp.txQueue.items, Quiet w s → Quiet w (f s x).1
  same : ∀ s, ∀ x ∈ w.conn.rdp.txQueue.items, ∀ y, (f s x).2 = some y →
    IsData y → SameSegment x y

/-- **A sweep of the retransmit queue by quiet rounds is quiet.** -/
theorem QuietEntry.sweep {w : World} {f : World → CspPacket → World × Option CspPacket}
    (h : QuietEntry w f) {n : ℕ} (hn : n = w.conn.rdp.txQueue.size) :
    Quiet w { (Queue.sweep f n w w.conn.rdp.txQueue).1 with
      conn.rdp.txQueue := (Queue.sweep f n w w.conn.rdp.txQueue).2 } := by
  obtain ⟨h₁, h₂⟩ := Queue.sweep_size f w w.conn.rdp.txQueue
  subst hn
  refine Quiet.setTxQueue ?_ fun y hy => ?_
  · rw [h₁]
    exact Queue.sweepList_state (I := Quiet w) h.quiet (.refl w)
  · rw [h₂] at hy
    refine Queue.mem_sweepList (P := Retained w) (fun s x hx z hz => ?_) y hy
    exact (Retained.refl hx).of_same (h.same s x hx z hz)

/-- One comparison with an entry of an EACK changes the time of the element only. -/
theorem eackCompare_quiet {e : Env} {eack x : CspPacket} {w : World} {s : Bool × CspPacket × World}
    (hs : SameSegment x s.2.1 ∧ Quiet w s.2.2) (j : ℕ) :
    SameSegment x (eackCompare e eack s j).2.1 ∧ Quiet w (eackCompare e eack s j).2.2 := by
  obtain ⟨hx, hw⟩ := hs
  unfold eackCompare
  simp only
  split
  · split
    · exact ⟨hx.trans ⟨rfl, rfl, rfl, rfl⟩, hw.trans (.next _)⟩
    · exact ⟨hx, hw.trans (.next _)⟩
  · exact ⟨hx, hw⟩

/-- So do all of them. -/
theorem eackCompare_foldl_quiet (e : Env) (eack : CspPacket) {x : CspPacket} {w : World}
    (js : List ℕ) {s : Bool × CspPacket × World} (hs : SameSegment x s.2.1 ∧ Quiet w s.2.2) :
    SameSegment x (js.foldl (eackCompare e eack) s).2.1 ∧
      Quiet w (js.foldl (eackCompare e eack) s).2.2 := by
  induction js generalizing s with
  | nil => exact hs
  | cons j js ih => exact ih (eackCompare_quiet hs j)

/-- **`csp_rdp_flush_eack` is quiet.** -/
theorem cspRdpFlushEack_quiet (e : Env) (eack : CspPacket) (w : World) :
    Quiet w (cspRdpFlushEack e eack w) := by
  refine QuietEntry.sweep ⟨fun s x _ hs => ?_, fun s x _ y hy _ => ?_⟩ rfl
  · have h := eackCompare_foldl_quiet e eack
      (List.range ((eack.length.toNat - sizeofRdpHeader) / 2)) (s := (false, x, s)) ⟨.refl x, hs⟩
    unfold flushEackEntry
    simp only
    split
    · exact h.2.trans (.free _ _)
    · exact h.2
  · have h := eackCompare_foldl_quiet e eack
      (List.range ((eack.length.toNat - sizeofRdpHeader) / 2)) (s := (false, x, s))
      ⟨.refl x, .refl s⟩
    unfold flushEackEntry at hy
    simp only at hy
    split at hy
    · exact absurd hy (by simp)
    · obtain rfl := Option.some.inj hy
      exact h.1

/-- A retransmission leaves the connection as it is. -/
theorem cspRdpRetransmit_conn (e : Env) (c : Option CspPacket) (w : World) :
    (cspRdpRetransmit e c w).conn = w.conn := by
  cases c with
  | none => rfl
  | some c => rcases cspRdpRetransmit_cases e c w with ⟨-, h⟩ | ⟨-, h⟩ <;> rw [h] <;> rfl

/-- It is quiet when its packet may be sent. -/
theorem cspRdpRetransmit_quiet {e : Env} {c : Option CspPacket} {w w' : World} (hw : Quiet w w')
    (hc : ∀ p ∈ c, CalmEvent w (.transmit p)) : Quiet w (cspRdpRetransmit e c w') := by
  cases c with
  | none => exact hw
  | some p =>
    have hp := hc p rfl
    rcases cspRdpRetransmit_cases e p w' with ⟨-, h⟩ | ⟨-, h⟩
    · rw [h]
      exact (hw.trans (.next w')).emit ⟨hp.1, hp.2.of_same fun _ => sameSegment_id p _⟩
    · rw [h]
      exact (hw.trans (.next w')).trans (.free _ p)

/-- A retransmission is a copy of the queued segment with the latest ACK number. -/
theorem retransmit_event {o : ByteOrder} {w : World} {x c : CspPacket}
    (hx : x ∈ w.conn.rdp.txQueue.items) (hl : c.length = x.length)
    (hd : c.data = (cspRdpHeaderStore o x
      { cspRdpHeaderRef o x with ackNr := hton16 o w.conn.rdp.rcvCur }).data) :
    SameSegment (cspRdpHeaderStore o x
        { cspRdpHeaderRef o x with ackNr := hton16 o w.conn.rdp.rcvCur }) c ∧
      CalmEvent w (.transmit c) := by
  have hlen := length_headerStore_flags o x (cspRdpHeaderRef o x).seqNr
    (hton16 o w.conn.rdp.rcvCur)
  have hsame := sameSegment_of_eq (hlen.trans hl.symm) hd.symm
  refine ⟨hsame, fun h5 _ => ?_, fun hdata => ?_⟩
  · have hx5 : 5 ≤ x.length.toNat := by rwa [← hl]
    obtain ⟨-, -, ha⟩ := hton16_headerRef (o := o) (p := cspRdpHeaderStore o x
      { cspRdpHeaderRef o x with ackNr := hton16 o w.conn.rdp.rcvCur }) (by rwa [hlen])
    rw [cspRdpHeaderRef_store hx5, hton16_hton16] at ha
    rw [ha, wireHeader, wireHeader, hd, hl, hlen]
  · have hx5 : sizeofRdpHeader < x.length.toNat := hl ▸ hdata.1
    exact ⟨x, hx, (sameSegment_store _ hx5).trans hsame⟩

/-- **The message loop of `csp_rdp_check_timeouts` is quiet.** -/
theorem cspRdpCheckMessages_quiet (e : Env) (now : U32) (w : World) :
    Quiet w (cspRdpCheckMessages e now w) := by
  refine QuietEntry.sweep ⟨fun s x hx hs => ?_, fun s x _ y hy hd => ?_⟩ rfl
  · unfold timeoutEntry
    simp only
    split
    · exact hs.trans (.free s x)
    · split
      · refine cspRdpRetransmit_quiet
          (hs.trans ((Quiet.next s).trans (cspBufferClone_quiet e _ _))) fun c hc => ?_
        obtain ⟨buf, rfl⟩ := mem_bufferClone hc
        refine (retransmit_event (o := e.host) hx ?_ ?_).2
        · exact length_headerStore_flags e.host x _ _
        · rw [← hs.rcvCur]
      · exact hs
  · unfold timeoutEntry at hy
    simp only at hy
    split at hy
    · exact absurd hy (by simp)
    · split at hy
      · obtain rfl := Option.some.inj hy
        refine (sameSegment_store _ ?_).trans (sameSegment_of_eq rfl rfl)
        rw [← length_headerStore_flags e.host x]
        exact hd.1
      · obtain rfl := Option.some.inj hy
        exact .refl x

end LibCSP
