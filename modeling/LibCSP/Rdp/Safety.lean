/-
# Two endpoints and a network

Two endpoints of one connection, each with surroundings of its own, and a
network between them that may lose, duplicate, delay and reorder: a packet an
endpoint receives is a copy of any packet the other one has ever transmitted, or
some packet that is not data (left over from the handshake, say).  Both
directions carry data.

What one side accepts from its user is numbered `iss + 1, iss + 2, …`.  The
sender keeps the correspondence between a number and its message (`Sender`), in
the retransmit queue and in everything it ever transmitted; the receiver keeps
it in the reorder queue, and has delivered a subsequence of the messages up to
`rcv_cur` (`Receiver`).  Fewer than 2¹⁵ messages have different numbers, so
the next number in sequence belongs to the next message and to no earlier one
(`InOrder.next`).  Hence the deliveries are a subsequence of the messages
(`run_safety`).
-/

import LibCSP.Rdp.Delivery
import LibCSP.Rdp.Send

namespace LibCSP

open Basis

/-! ### Messages and deliveries -/

/-- The payloads `csp_rdp_send` has accepted. -/
def accepted (log : List Event) : List (List U8) :=
  log.filterMap fun
    | .sent payload => some payload
    | _ => none

/-- The payloads put into the user's receive queues. -/
def delivered (log : List Event) : List (List U8) := (deliveries log).map CspPacket.bytes

/-- What was accepted in two stretches of the log. -/
theorem accepted_append (l₁ l₂ : List Event) : accepted (l₁ ++ l₂) = accepted l₁ ++ accepted l₂ :=
  List.filterMap_append ..

/-- What was delivered in two stretches of the log. -/
theorem delivered_append (l₁ l₂ : List Event) :
    delivered (l₁ ++ l₂) = delivered l₁ ++ delivered l₂ := by
  unfold delivered
  rw [deliveries_append, List.map_append]

/-- A calm call accepts nothing. -/
theorem accepted_calm {w : World} {evs : List Event} (h : ∀ ev ∈ evs, CalmEvent w ev) :
    accepted evs = [] := by
  refine List.filterMap_eq_nil_iff.2 fun ev hev => ?_
  cases ev with
  | sent _ => exact absurd (h _ hev) id
  | _ => rfl

/-! ### The sender -/

/-- A data packet carries the message of its number. -/
def Carries (iss : U16) (msgs : List (List U8)) (p : CspPacket) : Prop :=
  IsData p → ∃ j, msgs[j]? = some (rdpPayload p) ∧
    (wireHeader p).seqNr = iss + 1 + BitVec.ofNat 16 j

/-- What the same segment carries. -/
theorem Carries.of_same {iss : U16} {msgs : List (List U8)} {p q : CspPacket}
    (h : Carries iss msgs p) (hs : SameSegment p q) : Carries iss msgs q := fun hq => by
  obtain ⟨j, hj, hn⟩ := h (hs.isData hq)
  exact ⟨j, hs.payload ▸ hj, hs.seqNr ▸ hn⟩

/-- A message keeps its number when there are more. -/
theorem Carries.mono {iss : U16} {msgs : List (List U8)} {p : CspPacket} (h : Carries iss msgs p)
    (more : List (List U8)) : Carries iss (msgs ++ more) p := fun hp => by
  obtain ⟨j, hj, hn⟩ := h hp
  obtain ⟨hlt, -⟩ := List.getElem?_eq_some_iff.1 hj
  exact ⟨j, by rw [List.getElem?_append_left hlt, hj], hn⟩

/-- The invariant of a sender whose numbers start behind `iss`. -/
structure Sender (iss : U16) (w : World) : Prop where
  sndNxt : w.conn.rdp.sndNxt = iss + 1 + BitVec.ofNat 16 (accepted w.log).length
  queued : ∀ p ∈ w.conn.rdp.txQueue.items, Carries iss (accepted w.log) p
  transmitted : ∀ p, Event.transmit p ∈ w.log → Carries iss (accepted w.log) p

/-- Nothing the sender's invariant is about has changed, and the user's queues
still agree. -/
structure SameSender (w w' : World) : Prop where
  sndNxt : w'.conn.rdp.sndNxt = w.conn.rdp.sndNxt
  queued : ∀ p ∈ w'.conn.rdp.txQueue.items, Retained w p
  accepted : accepted w'.log = accepted w.log
  transmitted : ∀ p, Event.transmit p ∈ w'.log → Event.transmit p ∈ w.log ∨ Retained w p
  user : w.conn.UserOk → w'.conn.UserOk

/-- A calm call changes nothing for the sender. -/
theorem Calm.sameSender {w w' : World} (h : Calm w w') : SameSender w w' := by
  obtain ⟨evs, hl, hevs⟩ := h.log
  refine ⟨h.sndNxt, h.retained, ?_, fun p hp => ?_, h.user⟩
  · rw [hl, accepted_append, accepted_calm hevs, List.append_nil]
  · rw [hl, List.mem_append] at hp
    rcases hp with hp | hp
    · exact .inl hp
    · exact .inr (hevs _ hp).2

/-- Nor does the delivery of a packet. -/
theorem Handed.sameSender {w w' : World} {p : CspPacket} (h : Handed w p w') : SameSender w w' := by
  refine ⟨by rw [h.rdp], fun q hq => .refl (by rwa [h.rdp] at hq), ?_, fun q hq => .inl ?_,
    fun _ => h.user⟩
  · rw [h.log, accepted_append]
    exact List.append_nil _
  · rw [h.log] at hq
    simpa using hq

/-- The facts that make a call change nothing for the sender. -/
theorem SameSender.of_eq {w w' : World} (hn : w'.conn.rdp.sndNxt = w.conn.rdp.sndNxt)
    (ht : w'.conn.rdp.txQueue = w.conn.rdp.txQueue) (hl : w'.log = w.log)
    (hu : w.conn.UserOk → w'.conn.UserOk) : SameSender w w' :=
  ⟨hn, fun _ hp => .refl (ht ▸ hp), by rw [hl], fun _ hp => .inl (hl ▸ hp), hu⟩

/-- The sender goes on as it was. -/
theorem Sender.same {iss : U16} {w w' : World} (h : Sender iss w) (hw : SameSender w w') :
    Sender iss w' := by
  have hret : ∀ p, Retained w p → Carries iss (accepted w.log) p := fun p hp hd => by
    obtain ⟨y, hy, hs⟩ := hp hd
    exact (h.queued y hy).of_same hs hd
  refine ⟨by rw [hw.sndNxt, hw.accepted]; exact h.sndNxt, fun p hp => ?_, fun p hp => ?_⟩
  · rw [hw.accepted]
    exact hret p (hw.queued p hp)
  · rw [hw.accepted]
    rcases hw.transmitted p hp with hp | hp
    · exact h.transmitted p hp
    · exact hret p hp

/-- One call after the other. -/
theorem SameSender.trans {w w' w'' : World} (h₁ : SameSender w w') (h₂ : SameSender w' w'') :
    SameSender w w'' := by
  have hret : ∀ p, Retained w' p → Retained w p := fun p hp hd => by
    obtain ⟨y, hy, hyp⟩ := hp hd
    obtain ⟨z, hz, hzy⟩ := h₁.queued y hy (hyp.isData hd)
    exact ⟨z, hz, hzy.trans hyp⟩
  refine ⟨h₂.sndNxt.trans h₁.sndNxt, fun p hp => hret p (h₂.queued p hp),
    h₂.accepted.trans h₁.accepted, fun p hp => ?_, h₂.user ∘ h₁.user⟩
  rcases h₂.transmitted p hp with hp | hp
  · exact h₁.transmitted p hp
  · exact .inr (hret p hp)

/-- **The flush of the reorder queue is nothing to the sender.** -/
theorem flushRounds_sameSender (e : Env) (n : ℕ) {w : World} (hu : w.conn.UserOk) :
    SameSender w (flushRounds e n w) := by
  refine (flushRounds_induct (P := fun w' => SameSender w w' ∧ w'.conn.UserOk)
    (fun w₁ w₂ h hr => ?_) n ⟨.of_eq rfl rfl rfl id, hu⟩).1
  obtain ⟨hw, hu₁⟩ := h
  obtain ⟨pre, x, post, q, -, -, -, -, rfl⟩ := flushRound_cases hr
  have hset : SameSender w (w₁.setReorder q) := hw.trans (.of_eq rfl rfl rfl id)
  rcases cspRdpReceiveData_cases (w := w₁.setReorder q) hu₁ e x with
    ⟨-, -, w', hp, -, hh⟩ | ⟨-, hp, -⟩
  · have hdel := hset.trans (hp.toCalm.sameSender.trans hh.sameSender)
    exact ⟨hdel.trans (.of_eq rfl rfl rfl id), hh.user⟩
  · exact ⟨(hset.trans hp.toCalm.sameSender).trans (.of_eq rfl rfl rfl id), hp.user hu₁⟩

/-- **An incoming packet is nothing to the sender.** -/
theorem Received.sameSender {e : Env} {p : CspPacket} {w w' : World} (hr : Received e p w w') :
    SameSender w w' := by
  cases hr with
  | calm hw => exact hw.sameSender
  | @stored w₁ _ q hd h₁ _ _ _ h₂ =>
    have hset : SameSender w (w₁.setReorder q) := h₁.sameSender.trans (.of_eq rfl rfl rfl id)
    exact hset.trans h₂.toCalm.sameSender
  | @accepted w₁ w₂ w₃ w₄ _ _ _ _ _ h₁ _ hp _ hh hq =>
    have h₃ : SameSender w w₃ := (h₁.sameSender.trans hp.toCalm.sameSender).trans hh.sameSender
    have hcur : SameSender w (w₃.setRcvCur (rxHeader e.host p).seqNr) :=
      h₃.trans (.of_eq rfl rfl rfl id)
    have h₄ : SameSender w w₄ := hcur.trans hq.toCalm.sameSender
    exact h₄.trans (flushRounds_sameSender e _ (hq.user hh.user))

/-- A packet of `csp_rdp_send` is data only if its length did not wrap, and then
it carries its message under `snd_nxt`. -/
theorem txPacket_carries {e : Env} {iss : U16} {p c : CspPacket} {w : World} (h : Sender iss w)
    (hl : c.length = (txPacket e p w).length) (hd : c.data = (txPacket e p w).data) :
    Carries iss (accepted w.log ++ [p.bytes]) c := fun hc => by
  have hlen : (txPacket e p w).length = p.length + 5 := rfl
  have hroom : p.length.toNat + 5 < 2 ^ 16 := by
    have hc := hc.1
    rw [hl, hlen, BitVec.toNat_add] at hc
    have := p.length.isLt
    unfold sizeofRdpHeader at hc
    change 5 < (p.length.toNat + 5) % _ at hc
    omega
  have hsame := sameSegment_of_eq hl hd
  refine ⟨(accepted w.log).length, ?_, ?_⟩
  · rw [hsame.payload, txPacket, rdpPayload_add hroom, List.getElem?_concat_length]
  · rw [hsame.seqNr, txPacket, wireHeader_add hroom, h.sndNxt]

/-- Sending accepts one message more, or none. -/
theorem Sending.accepted {e : Env} {p : CspPacket} {w w' : World} (hs : Sending e p w w') :
    w.conn.UserOk → w'.conn.UserOk ∧ ∃ more, accepted w'.log = accepted w.log ++ more := by
  intro hu
  cases hs with
  | refused hq =>
    exact ⟨hq.user hu, [], by rw [hq.toCalm.sameSender.accepted, List.append_nil]⟩
  | sent _ _ _ _ hlog _ hinb =>
    exact ⟨userOk_of_inbound hinb hu, _, by rw [hlog, accepted_append]⟩

/-- **A message taken from the user gets the next number.** -/
theorem Sender.sending {e : Env} {iss : U16} {p : CspPacket} {w w' : World} (h : Sender iss w)
    (hs : Sending e p w w') : Sender iss w' := by
  cases hs with
  | refused hq => exact h.same hq.toCalm.sameSender
  | @sent c evs hq hl hd hevs hlog hcontrol hinb =>
    have hacc : accepted w'.log = accepted w.log ++ [p.bytes] := by
      rw [hlog, accepted_append]
      rcases hevs with rfl | rfl <;> rfl
    refine ⟨?_, fun q hq' => ?_, fun q hq' => ?_⟩
    · rw [hacc, List.length_append, List.length_singleton,
        show w'.conn.rdp.sndNxt = w.conn.rdp.sndNxt + 1 from congrArg Control.sndNxt hcontrol,
        h.sndNxt]
      bv_omega
    · rw [hacc]
      rw [hq, List.mem_append, List.mem_singleton] at hq'
      rcases hq' with hq' | rfl
      · exact (h.queued q hq').mono _
      · exact txPacket_carries h hl hd
    · rw [hacc]
      rw [hlog, List.mem_append, List.mem_cons, List.mem_cons] at hq'
      rcases hq' with hq' | hq' | hq' | hq'
      · exact (h.transmitted q hq').mono _
      · exact nomatch hq'
      · exact nomatch hq'
      · rcases hevs with rfl | rfl
        · exact absurd hq' List.not_mem_nil
        · obtain rfl := Event.transmit.inj (List.mem_singleton.1 hq')
          exact txPacket_carries h rfl rfl

/-! ### The receiver -/

/-- A stored packet is a message under its number. -/
def Stored (o : ByteOrder) (iss : U16) (msgs : List (List U8)) (p : CspPacket) : Prop :=
  5 ≤ p.length.toNat ∧ ∃ j, msgs[j]? = some (rdpPayload p) ∧
    hostSeq o p = iss + 1 + BitVec.ofNat 16 j

/-- What was delivered is a subsequence of the messages up to `rcv_cur`. -/
def InOrder (iss : U16) (msgs : List (List U8)) (cur : U16) (got : List (List U8)) : Prop :=
  got = [] ∨ ∃ j ≤ msgs.length, cur = iss + BitVec.ofNat 16 j ∧ got.Sublist (msgs.take j)

/-- **The next number belongs to the next message**: with fewer than 2¹⁵ messages
a number has one index, so delivering its message keeps the order, and so does
passing over it. -/
theorem InOrder.next {iss cur : U16} {msgs got : List (List U8)} {m : List U8} {j : ℕ}
    (h : InOrder iss msgs cur got) (hlt : msgs.length < 2 ^ 15) (hj : msgs[j]? = some m)
    (hs : cur + 1 = iss + 1 + BitVec.ofNat 16 j) :
    InOrder iss msgs (cur + 1) (got ++ [m]) ∧ InOrder iss msgs (cur + 1) got := by
  obtain ⟨hjlt, hjm⟩ := List.getElem?_eq_some_iff.1 hj
  have hcur : cur + 1 = iss + BitVec.ofNat 16 (j + 1) := by
    rw [hs]
    bv_omega
  have htake : msgs.take (j + 1) = msgs.take j ++ [m] := by
    rw [List.take_add_one, hj]
    rfl
  have hgot : got.Sublist (msgs.take j) := by
    rcases h with rfl | ⟨i, hi, hci, hsub⟩
    · exact List.nil_sublist _
    · have : i = j := by bv_omega
      exact this ▸ hsub
  constructor
  · exact .inr ⟨j + 1, hjlt, hcur, by rw [htake]; exact hgot.append_right [m]⟩
  · exact .inr ⟨j + 1, hjlt, hcur, by rw [htake]; exact hgot.trans (List.sublist_append_left ..)⟩

/-- The invariant of the receiver of these messages. -/
structure Receiver (o : ByteOrder) (iss : U16) (msgs : List (List U8)) (w : World) : Prop where
  stored : ∀ p ∈ w.conn.rdp.rxQueue.items, Stored o iss msgs p
  order : InOrder iss msgs w.conn.rdp.rcvCur (delivered w.log)
  user : w.conn.UserOk

/-- What was received is a prefix still when there are more messages. -/
theorem Receiver.mono {o : ByteOrder} {iss : U16} {msgs : List (List U8)} {w : World}
    (h : Receiver o iss msgs w) (more : List (List U8)) : Receiver o iss (msgs ++ more) w := by
  refine ⟨fun p hp => ?_, ?_, h.user⟩
  · obtain ⟨hl, j, hj, hn⟩ := h.stored p hp
    obtain ⟨hlt, -⟩ := List.getElem?_eq_some_iff.1 hj
    exact ⟨hl, j, by rw [List.getElem?_append_left hlt, hj], hn⟩
  · rcases h.order with he | ⟨j, hj, hc, hsub⟩
    · exact .inl he
    · refine .inr ⟨j, ?_, hc, by rwa [List.take_append_of_le_length hj]⟩
      rw [List.length_append]
      omega

/-- A calm call delivers nothing. -/
theorem delivered_calm {w w' : World} (h : Calm w w') : delivered w'.log = delivered w.log := by
  obtain ⟨evs, hl, hevs⟩ := h.log
  rw [hl, delivered_append, delivered, delivered, deliveries_calm hevs, List.map_nil,
    List.append_nil]

/-- The receiver goes on as it was. -/
theorem Receiver.calm {o : ByteOrder} {iss : U16} {msgs : List (List U8)} {w w' : World}
    (h : Receiver o iss msgs w) (hw : Calm w w') : Receiver o iss msgs w' :=
  ⟨fun p hp => h.stored p (hw.stored.subset hp), by
    rw [hw.rcvCur, delivered_calm hw]; exact h.order, hw.user h.user⟩

/-- **Handing over the next message keeps the order.** -/
theorem Receiver.handed {o : ByteOrder} {iss : U16} {msgs : List (List U8)} {w w' : World}
    {p : CspPacket} (h : Receiver o iss msgs w) (hlt : msgs.length < 2 ^ 15)
    (hp : Stored o iss msgs p) (hs : hostSeq o p = w.conn.rdp.rcvCur + 1)
    (hh : Handed w (cspRdpHeaderRemove p) w') :
    Receiver o iss msgs (w'.setRcvCur (w.conn.rdp.rcvCur + 1)) := by
  obtain ⟨hl, j, hj, hn⟩ := hp
  refine ⟨fun q hq => h.stored q ?_, ?_, hh.user⟩
  · change q ∈ w'.conn.rdp.rxQueue.items at hq
    rwa [hh.rdp] at hq
  · have hd : delivered w'.log = delivered w.log ++ [rdpPayload p] := by
      rw [hh.log, delivered_append, ← bytes_headerRemove hl]
      rfl
    show InOrder iss msgs (w.conn.rdp.rcvCur + 1) (delivered w'.log)
    rw [hd]
    exact (h.order.next hlt hj (hs ▸ hn)).1

/-- Passing over the next message keeps the order. -/
theorem Receiver.skip {o : ByteOrder} {iss : U16} {msgs : List (List U8)} {w : World}
    {p : CspPacket} (h : Receiver o iss msgs w) (hlt : msgs.length < 2 ^ 15)
    (hp : Stored o iss msgs p) (hs : hostSeq o p = w.conn.rdp.rcvCur + 1) :
    Receiver o iss msgs (w.setRcvCur (w.conn.rdp.rcvCur + 1)) := by
  obtain ⟨-, j, hj, hn⟩ := hp
  exact ⟨h.stored, (h.order.next hlt hj (hs ▸ hn)).2, h.user⟩

/-- **The flush keeps the order**, whether a released packet fits or not. -/
theorem Receiver.flush {e : Env} {iss : U16} {msgs : List (List U8)} {w : World}
    (h : Receiver e.host iss msgs w) (hlt : msgs.length < 2 ^ 15) (n : ℕ) :
    Receiver e.host iss msgs (flushRounds e n w) := by
  refine flushRounds_induct (P := Receiver e.host iss msgs) (fun w w' hw hr => ?_) n h
  obtain ⟨pre, x, post, q, hitems, -, hx, hq, rfl⟩ := flushRound_cases hr
  have hsub : ∀ y ∈ q.items, y ∈ w.conn.rdp.rxQueue.items := fun y hy => by
    rw [hq, List.mem_append] at hy
    rw [hitems]
    rcases hy with hy | hy <;> simp [hy]
  have hxs := hw.stored x (by rw [hitems]; simp)
  have hset : Receiver e.host iss msgs (w.setReorder q) :=
    ⟨fun y hy => hw.stored y (hsub y hy), hw.order, hw.user⟩
  rcases cspRdpReceiveData_cases (w := w.setReorder q) hset.user e x with
    ⟨-, -, w₁, hp, -, hh⟩ | ⟨-, hp, -⟩
  · have hw₁ := hset.calm hp.toCalm
    have hcur : w₁.conn.rdp.rcvCur = w.conn.rdp.rcvCur := by rw [hp.rdp]; rfl
    have := hw₁.handed hlt hxs (by rw [hcur]; exact hx) hh
    rwa [show w₁.conn.rdp.rcvCur = (cspRdpReceiveData e x (w.setReorder q)).2.conn.rdp.rcvCur by
      rw [hh.rdp]] at this
  · have hcur : (cspRdpReceiveData e x (w.setReorder q)).2.conn.rdp.rcvCur = w.conn.rdp.rcvCur := by
      rw [hp.rdp]
      rfl
    exact (hset.calm hp.toCalm).skip hlt hxs (by rw [hcur]; exact hx)

/-- **A packet that carries its message keeps the order.** -/
theorem Receiver.received {e : Env} {iss : U16} {msgs : List (List U8)} {p : CspPacket}
    {w w' : World} (h : Receiver e.host iss msgs w) (hlt : msgs.length < 2 ^ 15)
    (hp : Carries iss msgs p) (hr : Received e p w w') : Receiver e.host iss msgs w' := by
  have hrx : IsData p → Stored e.host iss msgs (rxPacket e.host p) := fun hd => by
    obtain ⟨j, hj, hn⟩ := hp hd
    have hl : 5 ≤ p.length.toNat := Nat.le_of_lt hd.1
    refine ⟨by rwa [length_rxPacket], j, ?_, ?_⟩
    · rw [rxPacket, rdpPayload_store hl, hj]
    · rw [hostSeq_rxPacket hl, rxHeader_eq hl, hn]
  cases hr with
  | calm hw => exact h.calm hw
  | @stored w₁ _ q hd h₁ hinb _ hperm h₂ =>
    have hset : Receiver e.host iss msgs (w₁.setReorder q) := by
      refine ⟨fun y hy => ?_, (h.calm h₁).order, (h.calm h₁).user⟩
      rcases List.mem_cons.1 (hperm.subset hy) with rfl | hy
      · exact hrx hd
      · exact h.stored y hy
    exact hset.calm h₂.toCalm
  | @accepted w₁ w₂ w₃ w₄ hd hs _ _ _ h₁ _ hpost _ hh hq =>
    have h₂ := (h.calm h₁).calm hpost.toCalm
    have hcur : w₂.conn.rdp.rcvCur = w.conn.rdp.rcvCur := by rw [hpost.rdp, h₁.rcvCur]
    have hseq := hostSeq_rxPacket (o := e.host) (p := p) (Nat.le_of_lt hd.1)
    have h₃ := h₂.handed hlt (hrx hd) (by rw [hseq, hs, hcur]) hh
    rw [hcur, ← hs] at h₃
    exact (h₃.calm hq.toCalm).flush hlt _

/-! ### Steps of an open endpoint -/

/-- What a step of an open endpoint is. -/
inductive OpenStep (e : Env) (w : World) : Input → World → Prop
  | packet (p : CspPacket) : OpenStep e w (.packet p) (cspRdpNewPacket e p w)
  | calm {i : Input} {w' : World} (h : Calm w w') : OpenStep e w i w'
  | send {i : Input} {p : CspPacket} {w₁ w' : World} (h₁ : Calm w w₁) (hs : Sending e p w₁ w') :
      OpenStep e w i w'

/-- A sender that goes on delivers nothing. -/
theorem txWaitTake_calm (w : World) : Calm w (txWaitTake w) :=
  ⟨rfl, rfl, .refl _, fun _ hx => .refl hx, id, [], (List.append_nil _).symm, by simp⟩

/-- **A step of an open endpoint** takes in a packet, takes a message from the
user, or is calm. -/
theorem open_step {e : Env} {s t : Endpoint} {i : Input} (ho : s.rdp.state = .rdpOpen)
    (hst : step e s i = some t) : OpenStep e s.world i t.world := by
  obtain ⟨w, task⟩ := s
  cases step_stepped hst with
  | packet _ p => exact .packet p
  | checkTimeouts => exact .calm (cspRdpCheckTimeouts_calm e w)
  | checkAck => exact .calm (cspRdpCheckAck_quiet e w).toCalm
  | read => exact .calm (cspRead_calm e w).1
  | close => exact .calm (cspClose_closes e w).toCalm
  | send p =>
    unfold sendEnter
    split
    · exact .calm (.refl w)
    · split
      · exact .calm (txWaitTake_calm w)
      · exact .send (.refl w) (cspSendCommit_sending e p w)
  | sendWake p _ => exact .send (txWaitTake_calm w) (cspSendCommit_sending e p _)
  | sendTimeout p => exact .calm (.refl w)
  | connect =>
    have happly : Calm w (applyOptions e w) :=
      ⟨rfl, rfl, .refl _, fun _ hx => .refl hx, id, [], (List.append_nil _).symm, by simp⟩
    have hdone : cspRdpConnect e w = (some .already, applyOptions e w) := by
      have : (applyOptions e w).conn.rdp.state = .rdpOpen := ho
      simp only [cspRdpConnect, connectRetry, this, if_true]
    rw [hdone]
    exact .calm happly
  | connectWake retry _ =>
    have hdone : cspRdpConnectWoken e retry (txWaitTake w) = (some .none, txWaitTake w) := by
      have : (txWaitTake w).conn.rdp.state = .rdpOpen := ho
      simp only [cspRdpConnectWoken, this]
    rw [hdone]
    exact .calm (txWaitTake_calm w)
  | connectTimeout retry =>
    have hc : Closes w (connectError w).2 := .setState (.inl rfl) rfl rfl rfl rfl
    exact .calm hc.toCalm

/-! ### The network -/

/-- The two ends of a connection. -/
inductive Side
  | near
  | far
  deriving DecidableEq

def Side.other : Side → Side
  | .near => .far
  | .far => .near

/-- The other end of the other end. -/
@[simp] theorem Side.other_other (x : Side) : x.other.other = x := by cases x <;> rfl

/-- There are two ends. -/
theorem Side.other_ne (x : Side) : x.other ≠ x := by cases x <;> decide

/-- Of two ends one is the other's other. -/
theorem Side.eq_or (x y : Side) : x = y ∨ x = y.other := by cases x <;> cases y <;> decide

/-- Both endpoints.  What is in flight is in the logs: a packet once transmitted
may arrive at any time, any number of times. -/
structure Net where
  ends : Side → Endpoint

/-- One call at one end. -/
def Net.step (env : Side → Env) (n : Net) (i : Side × Input) : Option Net :=
  (LibCSP.step (env i.1) (n.ends i.1) i.2).map fun s => ⟨Function.update n.ends i.1 s⟩

/-- `p` as it arrives when `q` was sent: the bytes in use are the same, whatever
the buffer held behind them. -/
structure Copy (p q : CspPacket) : Prop where
  length : p.length = q.length
  data : ∀ i, i < q.length.toNat → p.data i = q.data i

/-- The network brings copies of what the other end transmitted, and packets
that are not data; and neither end closes. -/
def Admitted (n : Net) (i : Side × Input) : Prop :=
  (∀ x, (n.ends x).rdp.state = .rdpOpen) ∧
    ∀ p, i.2 = .packet p → ¬ IsData p ∨
      ∃ q, Event.transmit q ∈ (n.ends i.1.other).world.log ∧ Copy p q

/-- Both ends have just become open: nothing of this connection has been sent or
received but the handshake. -/
structure AfterHandshake (n : Net) : Prop where
  log : ∀ x, (n.ends x).world.log = []
  sndNxt : ∀ x, (n.ends x).rdp.sndNxt = (n.ends x).rdp.sndIss + 1
  txQueue : ∀ x, ∀ p ∈ (n.ends x).rdp.txQueue.items, ¬ IsData p
  rxQueue : ∀ x, (n.ends x).rdp.rxQueue.items = []
  user : ∀ x, (n.ends x).world.conn.UserOk

/-- A copy carries what its packet carries. -/
theorem Copy.carries {iss : U16} {msgs : List (List U8)} {p q : CspPacket} (h : Copy p q)
    (hq : Carries iss msgs q) : Carries iss msgs p := fun hp => by
  have hl : 5 ≤ q.length.toNat := h.length ▸ Nat.le_of_lt hp.1
  have hd : ∀ k, k < 5 → p.data (p.length.toNat - 5 + k) = q.data (q.length.toNat - 5 + k) :=
    fun k hk => by rw [h.length, h.data _ (by omega)]
  have hw : wireHeader p = wireHeader q := by
    simp only [wireHeader, RdpHeader.ofBytes, hd 0 (by omega), hd 1 (by omega), hd 2 (by omega),
      hd 3 (by omega), hd 4 (by omega)]
  have hs : SameSegment q p := ⟨h.length.symm, by rw [hw], by rw [hw],
    (rdpPayload_congr h.length fun i hi => h.data i (by omega)).symm⟩
  exact hq.of_same hs hp

/-- The messages of one side, which the other receives. -/
def Net.messages (n : Net) (x : Side) : List (List U8) := accepted (n.ends x).world.log

/-- The invariant of one direction. -/
structure Link (o : ByteOrder) (iss : U16) (n : Net) (x : Side) : Prop where
  sender : Sender iss (n.ends x).world
  receiver : Receiver o iss (n.messages x) (n.ends x.other).world

/-- **After the handshake** nothing was sent and nothing received. -/
theorem AfterHandshake.link {n : Net} (h : AfterHandshake n) (o : ByteOrder) (x : Side) :
    Link o (n.ends x).rdp.sndIss n x := by
  have hmsgs : accepted (n.ends x).world.log = [] := by rw [h.log x]; rfl
  refine ⟨⟨?_, fun p hp hd => absurd hd (h.txQueue x p hp), fun p hp => ?_⟩,
    ⟨fun p hp => ?_, ?_, ?_⟩⟩
  · rw [hmsgs]
    exact (h.sndNxt x).trans (BitVec.add_zero _).symm
  · rw [h.log x] at hp
    exact absurd hp List.not_mem_nil
  · rw [h.rxQueue x.other] at hp
    exact absurd hp List.not_mem_nil
  · rw [h.log x.other]
    exact .inl rfl
  · exact h.user x.other

/-- What a step takes from the user comes behind the messages so far. -/
theorem OpenStep.accepted {e : Env} {w w' : World} {i : Input} (hst : OpenStep e w i w')
    (ho : w.conn.rdp.state = .rdpOpen) (hu : w.conn.UserOk) :
    w'.conn.UserOk ∧ ∃ more, accepted w'.log = accepted w.log ++ more := by
  have hsame : ∀ {w' : World}, SameSender w w' →
      w'.conn.UserOk ∧ ∃ more, LibCSP.accepted w'.log = LibCSP.accepted w.log ++ more := fun hw =>
    ⟨hw.user hu, [], by rw [hw.accepted, List.append_nil]⟩
  cases hst with
  | packet p => exact hsame (cspRdpNewPacket_received hu (.inl ho)).sameSender
  | calm hc => exact hsame hc.sameSender
  | send h₁ hs =>
    rw [← h₁.sameSender.accepted]
    exact hs.accepted (h₁.user hu)

/-- **A step at the sending end keeps the sender's invariant.** -/
theorem Sender.step {e : Env} {iss : U16} {w w' : World} {i : Input} (h : Sender iss w)
    (hu : w.conn.UserOk) (ho : w.conn.rdp.state = .rdpOpen) (hst : OpenStep e w i w') :
    Sender iss w' := by
  cases hst with
  | packet p => exact h.same (cspRdpNewPacket_received hu (.inl ho)).sameSender
  | calm hc => exact h.same hc.sameSender
  | send h₁ hs => exact (h.same h₁.sameSender).sending hs

/-- What one end takes from its user is nothing to what it receives. -/
theorem Receiver.sending {e : Env} {o : ByteOrder} {iss : U16} {msgs : List (List U8)}
    {p : CspPacket} {w w' : World} (h : Receiver o iss msgs w) (hs : Sending e p w w') :
    Receiver o iss msgs w' := by
  cases hs with
  | refused hq => exact h.calm hq.toCalm
  | @sent c evs _ _ _ hevs hlog _ hinb =>
    have hcur : w'.conn.rdp.rcvCur = w.conn.rdp.rcvCur := congrArg Inbound.rcvCur hinb
    have hrx : w'.conn.rdp.rxQueue = w.conn.rdp.rxQueue := congrArg Inbound.reorder hinb
    have hdel : delivered w'.log = delivered w.log := by
      rw [hlog, delivered_append]
      rcases hevs with rfl | rfl <;> exact List.append_nil _
    exact ⟨fun y hy => h.stored y (hrx ▸ hy), by rw [hcur, hdel]; exact h.order,
      userOk_of_inbound hinb h.user⟩

/-- **A step at the receiving end** keeps the order, when the data packet it takes
in carries its message. -/
theorem Receiver.step {e : Env} {iss : U16} {msgs : List (List U8)} {w w' : World} {i : Input}
    (h : Receiver e.host iss msgs w) (hlt : msgs.length < 2 ^ 15)
    (ho : w.conn.rdp.state = .rdpOpen) (hp : ∀ p, i = .packet p → Carries iss msgs p)
    (hst : OpenStep e w i w') : Receiver e.host iss msgs w' := by
  cases hst with
  | packet p => exact h.received hlt (hp p rfl) (cspRdpNewPacket_received h.user (.inl ho))
  | calm hc => exact h.calm hc
  | send h₁ hs => exact (h.calm h₁).sending hs

/-- A step of the network is a step at one end, and the other one stays. -/
theorem Net.step_eq {env : Side → Env} {n m : Net} {a : Side} {i : Input}
    (hst : n.step env (a, i) = some m) (ho : (n.ends a).rdp.state = .rdpOpen) :
    ∃ s, OpenStep (env a) (n.ends a).world i s.world ∧ m = ⟨Function.update n.ends a s⟩ := by
  obtain ⟨s, hs, rfl⟩ := Option.map_eq_some_iff.1 hst
  exact ⟨s, open_step ho hs, rfl⟩

/-- The messages grow at their ends, and the user's queues keep agreeing. -/
theorem Net.step_messages {env : Side → Env} {n m : Net} {i : Side × Input}
    (hu : ∀ x, (n.ends x).world.conn.UserOk) (hi : Admitted n i) (hst : n.step env i = some m) :
    (∀ x, (m.ends x).world.conn.UserOk) ∧ ∀ x, ∃ more, m.messages x = n.messages x ++ more := by
  obtain ⟨a, inp⟩ := i
  obtain ⟨s, hmove, rfl⟩ := Net.step_eq hst (hi.1 a)
  obtain ⟨hus, hmore⟩ := hmove.accepted (hi.1 a) (hu a)
  refine ⟨fun x => ?_, fun x => ?_⟩ <;> rcases eq_or_ne x a with rfl | hx
  · simpa [Function.update_self] using hus
  · simpa [Function.update_of_ne hx] using hu x
  · simpa [Net.messages, Function.update_self] using hmore
  · exact ⟨[], by simp [Net.messages, Function.update_of_ne hx]⟩

/-- **A step of one end keeps both directions**: the end that moves is the sender
of the one and the receiver of the other. -/
theorem Link.step {env : Side → Env} {iss : Side → U16} {n m : Net} {i : Side × Input}
    (h : ∀ x, Link (env x.other).host (iss x) n x) (hlt : ∀ x, (n.messages x).length < 2 ^ 15)
    (hi : Admitted n i) (hst : n.step env i = some m) (x : Side) :
    Link (env x.other).host (iss x) m x := by
  obtain ⟨a, inp⟩ := i
  obtain ⟨hopen, hpacket⟩ := hi
  obtain ⟨s, hmove, rfl⟩ := Net.step_eq hst (hopen a)
  have hu : (n.ends a).world.conn.UserOk := by
    have := (h a.other).receiver.user
    rwa [Side.other_other] at this
  rcases x.eq_or a with rfl | rfl
  · obtain ⟨-, more, hmore⟩ := hmove.accepted (hopen x) hu
    have hsend := (h x).sender.step hu (hopen x) hmove
    have hrecv := (h x).receiver.mono more
    constructor
    · simpa [Function.update_self] using hsend
    · simpa [Net.messages, Function.update_self, Function.update_of_ne x.other_ne, hmore]
        using hrecv
  · obtain ⟨hs, hr⟩ := h a.other
    rw [Side.other_other] at hr ⊢
    have hrecv := hr.step (hlt a.other) (hopen a) (fun p hp => ?_) hmove
    · constructor
      · simpa [Function.update_of_ne a.other_ne] using hs
      · simpa [Net.messages, Function.update_self, Function.update_of_ne a.other_ne] using hrecv
    · rcases hpacket p hp with hd | ⟨q, hq, hcopy⟩
      · exact fun hd' => absurd hd' hd
      · exact hcopy.carries (hs.transmitted q hq)

/-- **Two-party safety.**  Over every run of two open endpoints and a network that
loses, duplicates, delays and reorders, in which neither side sends 2¹⁵
messages, what either user was given is a subsequence of what the other one
sent: nothing invented, nothing twice, nothing out of order. -/
theorem run_safety {env : Side → Env} {n m : Net} {is : List (Side × Input)}
    (h : AfterHandshake n) (hrun : Run (fun n i => n.step env i) Admitted n is m)
    (hlt : ∀ x, (m.messages x).length < 2 ^ 15) (x : Side) :
    (delivered (m.ends x.other).world.log).Sublist (m.messages x) := by
  let P (m : Net) : Prop := (∀ x, (m.ends x).world.conn.UserOk) ∧
    ((∀ x, (m.messages x).length < 2 ^ 15) →
      ∀ x, Link (env x.other).host (n.ends x).rdp.sndIss m x)
  have hinv : P m := by
    refine hrun.invariant (fun t i u ht hi hst => ?_) ⟨h.user, fun _ x => h.link _ x⟩
    obtain ⟨hu, hlink⟩ := ht
    obtain ⟨hu', hmore⟩ := Net.step_messages hu hi hst
    refine ⟨hu', fun hlt => ?_⟩
    have hlt' : ∀ x, (t.messages x).length < 2 ^ 15 := fun x => by
      obtain ⟨more, hx⟩ := hmore x
      have := hlt x
      rw [hx, List.length_append] at this
      omega
    exact Link.step (hlink hlt') hlt' hi hst
  rcases (hinv.2 hlt x).receiver.order with hnil | ⟨j, -, -, hsub⟩
  · rw [hnil]
    exact List.nil_sublist _
  · exact hsub.trans (List.take_sublist _ _)

/-- Two ends after their handshake. -/
def Net.opened : Net :=
  ⟨fun | .near => .opened 100 200 4 | .far => .opened 200 100 4⟩

/-- Hosts of either byte order. -/
def mixedHosts : Side → Env
  | .near => .favourable .little
  | .far => .favourable .big

/-- Two ends that have just become open. -/
theorem Net.opened_afterHandshake : AfterHandshake Net.opened := by
  constructor <;> intro x <;> cases x
  all_goals first
    | rfl
    | exact fun p hp => absurd hp List.not_mem_nil

/-- The packet in the log of the example may come in. -/
theorem Admitted.of_log {n : Net} {a : Side} {buf : ℕ} {sent : List U8} {q : CspPacket}
    (ho : ∀ x, (n.ends x).rdp.state = .rdpOpen)
    (hn : (n.ends a.other).world.log = [.alloc buf, .sent sent, .transmit q]) :
    Admitted n (a, .packet q) := by
  refine ⟨ho, fun p hp => .inr ⟨q, by simp [hn], ?_⟩⟩
  obtain rfl := Input.packet.inj hp
  exact ⟨rfl, fun _ _ => rfl⟩

/-- The near side sends a message, and the network brings it to the far side twice. -/
theorem run_safety_opened : ∃ q m,
    Run (fun n i => n.step mixedHosts i) Admitted Net.opened
      [(.near, .send { CspPacket.blank 2 with data := fun i => if i = 0 then 7 else 9 }),
        (.far, .packet q), (.far, .packet q)] m ∧
      delivered (m.ends .far).world.log = [[7, 9]] ∧
      (delivered (m.ends .far).world.log).Sublist (m.messages .near) := by
  have hopen : ∀ {n : Net}, (n.ends .near).rdp.state = .rdpOpen →
      (n.ends .far).rdp.state = .rdpOpen → ∀ x, (n.ends x).rdp.state = .rdpOpen := by
    intro n h₁ h₂ x
    cases x <;> assumption
  obtain ⟨q, m, hrun, hdel, hnear, hfar⟩ : ∃ q m,
      Run (fun n i => n.step mixedHosts i) Admitted Net.opened
        [(.near, .send { CspPacket.blank 2 with data := fun i => if i = 0 then 7 else 9 }),
          (.far, .packet q), (.far, .packet q)] m ∧
        delivered (m.ends .far).world.log = [[7, 9]] ∧
        m.messages .near = [[7, 9]] ∧ m.messages .far = [] := by
    refine ⟨_, _, .cons ⟨hopen rfl rfl, fun p hp => nomatch hp⟩ rfl
      (.cons (.of_log (hopen rfl rfl) rfl) rfl
        (.cons (.of_log (hopen rfl rfl) rfl) rfl .nil)), ?_, ?_, ?_⟩
    · decide +kernel
    · decide +kernel
    · decide +kernel
  refine ⟨q, m, hrun, hdel, run_safety Net.opened_afterHandshake hrun (fun x => ?_) .near⟩
  cases x
  · rw [hnear]
    decide
  · rw [hfar]
    decide

end LibCSP
