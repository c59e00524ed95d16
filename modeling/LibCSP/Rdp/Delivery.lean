/-
# What the user gets, and what is acknowledged

`rcv_cur` should say which numbers the user has been given: all of
`rcv_irs + 1, …, rcv_cur`, in this order, and an acknowledgement of `rcv_cur`
then promises no more than that (`Honest`).  A packet that comes in sequence is
treated so: when it does not fit the user's queue it is dropped and `rcv_cur`
stays.  A packet released from the reorder queue is not: `rcv_cur` moves on
whether it fits or not (`full_queue_loses_stored`).

The law holds in every run in which an accepted packet and the stored packets
that follow it without a gap fit into the user's queues (`run_delivery`).
-/

import LibCSP.Rdp.Incoming

namespace LibCSP

open Basis

/-- The packets a log has delivered. -/
def deliveries (log : List Event) : List CspPacket :=
  log.filterMap fun
    | .deliver _ p => some p
    | _ => none

/-- The sequence number of a delivered packet: its header lies behind the data. -/
def deliveredSeq (o : ByteOrder) (p : CspPacket) : U16 :=
  hostSeq o { p with length := p.length + 5 }

/-- The numbers `irs + 1, …, irs + n`. -/
def numbersFrom (irs : U16) (n : ℕ) : List U16 :=
  (List.range n).map fun k => irs + 1 + BitVec.ofNat 16 k

/-- The user got exactly the numbers up to `rcv_cur`, in order, and every
acknowledgement covered only what the user had got by then. -/
structure Honest (o : ByteOrder) (irs : U16) (w : World) : Prop where
  delivered : (deliveries w.log).map (deliveredSeq o) =
    numbersFrom irs (deliveries w.log).length
  rcvCur : w.conn.rdp.rcvCur = irs + BitVec.ofNat 16 (deliveries w.log).length
  acked : ∀ pre p post, w.log = pre ++ .transmit p :: post → 5 ≤ p.length.toNat →
    (wireHeader p).ack = true →
      (wireHeader p).ackNr = irs + BitVec.ofNat 16 (deliveries pre).length

/-- What was delivered in two stretches of the log. -/
theorem deliveries_append (l₁ l₂ : List Event) :
    deliveries (l₁ ++ l₂) = deliveries l₁ ++ deliveries l₂ := List.filterMap_append ..

/-- The number is read behind the data, also when the header is cut off. -/
theorem deliveredSeq_remove (o : ByteOrder) (p : CspPacket) :
    deliveredSeq o (cspRdpHeaderRemove p) = hostSeq o p := by
  unfold deliveredSeq cspRdpHeaderRemove
  simp only [BitVec.sub_add_cancel]

/-- One more number at the end. -/
theorem numbersFrom_succ (irs : U16) (n : ℕ) :
    numbersFrom irs (n + 1) = numbersFrom irs n ++ [irs + BitVec.ofNat 16 n + 1] := by
  unfold numbersFrom
  rw [List.range_succ, List.map_append, List.map_singleton]
  congr 2
  bv_omega

/-! ### Calm calls and deliveries -/

/-- A call that is calm delivers nothing. -/
theorem deliveries_calm {w : World} {evs : List Event} (h : ∀ ev ∈ evs, CalmEvent w ev) :
    deliveries evs = [] := by
  refine List.filterMap_eq_nil_iff.2 fun ev hev => ?_
  cases ev with
  | deliver _ _ => exact absurd (h _ hev) id
  | _ => rfl

/-- **A calm call stays honest.** -/
theorem Honest.calm {o : ByteOrder} {irs : U16} {w w' : World} (h : Honest o irs w)
    (hw : Calm w w') : Honest o irs w' := by
  obtain ⟨evs, hl, hevs⟩ := hw.log
  have hd : deliveries w'.log = deliveries w.log := by
    rw [hl, deliveries_append, deliveries_calm hevs, List.append_nil]
  refine ⟨by rw [hd]; exact h.delivered, by rw [hd, hw.rcvCur]; exact h.rcvCur, ?_⟩
  intro pre p post hlog hlen hack
  rw [hl] at hlog
  rcases List.append_eq_append_iff.1 hlog with ⟨l, hpre, hrest⟩ | ⟨l, hw', hrest⟩
  · -- the packet was transmitted by this call, after some of its events
    have hp : CalmEvent w (.transmit p) := hevs _ (by rw [hrest]; simp)
    have hl : deliveries l = [] := deliveries_calm fun ev hev => hevs ev (by rw [hrest]; simp [hev])
    rw [hpre, deliveries_append, hl, List.append_nil, hp.1 hlen hack, h.rcvCur]
  · cases l with
    | nil =>
      have hp : CalmEvent w (.transmit p) := hevs _ (by
        rw [List.nil_append] at hrest
        rw [← hrest]
        exact List.mem_cons_self)
      rw [List.append_nil] at hw'
      rw [hp.1 hlen hack, h.rcvCur, hw']
    | cons ev l =>
      rw [List.cons_append, List.cons.injEq] at hrest
      obtain ⟨rfl, -⟩ := hrest
      exact h.acked pre p l hw' hlen hack

/-- Honesty is a property of the log and `rcv_cur`. -/
theorem Honest.congr {o : ByteOrder} {irs : U16} {w w' : World} (h : Honest o irs w)
    (hl : w'.log = w.log) (hr : w'.conn.rdp.rcvCur = w.conn.rdp.rcvCur) : Honest o irs w' :=
  ⟨hl ▸ h.delivered, by rw [hl, hr]; exact h.rcvCur, hl ▸ h.acked⟩

/-- **Handing over the next packet stays honest** when `rcv_cur` moves with it. -/
theorem Honest.handed {o : ByteOrder} {irs : U16} {w w' : World} {p : CspPacket}
    (h : Honest o irs w) (hh : Handed w (cspRdpHeaderRemove p) w')
    (hs : hostSeq o p = w.conn.rdp.rcvCur + 1) :
    Honest o irs (w'.setRcvCur (hostSeq o p)) := by
  have hd : deliveries w'.log = deliveries w.log ++ [cspRdpHeaderRemove p] := by
    rw [hh.log, deliveries_append]
    rfl
  have hcur := h.rcvCur
  refine ⟨?_, ?_, ?_⟩
  · show (deliveries w'.log).map _ = numbersFrom irs (deliveries w'.log).length
    rw [hd, List.map_append, List.length_append, List.length_singleton, numbersFrom_succ,
      h.delivered, List.map_singleton, deliveredSeq_remove, hs, hcur]
  · show hostSeq o p = irs + BitVec.ofNat 16 (deliveries w'.log).length
    rw [hd, List.length_append, List.length_singleton, hs, hcur]
    bv_omega
  · intro pre q post hlog
    change w'.log = _ at hlog
    rw [hh.log] at hlog
    rcases List.append_eq_append_iff.1 hlog with ⟨l, -, hrest⟩ | ⟨l, hw', hrest⟩
    · exfalso
      cases l with
      | nil => simp at hrest
      | cons _ l => simp at hrest
    · cases l with
      | nil => simp at hrest
      | cons ev l =>
        rw [List.cons_append, List.cons.injEq] at hrest
        obtain ⟨rfl, -⟩ := hrest
        exact h.acked pre q l hw'

/-! ### What the reorder queue releases -/

/-- The stored packets with the numbers `seq, seq + 1, …`, up to the first gap. -/
def successors (o : ByteOrder) (xs : List CspPacket) : ℕ → U16 → List CspPacket
  | 0, _ => []
  | n + 1, seq =>
    match xs.find? fun x => hostSeq o x == seq with
    | none => []
    | some x => x :: successors o xs n (seq + 1)

/-- The user's queues have room for these packets. -/
def RoomFor (c : Conn) (ps : List CspPacket) : Prop :=
  ∀ prio, (c.rxQueue prio).size + (ps.filter fun p => rxq p = prio).length ≤ cspRxQueueLength

instance (c : Conn) (ps : List CspPacket) : Decidable (RoomFor c ps) :=
  inferInstanceAs (Decidable (∀ _, _))

/-- The numbers in the reorder queue are different. -/
def Distinct (o : ByteOrder) (w : World) : Prop :=
  (w.conn.rdp.rxQueue.items.map (hostSeq o)).Nodup

/-- Leaving stored packets out keeps the numbers different. -/
theorem Distinct.subperm {o : ByteOrder} {w w' : World} (h : Distinct o w)
    (hsub : w'.conn.rdp.rxQueue.items.Subperm w.conn.rdp.rxQueue.items) : Distinct o w' := by
  obtain ⟨l, hperm, hsub⟩ := hsub
  exact (hperm.map _).nodup_iff.1 (h.sublist (hsub.map _))

/-- A call that is calm leaves the reorder queue without duplicates. -/
theorem Distinct.calm {o : ByteOrder} {w w' : World} (h : Distinct o w) (hw : Calm w w') :
    Distinct o w' := h.subperm hw.stored

/-- The successors in two queues that find the same elements. -/
theorem successors_congr {o : ByteOrder} {xs ys : List CspPacket} (n : ℕ) (seq : U16)
    (h : ∀ k, k < n → xs.find? (fun x => hostSeq o x == seq + BitVec.ofNat 16 k) =
      ys.find? fun x => hostSeq o x == seq + BitVec.ofNat 16 k) :
    successors o xs n seq = successors o ys n seq := by
  induction n generalizing seq with
  | zero => rfl
  | succ n ih =>
    have h₀ := h 0 (Nat.succ_pos n)
    rw [BitVec.add_zero] at h₀
    have hrec := ih (seq + 1) fun k hk => by
      have := h (k + 1) (Nat.succ_lt_succ hk)
      rwa [show seq + BitVec.ofNat 16 (k + 1) = seq + 1 + BitVec.ofNat 16 k by bv_omega] at this
    simp only [successors, h₀, hrec]

/-- Taking out the packet with one number does not change the search for another. -/
theorem find?_rotate {o : ByteOrder} {pre post : List CspPacket} {x : CspPacket} {s : U16}
    (hnd : ((pre ++ x :: post).map (hostSeq o)).Nodup) (hx : hostSeq o x ≠ s) :
    (pre ++ x :: post).find? (fun y => hostSeq o y == s) =
      (post ++ pre).find? fun y => hostSeq o y == s := by
  have hx' : (hostSeq o x == s) = false := beq_eq_false_iff_ne.2 hx
  rw [List.find?_append, List.find?_cons, hx', List.find?_append]
  cases hpre : pre.find? fun y => hostSeq o y == s with
  | none => cases post.find? fun y => hostSeq o y == s <;> rfl
  | some y =>
    cases hpost : post.find? fun y => hostSeq o y == s with
    | none => rfl
    | some z =>
      -- two packets with one number
      exfalso
      have h₁ := List.find?_some hpre
      have h₂ := List.find?_some hpost
      rw [List.map_append, List.map_cons] at hnd
      refine (List.nodup_append.1 hnd).2.2 _ (List.mem_map_of_mem (List.mem_of_find?_eq_some hpre))
        _ (List.mem_cons_of_mem _ (List.mem_map_of_mem (List.mem_of_find?_eq_some hpost))) ?_
      rw [beq_iff_eq] at h₁ h₂
      exact h₁.trans h₂.symm

/-- **What is released after the packet with the next number was taken out.** -/
theorem successors_rotate {o : ByteOrder} {pre post : List CspPacket} {x : CspPacket} {s : U16}
    (hnd : ((pre ++ x :: post).map (hostSeq o)).Nodup) (hx : hostSeq o x = s)
    (hpre : ∀ y ∈ pre, hostSeq o y ≠ s) (hlen : (post ++ pre).length < 2 ^ 15) :
    successors o (pre ++ x :: post) (pre ++ x :: post).length s =
      x :: successors o (post ++ pre) (post ++ pre).length (s + 1) := by
  have hfind : (pre ++ x :: post).find? (fun y => hostSeq o y == s) = some x := by
    rw [List.find?_append, List.find?_eq_none.2 fun y hy => by simpa using hpre y hy,
      List.find?_cons, beq_iff_eq.2 hx]
    rfl
  have hcongr : successors o (pre ++ x :: post) (post ++ pre).length (s + 1) =
      successors o (post ++ pre) (post ++ pre).length (s + 1) :=
    successors_congr _ _ fun k hk => find?_rotate hnd (by rw [hx]; bv_omega)
  rw [show (pre ++ x :: post).length = (post ++ pre).length + 1 by simp; omega, successors, hfind,
    ← hcongr]

/-- Room is a property of the user's queues. -/
theorem RoomFor.congr {c c' : Conn} {ps : List CspPacket} (h : RoomFor c ps)
    (hq : c'.rxQueue = c.rxQueue) : RoomFor c' ps := by
  unfold RoomFor
  rwa [hq]

/-- Handing over the first of some packets for which there is room. -/
theorem RoomFor.handed {w w' : World} {p : CspPacket} {ps : List CspPacket}
    (h : RoomFor w.conn (p :: ps)) (hh : Handed w (cspRdpHeaderRemove p) w') :
    RoomFor w'.conn ps := by
  intro prio
  have h₁ := h prio
  have h₂ := hh.size prio
  rw [show rxq (cspRdpHeaderRemove p) = rxq p from rfl] at h₂
  rw [List.filter_cons] at h₁
  by_cases hp : rxq p = prio
  · rw [if_pos (decide_eq_true hp), List.length_cons] at h₁
    rw [if_pos hp.symm] at h₂
    omega
  · rw [if_neg (by simpa using hp)] at h₁
    rw [if_neg fun h => hp h.symm] at h₂
    omega

/-- The state of a flush: what it will release fits. -/
structure Flushing (o : ByteOrder) (irs : U16) (w : World) : Prop where
  honest : Honest o irs w
  user : w.conn.UserOk
  socket : w.conn.rxSocket = none
  distinct : Distinct o w
  room : RoomFor w.conn (successors o w.conn.rdp.rxQueue.items w.conn.rdp.rxQueue.items.length
    (w.conn.rdp.rcvCur + 1))

/-- **A round of the flush hands its packet over** when what is released fits. -/
theorem Flushing.round {e : Env} {irs : U16} {w w' : World} (h : Flushing e.host irs w)
    (hr : flushRound e w = some w') : Flushing e.host irs w' := by
  obtain ⟨pre, x, post, q, hitems, hpre, hx, hq, rfl⟩ := flushRound_cases hr
  have hnd : ((pre ++ x :: post).map (hostSeq e.host)).Nodup := hitems ▸ h.distinct
  have hlen : (post ++ pre).length < 2 ^ 15 := by
    have hle := q.le
    rw [hq] at hle
    unfold cspRdpMaxWindow at hle
    omega
  have hroom := h.room
  rw [hitems, successors_rotate hnd hx hpre hlen, ← hq] at hroom
  have hperm : (x :: q.items).Perm w.conn.rdp.rxQueue.items := by
    rw [hitems, hq]
    exact ((List.perm_append_comm).cons x).trans List.perm_middle.symm
  have hcalm : Calm w (w.setReorder q) :=
    setReorder_calm ((List.sublist_cons_self x _).subperm.trans hperm.subperm)
  rcases cspRdpReceiveData_cases (w := w.setReorder q) h.user e x with
    ⟨-, -, w₁, hpost, hn, hh⟩ | ⟨-, -, hfull⟩
  · have hrdp₁ : w₁.conn.rdp = (w.setReorder q).conn.rdp := hpost.rdp
    have hrdp : (cspRdpReceiveData e x (w.setReorder q)).2.conn.rdp = (w.setReorder q).conn.rdp :=
      hh.rdp.trans hrdp₁
    have hcur₁ : w₁.conn.rdp.rcvCur = w.conn.rdp.rcvCur := by rw [hrdp₁]; rfl
    have hhon := ((h.honest.calm hcalm).calm hpost.toCalm).handed hh (by rw [hcur₁]; exact hx)
    rw [hrdp, show (w.setReorder q).conn.rdp.rcvCur + 1 = hostSeq e.host x from hx.symm]
    refine ⟨hhon, hh.user, hh.rxSocket.trans hn, ?_, ?_⟩
    · show ((cspRdpReceiveData e x (w.setReorder q)).2.conn.rdp.rxQueue.items.map _).Nodup
      rw [hrdp]
      show (q.items.map _).Nodup
      have hnd' := (hperm.map (hostSeq e.host)).nodup_iff.2 h.distinct
      rw [List.map_cons] at hnd'
      exact (List.nodup_cons.1 hnd').2
    · have := (hroom.congr hpost.rxQueue).handed hh
      show RoomFor (cspRdpReceiveData e x (w.setReorder q)).2.conn
        (successors e.host (cspRdpReceiveData e x (w.setReorder q)).2.conn.rdp.rxQueue.items
          (cspRdpReceiveData e x (w.setReorder q)).2.conn.rdp.rxQueue.items.length
          (hostSeq e.host x + 1))
      rw [hrdp, hx]
      exact this
  · exfalso
    have h₁ := hfull h.socket
    have h₂ := hroom (rxq x)
    rw [List.filter_cons, if_pos (decide_eq_true rfl), List.length_cons] at h₂
    change cspRxQueueLength ≤ (w.conn.rxQueue (rxq x)).size at h₁
    omega

/-! ### Steps and runs -/

/-- The calls the law is about: packets without SYN and RST, and the calls that
may send an acknowledgement. -/
def DeliveryInput (e : Env) : Input → Prop
  | .packet p => (rxHeader e.host p).syn = false ∧ (rxHeader e.host p).rst = false
  | .read | .checkAck | .checkTimeouts => True
  | _ => False

/-- If the packet is accepted in sequence, the user's queues have room for it and
for the stored packets that follow it without a gap. -/
def HasRoom (e : Env) (s : Endpoint) : Input → Prop
  | .packet p =>
    s.rdp.state = .rdpOpen → s.rdp.storesAck (rxHeader e.host p) = true → IsData p →
      (rxHeader e.host p).seqNr = s.rdp.rcvCur + 1 → (postHandle e s.world).1 = true →
        (s.world.conn.rxQueue (rxq (rxPacket e.host p))).size < cspRxQueueLength →
          RoomFor s.world.conn (rxPacket e.host p :: successors e.host s.rdp.rxQueue.items
            s.rdp.rxQueue.items.length ((rxHeader e.host p).seqNr + 1))
  | _ => True

/-- The states of a connection that is open or was and has been closed. -/
def RdpState.Opened (st : RdpState) : Prop :=
  st = .rdpOpen ∨ st = .rdpCloseWait ∨ st = .rdpClosed

instance (e : Env) (i : Input) : Decidable (DeliveryInput e i) :=
  match i with
  | .packet _ => inferInstanceAs (Decidable (_ ∧ _))
  | .checkTimeouts | .checkAck | .read => isTrue trivial
  | .send _ | .sendWake | .sendTimeout | .connect | .connectWake | .connectTimeout
  | .close => isFalse id

instance (e : Env) (s : Endpoint) (i : Input) : Decidable (HasRoom e s i) :=
  match i with
  | .packet _ => inferInstanceAs (Decidable (_ → _ → _ → _ → _ → _ → RoomFor _ _))
  | .checkTimeouts | .checkAck | .read | .send _ | .sendWake | .sendTimeout | .connect
  | .connectWake | .connectTimeout | .close => isTrue trivial

/-- The invariant of the receiving half after the handshake. -/
structure Delivering (o : ByteOrder) (irs : U16) (w : World) : Prop where
  state : w.conn.rdp.state.Opened
  honest : Honest o irs w
  user : w.conn.UserOk
  distinct : Distinct o w

/-- A call that is calm changes nothing about what was delivered. -/
theorem Delivering.calm {o : ByteOrder} {irs : U16} {w w' : World} (h : Delivering o irs w)
    (hst : w'.conn.rdp.state.Opened) (hw : Calm w w') : Delivering o irs w' :=
  ⟨hst, h.honest.calm hw, hw.user h.user, h.distinct.calm hw⟩

/-- The number in a packet as it came in. -/
theorem hostSeq_rxPacket {o : ByteOrder} {p : CspPacket} (h : 5 ≤ p.length.toNat) :
    hostSeq o (rxPacket o p) = (rxHeader o p).seqNr := by
  rw [hostSeq, rxPacket, cspRdpHeaderRef_store h]

/-- A packet without SYN meets a connection that has its numbers, or none. -/
theorem settled_packet {w : World} {h : RdpHeader} (hst : w.conn.rdp.state.Opened)
    (hsyn : h.syn = false) : Settled w h := by
  rcases hst with hst | hst | hst
  · exact .inl hst
  · exact .inr (.inl hst)
  · exact .inr (.inr ⟨hst, hsyn⟩)

/-- A connection that closes does not come back to the handshake. -/
theorem RdpState.Closing.opened {st st' : RdpState} (h : st.Closing st') (hst : st.Opened) :
    st'.Opened := by
  rcases h with rfl | h
  · exact hst
  · exact .inr h

/-- The connection stays open or closing under a packet without SYN. -/
theorem packet_state {e : Env} {p : CspPacket} {w : World} (hst : w.conn.rdp.state.Opened)
    (hsyn : (rxHeader e.host p).syn = false) :
    (cspRdpNewPacket e p w).conn.rdp.state.Opened := by
  have hstep := cspRdpNewPacket_step e p w
  change (cspRdpNewPacket e p w).control.state.Opened
  generalize (cspRdpNewPacket e p w).control = c at hstep
  have hnot : w.control.state = .rdpSynSent → False := fun hs => by
    change w.control.state.Opened at hst
    rw [hs] at hst
    simp [RdpState.Opened] at hst
  cases hstep with
  | close hc => exact hc.opened hst
  | ack _ hc => exact hc.opened hst
  | accepted _ _ _ _ => exact .inl rfl
  | opened hc _ _ _ => exact absurd hc hnot
  | halfOpen hc => exact absurd hc hnot
  | passive _ hs _ _ => exact absurd (hsyn.symm.trans hs) Bool.false_ne_true

/-- **A packet keeps the law** when what it releases fits. -/
theorem Delivering.packet {e : Env} {irs : U16} {s : Endpoint} {p : CspPacket}
    (h : Delivering e.host irs s.world) (hi : DeliveryInput e (.packet p))
    (hroom : HasRoom e s (.packet p)) :
    Delivering e.host irs (cspRdpNewPacket e p s.world) := by
  have hst' := packet_state h.state hi.1
  have hrec := cspRdpNewPacket_received h.user (settled_packet h.state hi.1)
  generalize cspRdpNewPacket e p s.world = w' at hst' hrec
  cases hrec with
  | calm hw => exact h.calm hst' hw
  | @stored w₁ _ q hd h₁ hinb hnew hperm h₂ =>
    have hhon : Honest e.host irs (w₁.setReorder q) := (h.honest.calm h₁).congr rfl rfl
    refine ⟨hst', hhon.calm h₂.toCalm, h₂.user (h₁.user h.user), Distinct.calm ?_ h₂.toCalm⟩
    refine (hperm.map _).nodup_iff.2 (List.nodup_cons.2 ⟨fun hmem => ?_, h.distinct⟩)
    obtain ⟨y, hy, hseq⟩ := List.mem_map.1 hmem
    exact hnew y hy (hseq.trans (hostSeq_rxPacket (Nat.le_of_lt hd.1)))
  | @accepted w₁ w₂ w₃ w₄ hd hs hst hack hpost h₁ hinb hp hn hh hq =>
    have hseq := hostSeq_rxPacket (o := e.host) (p := p) (Nat.le_of_lt hd.1)
    have hqueue : w₂.conn.rxQueue = s.world.conn.rxQueue :=
      hp.rxQueue.trans (congrArg Inbound.rxQueue hinb)
    have hcur : w₂.conn.rdp.rcvCur = s.world.conn.rdp.rcvCur := by rw [hp.rdp, h₁.rcvCur]
    have hreorder : w₄.conn.rdp.rxQueue = s.rdp.rxQueue := by
      refine (congrArg Inbound.reorder hq.inbound).trans ?_
      show w₃.conn.rdp.rxQueue = _
      rw [hh.rdp, hp.rdp]
      exact congrArg Inbound.reorder hinb
    have hcur₄ : w₄.conn.rdp.rcvCur = (rxHeader e.host p).seqNr := hq.rcvCur
    have hhon := ((h.honest.calm h₁).calm hp.toCalm).handed hh (by rw [hseq, hs, hcur])
    rw [hseq] at hhon
    have hflush : Flushing e.host irs w₄ := by
      refine ⟨hhon.calm hq.toCalm, hq.user hh.user, ?_, ?_, ?_⟩
      · exact (congrArg Inbound.rxSocket hq.inbound).trans (hh.rxSocket.trans hn)
      · unfold Distinct
        rw [hreorder]
        exact h.distinct
      · have hfit := hroom hst hack hd hs hpost (hqueue ▸ hh.room)
        have hfit₃ := (hfit.congr hqueue).handed hh
        have hq₄ : w₄.conn.rxQueue = w₃.conn.rxQueue := congrArg Inbound.rxQueue hq.inbound
        rw [hreorder, hcur₄]
        exact hfit₃.congr hq₄
    have hdone := flushRounds_induct (P := Flushing e.host irs) (fun w w' hw hr => hw.round hr)
      w₄.conn.rdp.rxQueue.size hflush
    exact ⟨hst', hdone.honest, hdone.user, hdone.distinct⟩

/-- **A step keeps the law** when what it releases fits. -/
theorem Delivering.step {e : Env} {irs : U16} {s t : Endpoint} {i : Input}
    (h : Delivering e.host irs s.world) (hi : DeliveryInput e i) (hroom : HasRoom e s i)
    (hst : step e s i = some t) : Delivering e.host irs t.world := by
  cases i with
  | packet p =>
    obtain rfl := Option.some.inj hst
    exact h.packet hi hroom
  | checkTimeouts =>
    obtain rfl := Option.some.inj hst
    refine h.calm ?_ (cspRdpCheckTimeouts_calm e s.world)
    change (cspRdpCheckTimeouts e s.world).control.state.Opened
    rcases cspRdpCheckTimeouts_control e s.world with ⟨st, hc, heq⟩ | ⟨-, heq⟩
    · rw [heq]
      exact hc.opened h.state
    · rw [heq]
      exact h.state
  | checkAck =>
    obtain rfl := Option.some.inj hst
    have hq := cspRdpCheckAck_quiet e s.world
    refine h.calm ?_ hq.toCalm
    rw [show (cspRdpCheckAck e s.world).conn.rdp.state = s.world.conn.rdp.state from
      congrArg Control.state hq.control]
    exact h.state
  | read =>
    obtain rfl := Option.some.inj hst
    obtain ⟨hcalm, hc⟩ := cspRead_calm e s.world
    refine h.calm ?_ hcalm
    rw [show (cspRead e s.world).2.conn.rdp.state = s.world.conn.rdp.state from
      congrArg Control.state hc]
    exact h.state
  | _ => exact absurd hi id

/-- A connection that has just become open. -/
structure JustOpen (o : ByteOrder) (s : Endpoint) : Prop where
  state : s.rdp.state = .rdpOpen
  rcvCur : s.rdp.rcvCur = s.rdp.rcvIrs
  log : s.world.log = []
  user : s.world.conn.UserOk
  distinct : Distinct o s.world

/-- **A connection that has just become open** has delivered everything up to `rcv_cur`. -/
theorem JustOpen.delivering {o : ByteOrder} {s : Endpoint} (h : JustOpen o s) :
    Delivering o s.rdp.rcvIrs s.world := by
  refine ⟨.inl h.state, ⟨?_, ?_, ?_⟩, h.user, h.distinct⟩
  · rw [h.log]
    rfl
  · rw [h.log]
    exact h.rcvCur.trans (BitVec.add_zero _).symm
  · intro pre p post hl
    rw [h.log] at hl
    simp at hl

/-- **Gap-free delivery and honest acknowledgements, in every run.**  From a
connection that has just become open, in a run in which what an accepted packet
releases fits into the user's queues, the packets delivered carry the numbers
`rcv_irs + 1, …, rcv_cur` in this order, and every acknowledgement transmitted
covers only packets delivered before it. -/
theorem run_delivery {e : Env} {s t : Endpoint} {is : List Input} (h : JustOpen e.host s)
    (hrun : Run (step e) (fun s i => DeliveryInput e i ∧ HasRoom e s i) s is t) :
    Honest e.host s.rdp.rcvIrs t.world :=
  (hrun.invariant (P := fun t => Delivering e.host s.rdp.rcvIrs t.world)
    (fun _ _ _ hs hi hst => hs.step hi.1 hi.2 hst) h.delivering).honest

/-- A connection of the tests is one. -/
theorem justOpen_opened : JustOpen .little (.opened 100 200 4) :=
  ⟨rfl, rfl, rfl, Finset.sum_const_zero.symm, List.nodup_nil⟩

/-- A data packet with this number. -/
def dataSegment (seqNr : U16) : Input := .packet (segment .ackOnly seqNr 100 [7])

/-- A packet in sequence, one too early, and the missing one, which releases it. -/
theorem run_delivery_opened : ∃ t, Run (step (.favourable .little))
    (fun s i => DeliveryInput (.favourable .little) i ∧ HasRoom (.favourable .little) s i)
    (.opened 100 200 4) [dataSegment 201, dataSegment 203, .read, dataSegment 202] t ∧
      t.rdp.rcvCur = 203 ∧ Honest .little 200 t.world := by
  refine (Run.of_any (p := fun t : Endpoint => decide (t.rdp.rcvCur = 203)) ?_).imp fun t ht =>
    ⟨ht.1, of_decide_eq_true ht.2, run_delivery justOpen_opened ht.1⟩
  decide +kernel

/-- **A full queue loses a stored packet and acknowledges it**: after 24 packets
in sequence the packet 226 is stored; 225 fills the user's queue and releases
226, which no longer fits. -/
theorem full_queue_loses_stored :
    ¬ ∀ (e : Env) (s t : Endpoint) (is : List Input), JustOpen e.host s →
      1 ≤ s.rdp.windowSize.toNat → s.rdp.windowSize.toNat ≤ cspRdpMaxWindow →
        Run (step e) (fun _ i => DeliveryInput e i) s is t →
          Honest e.host s.rdp.rcvIrs t.world := by
  intro h
  have hrun : ∃ t, Run (step (.favourable .little))
      (fun _ i => DeliveryInput (.favourable .little) i) (.opened 100 200 4)
      ((List.range 24).map (fun k => dataSegment (201 + BitVec.ofNat 16 k)) ++
        [dataSegment 226, dataSegment 225]) t ∧
      decide (t.rdp.rcvCur = 226 ∧ (deliveries t.world.log).length = 25) = true := by
    refine Run.of_any ?_
    decide +kernel
  obtain ⟨t, hrun, ht⟩ := hrun
  obtain ⟨hcur, hlen⟩ := of_decide_eq_true ht
  have hhon := (h _ _ _ _ justOpen_opened (by decide) (by decide) hrun).rcvCur
  rw [hcur, hlen] at hhon
  exact absurd hhon (by decide)

end LibCSP
