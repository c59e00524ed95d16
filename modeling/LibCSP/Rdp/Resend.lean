/-
# What the message loop resends

`csp_rdp_check_timeouts` rotates the retransmit queue once.  An element behind `snd_una` is
freed; one whose time is up gets the latest `rcv_cur` and a new time stamp, and a clone of it goes
to `csp_send_direct`; both this and every other element go back to the queue.  `messageCalls` is
what the loop calls on its way, in order, and the log of the connection is these calls
(`cspRdpCheckMessages_log`).

Sequence numbers are compared in 16 bits and times in 32 bits, both by the sign of a difference.
For times that is the age of the element as long as ages and the timeout stay below half of the
half circle (`timeAfter_iff`).
-/

import LibCSP.Rdp.Retention

namespace LibCSP

open Basis

/-! ### The calls of the loop -/

/-- A call in the message loop of `csp_rdp_check_timeouts`. -/
inductive MessageCall
  /-- `csp_buffer_free(packet)`. -/
  | free (packet : CspPacket)
  /-- `csp_send_direct(conn->idout, new_packet, 0)`, and whether the packet was taken. -/
  | sendDirect (newPacket : Option CspPacket) (taken : Bool)

/-- What the log has of a call, together with the allocation of the clone before it and
`csp_buffer_free(new_packet)` behind it. -/
def MessageCall.events (idout : CspId) : MessageCall → List Event
  | .free p => [.free p.buf]
  | .sendDirect none _ => []
  | .sendDirect (some c) true => [.alloc c.buf, .transmit { c with id := idout }]
  | .sendDirect (some c) false => [.alloc c.buf, .free c.buf]

/-- The element that was freed. -/
def MessageCall.freed? : MessageCall → Option CspPacket
  | .free p => some p
  | .sendDirect _ _ => none

/-- What `csp_send_direct` was given. -/
def MessageCall.given? : MessageCall → Option (Option CspPacket)
  | .free _ => none
  | .sendDirect c _ => some c

/-- `header->ack_nr = csp_hton16(conn->rdp.rcv_cur)`. -/
def refreshAck (o : ByteOrder) (rcvCur : U16) (x : CspPacket) : CspPacket :=
  cspRdpHeaderStore o x { cspRdpHeaderRef o x with ackNr := hton16 o rcvCur }

/-- The calls in the body of the loop. -/
def timeoutCalls (e : Env) (now : U32) (w : World) (x : CspPacket) : List MessageCall :=
  if ackedBy e.host w.conn.rdp.sndUna x then [.free x]
  else if cspRdpTimeAfter now (x.timestamp + w.conn.rdp.packetTimeout) then
    let x := { refreshAck e.host w.conn.rdp.rcvCur x with timestamp := (cspGetMs e w).1 }
    let copy := cspBufferClone e x (cspGetMs e w).2
    [.sendDirect copy.1 (copy.1.isSome && e.sendDirect copy.2.tick)]
  else []

/-- The calls of the loop over these elements. -/
def messageCalls (e : Env) (now : U32) : World → List CspPacket → List MessageCall
  | _, [] => []
  | w, x :: xs => timeoutCalls e now w x ++ messageCalls e now (timeoutEntry e now w x).1 xs

/-- A retransmission is one event, or the release of the copy. -/
theorem cspRdpRetransmit_log (e : Env) (copy : Option CspPacket) (w : World) :
    (cspRdpRetransmit e copy w).log = w.log ++
      match copy with
      | none => []
      | some c =>
        if e.sendDirect w.tick then [.transmit { c with id := w.conn.idout }]
        else [.free c.buf] := by
  cases copy with
  | none => exact (List.append_nil _).symm
  | some c => rcases cspRdpRetransmit_cases e c w with ⟨hs, h⟩ | ⟨hs, h⟩ <;> rw [h, hs] <;> rfl

/-- What the loop calls for one element. -/
theorem timeoutEntry_log (e : Env) (now : U32) (w : World) (x : CspPacket) :
    (timeoutEntry e now w x).1.log =
      w.log ++ (timeoutCalls e now w x).flatMap (MessageCall.events w.conn.idout) := by
  unfold timeoutEntry timeoutCalls ackedBy
  simp only
  split
  · rfl
  · split
    · show (cspRdpRetransmit e _ _).log = _
      rw [cspRdpRetransmit_log, cspBufferClone_conn]
      unfold refreshAck
      rcases cspBufferClone_cases e { refreshAck e.host w.conn.rdp.rcvCur x with
          timestamp := (cspGetMs e w).1 } (cspGetMs e w).2 with hb | ⟨buf, hb⟩
      · unfold refreshAck at hb
        rw [hb]
        rfl
      · unfold refreshAck at hb
        rw [hb]
        simp only [List.flatMap_cons, List.flatMap_nil, List.append_nil, Option.isSome_some,
          Bool.true_and]
        cases e.sendDirect ((cspGetMs e w).2.next.emit (.alloc buf)).tick
        · exact (List.append_assoc ..).trans rfl
        · exact (List.append_assoc ..).trans rfl
    · exact (List.append_nil _).symm

/-- It leaves the connection as it is. -/
theorem timeoutEntry_conn (e : Env) (now : U32) (w : World) (x : CspPacket) :
    (timeoutEntry e now w x).1.conn = w.conn :=
  (Rotation.entry_cases e (.timeouts now) w x).1

/-- **What the loop calls for all elements**, in their order. -/
theorem sweepList_timeouts_log (e : Env) (now : U32) (w : World) (xs : List CspPacket) :
    (Queue.sweepList (timeoutEntry e now) w xs).1.log =
      w.log ++ (messageCalls e now w xs).flatMap (MessageCall.events w.conn.idout) := by
  induction xs generalizing w with
  | nil => exact (List.append_nil _).symm
  | cons x xs ih =>
    rw [Queue.sweepList, messageCalls, ih, timeoutEntry_log, timeoutEntry_conn, List.flatMap_append,
      List.append_assoc]

/-- **The log of the message loop is its calls.** -/
theorem cspRdpCheckMessages_log (e : Env) (now : U32) (w : World) :
    (cspRdpCheckMessages e now w).log = w.log ++
      (messageCalls e now w w.conn.rdp.txQueue.items).flatMap
        (MessageCall.events w.conn.idout) := by
  unfold cspRdpCheckMessages
  simp only
  rw [(Queue.sweep_size _ _ _).1]
  exact sweepList_timeouts_log e now w _

/-! ### Times and headers -/

/-- **An element's time is up** when its age exceeds the timeout. -/
theorem timeAfter_iff {now stamp timeout : U32} (hage : (now - stamp).toNat < 2 ^ 30)
    (htimeout : timeout.toNat < 2 ^ 30) :
    cspRdpTimeAfter now (stamp + timeout) = true ↔ timeout.toNat < (now - stamp).toNat := by
  have hdiff : (stamp + timeout - now).toNat =
      (2 ^ 32 - (now - stamp).toNat + timeout.toNat) % 2 ^ 32 := by
    rw [show stamp + timeout - now = timeout - (now - stamp) by bv_omega, BitVec.toNat_sub]
  unfold cspRdpTimeAfter Serial.after
  rw [Serial.before_iff, hdiff]
  omega

/-! ### The queue -/

/-- The delayed ACK leaves the retransmit queue alone. -/
theorem cspRdpCheckAck_txQueue (e : Env) (w : World) :
    (cspRdpCheckAck e w).conn.rdp.txQueue = w.conn.rdp.txQueue := by
  unfold cspRdpCheckAck
  split
  · split
    · simp only
      split
      · exact (cspRdpSendCmp_txQueue rfl).trans (cspRdpShouldAck_txQueue e w)
      · exact cspRdpShouldAck_txQueue e w
    · rfl
  · rfl

/-- So does waking the sender. -/
theorem cspRdpWake_txQueue (w : World) : (cspRdpWake w).conn.rdp.txQueue = w.conn.rdp.txQueue := by
  unfold cspRdpWake
  split <;> rfl

/-- The element's age exceeds the timeout. -/
def Rdp.overdue (rdp : Rdp) (now : U32) (x : CspPacket) : Bool :=
  decide (rdp.packetTimeout.toNat < (now - x.timestamp).toNat)

/-- `y` is the element `x` as the loop puts it back: as it was, or resent. -/
def Requeued (o : ByteOrder) (rdp : Rdp) (now : U32) (x y : CspPacket) : Prop :=
  if rdp.overdue now x then ∃ t, y = { refreshAck o rdp.rcvCur x with timestamp := t } else y = x

/-- `csp_send_direct` is given a clone of `x` with the latest ACK number. -/
def CloneFor (o : ByteOrder) (rcvCur : U16) (x : CspPacket) (newPacket : Option CspPacket) : Prop :=
  ∃ c, newPacket = some c ∧ hton16 o (cspRdpHeaderRef o c).ackNr = rcvCur ∧
    ∃ buf t, c = { refreshAck o rcvCur x with buf := buf, timestamp := t }

/-- **Each element once:** freed, put back, or put back with a clone sent. -/
theorem timeoutEntry_outcome {e : Env} {now : U32} {w : World} {x : CspPacket}
    (htimeout : w.conn.rdp.packetTimeout.toNat < 2 ^ 30) (hage : (now - x.timestamp).toNat < 2 ^ 30)
    (hacked : ackedBy e.host w.conn.rdp.sndUna x = false) :
    ∃ y, (timeoutEntry e now w x).2 = some y ∧ Requeued e.host w.conn.rdp now x y := by
  unfold ackedBy at hacked
  unfold timeoutEntry
  simp only [hacked, Bool.false_eq_true, if_false]
  by_cases hup : cspRdpTimeAfter now (x.timestamp + w.conn.rdp.packetTimeout) = true
  · have hdue : w.conn.rdp.overdue now x = true :=
      decide_eq_true ((timeAfter_iff hage htimeout).1 hup)
    rw [if_pos hup]
    exact ⟨_, rfl, by rw [Requeued, if_pos hdue]; exact ⟨_, rfl⟩⟩
  · have hdue : ¬w.conn.rdp.overdue now x = true := fun h =>
      hup ((timeAfter_iff hage htimeout).2 (of_decide_eq_true h))
    rw [if_neg hup]
    exact ⟨x, rfl, by rw [Requeued, if_neg hdue]⟩

/-- An element that is acknowledged leaves the queue. -/
theorem timeoutEntry_freed {e : Env} {now : U32} {w : World} {x : CspPacket}
    (hacked : ackedBy e.host w.conn.rdp.sndUna x = true) : (timeoutEntry e now w x).2 = none := by
  unfold timeoutEntry
  exact congrArg Prod.snd (if_pos hacked)

/-- The loop frees the acknowledged elements. -/
theorem messageCalls_freed (e : Env) (now : U32) (w : World) (xs : List CspPacket) :
    (messageCalls e now w xs).filterMap MessageCall.freed? =
      xs.filter (ackedBy e.host w.conn.rdp.sndUna) := by
  induction xs generalizing w with
  | nil => rfl
  | cons x xs ih =>
    rw [messageCalls, List.filterMap_append, ih, timeoutEntry_conn]
    unfold timeoutCalls
    cases hacked : ackedBy e.host w.conn.rdp.sndUna x with
    | true =>
      rw [if_pos rfl, List.filter_cons_of_pos hacked]
      rfl
    | false =>
      rw [if_neg Bool.false_ne_true,
        List.filter_cons_of_neg (by rw [hacked]; exact Bool.false_ne_true)]
      split <;> rfl

/-- It sends a clone of each element that stays and is overdue. -/
theorem messageCalls_given {e : Env} {now : U32} {w : World} {xs : List CspPacket}
    (hbuf : ∀ tick, (e.bufferGet tick).isSome = true)
    (htimeout : w.conn.rdp.packetTimeout.toNat < 2 ^ 30)
    (hage : ∀ x ∈ xs, (now - x.timestamp).toNat < 2 ^ 30) :
    List.Forall₂ (CloneFor e.host w.conn.rdp.rcvCur)
      (xs.filter fun x => !ackedBy e.host w.conn.rdp.sndUna x && w.conn.rdp.overdue now x)
      ((messageCalls e now w xs).filterMap MessageCall.given?) := by
  induction xs generalizing w with
  | nil => exact .nil
  | cons x xs ih =>
    have hrest := ih (w := (timeoutEntry e now w x).1) (by rwa [timeoutEntry_conn])
      fun y hy => hage y (List.mem_cons_of_mem _ hy)
    rw [timeoutEntry_conn] at hrest
    have hup := timeAfter_iff (hage x List.mem_cons_self) htimeout
    rw [messageCalls, List.filterMap_append, List.filter_cons]
    unfold timeoutCalls
    cases hacked : ackedBy e.host w.conn.rdp.sndUna x with
    | true => simpa only [if_true, Bool.not_true, Bool.false_and, Bool.false_eq_true, if_false]
    | false =>
      unfold Rdp.overdue at hrest ⊢
      by_cases hdue : w.conn.rdp.packetTimeout.toNat < (now - x.timestamp).toNat
      · obtain ⟨b, hb⟩ := Option.isSome_iff_exists.1 (hbuf (cspGetMs e w).2.tick)
        have hclone : CloneFor e.host w.conn.rdp.rcvCur x
            (cspBufferClone e { refreshAck e.host w.conn.rdp.rcvCur x with
              timestamp := (cspGetMs e w).1 } (cspGetMs e w).2).1 := by
          unfold cspBufferClone cspBufferGet
          rw [hb]
          refine ⟨_, rfl, ?_, b.buf, _, rfl⟩
          show hton16 e.host (cspRdpHeaderRef e.host (cspRdpHeaderStore e.host x _)).ackNr = _
          rw [cspRdpHeaderRef_storeAck]
          exact hton16_hton16 e.host w.conn.rdp.rcvCur
        simp only [Bool.false_eq_true, if_false, hup.2 hdue, if_true, Bool.not_false, Bool.true_and,
          decide_eq_true hdue]
        exact .cons hclone hrest
      · have hnot : ¬cspRdpTimeAfter now (x.timestamp + w.conn.rdp.packetTimeout) = true :=
          fun h => hdue (hup.1 h)
        simp only [Bool.false_eq_true, if_false, hnot, Bool.not_false, Bool.true_and,
          decide_eq_false hdue]
        exact hrest

/-- **The message loop** frees what is acknowledged, keeps the rest in order, and sends a clone of
what is overdue. -/
theorem checkTimeouts_sweep {e : Env} {w : World} (hopen : w.conn.rdp.state = .rdpOpen)
    (hrx : w.conn.rxSocket = none) (hbuf : ∀ tick, (e.bufferGet tick).isSome = true)
    (htimeout : w.conn.rdp.packetTimeout.toNat < 2 ^ 30)
    (hage : ∀ x ∈ w.conn.rdp.txQueue.items, (e.getMs w.tick - x.timestamp).toNat < 2 ^ 30) :
    List.Forall₂ (Requeued e.host w.conn.rdp (e.getMs w.tick))
        (w.conn.rdp.txQueue.items.filter fun x => !ackedBy e.host w.conn.rdp.sndUna x)
        (cspRdpCheckTimeouts e w).conn.rdp.txQueue.items ∧
      (messageCalls e (e.getMs w.tick) w.next w.conn.rdp.txQueue.items).filterMap
          MessageCall.freed? = w.conn.rdp.txQueue.items.filter (ackedBy e.host w.conn.rdp.sndUna) ∧
      List.Forall₂ (CloneFor e.host w.conn.rdp.rcvCur)
        (w.conn.rdp.txQueue.items.filter fun x =>
          !ackedBy e.host w.conn.rdp.sndUna x && w.conn.rdp.overdue (e.getMs w.tick) x)
        ((messageCalls e (e.getMs w.tick) w.next w.conn.rdp.txQueue.items).filterMap
          MessageCall.given?) ∧
      cspRdpCheckTimeouts e w =
        cspRdpWake (cspRdpCheckAck e (cspRdpCheckMessages e (e.getMs w.tick) w.next)) ∧
      (cspRdpCheckMessages e (e.getMs w.tick) w.next).log = w.log ++
        (messageCalls e (e.getMs w.tick) w.next w.conn.rdp.txQueue.items).flatMap
          (MessageCall.events w.conn.idout) := by
  have hcall : cspRdpCheckTimeouts e w =
      cspRdpWake (cspRdpCheckAck e (cspRdpCheckMessages e (e.getMs w.tick) w.next)) := by
    unfold cspRdpCheckTimeouts
    simp only [cspGetMs, World.next_conn, hrx, hopen, Option.isSome_none, Bool.false_and,
      Bool.false_eq_true, if_false, reduceCtorEq]
  have hqueue : (cspRdpCheckTimeouts e w).conn.rdp.txQueue.items = (Queue.sweepList
      (timeoutEntry e (e.getMs w.tick)) w.next w.conn.rdp.txQueue.items).2 := by
    rw [hcall, cspRdpWake_txQueue, cspRdpCheckAck_txQueue]
    exact (Queue.sweep_size _ _ _).2
  refine ⟨?_, messageCalls_freed e _ w.next _, messageCalls_given (w := w.next) hbuf htimeout hage,
    hcall, cspRdpCheckMessages_log e _ w.next⟩
  rw [hqueue]
  -- the loop leaves the connection alone, so every element is looked at with the same numbers
  refine Queue.sweepList_filter (I := fun s => s.conn = w.conn) ?_ ?_ ?_ rfl
  · exact fun s hs x _ => (timeoutEntry_conn e _ s x).trans hs
  · exact fun s hs x _ hacked => timeoutEntry_freed (by rwa [hs])
  · intro s hs x hx hacked
    have houtcome := @timeoutEntry_outcome e (e.getMs w.tick) s x
      (by rwa [hs]) (hage x hx) (by rwa [hs])
    rwa [hs] at houtcome

/-- Three elements: acknowledged, sent 2000 ms ago in front of the wrap of the clock, and sent
just now. -/
def resending : World where
  conn := { Conn.opened 100 200 4 with
    rdp.sndUna := 101
    rdp.txQueue := ⟨[segment .ackOnly 100 200 [1],
      { segment .ackOnly 101 200 [2] with timestamp := -2000 }, segment .ackOnly 102 200 [3]],
      by decide⟩ }
  tick := 0
  log := []

/-- Three elements, of which one is acknowledged and two are due. -/
theorem checkTimeouts_sweep_three :
    (cspRdpCheckTimeouts (.favourable .big) resending).conn.rdp.txQueue.items.length = 2 ∧
      ((messageCalls (.favourable .big) 0 resending.next
        resending.conn.rdp.txQueue.items).filterMap MessageCall.given?).length = 1 := by
  obtain ⟨hkept, -, hgiven, -⟩ := checkTimeouts_sweep (e := .favourable .big) (w := resending) rfl
    rfl (fun _ => rfl) (by decide) (by decide +kernel)
  exact ⟨hkept.length_eq.symm.trans (by decide +kernel),
    hgiven.length_eq.symm.trans (by decide +kernel)⟩

end LibCSP
