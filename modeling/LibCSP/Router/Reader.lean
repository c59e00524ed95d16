/-
# The receive queues of a connection

`csp_conn_enqueue_packet` (`src/csp_conn.c`) and `csp_read` (`src/csp_io.c`) under
`CSP_USE_QOS` on an open connection, one queue operation a step: the router writes and one
task reads.  `CSP_CONN_QUEUE_LENGTH` is `len`, so a receive queue has `len / CSP_PRIORITIES`
places and `rx_event` has `len`.

All receive queues together have no more places than `rx_event`, whatever the division
leaves, so a post is never refused and an event always finds its packet
(`rxPath_lossless`).  `csp_rdp_check_ack`, which `csp_read` calls with the packet in hand, does
not touch the queues.
-/

import LibCSP.Basis.Notified
import LibCSP.Basis.Run
import LibCSP.Rdp.Deliver

namespace LibCSP

open Basis

/-- What a call returns. -/
inductive RxEvent
  /-- `csp_conn_enqueue_packet`. -/
  | enqueued (packet : CspPacket) (err : CspErr)
  /-- `csp_read` took an event and returned this. -/
  | read (packet : Option CspPacket)
  /-- `csp_read` returned `NULL` because there was no event. -/
  | timedout

structure RxPath (len : ℕ) where
  rxEvent : Queue Unit len
  rxQueue : Fin cspPriorities → Queue CspPacket (len / cspPriorities)
  /-- The packet of a `csp_conn_enqueue_packet` that has not posted its event yet. -/
  writer : Option CspPacket
  /-- The value of `prio` in the loop of a `csp_read`. -/
  reader : Option ℕ
  log : List RxEvent

variable {len : ℕ}

namespace RxPath

/-- After `csp_conn_flush_rx_queue`. -/
def flushed : RxPath len := ⟨Queue.empty, fun _ => Queue.empty, none, none, []⟩

def emit (s : RxPath len) (ev : RxEvent) : RxPath len := { s with log := s.log ++ [ev] }

end RxPath

/-- `csp_conn_enqueue_packet` puts the packet into its queue. -/
def enqueuePacket (packet : CspPacket) (s : RxPath len) : RxPath len :=
  match (s.rxQueue (rxq packet)).enqueue packet with
  | none => s.emit (.enqueued packet .nomem)
  | some q =>
    { s with
      rxQueue := Function.update s.rxQueue (rxq packet) q
      writer := some packet }

/-- `csp_conn_enqueue_packet` posts the event. -/
def enqueueEvent (packet : CspPacket) (s : RxPath len) : RxPath len :=
  match s.rxEvent.enqueue () with
  | none => { s with writer := none }.emit (.enqueued packet .nomem)
  | some ev => { s with rxEvent := ev, writer := none }.emit (.enqueued packet .none)

/-- `csp_read` waits for an event. -/
def readEvent (s : RxPath len) : RxPath len :=
  match s.rxEvent.dequeue with
  | none => s.emit .timedout
  | some (_, ev) => { s with rxEvent := ev, reader := some 0 }

/-- One round of the loop in `csp_read`, or its end. -/
def readQueue (prio : ℕ) (s : RxPath len) : RxPath len :=
  if h : prio < cspPriorities then
    match (s.rxQueue ⟨prio, h⟩).dequeue with
    | none => { s with reader := some (prio + 1) }
    | some (packet, q) =>
      { s with
        rxQueue := Function.update s.rxQueue ⟨prio, h⟩ q
        reader := none }.emit (.read (some packet))
  else { s with reader := none }.emit (.read none)

inductive RxAction
  /-- The router calls `csp_conn_enqueue_packet`. -/
  | enqueue (packet : CspPacket)
  /-- The router makes the second queue operation of the call. -/
  | post
  /-- The task makes the next queue operation of `csp_read`. -/
  | read

def rxPathStep (s : RxPath len) : RxAction → Option (RxPath len)
  | .enqueue packet =>
    match s.writer with
    | none => some (enqueuePacket packet s)
    | some _ => none
  | .post => s.writer.map fun packet => enqueueEvent packet s
  | .read =>
    match s.reader with
    | none => some (readEvent s)
    | some prio => some (readQueue prio s)

/-- What a step is. -/
inductive RxTurn (s : RxPath len) : RxAction → RxPath len → Prop
  | enqueue {packet : CspPacket} (hw : s.writer = none) :
      RxTurn s (.enqueue packet) (enqueuePacket packet s)
  | post {packet : CspPacket} (hw : s.writer = some packet) :
      RxTurn s .post (enqueueEvent packet s)
  | wait (hr : s.reader = none) : RxTurn s .read (readEvent s)
  | find {prio : ℕ} (hr : s.reader = some prio) : RxTurn s .read (readQueue prio s)

/-- **Every step is one of the turns** that `RxTurn` names. -/
theorem rxPathStep_turn {s t : RxPath len} {a : RxAction} (h : rxPathStep s a = some t) :
    RxTurn s a t := by
  cases a with
  | enqueue packet =>
    simp only [rxPathStep] at h
    split at h
    · rename_i hw
      obtain rfl := Option.some.inj h
      exact .enqueue hw
    · exact absurd h.symm (Option.some_ne_none t)
  | post =>
    obtain ⟨packet, hw, rfl⟩ := Option.map_eq_some_iff.1 h
    exact .post hw
  | read =>
    simp only [rxPathStep] at h
    split at h
    · rename_i hr
      obtain rfl := Option.some.inj h
      exact .wait hr
    · rename_i hr
      obtain rfl := Option.some.inj h
      exact .find hr

/-- A packet that does not fit is not accepted. -/
theorem enqueuePacket_none {s : RxPath len} {p : CspPacket}
    (h : (s.rxQueue (rxq p)).enqueue p = none) :
    enqueuePacket p s = s.emit (.enqueued p .nomem) := by
  rw [enqueuePacket, h]

/-- A packet that fits is enqueued, and its writer posts the event next. -/
theorem enqueuePacket_some {s : RxPath len} {p : CspPacket} {q : Queue CspPacket _}
    (h : (s.rxQueue (rxq p)).enqueue p = some q) :
    enqueuePacket p s =
      { s with rxQueue := Function.update s.rxQueue (rxq p) q, writer := some p } := by
  rw [enqueuePacket, h]

/-- A queue without a packet is passed over. -/
theorem readQueue_none {s : RxPath len} {k : Fin cspPriorities}
    (h : (s.rxQueue k).dequeue = none) :
    readQueue k.val s = { s with reader := some (k.val + 1) } := by
  rw [readQueue, dif_pos k.isLt, h]

/-- A queue with a packet is read. -/
theorem readQueue_some {s : RxPath len} {k : Fin cspPriorities} {p : CspPacket}
    {q : Queue CspPacket _} (h : (s.rxQueue k).dequeue = some (p, q)) :
    readQueue k.val s = { s with
      rxQueue := Function.update s.rxQueue k q
      reader := none }.emit (.read (some p)) := by
  rw [readQueue, dif_pos k.isLt, h]

/-! ### Calls that nobody interrupts -/

/-- The receive queues of a connection, while no call is in progress. -/
def Conn.rxPath (c : Conn) (log : List RxEvent) : RxPath cspConnQueueLength :=
  ⟨c.rxEvent, c.rxQueue, none, none, log⟩

/-- **The call as one step** is the call with its queue operations one after another. -/
theorem cspConnEnqueuePacket_run (p : CspPacket) (w : World) :
    ∃ acts, Run rxPathStep (fun _ _ => True) (w.conn.rxPath []) acts
      ((cspConnEnqueuePacket (some p) w).2.conn.rxPath
        [.enqueued p (cspConnEnqueuePacket (some p) w).1]) := by
  unfold cspConnEnqueuePacket
  simp only
  split
  · rename_i hq
    exact ⟨[.enqueue p], .cons trivial (congrArg some (enqueuePacket_none hq)) .nil⟩
  · rename_i q hq
    refine ⟨[.enqueue p, .post], .cons trivial
      (t := ⟨w.conn.rxEvent, Function.update w.conn.rxQueue (rxq p) q, some p, none, []⟩) ?_
        (.cons trivial ?_ .nil)⟩
    · exact congrArg some (enqueuePacket_some hq)
    · simp only [rxPathStep, Option.map_some, enqueueEvent]
      split <;> rename_i hev <;> rw [hev] <;> rfl

/-- The loop of `csp_read` finds what `readPacket` finds. -/
theorem readPacket_run (w : World) :
    ∃ acts, Run rxPathStep (fun _ _ => True) { w.conn.rxPath [] with reader := some 0 } acts
      ((readPacket w).2.conn.rxPath [.read (readPacket w).1]) := by
  refine scan_induction (n := cspPriorities)
    (p := fun prio => decide ((w.conn.rxQueue prio).size ≠ 0))
    (R := fun j => ∃ acts, Run rxPathStep (fun _ _ => True)
      { w.conn.rxPath [] with reader := some j } acts
        ((readPacket w).2.conn.rxPath [.read (readPacket w).1])) (fun hnone => ?_)
    (fun k hk => ?_) fun k hk => ?_
  · refine ⟨[.read], .cons trivial ?_ .nil⟩
    simp only [rxPathStep, readQueue, readPacket, readPrio, hnone, Nat.lt_irrefl, dite_false]
    rfl
  · have hsize := List.find?_some hk
    cases hd : (w.conn.rxQueue k).dequeue with
    | none =>
      exact absurd (Notified.size_eq_zero.1 hd) (of_decide_eq_true hsize)
    | some r =>
      have hread : readPacket w = (some r.1, { w with
          conn.rxQueue := Function.update w.conn.rxQueue k r.2 }) := by
        simp only [readPacket, readPrio, hk, hd]
      rw [hread]
      exact ⟨[.read], .cons trivial (congrArg some (readQueue_some hd)) .nil⟩
  · rintro ⟨acts, hrun⟩
    have hd : (w.conn.rxQueue k).dequeue = none :=
      Notified.size_eq_zero.2 (not_not.1 (of_decide_eq_false hk))
    exact ⟨.read :: acts, .cons trivial (congrArg some (readQueue_none hd)) hrun⟩

/-- **`csp_read` as one step.** -/
theorem cspRead_run (e : Env) {w : World} (h : w.conn.state = .connOpen) :
    ∃ acts ev, Run rxPathStep (fun _ _ => True) (w.conn.rxPath []) acts
        ((cspRead e w).2.conn.rxPath [ev]) ∧
      ev = if w.conn.rxEvent.size = 0 then .timedout else .read (cspRead e w).1 := by
  unfold cspRead
  rw [if_neg (not_not.2 h)]
  split
  · rename_i hev
    refine ⟨[.read], .timedout, .cons trivial ?_ .nil, ?_⟩
    · simp only [rxPathStep, Conn.rxPath, readEvent, hev]
      rfl
    · rw [if_pos (Notified.size_eq_zero.1 hev)]
  · rename_i ev hev
    obtain ⟨acts, hrun⟩ := readPacket_run { w with conn.rxEvent := ev }
    have hsize := Notified.size_of_dequeue hev
    refine ⟨.read :: acts, .read (readPacket { w with conn.rxEvent := ev }).1,
      .cons trivial (t := { Conn.rxPath { w.conn with rxEvent := ev } [] with reader := some 0 })
        ?_ ?_, ?_⟩
    · simp only [rxPathStep, Conn.rxPath, readEvent, hev]
    · simp only
      split
      · have hin := (cspRdpCheckAck_quiet e (readPacket { w with conn.rxEvent := ev }).2).inbound
        have hq := congrArg Inbound.rxQueue hin
        have he := congrArg Inbound.rxEvent hin
        simp only [World.inbound] at hq he
        unfold Conn.rxPath at hrun ⊢
        rwa [hq, he]
      · exact hrun
    · rw [if_neg (by omega)]

/-! ### As queues with notifications -/

namespace RxPath

variable {s t : RxPath len} {a : RxAction}

def notified (s : RxPath len) : Notified CspPacket cspPriorities (len / cspPriorities) len where
  queue := s.rxQueue
  event := s.rxEvent
  posting := s.writer.toList.length
  scan := s.reader

/-- **The integer division leaves no more places than there are events.** -/
theorem room (hc : s.notified.Covered) {packet : CspPacket} (hw : s.writer = some packet) :
    ∃ ev, s.rxEvent.enqueue () = some ev := by
  refine Option.ne_none_iff_exists'.1 (hc.room (Nat.mul_div_le len cspPriorities) ?_)
  show 0 < s.writer.toList.length
  rw [hw]
  exact Nat.one_pos

/-- **Every step is an operation on queues with notifications**, or one that they do not
notice: a packet refused, or a wait without an event. -/
theorem step_notified (h : rxPathStep s a = some t) (hc : s.notified.Covered) :
    t.notified = s.notified ∨ s.notified.Step t.notified := by
  cases rxPathStep_turn h with
  | enqueue hw =>
    unfold enqueuePacket
    split
    · exact .inl rfl
    · rename_i q hq
      have hput := Notified.Step.put (s := s.notified) hq
      unfold notified at hput ⊢
      rw [hw] at hput ⊢
      exact .inr hput
  | post hw =>
    obtain ⟨ev, hev⟩ := room hc hw
    have hposting : s.notified.posting = 1 := by
      show s.writer.toList.length = 1
      rw [hw]
      rfl
    have hpost := Notified.Step.post (s := s.notified) (by omega) hev
    rw [hposting] at hpost
    unfold enqueueEvent
    rw [hev]
    exact .inr hpost
  | wait hr =>
    unfold readEvent
    split
    · exact .inl rfl
    · rename_i ev hev
      exact .inr (.wait hr hev)
  | @find prio hr =>
    have hlt : prio < cspPriorities := hc.scan_lt hr
    unfold readQueue
    rw [dif_pos hlt]
    split
    · rename_i hd
      exact .inr (.skip (k := ⟨prio, hlt⟩) hr hd)
    · rename_i packet q hd
      exact .inr (.take (k := ⟨prio, hlt⟩) hr hd)

/-- The packets `csp_conn_enqueue_packet` returned `CSP_ERR_NONE` for, in this order. -/
def accepted (s : RxPath len) : List CspPacket := s.log.filterMap fun
  | .enqueued packet .none => some packet
  | _ => none

/-- The packets `csp_read` returned, in this order. -/
def returned (s : RxPath len) : List CspPacket := s.log.filterMap fun
  | .read packet => packet
  | _ => none

/-- The packets of priority `prio`. -/
def ofPrio (prio : Fin cspPriorities) (ps : List CspPacket) : List CspPacket :=
  ps.filter (rxq · = prio)

/-- The packets of a priority in two lists. -/
theorem ofPrio_append (prio : Fin cspPriorities) (ps qs : List CspPacket) :
    ofPrio prio (ps ++ qs) = ofPrio prio ps ++ ofPrio prio qs :=
  List.filter_append ..

/-- A packet has its own priority. -/
@[simp] theorem ofPrio_self (p : CspPacket) : ofPrio (rxq p) [p] = [p] :=
  List.filter_cons_of_pos (by simp)

/-- And no other. -/
theorem ofPrio_of_ne {prio : Fin cspPriorities} {p : CspPacket} (h : rxq p ≠ prio) :
    ofPrio prio [p] = [] :=
  List.filter_cons_of_neg (by simpa using h)

/-- Within a priority, what was put into a queue is what was read and what is in the queue. -/
def Ordered (s : RxPath len) : Prop :=
  ∀ prio, ofPrio prio (s.accepted ++ s.writer.toList) =
    ofPrio prio s.returned ++ (s.rxQueue prio).items

/-- An event accepts a packet, or none. -/
@[simp] theorem accepted_emit (s : RxPath len) (ev : RxEvent) :
    (s.emit ev).accepted = s.accepted ++ (match ev with
      | .enqueued packet .none => [packet]
      | _ => []) := by
  unfold accepted emit
  rw [List.filterMap_append]
  cases ev with
  | enqueued packet err => cases err <;> rfl
  | read packet => rfl
  | timedout => rfl

/-- An event returns a packet, or none. -/
@[simp] theorem returned_emit (s : RxPath len) (ev : RxEvent) :
    (s.emit ev).returned = s.returned ++ (match ev with
      | .read packet => packet.toList
      | _ => []) := by
  unfold returned emit
  rw [List.filterMap_append]
  cases ev with
  | enqueued packet err => rfl
  | read packet => cases packet <;> rfl
  | timedout => rfl

/-- A packet is in the queue of its priority. -/
theorem Ordered.rxq_eq (h : s.Ordered) {prio : Fin cspPriorities} {packet : CspPacket}
    (hp : packet ∈ (s.rxQueue prio).items) : rxq packet = prio := by
  have hmem : packet ∈ ofPrio prio (s.accepted ++ s.writer.toList) :=
    h prio ▸ List.mem_append_right _ hp
  simpa using (List.mem_filter.1 hmem).2

/-- Order is a property of what was accepted, returned and is queued. -/
theorem Ordered.of_eq (h : s.Ordered) (hq : t.rxQueue = s.rxQueue)
    (ha : t.accepted ++ t.writer.toList = s.accepted ++ s.writer.toList)
    (hr : t.returned = s.returned) : t.Ordered := by
  intro prio
  rw [ha, hr, hq]
  exact h prio

/-- Enqueuing a packet keeps the order. -/
theorem enqueuePacket_ordered (packet : CspPacket) (h : s.Ordered) (hw : s.writer = none) :
    (enqueuePacket packet s).Ordered := by
  unfold enqueuePacket
  split
  · refine h.of_eq rfl ?_ ?_
    · rw [accepted_emit, List.append_nil]
      rfl
    · rw [returned_emit, List.append_nil]
  · rename_i q hq
    intro prio
    have hprio := h prio
    rw [hw, Option.toList_none, List.append_nil] at hprio
    show ofPrio prio (s.accepted ++ [packet]) =
      ofPrio prio s.returned ++ (Function.update s.rxQueue (rxq packet) q prio).items
    rw [ofPrio_append, hprio]
    by_cases he : rxq packet = prio
    · subst he
      rw [Function.update_self, (Queue.enqueue_eq_some.1 hq).2, ofPrio_self, List.append_assoc]
    · rw [Function.update_of_ne (Ne.symm he), ofPrio_of_ne he, List.append_nil]

/-- So does posting its event. -/
theorem enqueueEvent_ordered {packet : CspPacket} (hc : s.notified.Covered) (h : s.Ordered)
    (hw : s.writer = some packet) : (enqueueEvent packet s).Ordered := by
  obtain ⟨ev, hev⟩ := room hc hw
  unfold enqueueEvent
  rw [hev]
  refine h.of_eq rfl ?_ ?_
  · rw [accepted_emit, hw]
    exact List.append_nil _
  · rw [returned_emit, List.append_nil]
    rfl

/-- So does taking an event. -/
theorem readEvent_ordered (h : s.Ordered) : (readEvent s).Ordered := by
  unfold readEvent
  split
  · refine h.of_eq rfl ?_ ?_
    · rw [accepted_emit, List.append_nil]
      rfl
    · rw [returned_emit, List.append_nil]
  · exact h

/-- So does reading a queue. -/
theorem readQueue_ordered {prio : ℕ} (h : s.Ordered) : (readQueue prio s).Ordered := by
  unfold readQueue
  split
  · rename_i hlt
    split
    · exact h
    · rename_i packet q hd
      have hitems := Queue.dequeue_eq_some.1 hd
      have hq : rxq packet = ⟨prio, hlt⟩ := h.rxq_eq (hitems ▸ List.mem_cons_self)
      intro k
      have hk := h k
      show ofPrio k (RxPath.accepted (emit _ _) ++ s.writer.toList) =
        ofPrio k (RxPath.returned (emit _ _)) ++ (Function.update s.rxQueue ⟨prio, hlt⟩ q k).items
      rw [accepted_emit, returned_emit, List.append_nil]
      show ofPrio k (s.accepted ++ s.writer.toList) = ofPrio k (s.returned ++ [packet]) ++ _
      rw [hk, ofPrio_append, List.append_assoc]
      by_cases he : k = ⟨prio, hlt⟩
      · subst he
        rw [Function.update_self, hitems, ← hq, ofPrio_self]
        rfl
      · rw [Function.update_of_ne he, ofPrio_of_ne (hq ▸ Ne.symm he)]
        rfl
  · refine h.of_eq rfl ?_ ?_
    · rw [accepted_emit, List.append_nil]
      rfl
    · rw [returned_emit]
      exact List.append_nil _

/-- What holds in every state. -/
structure Sound (s : RxPath len) : Prop where
  covered : s.notified.Covered
  balanced : s.notified.Balanced
  ordered : s.Ordered
  found : RxEvent.read none ∉ s.log

/-- After `csp_conn_flush_rx_queue` everything is in order. -/
theorem Sound.flushed : (flushed : RxPath len).Sound where
  covered := ⟨Nat.zero_le _, fun j hj => absurd hj.symm (Option.some_ne_none j)⟩
  balanced := by
    show 0 = ∑ _ : Fin cspPriorities, 0
    rw [Finset.sum_const_zero]
  ordered := fun _ => rfl
  found := List.not_mem_nil

/-- **A step keeps the path sound.** -/
theorem Sound.step (hs : s.Sound) (h : rxPathStep s a = some t) : t.Sound := by
  have hcovered : t.notified.Covered := by
    rcases step_notified h hs.covered with he | hst
    · exact he ▸ hs.covered
    · exact hst.covered hs.covered
  have hbalanced : t.notified.Balanced := by
    rcases step_notified h hs.covered with he | hst
    · exact he ▸ hs.balanced
    · exact hst.balanced hs.balanced
  suffices t.Ordered ∧ RxEvent.read none ∉ t.log from ⟨hcovered, hbalanced, this.1, this.2⟩
  have hfound : ∀ ev, ev ≠ .read none → RxEvent.read none ∉ s.log ++ [ev] := fun ev hev hmem =>
    (List.mem_append.1 hmem).elim hs.found fun h => hev (List.mem_singleton.1 h).symm
  cases rxPathStep_turn h with
  | enqueue hw =>
    refine ⟨enqueuePacket_ordered _ hs.ordered hw, ?_⟩
    unfold enqueuePacket
    split
    · exact hfound _ RxEvent.noConfusion
    · exact hs.found
  | post hw =>
    refine ⟨enqueueEvent_ordered hs.covered hs.ordered hw, ?_⟩
    unfold enqueueEvent
    split <;> exact hfound _ RxEvent.noConfusion
  | wait _ =>
    refine ⟨readEvent_ordered hs.ordered, ?_⟩
    unfold readEvent
    split
    · exact hfound _ RxEvent.noConfusion
    · exact hs.found
  | find hr =>
    refine ⟨readQueue_ordered hs.ordered, ?_⟩
    unfold readQueue
    rw [dif_pos (hs.covered.scan_lt hr)]
    split
    · exact hs.found
    · exact hfound _ fun he => Option.some_ne_none _ (RxEvent.read.inj he)

/-- The tasks finish what they have begun, and `csp_read` is called as often as there are
packets. -/
def Draining (_ : RxPath len) : RxAction → Prop
  | .post | .read => True
  | .enqueue _ => False

/-- Nobody is in a call and no packet is waiting. -/
def Drained (s : RxPath len) : Prop :=
  s.writer = none ∧ s.reader = none ∧ ∀ prio, (s.rxQueue prio).items = []

/-- What is left to do: every packet costs a wait and a loop. -/
def work (s : RxPath len) : ℕ :=
  s.notified.total * 6 + s.writer.toList.length + match s.reader with
    | none => 5
    | some prio => 4 - prio

/-- A wait finds an event while there are packets. -/
theorem Sound.event (hs : s.Sound) (hw : s.writer = none) (hr : s.reader = none)
    (hpos : 0 < s.notified.total) : ∃ ev, s.rxEvent.dequeue = some ((), ev) := by
  have hsize : s.rxEvent.size = s.notified.total := hs.balanced.idle (by
    show s.writer.toList.length = 0
    rw [hw]
    rfl) hr
  cases hd : s.rxEvent.dequeue with
  | none =>
    have : s.rxEvent.size = 0 := Notified.size_eq_zero.1 hd
    omega
  | some r => exact ⟨r.2, rfl⟩

/-- A round of the loop comes closer to a packet. -/
theorem readQueue_work {prio : ℕ} (hr : s.reader = some prio) (hlt : prio < cspPriorities) :
    (readQueue prio s).work < s.work := by
  have hlt' : prio < 4 := hlt
  unfold readQueue
  rw [dif_pos hlt]
  split
  · show s.notified.total * 6 + s.writer.toList.length + (4 - (prio + 1)) < s.work
    unfold work
    rw [hr]
    simp only
    omega
  · rename_i packet q hd
    have hsize := Notified.size_of_dequeue hd
    have hsum := Notified.total_update (s := s.notified) (k := ⟨prio, hlt⟩) (q := q)
    show (∑ j, (Function.update s.rxQueue ⟨prio, hlt⟩ q j).size) * 6 + s.writer.toList.length + 5 <
      s.work
    have htotal : (∑ j, (Function.update s.rxQueue ⟨prio, hlt⟩ q j).size) + 1 =
        s.notified.total := by
      have : (s.notified.queue ⟨prio, hlt⟩).size = q.size + 1 := hsize
      have : ∑ j, (Function.update s.notified.queue ⟨prio, hlt⟩ q j).size =
        ∑ j, (Function.update s.rxQueue ⟨prio, hlt⟩ q j).size := rfl
      omega
    unfold work
    rw [hr]
    simp only
    omega

/-- While a packet is queued there is something to do. -/
theorem exists_work (hs : s.Sound) (hd : ¬s.Drained) :
    ∃ a t, Draining s a ∧ rxPathStep s a = some t ∧ t.Sound ∧ t.work < s.work := by
  cases hw : s.writer with
  | some packet =>
    have hst : rxPathStep s .post = some (enqueueEvent packet s) := by rw [rxPathStep, hw]; rfl
    refine ⟨.post, _, trivial, hst, hs.step hst, ?_⟩
    obtain ⟨ev, hev⟩ := room hs.covered hw
    unfold enqueueEvent work
    rw [hev, hw]
    exact Nat.add_lt_add_right (Nat.lt_succ_self _) _
  | none =>
    cases hr : s.reader with
    | some prio =>
      have hst : rxPathStep s .read = some (readQueue prio s) := by rw [rxPathStep, hr]
      exact ⟨.read, _, trivial, hst, hs.step hst, readQueue_work hr (hs.covered.scan_lt hr)⟩
    | none =>
      have hst : rxPathStep s .read = some (readEvent s) := by rw [rxPathStep, hr]
      refine ⟨.read, _, trivial, hst, hs.step hst, ?_⟩
      have hpos : 0 < s.notified.total := by
        refine Nat.pos_of_ne_zero fun hzero => hd ⟨hw, hr, fun prio => ?_⟩
        exact List.length_eq_zero_iff.1
          (Finset.sum_eq_zero_iff.1 hzero prio (Finset.mem_univ prio))
      obtain ⟨ev, hev⟩ := hs.event hw hr hpos
      unfold readEvent work
      rw [hev, hr]
      exact Nat.add_lt_add_left (show 4 - 0 < 5 by decide) _

/-- **Reading on empties the queues.** -/
theorem drain (hs : s.Sound) : ∃ acts t, Run rxPathStep Draining s acts t ∧ t.Sound ∧ t.Drained :=
  Run.reaches work (fun _ hs hd => exists_work hs hd) hs

end RxPath

/-! ### The receive path loses nothing -/

/-- What the two callers rely on. -/
structure Lossless (s : RxPath len) : Prop where
  /-- A packet in its queue is accepted: `csp_conn_enqueue_packet` does not fail after that. -/
  posted : ∀ packet t, s.writer = some packet → rxPathStep s .post = some t →
    t.log = s.log ++ [.enqueued packet .none]
  /-- An event `csp_read` took is followed by finding a packet. -/
  found : RxEvent.read none ∉ s.log ∧ ∀ prio, s.reader = some prio → prio < cspPriorities
  /-- No packet without an event when nobody is in a call. -/
  announced : s.writer = none → s.reader = none → s.rxEvent.size = ∑ prio, (s.rxQueue prio).size
  /-- Within a priority the packets returned are the first of those accepted, and the others
  are in the queue. -/
  ordered : s.writer = none → ∀ prio, RxPath.ofPrio prio s.accepted =
    RxPath.ofPrio prio s.returned ++ (s.rxQueue prio).items
  /-- Reading on returns them all. -/
  drains : ∃ acts t, Run rxPathStep RxPath.Draining s acts t ∧
    ∀ prio, RxPath.ofPrio prio t.accepted = RxPath.ofPrio prio t.returned

/-- A sound path loses nothing. -/
theorem RxPath.Sound.lossless {s : RxPath len} (hs : s.Sound) : Lossless s where
  posted := by
    intro packet t hw h
    obtain ⟨ev, hev⟩ := RxPath.room hs.covered hw
    rw [rxPathStep, hw] at h
    obtain rfl := Option.some.inj h
    unfold enqueueEvent
    rw [hev]
    rfl
  found := ⟨hs.found, fun _ hr => hs.covered.scan_lt hr⟩
  announced := fun hw hr => hs.balanced.idle (by
    show s.writer.toList.length = 0
    rw [hw]
    rfl) hr
  ordered := by
    intro hw prio
    have h := hs.ordered prio
    rwa [hw, Option.toList_none, List.append_nil] at h
  drains := by
    obtain ⟨acts, t, hrun, ht, hw, -, hempty⟩ := RxPath.drain hs
    refine ⟨acts, t, hrun, fun prio => ?_⟩
    have h := ht.ordered prio
    rwa [hw, hempty prio, Option.toList_none, List.append_nil, List.append_nil] at h

/-- **The receive path of a connection is lossless**, for every queue length and every
interleaving. -/
theorem rxPath_lossless {acts : List RxAction} {s : RxPath len}
    (h : Run rxPathStep (fun _ _ => True) .flushed acts s) : Lossless s :=
  (h.invariant (fun _ _ _ hs _ hst => hs.step hst) RxPath.Sound.flushed).lossless

/-- Two packets, the second written while the first is read. -/
theorem rxPath_lossless_pair : ∃ s,
    Run rxPathStep (fun _ _ => True) (.flushed : RxPath cspConnQueueLength)
      [.enqueue (.blank 3), .post, .read, .enqueue (.blank 4), .read, .post] s ∧ Lossless s := by
  have hrun : ∃ s, Run rxPathStep (fun _ _ => True) (.flushed : RxPath cspConnQueueLength)
      [.enqueue (.blank 3), .post, .read, .enqueue (.blank 4), .read, .post] s ∧
        (s.rxEvent.size == 1) = true :=
    Run.of_any (by decide +kernel)
  obtain ⟨s, hs, -⟩ := hrun
  exact ⟨s, hs, rxPath_lossless hs⟩

end LibCSP
