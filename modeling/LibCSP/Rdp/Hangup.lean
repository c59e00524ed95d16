/-
# How a connection ends

Two halves of an end that were written apart.  `csp_close` lets RDP close first and takes the
lock of the connection array after that, so a call that gives up at the lock has moved
`RDP_CLOSE_WAIT` on to `RDP_CLOSED`, where `csp_rdp_check_timeouts` no longer looks for it
(`cspClose_atomic_iff`).

The label `discard_close` of `csp_rdp_new_packet` wakes a reader by a `NULL` in its receive
queue, and `csp_conn_enqueue_packet` refuses `NULL` before it looks at the queue
(`discardClose_marks_never`).  A receive queue holds pointers; that none of them is ever `NULL` is
what lets `Conn` hold packets, and `RxPointers` is the same queues with the pointers.
-/

import LibCSP.Rdp.Close

namespace LibCSP

open Basis

/-! ### `csp_close` that fails -/

/-- The states and the queues of a connection are what they were. -/
structure Unmoved (c c' : Conn) : Prop where
  state : c'.state = c.state
  rdpState : c'.rdp.state = c.rdp.state
  rxEvent : c'.rxEvent = c.rxEvent
  rxQueue : c'.rxQueue = c.rxQueue
  txQueue : c'.rdp.txQueue = c.rdp.txQueue
  rdpRxQueue : c'.rdp.rxQueue = c.rdp.rxQueue

/-- `csp_rdp_check_timeouts` closes the connection once its time is up, given the lock. -/
def Reclaimed (c : Conn) : Prop :=
  ∀ (e : Env) (w : World), w.conn = c →
    cspRdpTimeAfter (e.getMs w.tick) (c.timestamp + c.rdp.connTimeout) = true →
      e.connLock (w.tick + 1) = true → (cspRdpCheckTimeouts e w).conn.state = .connClosed

/-- What a call of `csp_close` that returns `CSP_ERR_TIMEDOUT` leaves behind. -/
def CloseAtomic (e : Env) (w : World) : Prop :=
  (cspClose e w).1 = .timedout → Unmoved w.conn (cspClose e w).2.conn ∧
    (w.conn.rdp.state = .rdpCloseWait → Reclaimed (cspClose e w).2.conn)

/-- The identifiers are those of an RDP connection, for `csp_close`. -/
def Conn.rdpFlags (c : Conn) : Bool := c.idin.has cspFrdp || c.idout.has cspFrdp

/-- `csp_close` moves RDP on and then gives up at the lock. -/
def ClosesHalf (e : Env) (w : World) : Prop :=
  w.conn.state = .connOpen ∧ w.conn.rdpFlags = true ∧ w.conn.rdp.state = .rdpCloseWait ∧
    e.connLock w.tick = false

/-- `CSP_ERR_TIMEDOUT` comes from the lock, and then nothing has changed. -/
theorem cspCloseNow_timedout {e : Env} {w : World} (h : (cspCloseNow e w).1 = .timedout) :
    e.connLock w.tick = false ∧ (cspCloseNow e w).2 = w.next := by
  unfold cspCloseNow at h ⊢
  split
  · rename_i hlock
    rw [if_pos hlock] at h
    exact CspErr.noConfusion h
  · rename_i hlock
    exact ⟨Bool.eq_false_iff.2 hlock, rfl⟩

/-- With the lock the connection is closed. -/
theorem cspCloseNow_closed {e : Env} {w : World} (h : e.connLock w.tick = true) :
    (cspCloseNow e w).2.conn.state = .connClosed := by
  unfold cspCloseNow
  rw [if_pos h]
  simp only
  split <;> rfl

/-- **`csp_close` gives up at the lock only**, and then it has at most moved `RDP_CLOSE_WAIT`
on. -/
theorem cspClose_timedout {e : Env} {w : World} (h : (cspClose e w).1 = .timedout) :
    w.conn.state = .connOpen ∧ e.connLock w.tick = false ∧
      (ClosesHalf e w ∧ (cspClose e w).2.conn = { w.conn with rdp.state := .rdpClosed } ∨
        ¬ClosesHalf e w ∧ (cspClose e w).2.conn = w.conn) := by
  unfold cspClose at h ⊢
  split at h
  · exact CspErr.noConfusion h
  · rename_i hopen
    have hopen : w.conn.state = .connOpen := by
      cases hst : w.conn.state with
      | connClosed => exact absurd hst hopen
      | connOpen => rfl
    rw [if_neg (by rw [hopen]; exact ConnState.noConfusion)]
    split at h
    · rename_i hflags
      rw [if_pos hflags]
      unfold cspRdpClose at h ⊢
      cases hst : w.conn.rdp.state with
      | rdpClosed =>
        simp only [hst, Nat.zero_ne_one, if_false] at h ⊢
        obtain ⟨hlock, hw⟩ := cspCloseNow_timedout h
        refine ⟨hopen, hlock, .inr ⟨fun hh => ?_, by rw [hw]; rfl⟩⟩
        exact RdpState.noConfusion (hst.symm.trans hh.2.2.1)
      | rdpCloseWait =>
        simp only [hst, Nat.zero_ne_one, if_false] at h ⊢
        obtain ⟨hlock, hw⟩ := cspCloseNow_timedout h
        exact ⟨hopen, hlock, .inl ⟨⟨hopen, hflags, hst, hlock⟩, by rw [hw]; rfl⟩⟩
      | rdpSynSent | rdpSynRcvd | rdpOpen =>
        simp only [hst, if_true] at h
        exact CspErr.noConfusion h
    · rename_i hflags
      rw [if_neg hflags]
      obtain ⟨hlock, hw⟩ := cspCloseNow_timedout h
      exact ⟨hopen, hlock, .inr ⟨fun hh => hflags hh.2.1, by rw [hw]; rfl⟩⟩

/-- A call that closes half returns `CSP_ERR_TIMEDOUT`. -/
theorem ClosesHalf.timedout {e : Env} {w : World} (h : ClosesHalf e w) :
    (cspClose e w).1 = .timedout := by
  obtain ⟨hopen, hflags, hst, hlock⟩ := h
  unfold cspClose
  rw [if_neg (by rw [hopen]; exact ConnState.noConfusion),
    if_pos (show (w.conn.idin.has cspFrdp || w.conn.idout.has cspFrdp) = true from hflags)]
  unfold cspRdpClose
  simp only [hst, Nat.zero_ne_one, if_false]
  unfold cspCloseNow
  rw [if_neg (by rw [show e.connLock w.tick = false from hlock]; exact Bool.false_ne_true)]

/-- With the lock, `csp_close` closes a connection whose RDP half is done or about to be. -/
theorem cspClose_closed {e : Env} {w : World} (hlock : e.connLock w.tick = true)
    (hst : w.conn.rdp.state = .rdpCloseWait) : (cspClose e w).2.conn.state = .connClosed := by
  unfold cspClose
  split
  · assumption
  · split
    · unfold cspRdpClose
      simp only [hst, Nat.zero_ne_one, if_false]
      exact cspCloseNow_closed hlock
    · exact cspCloseNow_closed hlock

/-- A connection in `RDP_CLOSE_WAIT` is reclaimed. -/
theorem reclaimed_of_closeWait {c : Conn} (hst : c.rdp.state = .rdpCloseWait) : Reclaimed c := by
  rintro e w rfl hafter hlock
  unfold cspRdpCheckTimeouts
  simp only [cspGetMs, World.next_conn, hafter, hst, Bool.and_true, if_true]
  split <;> exact cspClose_closed hlock hst

/-- **`csp_close` is all or nothing** except where it moves `RDP_CLOSE_WAIT` on and does not get
the lock. -/
theorem cspClose_atomic_iff (e : Env) (w : World) : CloseAtomic e w ↔ ¬ClosesHalf e w := by
  constructor
  · rintro hatomic hhalf
    obtain ⟨-, -, ⟨-, hc⟩ | ⟨hno, -⟩⟩ := cspClose_timedout hhalf.timedout
    · have hst := (hatomic hhalf.timedout).1.rdpState
      rw [hc] at hst
      exact RdpState.noConfusion (hst.trans hhalf.2.2.1)
    · exact hno hhalf
  · intro hno hout
    obtain ⟨-, -, ⟨hhalf, -⟩ | ⟨-, hc⟩⟩ := cspClose_timedout hout
    · exact absurd hhalf hno
    · rw [hc]
      exact ⟨⟨rfl, rfl, rfl, rfl, rfl, rfl⟩, fun hst => reclaimed_of_closeWait hst⟩

/-- Surroundings where the lock of the connection array is never free. -/
def Env.locked : Env := { Env.favourable .big with connLock := fun _ => false }

/-- A connection in `RDP_CLOSE_WAIT` is in `RDP_CLOSED` after a `csp_close` that failed. -/
theorem cspClose_half : ¬∀ e w, (cspClose e w).1 = .timedout →
    Unmoved w.conn (cspClose e w).2.conn := by
  intro hall
  have h := hall .locked ⟨{ Conn.opened 100 200 4 with rdp.state := .rdpCloseWait }, 0, []⟩ rfl
  exact RdpState.noConfusion h.rdpState

/-! ### Receive queues of pointers -/

/-- The receive queues of a connection as the code has them: of pointers, which may be `NULL`. -/
structure RxPointers where
  rxEvent : Queue Unit cspConnQueueLength
  rxQueue : Fin cspPriorities → Queue (Option CspPacket) cspRxQueueLength

/-- The pointers to the packets in the receive queues. -/
def Conn.rxPointers (c : Conn) : RxPointers where
  rxEvent := c.rxEvent
  rxQueue := fun prio => ⟨(c.rxQueue prio).items.map some, by
    rw [List.length_map]
    exact (c.rxQueue prio).le⟩

namespace RxPointers

/-- `csp_conn_enqueue_packet`. -/
def enqueuePacket (packet : Option CspPacket) (r : RxPointers) : CspErr × RxPointers :=
  match packet with
  | none => (.inval, r)
  | some p =>
    match (r.rxQueue (cspConnGetRxq p.id.pri)).enqueue packet with
    | none => (.nomem, r)
    | some q =>
      let r := { r with rxQueue := Function.update r.rxQueue (cspConnGetRxq p.id.pri) q }
      match r.rxEvent.enqueue () with
      | none => (.nomem, r)
      | some ev => (.none, { r with rxEvent := ev })

/-- The pointer `csp_read` takes from the first receive queue that is not empty; `NULL` if all
of them are. -/
def takePacket (r : RxPointers) : Option CspPacket × RxPointers :=
  match (List.finRange cspPriorities).find? fun prio => (r.rxQueue prio).size ≠ 0 with
  | none => (none, r)
  | some prio =>
    match (r.rxQueue prio).dequeue with
    | none => (none, r)
    | some (p, q) => (p, { r with rxQueue := Function.update r.rxQueue prio q })

/-- What `csp_read` does to the receive queues: `none` when its timeout runs out, and otherwise
the pointer it returns. -/
def read (r : RxPointers) : Option (Option CspPacket) × RxPointers :=
  match r.rxEvent.dequeue with
  | none => (none, r)
  | some (_, ev) =>
    (some (takePacket { r with rxEvent := ev }).1, (takePacket { r with rxEvent := ev }).2)

/-- The receive queues after `n` reads. -/
def afterReads : ℕ → RxPointers → RxPointers
  | 0, r => r
  | n + 1, r => afterReads n r.read.2

/-- The pointers in the receive queues. -/
def queued (r : RxPointers) : ℕ := ∑ prio, (r.rxQueue prio).size

/-- A `NULL` was put behind the pointers of one receive queue, with an event for it. -/
structure EndMarked (r r' : RxPointers) : Prop where
  rxEvent : r'.rxEvent.size = r.rxEvent.size + 1
  rxQueue : ∃ prio, (r'.rxQueue prio).items = (r.rxQueue prio).items ++ [none]

/-- A reader that has taken `n` packets gets `NULL` from its next `csp_read`, and does not wait. -/
def ReadsEnd (n : ℕ) (r : RxPointers) : Prop := (afterReads n r).read.1 = some none

/-- Taking a packet takes no event. -/
theorem takePacket_event (r : RxPointers) : r.takePacket.2.rxEvent = r.rxEvent := by
  unfold takePacket
  split
  · rfl
  · split <;> rfl

/-- A call of `csp_read` takes one event if there is one. -/
theorem read_event (r : RxPointers) : r.read.2.rxEvent.size = r.rxEvent.size - 1 := by
  unfold read
  cases hev : r.rxEvent.dequeue with
  | none =>
    have hitems : r.rxEvent.items = [] := Queue.dequeue_eq_none.1 hev
    simp only [Queue.size, hitems, List.length_nil, Nat.zero_sub]
  | some x =>
    obtain ⟨_, ev⟩ := x
    have hitems := Queue.dequeue_eq_some.1 hev
    simp only [takePacket_event]
    simp only [Queue.size, hitems, List.length_cons, Nat.add_sub_cancel]

/-- So do several of them. -/
theorem afterReads_event (n : ℕ) (r : RxPointers) :
    (afterReads n r).rxEvent.size = r.rxEvent.size - n := by
  induction n generalizing r with
  | zero => rfl
  | succ n ih =>
    rw [afterReads, ih, read_event]
    omega

/-- **A reader without an event waits.** -/
theorem not_readsEnd {n : ℕ} {r : RxPointers} (h : r.rxEvent.size ≤ n) : ¬ReadsEnd n r := by
  have hzero : (afterReads n r).rxEvent.size = 0 := by
    rw [afterReads_event]
    omega
  have hnone : (afterReads n r).rxEvent.dequeue = none :=
    Queue.dequeue_eq_none.2 (List.eq_nil_of_length_eq_zero hzero)
  unfold ReadsEnd read
  rw [hnone]
  exact (Option.some_ne_none _).symm

/-- No mark has been set where nothing happened. -/
theorem not_endMarked (r : RxPointers) : ¬EndMarked r r := fun h => by
  have := h.rxEvent
  omega

end RxPointers

/-- Pointers that are not NULL are enqueued as packets are. -/
theorem pointers_enqueue {n : ℕ} {q : Queue CspPacket n} {p : CspPacket}
    {r : Queue (Option CspPacket) n} (hr : r.items = q.items.map some) :
    (q.enqueue p = none ∧ r.enqueue (some p) = none) ∨
      ∃ q' r', q.enqueue p = some q' ∧ r.enqueue (some p) = some r' ∧
        r'.items = q'.items.map some := by
  have hlen : r.items.length = q.items.length := by rw [hr, List.length_map]
  by_cases hfull : q.items.length < n
  · obtain ⟨q', hq⟩ := Option.ne_none_iff_exists'.1 fun h =>
      absurd hfull (Nat.not_lt.2 (Queue.enqueue_eq_none.1 h))
    obtain ⟨r', hr'⟩ := Option.ne_none_iff_exists'.1 fun h : r.enqueue (some p) = none =>
      absurd hfull (Nat.not_lt.2 (hlen ▸ Queue.enqueue_eq_none.1 h))
    refine .inr ⟨q', r', hq, hr', ?_⟩
    rw [(Queue.enqueue_eq_some.1 hr').2, (Queue.enqueue_eq_some.1 hq).2, hr, List.map_append]
    rfl
  · exact .inl ⟨Queue.enqueue_eq_none.2 (Nat.le_of_not_lt hfull),
      Queue.enqueue_eq_none.2 (hlen ▸ Nat.le_of_not_lt hfull)⟩

/-- Queues of pointers are equal if their elements are. -/
theorem rxPointers_ext {r r' : RxPointers} (hev : r.rxEvent = r'.rxEvent)
    (hq : ∀ prio, (r.rxQueue prio).items = (r'.rxQueue prio).items) : r = r' := by
  obtain ⟨ev, q⟩ := r
  obtain ⟨ev', q'⟩ := r'
  obtain rfl : ev = ev' := hev
  obtain rfl : q = q' := funext fun prio => Queue.ext_items (hq prio)
  rfl

/-- **`csp_conn_enqueue_packet` on the pointers is the one on the packets**, `NULL` included. -/
theorem rxPointers_enqueuePacket (packet : Option CspPacket) (w : World) :
    w.conn.rxPointers.enqueuePacket packet = ((cspConnEnqueuePacket packet w).1,
      (cspConnEnqueuePacket packet w).2.conn.rxPointers) := by
  cases packet with
  | none => rfl
  | some p =>
    unfold RxPointers.enqueuePacket cspConnEnqueuePacket
    rcases pointers_enqueue (p := p)
        (r := w.conn.rxPointers.rxQueue (cspConnGetRxq p.id.pri)) rfl with
      ⟨hq, hr⟩ | ⟨q', r', hq, hr, hitems⟩
    · simp only [hq, hr]
    · simp only [hq, hr]
      have hqueue : ∀ prio, (Function.update w.conn.rxPointers.rxQueue
          (cspConnGetRxq p.id.pri) r' prio).items =
            (Function.update w.conn.rxQueue (cspConnGetRxq p.id.pri) q' prio).items.map some := by
        intro prio
        by_cases hp : prio = cspConnGetRxq p.id.pri
        · subst hp
          rw [Function.update_self, Function.update_self, hitems]
        · rw [Function.update_of_ne hp, Function.update_of_ne hp]
          rfl
      cases hev : w.conn.rxEvent.enqueue () with
      | none =>
        simp only [show w.conn.rxPointers.rxEvent.enqueue () = none from hev]
        exact Prod.ext rfl (rxPointers_ext rfl hqueue)
      | some ev =>
        simp only [show w.conn.rxPointers.rxEvent.enqueue () = some ev from hev]
        exact Prod.ext rfl (rxPointers_ext rfl hqueue)

/-- `csp_read` takes the same packet from either queue. -/
theorem rxPointers_takePacket (w : World) : w.conn.rxPointers.takePacket =
    ((readPacket w).1, (readPacket w).2.conn.rxPointers) := by
  have hfind : ((List.finRange cspPriorities).find? fun prio =>
      (w.conn.rxPointers.rxQueue prio).size ≠ 0) = readPrio w.conn := by
    have hsize : ∀ prio, (w.conn.rxPointers.rxQueue prio).size = (w.conn.rxQueue prio).size :=
      fun prio => List.length_map some
    simp only [hsize]
    rfl
  unfold RxPointers.takePacket readPacket
  rw [hfind]
  cases readPrio w.conn with
  | none => rfl
  | some prio =>
    have hitems : (w.conn.rxPointers.rxQueue prio).items = (w.conn.rxQueue prio).items.map some :=
      rfl
    simp only
    cases hq : (w.conn.rxQueue prio).dequeue with
    | none =>
      have hr : (w.conn.rxPointers.rxQueue prio).dequeue = none := by
        rw [Queue.dequeue_eq_none, hitems, Queue.dequeue_eq_none.1 hq, List.map_nil]
      simp only [hr]
    | some x =>
      obtain ⟨p, q⟩ := x
      rw [Queue.dequeue_eq_some.1 hq, List.map_cons] at hitems
      obtain ⟨r, hr, hr', -⟩ := Queue.dequeue_of_items _ hitems
      simp only [hr]
      refine Prod.ext rfl (rxPointers_ext rfl fun i => ?_)
      show (Function.update w.conn.rxPointers.rxQueue prio r i).items =
        (Function.update w.conn.rxQueue prio q i).items.map some
      by_cases hi : i = prio
      · subst hi
        rw [Function.update_self, Function.update_self, hr']
      · rw [Function.update_of_ne hi, Function.update_of_ne hi]
        rfl

/-- **`csp_read` on the pointers is the one on the packets**: the model does not tell the end of
the timeout from `NULL`. -/
theorem rxPointers_read {e : Env} {w : World} (hopen : w.conn.state = .connOpen) :
    (cspRead e w).1 = w.conn.rxPointers.read.1.join ∧
      (cspRead e w).2.conn.rxPointers = w.conn.rxPointers.read.2 := by
  unfold cspRead RxPointers.read
  rw [if_neg (not_not.2 hopen), show w.conn.rxPointers.rxEvent = w.conn.rxEvent from rfl]
  cases w.conn.rxEvent.dequeue with
  | none => exact ⟨rfl, rfl⟩
  | some x =>
    obtain ⟨_, ev⟩ := x
    have htake := rxPointers_takePacket { w with conn.rxEvent := ev }
    have hpointers : ({ w with conn.rxEvent := ev } : World).conn.rxPointers =
      { w.conn.rxPointers with rxEvent := ev } := rfl
    rw [hpointers] at htake
    simp only [htake, Option.join_some, true_and]
    split
    · have hin := (cspRdpCheckAck_quiet e (readPacket { w with conn.rxEvent := ev }).2).inbound
      exact rxPointers_ext (congrArg Inbound.rxEvent hin) fun prio => by
        have := congrFun (congrArg Inbound.rxQueue hin) prio
        exact congrArg (fun q => q.items.map some) this
    · rfl

/-! ### `discard_close` -/

/-- `csp_rdp_new_packet` jumps to `discard_close` for a packet with this header. -/
def Rdp.discardsClose (rdp : Rdp) (header : RdpHeader) : Bool :=
  if header.rst then
    rdp.state != .rdpCloseWait && rdp.state != .rdpClosed && header.seqNr == rdp.rcvCur + 1
  else
    match rdp.state with
    | .rdpClosed => !header.syn
    | .rdpSynSent => !header.ack
    | .rdpSynRcvd =>
      if header.syn || !header.ack then header.seqNr != rdp.rcvIrs
      else rdp.seqValid header && rdp.ackValid header && header.ackNr != rdp.sndIss
    | .rdpOpen => (header.syn || !header.ack) && header.seqNr != rdp.rcvIrs
    | .rdpCloseWait => false

/-- **The packets that end at `discard_close`** have touched nothing a reader sees. -/
theorem newPacket_discardClose {e : Env} {p : CspPacket} {w : World}
    (h : w.conn.rdp.discardsClose (rxHeader e.host p) = true) :
    ∃ w', cspRdpNewPacket e p w = discardClose e (rxPacket e.host p) w' ∧
      w'.inbound = w.inbound := by
  unfold Rdp.discardsClose at h
  unfold cspRdpNewPacket
  simp only
  split at h
  · rename_i hrst
    rw [if_pos hrst]
    simp only [Bool.and_eq_true, bne_iff_ne, ne_eq, beq_iff_eq] at h
    obtain ⟨⟨hwait, hclosed⟩, hseq⟩ := h
    -- the ACK number of a RESET is stored before the state is looked at
    have hack : ∃ w', (if (rxHeader e.host p).ack = true then storeAck (rxHeader e.host p) w
        else w) = w' ∧ w'.conn.rdp.state = w.conn.rdp.state ∧
          w'.conn.rdp.rcvCur = w.conn.rdp.rcvCur ∧ w'.inbound = w.inbound := by
      split <;> exact ⟨_, rfl, rfl, rfl, rfl⟩
    obtain ⟨w', hw, hst, hcur, hin⟩ := hack
    unfold newPacketRst
    simp only
    rw [hw, hst, hcur, if_neg (not_or.2 ⟨hwait, hclosed⟩), if_pos hseq]
    exact ⟨_, rfl,
      (cspRdpSendCmp_none_quiet (w := enterCloseWait e w') fun _ => rfl).inbound.trans hin⟩
  · rename_i hrst
    rw [if_neg hrst]
    cases hst : w.conn.rdp.state with
    | rdpClosed =>
      simp only [hst, Bool.not_eq_true'] at h
      unfold newPacketClosed
      simp only [h, Bool.false_eq_true, if_false]
      exact ⟨_, rfl, (cspRdpSendCmp_none_quiet fun _ => rfl).inbound⟩
    | rdpSynSent =>
      simp only [hst, Bool.not_eq_true'] at h
      unfold newPacketSynSent
      simp only [h, Bool.and_false, Bool.false_eq_true, if_false]
      exact ⟨w, rfl, rfl⟩
    | rdpSynRcvd =>
      simp only [hst] at h
      unfold newPacketOpen
      split at h
      · rename_i hsyn
        rw [if_pos hsyn, if_pos (bne_iff_ne.1 h)]
        exact ⟨w, rfl, rfl⟩
      · rename_i hsyn
        simp only [Bool.and_eq_true, bne_iff_ne] at h
        obtain ⟨⟨hseq, hack⟩, hne⟩ := h
        rw [if_neg hsyn, if_neg (by rw [hseq]; decide), if_neg (by rw [hack]; decide), if_pos hst,
          if_pos hne]
        exact ⟨w, rfl, rfl⟩
    | rdpOpen =>
      simp only [hst, Bool.and_eq_true, bne_iff_ne] at h
      unfold newPacketOpen
      rw [if_pos h.1, if_pos h.2]
      exact ⟨w, rfl, rfl⟩
    | rdpCloseWait =>
      simp only [hst] at h
      exact absurd h Bool.false_ne_true

/-- When the user has the handle, `discard_close` enqueues a `NULL`. -/
theorem discardClose_pointers {e : Env} {p : CspPacket} {w : World} (h : w.conn.rxSocket = none) :
    (discardClose e p w).conn.rxPointers = (w.conn.rxPointers.enqueuePacket none).2 := by
  unfold discardClose
  rw [h, rxPointers_enqueuePacket]
  rfl

/-- **No reader is woken:** no packet that ends at `discard_close` leaves an end marker, and who
reads on waits for its whole timeout. -/
theorem discardClose_marks_never {e : Env} {p : CspPacket} {w : World}
    (hpath : w.conn.rdp.discardsClose (rxHeader e.host p) = true) (hrx : w.conn.rxSocket = none) :
    ¬RxPointers.EndMarked w.conn.rxPointers (cspRdpNewPacket e p w).conn.rxPointers ∧
      (w.conn.UserOk →
        ¬RxPointers.ReadsEnd w.conn.rxPointers.queued (cspRdpNewPacket e p w).conn.rxPointers) := by
  obtain ⟨w', hw, hin⟩ := newPacket_discardClose hpath
  have hrx' : w'.conn.rxSocket = none := (congrArg Inbound.rxSocket hin).trans hrx
  have hsame : w'.conn.rxPointers = w.conn.rxPointers :=
    rxPointers_ext (congrArg Inbound.rxEvent hin) fun prio =>
      congrArg (fun q => q.items.map some) (congrFun (congrArg Inbound.rxQueue hin) prio)
  have hafter : (cspRdpNewPacket e p w).conn.rxPointers = w.conn.rxPointers := by
    rw [hw, discardClose_pointers hrx', hsame]
    rfl
  rw [hafter]
  refine ⟨RxPointers.not_endMarked _, fun huser => RxPointers.not_readsEnd ?_⟩
  have hqueued : w.conn.rxPointers.queued = ∑ prio, (w.conn.rxQueue prio).size :=
    Finset.sum_congr rfl fun prio _ => List.length_map some
  rw [hqueued, ← huser]
  exact le_rfl

/-- A SYN in the middle of an open connection. -/
def straySyn : CspPacket := segment .synOnly 999 0 []

/-- **A stray SYN in `RDP_OPEN`** marks no end and ends no `csp_read`. -/
theorem discardClose_marks_never_syn :
    ¬RxPointers.EndMarked (Conn.opened 100 200 4).rxPointers
        (cspRdpNewPacket (.favourable .big) straySyn
          ⟨.opened 100 200 4, 0, []⟩).conn.rxPointers ∧
      ¬RxPointers.ReadsEnd (Conn.opened 100 200 4).rxPointers.queued
        (cspRdpNewPacket (.favourable .big) straySyn
          ⟨.opened 100 200 4, 0, []⟩).conn.rxPointers := by
  have h := discardClose_marks_never (e := .favourable .big) (p := straySyn)
    (w := ⟨.opened 100 200 4, 0, []⟩) (by decide +kernel) rfl
  exact ⟨h.1, h.2 (by unfold Conn.UserOk; decide +kernel)⟩

/-- The reader of an open connection hears nothing of the SYN that ends it. -/
theorem discardClose_unmarked : ¬∀ e p w, w.conn.rdp.discardsClose (rxHeader e.host p) = true →
    w.conn.rxSocket = none → (∀ prio, (w.conn.rxQueue prio).size < cspRxQueueLength) →
      w.conn.rxEvent.size < cspConnQueueLength →
        RxPointers.EndMarked w.conn.rxPointers (cspRdpNewPacket e p w).conn.rxPointers := by
  intro hall
  have h := hall (.favourable .big) straySyn ⟨.opened 100 200 4, 0, []⟩ (by decide +kernel) rfl
    (fun _ => (by decide : 0 < cspRxQueueLength)) (by decide)
  exact absurd h.rxEvent (by decide +kernel)

end LibCSP
