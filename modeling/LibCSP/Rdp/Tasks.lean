/-
# The user task and the router task, one queue operation at a time

`csp_rdp_send` runs in the task of the user; `csp_rdp_check_timeouts` and
`csp_rdp_flush_eack` run in the router and rotate the same retransmit queue:
each element is dequeued, looked at and queued again, and the result of the
second enqueue is not looked at.  Here the operations of one task on the queue
are steps of their own, so that those of the other can come in between.

The state remembers where each task is: the router holds the element it has
dequeued (`hand`), the user the copy it is about to queue.  What happened to the
copies is written down in `history`, which no step reads.

Without interference a whole call is the call of `Rdp.Protocol`
(`tasks_simulate`).
-/

import LibCSP.Rdp.Endpoint
import LibCSP.Rdp.Quiet

namespace LibCSP

open Basis

/-! ### States -/

/-- Where the user task is in `csp_send`. -/
inductive UserTask
  | idle
  /-- Waiting for `tx_wait`. -/
  | waiting (packet : CspPacket)
  /-- The window has room. -/
  | ready (packet : CspPacket)
  /-- The header was added (`tx`) and the copy made. -/
  | cloned (packet tx clone : CspPacket)
  /-- The copy is in the queue, and `snd_nxt` not yet incremented. -/
  | queued (packet tx clone : CspPacket)

/-- A loop of the router over the retransmit queue. -/
inductive Rotation
  /-- `csp_rdp_check_timeouts`, entered at this time. -/
  | timeouts (now : U32)
  /-- `csp_rdp_flush_eack` with this EACK. -/
  | flushEack (eack : CspPacket)

/-- Where the router is: `left` rounds to go, with the element it has dequeued. -/
inductive RouterTask
  | idle
  | rotating (rot : Rotation) (left : ℕ) (hand : Option CspPacket)

/-- What happened to a copy. -/
inductive Mark
  /-- `csp_rdp_send` returned `CSP_ERR_NONE`. -/
  | accepted (c : CspPacket)
  /-- Freed with this `snd_una`. -/
  | acked (c : CspPacket) (una : U16)
  /-- Freed by this EACK. -/
  | listed (c eack : CspPacket)
  /-- Taken out of the queue by a call that met the connection in this state and left
  it in that one. -/
  | flushed (c : CspPacket) (before after : ConnState)

structure Tasks where
  world : World
  user : UserTask
  router : RouterTask
  history : List Mark

/-- The world with another retransmit queue. -/
def World.setTx (w : World) (q : Queue CspPacket cspRdpMaxWindow) : World :=
  { w with conn.rdp.txQueue := q }

/-! ### The loops -/

/-- The body of the loop. -/
def Rotation.entry (e : Env) : Rotation → World → CspPacket → World × Option CspPacket
  | .timeouts now => timeoutEntry e now
  | .flushEack eack => flushEackEntry e eack

/-- What follows the loop. -/
def Rotation.finish (e : Env) : Rotation → World → World
  | .timeouts _ => fun w => cspRdpWake (cspRdpCheckAck e w)
  | .flushEack eack => discardOpen eack

/-- Why the loop freed an element. -/
def Rotation.mark (w : World) (x : CspPacket) : Rotation → Mark
  | .timeouts _ => .acked x w.conn.rdp.sndUna
  | .flushEack eack => .listed x eack

/-- The end of a round: the element is freed or queued again. -/
def Tasks.endRound (e : Env) (s : Tasks) (rot : Rotation) (left : ℕ) (x : CspPacket) : Tasks :=
  let r := rot.entry e s.world x
  match r.2 with
  | none =>
    { s with
      world := r.1
      router := .rotating rot left none
      history := s.history ++ [rot.mark s.world x] }
  | some y =>
    { s with
      world := r.1.setTx (r.1.conn.rdp.txQueue.push y)
      router := .rotating rot left none }

/-- The next operation of the loop. -/
def Tasks.rotate (e : Env) (s : Tasks) (rot : Rotation) : ℕ → Option CspPacket → Tasks
  | 0, none => { s with world := rot.finish e s.world, router := .idle }
  | left, some x => s.endRound e rot (left - 1) x
  | left + 1, none =>
    match s.world.conn.rdp.txQueue.dequeue with
    | none => { s with router := .rotating rot 0 none }
    | some (x, q) =>
      { s with world := s.world.setTx q, router := .rotating rot (left + 1) (some x) }

/-- The loop starts with the number of elements the queue has now. -/
def Tasks.startRotation (s : Tasks) (rot : Rotation) (w : World) : Tasks :=
  { s with world := w, router := .rotating rot w.conn.rdp.txQueue.size none }

/-! ### The calls -/

/-- The marks of a call that took elements out of the queue.  Whether that was
`csp_rdp_flush_all` of a `csp_close` shows in the two states (`Mark.Justified`). -/
def flushedMarks (w w' : World) : List Mark :=
  if w'.conn.rdp.txQueue.size < w.conn.rdp.txQueue.size then
    w.conn.rdp.txQueue.items.map fun c => .flushed c w.conn.state w'.conn.state
  else []

/-- A call that does not rotate the queue. -/
def Tasks.call (s : Tasks) (w : World) : Tasks :=
  { s with world := w, history := s.history ++ flushedMarks s.world w }

/-- `csp_rdp_check_timeouts` up to its loop. -/
def Tasks.checkTimeouts (e : Env) (s : Tasks) : Tasks :=
  let now := (cspGetMs e s.world).1
  let w := (cspGetMs e s.world).2
  let timedOut := cspRdpTimeAfter now (w.conn.timestamp + w.conn.rdp.connTimeout)
  if w.conn.rxSocket.isSome && timedOut then s.call (cspClose e w).2
  else if w.conn.rdp.state = .rdpCloseWait then
    if timedOut then s.call (cspClose e w).2 else s.call w
  else s.startRotation (.timeouts now) w

/-- `csp_rdp_new_packet` calls `csp_rdp_flush_eack` for this packet. -/
def flushesEack (e : Env) (packet : CspPacket) (w : World) : Bool :=
  let header := rxHeader e.host packet
  !header.rst && (w.conn.rdp.state = .rdpSynRcvd || w.conn.rdp.state = .rdpOpen) &&
    !header.syn && header.ack && w.conn.rdp.seqValid header && w.conn.rdp.ackValid header &&
    (w.conn.rdp.state = .rdpOpen || header.ackNr = w.conn.rdp.sndIss) && header.eak &&
    sizeofRdpHeader < packet.length.toNat

/-- The connection when `csp_rdp_new_packet` calls `csp_rdp_flush_eack`. -/
def beforeFlushEack (e : Env) (packet : CspPacket) (w : World) : World :=
  storeAck (rxHeader e.host packet) { w with conn.rdp.state := .rdpOpen }

/-- `csp_rdp_new_packet`, up to the loop if it comes to one. -/
def Tasks.newPacket (e : Env) (s : Tasks) (packet : CspPacket) : Tasks :=
  if flushesEack e packet s.world then
    s.startRotation (.flushEack (rxPacket e.host packet)) (beforeFlushEack e packet s.world)
  else s.call (cspRdpNewPacket e packet s.world)

/-- `csp_send` up to its wait. -/
def Tasks.send (s : Tasks) (packet : CspPacket) : Tasks :=
  if s.world.conn.state ≠ .connOpen ∨ s.world.conn.rdp.state ≠ .rdpOpen then s
  else if s.world.conn.rdp.windowFull then
    { s with world := txWaitTake s.world, user := .waiting packet }
  else { s with user := .ready packet }

/-- The header is added and the copy made. -/
def Tasks.clone (e : Env) (s : Tasks) (packet : CspPacket) : Tasks :=
  let tx := txPacket e packet s.world
  match cspBufferClone e tx s.world with
  | (none, w) => { s with world := w, user := .idle }
  | (some c, w) =>
    { s with
      world := (cspGetMs e w).2
      user := .cloned packet tx { c with timestamp := (cspGetMs e w).1, quarantine := 0 } }

/-- The copy is queued; here the result is looked at. -/
def Tasks.enqueue (s : Tasks) (packet tx clone : CspPacket) : Tasks :=
  match s.world.conn.rdp.txQueue.enqueue clone with
  | none => { s with world := s.world.free clone, user := .idle }
  | some q => { s with world := s.world.setTx q, user := .queued packet tx clone }

/-- `snd_nxt` is incremented, `csp_rdp_send` returns, and `csp_send` sends the packet. -/
def Tasks.finishSend (e : Env) (s : Tasks) (packet tx clone : CspPacket) : Tasks :=
  let w := { s.world.emit (.sent packet.bytes) with
    conn.rdp.sndNxt := s.world.conn.rdp.sndNxt + 1 }
  { s with
    world := (cspSendDirect e w.conn.idout (some tx) w).2
    user := .idle
    history := s.history ++ [.accepted clone] }

inductive TaskInput
  /-- The router. -/
  | packet (p : CspPacket)
  | checkTimeouts
  | rotate
  /-- The user task in `csp_send`. -/
  | send (p : CspPacket)
  | sendWake
  | sendTimeout
  | sendStep
  /-- Any task. -/
  | read
  | close

/-- One operation; `none` when it cannot happen in this state. -/
def Tasks.step (e : Env) (s : Tasks) (i : TaskInput) : Option Tasks :=
  match i, s.user, s.router with
  | .packet p, _, .idle => some (s.newPacket e p)
  | .checkTimeouts, _, .idle => some (s.checkTimeouts e)
  | .rotate, _, .rotating rot left hand => some (s.rotate e rot left hand)
  | .send p, .idle, _ => some (s.send p)
  | .sendWake, .waiting p, _ =>
    if s.world.conn.rdp.txWait then some { s with world := txWaitTake s.world, user := .ready p }
    else none
  | .sendTimeout, .waiting _, _ => some { s with user := .idle }
  | .sendStep, .ready p, _ => some (s.clone e p)
  | .sendStep, .cloned p tx c, _ => some (s.enqueue p tx c)
  | .sendStep, .queued p tx c, _ => some (s.finishSend e p tx c)
  | .read, _, _ => some (s.call (cspRead e s.world).2)
  | .close, _, _ => some (s.call (cspClose e s.world).2)
  | _, _, _ => none

/-! ### Without interference

The body of a loop does not look at the queue it is rotating. -/

/-- A retransmission does not look at `tx_queue`. -/
theorem cspRdpRetransmit_setTx (e : Env) (copy : Option CspPacket) (w : World)
    (q : Queue CspPacket cspRdpMaxWindow) :
    cspRdpRetransmit e copy (w.setTx q) = (cspRdpRetransmit e copy w).setTx q := by
  unfold cspRdpRetransmit cspSendDirect
  cases copy with
  | none => rfl
  | some c =>
    simp only [show (w.setTx q).tick = w.tick from rfl]
    cases e.sendDirect w.tick <;> rfl

/-- Nor does a copy. -/
theorem cspBufferClone_setTx (e : Env) (p : CspPacket) (w : World)
    (q : Queue CspPacket cspRdpMaxWindow) :
    cspBufferClone e p (w.setTx q) =
      ((cspBufferClone e p w).1, (cspBufferClone e p w).2.setTx q) := by
  unfold cspBufferClone cspBufferGet
  simp only [show (w.setTx q).tick = w.tick from rfl]
  cases e.bufferGet w.tick <;> rfl

/-- Nor does the message loop at one element. -/
theorem timeoutEntry_setTx (e : Env) (now : U32) (w : World)
    (q : Queue CspPacket cspRdpMaxWindow) (x : CspPacket) :
    timeoutEntry e now (w.setTx q) x =
      ((timeoutEntry e now w x).1.setTx q, (timeoutEntry e now w x).2) := by
  unfold timeoutEntry
  simp only [show (w.setTx q).conn.rdp.sndUna = w.conn.rdp.sndUna from rfl,
    show (w.setTx q).conn.rdp.packetTimeout = w.conn.rdp.packetTimeout from rfl]
  split
  · rfl
  · split
    · simp only [cspGetMs, show (w.setTx q).next = w.next.setTx q from rfl, cspBufferClone_setTx]
      exact Prod.ext (cspRdpRetransmit_setTx e _ _ q) rfl
    · rfl

/-- Nor does one comparison with an entry of an EACK. -/
theorem eackCompare_setTx (e : Env) (eack : CspPacket) (q : Queue CspPacket cspRdpMaxWindow)
    (b : Bool) (x : CspPacket) (w : World) (j : ℕ) :
    eackCompare e eack (b, x, w.setTx q) j =
      ((eackCompare e eack (b, x, w) j).1, (eackCompare e eack (b, x, w) j).2.1,
        (eackCompare e eack (b, x, w) j).2.2.setTx q) := by
  have htick : (w.setTx q).tick = w.tick := rfl
  simp only [eackCompare, cspGetMs, htick]
  by_cases hlt : hton16 e.host (cspRdpHeaderRef e.host x).seqNr <
      hton16 e.host (eack.data16 e.host j)
  · by_cases hafter : cspRdpTimeAfter (e.getMs w.tick) x.quarantine = true
    · simp only [hlt, hafter, if_true]
      rfl
    · simp only [hlt, hafter, if_true]
      rfl
  · simp only [hlt, if_false]

/-- Nor do all comparisons. -/
theorem flushEackEntry_setTx (e : Env) (eack : CspPacket) (w : World)
    (q : Queue CspPacket cspRdpMaxWindow) (x : CspPacket) :
    flushEackEntry e eack (w.setTx q) x =
      ((flushEackEntry e eack w x).1.setTx q, (flushEackEntry e eack w x).2) := by
  have hfold : ∀ (js : List ℕ) (b : Bool) (x : CspPacket) (w : World),
      js.foldl (eackCompare e eack) (b, x, w.setTx q) =
        ((js.foldl (eackCompare e eack) (b, x, w)).1,
          (js.foldl (eackCompare e eack) (b, x, w)).2.1,
          (js.foldl (eackCompare e eack) (b, x, w)).2.2.setTx q) := by
    intro js
    induction js with
    | nil => exact fun _ _ _ => rfl
    | cons j js ih =>
      intro b x w
      rw [List.foldl_cons, List.foldl_cons, eackCompare_setTx, ih]
  unfold flushEackEntry
  rw [hfold]
  simp only
  split <;> rfl

/-- So a rotation does not look at the queue it rotates, but for the element it holds. -/
theorem Rotation.entry_setTx (e : Env) (rot : Rotation) (w : World)
    (q : Queue CspPacket cspRdpMaxWindow) (x : CspPacket) :
    rot.entry e (w.setTx q) x = ((rot.entry e w x).1.setTx q, (rot.entry e w x).2) := by
  cases rot with
  | timeouts now => exact timeoutEntry_setTx e now w q x
  | flushEack eack => exact flushEackEntry_setTx e eack w q x

/-- **A sweep of the queue is a rotation** in which nobody else takes part. -/
theorem sweep_setTx (e : Env) (rot : Rotation) (n : ℕ) (w : World)
    (p q : Queue CspPacket cspRdpMaxWindow) :
    Queue.sweep (rot.entry e) n (w.setTx p) q =
      ((Queue.sweep (rot.entry e) n w q).1.setTx p, (Queue.sweep (rot.entry e) n w q).2) := by
  induction n generalizing w q with
  | zero => rfl
  | succ n ih =>
    simp only [Queue.sweep]
    cases q.dequeue with
    | none => rfl
    | some r =>
      simp only [Rotation.entry_setTx]
      cases (rot.entry e w r.1).2 with
      | none => exact ih _ _
      | some y => exact ih _ _

/-- Any number of steps. -/
abbrev Tasks.Steps (e : Env) (s t : Tasks) : Prop :=
  ∃ is, Run (Tasks.step e) (fun _ _ => True) s is t

/-- A step before other steps. -/
theorem Tasks.Steps.head {e : Env} {s t u : Tasks} {i : TaskInput} (hst : s.step e i = some t)
    (h : t.Steps e u) : s.Steps e u := by
  obtain ⟨is, h⟩ := h
  exact ⟨_, .cons trivial hst h⟩

/-- No step at all. -/
theorem Tasks.Steps.refl (e : Env) (s : Tasks) : s.Steps e s := ⟨[], .nil⟩

/-- **A loop nobody interferes with is a sweep.** -/
theorem rotation_steps (e : Env) (rot : Rotation) (n : ℕ) (w : World) (user : UserTask)
    (history : List Mark) : ∃ history',
      Tasks.Steps e ⟨w, user, .rotating rot n none, history⟩
        ⟨rot.finish e ((Queue.sweep (rot.entry e) n w w.conn.rdp.txQueue).1.setTx
          (Queue.sweep (rot.entry e) n w w.conn.rdp.txQueue).2), user, .idle, history'⟩ := by
  induction n generalizing w history with
  | zero => exact ⟨history, .head (i := .rotate) rfl (.refl e _)⟩
  | succ n ih =>
    cases hq : w.conn.rdp.txQueue.dequeue with
    | none =>
      have hrot : Tasks.step e ⟨w, user, .rotating rot (n + 1) none, history⟩ .rotate =
          some ⟨w, user, .rotating rot 0 none, history⟩ := by
        simp only [Tasks.step, Tasks.rotate, hq]
      have hsweep : Queue.sweep (rot.entry e) (n + 1) w w.conn.rdp.txQueue =
          (w, w.conn.rdp.txQueue) := by
        simp only [Queue.sweep, hq]
      rw [hsweep]
      exact ⟨history, .head hrot (.head (i := .rotate) rfl (.refl e _))⟩
    | some r =>
      obtain ⟨x, q⟩ := r
      have hrot : Tasks.step e ⟨w, user, .rotating rot (n + 1) none, history⟩ .rotate =
          some ⟨w.setTx q, user, .rotating rot (n + 1) (some x), history⟩ := by
        simp only [Tasks.step, Tasks.rotate, hq]
      have hentry := rot.entry_setTx e w q x
      cases hr : (rot.entry e w x).2 with
      | none =>
        have hround : Tasks.step e ⟨w.setTx q, user, .rotating rot (n + 1) (some x), history⟩
            .rotate = some ⟨(rot.entry e w x).1.setTx q, user, .rotating rot n none,
              history ++ [rot.mark (w.setTx q) x]⟩ := by
          simp only [Tasks.step, Tasks.rotate, Tasks.endRound, hentry, hr]
          rfl
        obtain ⟨history', h⟩ := ih ((rot.entry e w x).1.setTx q)
          (history ++ [rot.mark (w.setTx q) x])
        refine ⟨history', .head hrot (.head hround ?_)⟩
        rw [sweep_setTx] at h
        simp only [Queue.sweep, hq, hr]
        exact h
      | some y =>
        have hround : Tasks.step e ⟨w.setTx q, user, .rotating rot (n + 1) (some x), history⟩
            .rotate = some ⟨(rot.entry e w x).1.setTx (q.push y), user, .rotating rot n none,
              history⟩ := by
          simp only [Tasks.step, Tasks.rotate, Tasks.endRound, hentry, hr]
          rfl
        obtain ⟨history', h⟩ := ih ((rot.entry e w x).1.setTx (q.push y)) history
        refine ⟨history', .head hrot (.head hround ?_)⟩
        rw [sweep_setTx] at h
        simp only [Queue.sweep, hq, hr]
        exact h

/-- The user task of an endpoint that does not connect. -/
inductive SameTask : Task → UserTask → Prop
  | idle : SameTask .idle .idle
  | waiting (p : CspPacket) : SameTask (.sendWait p) (.waiting p)

/-- The inputs the two machines share. -/
inductive Simulated : Input → Prop
  | packet (p : CspPacket) : Simulated (.packet p)
  | checkTimeouts : Simulated .checkTimeouts
  | read : Simulated .read
  | send (p : CspPacket) : Simulated (.send p)
  | sendWake : Simulated .sendWake
  | sendTimeout : Simulated .sendTimeout
  | close : Simulated .close

/-- The router is idle, and the rest is as at the endpoint. -/
structure Resting (s : Endpoint) (t : Tasks) : Prop where
  world : t.world = s.world
  user : SameTask s.task t.user
  router : t.router = .idle

/-- An EACK with a list is handled by `csp_rdp_flush_eack` and freed. -/
theorem newPacket_flushesEack {e : Env} {p : CspPacket} {w : World}
    (h : flushesEack e p w = true) :
    cspRdpNewPacket e p w = discardOpen (rxPacket e.host p)
      (cspRdpFlushEack e (rxPacket e.host p) (beforeFlushEack e p w)) := by
  simp only [flushesEack, Bool.and_eq_true, Bool.not_eq_true', Bool.or_eq_true,
    decide_eq_true_eq] at h
  obtain ⟨⟨⟨⟨⟨⟨⟨⟨hrst, hst⟩, hsyn⟩, hack⟩, hseq⟩, hackv⟩, hiss⟩, heak⟩, hlen⟩ := h
  have hacked : ∀ w : World, newPacketAcked e (rxHeader e.host p) (rxPacket e.host p) w =
      discardOpen (rxPacket e.host p)
        (cspRdpFlushEack e (rxPacket e.host p) (storeAck (rxHeader e.host p) w)) := fun w => by
    have hlen' : sizeofRdpHeader < (rxPacket e.host p).length.toNat := by
      rw [rxPacket, rxHeader, length_headerStore_flags]
      exact hlen
    simp only [newPacketAcked, heak, if_true, hlen']
  have hopen : newPacketOpen e (rxHeader e.host p) (rxPacket e.host p) w =
      newPacketAcked e (rxHeader e.host p) (rxPacket e.host p)
        { w with conn.rdp.state := .rdpOpen } := by
    simp only [newPacketOpen, hsyn, hack, hseq, hackv, Bool.not_true, Bool.or_self,
      Bool.false_eq_true, if_false]
    rcases hst with hst | hst
    · have hn : (rxHeader e.host p).ackNr = w.conn.rdp.sndIss :=
        hiss.resolve_left (by rw [hst]; decide)
      rw [if_pos hst, if_neg (not_not.2 hn)]
    · rw [if_neg (by rw [hst]; decide), ← hst]
  rw [cspRdpNewPacket_open hrst hst, hopen, hacked]
  rfl

/-- **`csp_rdp_check_timeouts` undisturbed** is a run of single queue operations. -/
theorem checkTimeouts_steps (e : Env) (w : World) (user : UserTask) (history : List Mark) :
    ∃ history', Tasks.Steps e ⟨w, user, .idle, history⟩
      ⟨cspRdpCheckTimeouts e w, user, .idle, history'⟩ := by
  have hstep : Tasks.step e ⟨w, user, .idle, history⟩ .checkTimeouts =
      some (Tasks.checkTimeouts e ⟨w, user, .idle, history⟩) := rfl
  unfold Tasks.checkTimeouts at hstep
  unfold cspRdpCheckTimeouts
  simp only at hstep ⊢
  split at hstep <;> rename_i hlost
  · rw [if_pos hlost]
    exact ⟨_, .head hstep (.refl e _)⟩
  · rw [if_neg hlost]
    split at hstep <;> rename_i hwait
    · rw [if_pos hwait]
      split at hstep <;> rename_i hafter
      · rw [if_pos hafter]
        exact ⟨_, .head hstep (.refl e _)⟩
      · rw [if_neg hafter]
        exact ⟨_, .head hstep (.refl e _)⟩
    · rw [if_neg hwait]
      obtain ⟨history', h⟩ := rotation_steps e (.timeouts (cspGetMs e w).1)
        w.conn.rdp.txQueue.size (cspGetMs e w).2 user history
      exact ⟨history', .head hstep h⟩

/-- **`csp_rdp_new_packet` undisturbed** is one, too. -/
theorem newPacket_steps (e : Env) (p : CspPacket) (w : World) (user : UserTask)
    (history : List Mark) : ∃ history', Tasks.Steps e ⟨w, user, .idle, history⟩
      ⟨cspRdpNewPacket e p w, user, .idle, history'⟩ := by
  have hstep : Tasks.step e ⟨w, user, .idle, history⟩ (.packet p) =
      some (Tasks.newPacket e ⟨w, user, .idle, history⟩ p) := rfl
  unfold Tasks.newPacket at hstep
  split at hstep
  · rename_i hflush
    obtain ⟨history', h⟩ := rotation_steps e (.flushEack (rxPacket e.host p))
      w.conn.rdp.txQueue.size (beforeFlushEack e p w) user history
    rw [newPacket_flushesEack hflush]
    exact ⟨history', .head hstep h⟩
  · exact ⟨_, .head hstep (.refl e _)⟩

/-- `csp_send` from the end of its wait on. -/
theorem sendCommit_steps (e : Env) (p : CspPacket) (w : World) (history : List Mark) :
    ∃ history', Tasks.Steps e ⟨w, .ready p, .idle, history⟩
      ⟨cspSendCommit e p w, .idle, .idle, history'⟩ := by
  rcases cspBufferClone_cases e (txPacket e p w) w with hb | ⟨buf, hb⟩
  · have hclone : Tasks.step e ⟨w, .ready p, .idle, history⟩ .sendStep =
        some ⟨w.next, .idle, .idle, history⟩ := by
      simp only [Tasks.step, Tasks.clone, hb]
    have hcommit : cspSendCommit e p w = w.next := by
      simp only [cspSendCommit, cspRdpSendCommit, hb, reduceCtorEq, if_false]
    rw [hcommit]
    exact ⟨history, .head hclone (.refl e _)⟩
  · obtain ⟨w₁, hw₁⟩ : ∃ w₁, w₁ = w.next.emit (.alloc buf) := ⟨_, rfl⟩
    rw [← hw₁] at hb
    obtain ⟨c, hc⟩ : ∃ c, c = { txPacket e p w with
      buf := buf, timestamp := e.getMs w₁.tick, quarantine := 0 } := ⟨_, rfl⟩
    have hclone : Tasks.step e ⟨w, .ready p, .idle, history⟩ .sendStep =
        some ⟨w₁.next, .cloned p (txPacket e p w) c, .idle, history⟩ := by
      simp only [Tasks.step, Tasks.clone, hb, cspGetMs, hc]
    cases hq : w₁.conn.rdp.txQueue.enqueue c with
    | none =>
      have hqueue : Tasks.step e ⟨w₁.next, .cloned p (txPacket e p w) c, .idle, history⟩
          .sendStep = some ⟨w₁.next.free c, .idle, .idle, history⟩ := by
        simp only [Tasks.step, Tasks.enqueue, World.next_conn, hq]
      have hcommit : cspSendCommit e p w = w₁.next.free c := by
        rw [hc] at hq ⊢
        simp only [cspSendCommit, cspRdpSendCommit, hb, cspGetMs, World.next_conn, hq,
          reduceCtorEq, if_false]
      rw [hcommit]
      exact ⟨history, .head hclone (.head hqueue (.refl e _))⟩
    | some q =>
      have hqueue : Tasks.step e ⟨w₁.next, .cloned p (txPacket e p w) c, .idle, history⟩
          .sendStep = some ⟨w₁.next.setTx q, .queued p (txPacket e p w) c, .idle, history⟩ := by
        simp only [Tasks.step, Tasks.enqueue, World.next_conn, hq]
      have hcommit : cspSendCommit e p w = (cspSendDirect e w₁.conn.idout (some (txPacket e p w))
          { (w₁.next.setTx q).emit (.sent p.bytes) with
            conn.rdp.sndNxt := w₁.conn.rdp.sndNxt + 1 }).2 := by
        rw [hc] at hq
        simp only [cspSendCommit, cspRdpSendCommit, hb, cspGetMs, World.next_conn, hq, if_true]
        rfl
      rw [hcommit]
      exact ⟨_, .head hclone (.head hqueue (.head (i := .sendStep) rfl (.refl e _)))⟩

/-- **Without interference a call is the call of `Rdp.Protocol`**: every step of
the endpoint is a run of the two tasks. -/
theorem tasks_simulate {e : Env} {s s' : Endpoint} {i : Input} {t : Tasks}
    (hi : Simulated i) (ht : Resting s t) (hst : step e s i = some s') :
    ∃ t', Tasks.Steps e t t' ∧ Resting s' t' := by
  obtain ⟨w, task⟩ := s
  obtain ⟨w', user, router, history⟩ := t
  obtain ⟨hw, htask, hr⟩ := ht
  obtain rfl : w' = w := hw
  obtain rfl : router = .idle := hr
  cases step_stepped hst with
  | packet _ p =>
    obtain ⟨history', h⟩ := newPacket_steps e p w' user history
    exact ⟨_, h, rfl, htask, rfl⟩
  | checkTimeouts =>
    obtain ⟨history', h⟩ := checkTimeouts_steps e w' user history
    exact ⟨_, h, rfl, htask, rfl⟩
  | read => exact ⟨_, .head (i := .read) rfl (.refl e _), rfl, htask, rfl⟩
  | close => exact ⟨_, .head (i := .close) rfl (.refl e _), rfl, htask, rfl⟩
  | send p =>
    cases htask
    have hsend : Tasks.step e ⟨w', .idle, .idle, history⟩ (.send p) =
        some (Tasks.send ⟨w', .idle, .idle, history⟩ p) := rfl
    unfold Tasks.send at hsend
    unfold sendEnter
    split at hsend
    · rename_i hopen
      rw [if_pos hopen]
      exact ⟨_, .head hsend (.refl e _), rfl, .idle, rfl⟩
    · rename_i hopen
      rw [if_neg hopen]
      split at hsend
      · rename_i hfull
        rw [if_pos hfull]
        exact ⟨_, .head hsend (.refl e _), rfl, .waiting p, rfl⟩
      · rename_i hfull
        rw [if_neg hfull]
        obtain ⟨history', h⟩ := sendCommit_steps e p w' history
        exact ⟨_, .head hsend h, rfl, .idle, rfl⟩
  | sendWake p hpost =>
    cases htask
    have hwake : Tasks.step e ⟨w', .waiting p, .idle, history⟩ .sendWake =
        some ⟨txWaitTake w', .ready p, .idle, history⟩ := by
      simp only [Tasks.step, hpost, if_true]
    obtain ⟨history', h⟩ := sendCommit_steps e p (txWaitTake w') history
    exact ⟨_, .head hwake h, rfl, .idle, rfl⟩
  | sendTimeout p =>
    cases htask
    exact ⟨_, .head (i := .sendTimeout) rfl (.refl e _), rfl, .idle, rfl⟩
  | checkAck => cases hi
  | connect => cases hi
  | connectWake => cases hi
  | connectTimeout => cases hi

end LibCSP
