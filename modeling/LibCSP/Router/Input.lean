/-
# The input queues of the router

`csp_new_packet`, `csp_route_enqueue` and `csp_route_next_packet` (`src/csp_route.c`) under
`CSP_USE_QOS`, one queue operation a step.  Any number of interface drivers, in tasks or in
interrupts, are in `csp_new_packet` at a time; one router task is in `csp_route_next_packet`.
A queue operation with a timeout of 0 does the same from a task and from an interrupt, so
a call does not say where it comes from.  All queues have `CSP_FIFO_INPUT` places, here
`cap`.

Every packet in a FIFO has its event in `router_input_event` as long as that has room when
`csp_route_enqueue` posts (`routerInput_balanced`).  It has only as much room as one of the
FIFOs and the result of the post is not looked at, so one packet more than `cap` in all FIFOs
together stays without an event (`routerInput_stranded`).
-/

import LibCSP.Basis.Notified
import LibCSP.Basis.Run
import LibCSP.Router.Route

namespace LibCSP

open Basis

/-- A call of `csp_new_packet`, by the queue operation it makes next. -/
inductive NewPacketCall
  /-- `csp_route_enqueue` enqueues the element. -/
  | element (input : CspRouteQueue)
  /-- `csp_route_enqueue` posts the event. -/
  | event (input : CspRouteQueue)

def NewPacketCall.posts : NewPacketCall → Bool
  | .element _ => false
  | .event _ => true

/-- Where the router is in `csp_route_next_packet`. -/
inductive NextPacketCall
  /-- Before the wait for an event. -/
  | wait
  /-- In the loop over the priorities. -/
  | find (prio : ℕ)

/-- The value of `prio` in the loop. -/
def NextPacketCall.prio : NextPacketCall → Option ℕ
  | .wait => none
  | .find prio => some prio

/-- What a call returns or does with its packet. -/
inductive InputEvent
  /-- `csp_buffer_free`: no interface, or the FIFO is full. -/
  | freed (buf : ℕ)
  /-- `csp_new_packet` returned and has passed the packet on. -/
  | received (input : CspRouteQueue)
  /-- `csp_route_next_packet` returned this element. -/
  | next (input : CspRouteQueue)
  /-- `csp_route_next_packet` returned `CSP_ERR_TIMEDOUT`. -/
  | timedout

structure RouterInput (cap : ℕ) where
  routerInputFifo : Fin cspPriorities → Queue CspRouteQueue cap
  routerInputEvent : Queue Unit cap
  /-- The calls of `csp_new_packet` in progress. -/
  calls : List NewPacketCall
  router : NextPacketCall
  log : List InputEvent

variable {cap : ℕ}

namespace RouterInput

/-- `csp_route_table_init`. -/
def init : RouterInput cap := ⟨fun _ => Queue.empty, Queue.empty, [], .wait, []⟩

/-- The number of packets in the FIFOs. -/
def packets (s : RouterInput cap) : ℕ := ∑ prio, (s.routerInputFifo prio).size

/-- No call is in progress. -/
def Idle (s : RouterInput cap) : Prop := s.calls = [] ∧ s.router = .wait

def emit (s : RouterInput cap) (ev : InputEvent) : RouterInput cap :=
  { s with log := s.log ++ [ev] }

end RouterInput

/-! ### `csp_new_packet` -/

/-- Every priority has its FIFO. -/
theorem prio_lt_cspPriorities (prio : BitVec 2) : prio.toNat < cspPriorities := prio.isLt

/-- `csp_route_get_fifo`. -/
def cspRouteGetFifo (prio : BitVec 2) : Fin cspPriorities :=
  ⟨prio.toNat, prio_lt_cspPriorities prio⟩

/-- `csp_new_packet` up to `csp_route_enqueue`. -/
def newPacketEnter (packet : Option CspPacket) (interface : Option ℕ) (s : RouterInput cap) :
    RouterInput cap :=
  match packet, interface with
  | none, _ => s
  | some p, none => s.emit (.freed p.buf)
  | some p, some i => { s with calls := s.calls ++ [.element ⟨i, p⟩] }

/-- `csp_route_enqueue` enqueues the element of call `i`; a full FIFO ends the call. -/
def newPacketElement (i : ℕ) (input : CspRouteQueue) (s : RouterInput cap) : RouterInput cap :=
  let fifo := cspRouteGetFifo input.packet.id.pri
  match (s.routerInputFifo fifo).enqueue input with
  | none => { s with calls := s.calls.eraseIdx i }.emit (.freed input.packet.buf)
  | some q =>
    { s with
      routerInputFifo := Function.update s.routerInputFifo fifo q
      calls := s.calls.set i (.event input) }

/-- `csp_route_enqueue` posts the event of call `i`, whether or not there is room. -/
def newPacketEvent (i : ℕ) (input : CspRouteQueue) (s : RouterInput cap) : RouterInput cap :=
  { s with
    routerInputEvent := s.routerInputEvent.push ()
    calls := s.calls.eraseIdx i }.emit (.received input)

/-! ### `csp_route_next_packet` -/

/-- The wait for a packet in any queue. -/
def nextPacketWait (s : RouterInput cap) : RouterInput cap :=
  match s.routerInputEvent.dequeue with
  | none => s.emit .timedout
  | some (_, ev) => { s with routerInputEvent := ev, router := .find 0 }

/-- One round of the loop over the priorities, or what follows it. -/
def nextPacketFind (prio : ℕ) (s : RouterInput cap) : RouterInput cap :=
  if h : prio < cspPriorities then
    match (s.routerInputFifo ⟨prio, h⟩).dequeue with
    | none => { s with router := .find (prio + 1) }
    | some (input, q) =>
      { s with
        routerInputFifo := Function.update s.routerInputFifo ⟨prio, h⟩ q
        router := .wait }.emit (.next input)
  else { s with router := .wait }.emit .timedout

/-! ### Steps -/

inductive InputAction
  /-- A driver calls `csp_new_packet`. -/
  | newPacket (packet : Option CspPacket) (interface : Option ℕ)
  /-- Call `i` of `csp_new_packet` makes its next queue operation. -/
  | advance (i : ℕ)
  /-- The router makes its next queue operation. -/
  | router

def routerInputStep (s : RouterInput cap) : InputAction → Option (RouterInput cap)
  | .newPacket packet interface => some (newPacketEnter packet interface s)
  | .advance i =>
    match s.calls[i]? with
    | none => none
    | some (.element input) => some (newPacketElement i input s)
    | some (.event input) => some (newPacketEvent i input s)
  | .router =>
    match s.router with
    | .wait => some (nextPacketWait s)
    | .find prio => some (nextPacketFind prio s)

/-- What a step is. -/
inductive InputTurn (s : RouterInput cap) : InputAction → RouterInput cap → Prop
  | newPacket (packet : Option CspPacket) (interface : Option ℕ) :
      InputTurn s (.newPacket packet interface) (newPacketEnter packet interface s)
  | element {i : ℕ} {input : CspRouteQueue} (hi : s.calls[i]? = some (.element input)) :
      InputTurn s (.advance i) (newPacketElement i input s)
  | event {i : ℕ} {input : CspRouteQueue} (hi : s.calls[i]? = some (.event input)) :
      InputTurn s (.advance i) (newPacketEvent i input s)
  | wait (hr : s.router = .wait) : InputTurn s .router (nextPacketWait s)
  | find {prio : ℕ} (hr : s.router = .find prio) : InputTurn s .router (nextPacketFind prio s)

/-- **Every step is one of the turns** that `InputTurn` names. -/
theorem routerInputStep_turn {s t : RouterInput cap} {a : InputAction}
    (h : routerInputStep s a = some t) : InputTurn s a t := by
  cases a with
  | newPacket packet interface =>
    obtain rfl := Option.some.inj h
    exact .newPacket packet interface
  | advance i =>
    simp only [routerInputStep] at h
    split at h
    · exact absurd h.symm (Option.some_ne_none t)
    · rename_i hi
      obtain rfl := Option.some.inj h
      exact .element hi
    · rename_i hi
      obtain rfl := Option.some.inj h
      exact .event hi
  | router =>
    simp only [routerInputStep] at h
    split at h
    · rename_i hr
      obtain rfl := Option.some.inj h
      exact .wait hr
    · rename_i hr
      obtain rfl := Option.some.inj h
      exact .find hr

/-- `router_input_event` has room when `csp_route_enqueue` posts an event. -/
def EventFits (s : RouterInput cap) : InputAction → Prop
  | .advance i => s.calls[i]?.any NewPacketCall.posts = true → s.routerInputEvent.size < cap
  | .newPacket _ _ | .router => True

instance (s : RouterInput cap) : ∀ a, Decidable (EventFits s a)
  | .advance _ => inferInstanceAs (Decidable (_ → _))
  | .newPacket _ _ | .router => isTrue trivial

/-! ### Calls that nobody interrupts -/

/-- What the loop over the priorities makes of the FIFOs. -/
def nextPacketFound (s : RouterInput cap) : RouterInput cap :=
  match (List.finRange cspPriorities).find? fun prio => (s.routerInputFifo prio).size ≠ 0 with
  | none => { s with router := .wait }.emit .timedout
  | some prio =>
    match (s.routerInputFifo prio).dequeue with
    | none => { s with router := .wait }
    | some (input, q) =>
      { s with
        routerInputFifo := Function.update s.routerInputFifo prio q
        router := .wait }.emit (.next input)

/-- The search of the router, undisturbed, is a run of single queue operations. -/
theorem nextPacketFound_run (s : RouterInput cap) :
    ∃ acts, Run routerInputStep (fun _ _ => True) { s with router := .find 0 } acts
      (nextPacketFound s) := by
  refine scan_induction (n := cspPriorities)
    (p := fun prio => decide ((s.routerInputFifo prio).size ≠ 0))
    (R := fun j => ∃ acts, Run routerInputStep (fun _ _ => True) { s with router := .find j } acts
      (nextPacketFound s)) (fun hnone => ?_) (fun k hk => ?_) fun k hk => ?_
  · refine ⟨[.router], .cons trivial ?_ .nil⟩
    simp only [routerInputStep, nextPacketFind, nextPacketFound, hnone, Nat.lt_irrefl, dite_false]
  · have hsize := List.find?_some hk
    refine ⟨[.router], .cons trivial ?_ .nil⟩
    cases hd : (s.routerInputFifo k).dequeue with
    | none => exact absurd (Notified.size_eq_zero.1 hd) (of_decide_eq_true hsize)
    | some r =>
      simp only [routerInputStep, nextPacketFind, nextPacketFound, hk, hd, k.isLt, dite_true]
  · rintro ⟨acts, hrun⟩
    have hd : (s.routerInputFifo k).dequeue = none :=
      Notified.size_eq_zero.2 (not_not.1 (of_decide_eq_false hk))
    refine ⟨.router :: acts, .cons trivial ?_ hrun⟩
    simp only [routerInputStep, nextPacketFind, hd, k.isLt, dite_true]

section Stack

variable {N : ℕ}

/-- The input queues of a node, while no call is in progress. -/
def Stack.routerInput (s : Stack N) (log : List InputEvent) : RouterInput cspFifoInput :=
  ⟨s.routerInputFifo, s.routerInputEvent, [], .wait, log⟩

/-- **The call as one step** is the call with its queue operations one after another. -/
theorem cspNewPacket_run (input : CspRouteQueue) (s : Stack N) :
    ∃ acts ev, Run routerInputStep (fun _ _ => True) (s.routerInput []) acts
      ((cspNewPacket input s).routerInput [ev]) := by
  unfold cspNewPacket
  simp only
  split
  · rename_i hq
    refine ⟨[.newPacket (some input.packet) (some input.interface), .advance 0],
      .freed input.packet.buf, .cons trivial rfl (.cons trivial ?_ .nil)⟩
    simp only [routerInputStep, newPacketEnter, Stack.routerInput, List.nil_append,
      List.getElem?_cons_zero, newPacketElement, cspRouteGetFifo]
    unfold cspConnGetRxq at hq
    rw [hq]
    rfl
  · rename_i q hq
    refine ⟨[.newPacket (some input.packet) (some input.interface), .advance 0, .advance 0],
      .received input, .cons trivial rfl (.cons trivial (t := ⟨Function.update s.routerInputFifo
        (cspConnGetRxq input.packet.id.pri) q, s.routerInputEvent, [.event input], .wait, []⟩) ?_
          (.cons trivial ?_ .nil))⟩
    · simp only [routerInputStep, newPacketEnter, Stack.routerInput, List.nil_append,
        List.getElem?_cons_zero, newPacketElement, cspRouteGetFifo]
      unfold cspConnGetRxq at hq
      rw [hq]
      rfl
    · simp only [routerInputStep, List.getElem?_cons_zero, newPacketEvent, Queue.push]
      split <;> rename_i hev <;> rw [hev] <;> rfl

/-- The same for the router. -/
theorem cspRouteNextPacket_run (s : Stack N) :
    ∃ acts, Run routerInputStep (fun _ _ => True) (s.routerInput []) acts
      ((cspRouteNextPacket s).2.routerInput
        [match (cspRouteNextPacket s).1 with | none => .timedout | some input => .next input]) := by
  unfold cspRouteNextPacket
  split
  · rename_i hev
    refine ⟨[.router], .cons trivial ?_ .nil⟩
    simp only [routerInputStep, Stack.routerInput, nextPacketWait, hev]
    rfl
  · rename_i ev hev
    obtain ⟨acts, hrun⟩ := nextPacketFound_run ⟨s.routerInputFifo, ev, [], .wait, []⟩
    refine ⟨.router :: acts, .cons trivial (t := ⟨s.routerInputFifo, ev, [], .find 0, []⟩) ?_ ?_⟩
    · simp only [routerInputStep, Stack.routerInput, nextPacketWait, hev]
    · unfold nextPacketFound at hrun
      simp only at hrun ⊢
      split at hrun
      · rename_i hf
        rw [hf]
        exact hrun
      · rename_i prio hf
        have hsize := List.find?_some hf
        rw [hf]
        simp only
        split at hrun
        · rename_i hd
          exact absurd (Notified.size_eq_zero.1 hd) (of_decide_eq_true hsize)
        · rename_i hd
          rw [hd]
          exact hrun

end Stack

/-! ### As queues with notifications -/

namespace RouterInput

variable {s t : RouterInput cap} {a : InputAction}

/-- The FIFOs, with `router_input_event` as the notifications. -/
def notified (s : RouterInput cap) : Notified CspRouteQueue cspPriorities cap cap where
  queue := s.routerInputFifo
  event := s.routerInputEvent
  posting := s.calls.countP NewPacketCall.posts
  scan := s.router.prio

/-- A call that ends does not post any more. -/
theorem countP_eraseIdx {calls : List NewPacketCall} {i : ℕ} {c : NewPacketCall}
    (h : calls[i]? = some c) :
    calls.countP NewPacketCall.posts =
      (calls.eraseIdx i).countP NewPacketCall.posts + if c.posts then 1 else 0 := by
  obtain ⟨hi, rfl⟩ := List.getElem?_eq_some_iff.1 h
  rw [← (List.getElem_cons_eraseIdx_perm hi).countP_eq, List.countP_cons]

/-- A call that has enqueued its packet is about to post. -/
theorem countP_set_event {calls : List NewPacketCall} {i : ℕ} {input input' : CspRouteQueue}
    (h : calls[i]? = some (.element input)) :
    (calls.set i (.event input')).countP NewPacketCall.posts =
      calls.countP NewPacketCall.posts + 1 := by
  obtain ⟨hi, hc⟩ := List.getElem?_eq_some_iff.1 h
  rw [(List.set_perm_cons_eraseIdx hi _).countP_eq, List.countP_cons, countP_eraseIdx h]
  rfl

/-- A call that enters announces nothing yet. -/
theorem newPacketEnter_notified (packet : Option CspPacket) (interface : Option ℕ)
    (s : RouterInput cap) : (newPacketEnter packet interface s).notified = s.notified := by
  unfold newPacketEnter
  split
  · rfl
  · rfl
  · unfold notified
    rw [List.countP_append]
    rfl

/-- A packet that is enqueued is announced by its call. -/
theorem newPacketElement_notified {i : ℕ} {input : CspRouteQueue}
    (hi : s.calls[i]? = some (.element input)) :
    (newPacketElement i input s).notified = s.notified ∨
      s.notified.Step (newPacketElement i input s).notified := by
  unfold newPacketElement
  simp only
  split
  · refine .inl ?_
    have hcount := countP_eraseIdx hi
    unfold notified emit
    rw [hcount]
    rfl
  · rename_i q hq
    have hput := Notified.Step.put (s := s.notified) hq
    unfold notified at hput ⊢
    rw [countP_set_event hi]
    exact .inr hput

/-- An event is posted, or lost because the event queue is full. -/
theorem newPacketEvent_notified {i : ℕ} {input : CspRouteQueue}
    (hi : s.calls[i]? = some (.event input)) :
    s.notified.Step (newPacketEvent i input s).notified ∨
      (s.notified.Lost (newPacketEvent i input s).notified ∧ cap ≤ s.routerInputEvent.size) := by
  have hcount : s.notified.posting =
      (s.calls.eraseIdx i).countP NewPacketCall.posts + 1 := countP_eraseIdx hi
  have hposting : (s.calls.eraseIdx i).countP NewPacketCall.posts = s.notified.posting - 1 := by
    omega
  have hpos : 0 < s.notified.posting := by omega
  have hresult : (newPacketEvent i input s).notified =
      { s.notified with
        event := s.routerInputEvent.push ()
        posting := s.notified.posting - 1 } := by
    rw [← hposting]
    rfl
  rw [hresult, Queue.push]
  cases hev : s.routerInputEvent.enqueue () with
  | none => exact .inr ⟨.mk hpos hev, Queue.enqueue_eq_none.1 hev⟩
  | some ev => exact .inl (.post hpos hev)

/-- The router takes an event, or waits. -/
theorem nextPacketWait_notified (h : s.router = .wait) :
    (nextPacketWait s).notified = s.notified ∨ s.notified.Step (nextPacketWait s).notified := by
  have hscan : s.notified.scan = none := congrArg NextPacketCall.prio h
  unfold nextPacketWait
  split
  · exact .inl rfl
  · rename_i ev hev
    exact .inr (.wait hscan hev)

/-- The search takes a packet, or goes on to the next priority. -/
theorem nextPacketFind_notified {prio : ℕ} (h : s.router = .find prio)
    (hlt : prio < cspPriorities) : s.notified.Step (nextPacketFind prio s).notified := by
  have hscan : s.notified.scan = some prio := congrArg NextPacketCall.prio h
  unfold nextPacketFind
  rw [dif_pos hlt]
  split
  · rename_i hd
    exact .skip (k := ⟨prio, hlt⟩) hscan hd
  · rename_i input q hd
    exact .take (k := ⟨prio, hlt⟩) hscan hd

/-- **Every step is an operation on queues with notifications**, a refused post, or one that
the queues do not notice, as long as no loop comes to its end. -/
theorem step_notified (h : routerInputStep s a = some t)
    (hscan : ∀ prio, s.router = .find prio → prio < cspPriorities) :
    t.notified = s.notified ∨ s.notified.Step t.notified ∨
      (s.notified.Lost t.notified ∧ ¬EventFits s a) := by
  cases routerInputStep_turn h with
  | newPacket packet interface => exact .inl (newPacketEnter_notified packet interface s)
  | element hi => exact (newPacketElement_notified hi).imp_right .inl
  | event hi =>
    refine .inr ((newPacketEvent_notified hi).imp_right fun hl => ⟨hl.1, fun hfit => ?_⟩)
    exact absurd (hfit (by rw [hi]; rfl)) (Nat.not_lt.2 hl.2)
  | wait hr => exact (nextPacketWait_notified hr).imp_right .inl
  | find hr => exact .inr (.inl (nextPacketFind_notified hr (hscan _ hr)))

/-- What holds in every run, whether or not posts are refused. -/
theorem step_covered (h : routerInputStep s a = some t) (hc : s.notified.Covered) :
    t.notified.Covered := by
  have hscan : ∀ prio, s.router = .find prio → prio < cspPriorities := fun prio hr =>
    hc.scan_lt (congrArg NextPacketCall.prio hr)
  rcases step_notified h hscan with he | hs | ⟨hl, -⟩
  · rwa [he]
  · exact hs.covered hc
  · exact hl.covered hc

/-- **A step keeps packets and announcements balanced**, where the event fits. -/
theorem step_balanced (h : routerInputStep s a = some t) (hfit : EventFits s a)
    (hc : s.notified.Covered) (hb : s.notified.Balanced) : t.notified.Balanced := by
  have hscan : ∀ prio, s.router = .find prio → prio < cspPriorities := fun prio hr =>
    hc.scan_lt (congrArg NextPacketCall.prio hr)
  rcases step_notified h hscan with he | hs | ⟨-, hn⟩
  · rwa [he]
  · exact hs.balanced hb
  · exact absurd hfit hn

/-- In the beginning everything is covered. -/
theorem init_covered : (init : RouterInput cap).notified.Covered :=
  ⟨Nat.zero_le _, fun j hj => absurd hj.symm (Option.some_ne_none j)⟩

/-- And balanced. -/
theorem init_balanced : (init : RouterInput cap).notified.Balanced := by
  show 0 = ∑ _ : Fin cspPriorities, 0
  rw [Finset.sum_const_zero]

/-- A log that has grown is another one. -/
theorem log_ne_snoc {ev : InputEvent} : s.log ≠ s.log ++ [ev] := fun h =>
  List.cons_ne_nil ev [] (List.self_eq_append_right.1 h)

/-- **A step that reports a timeout** is a wait without an event, or the end of a loop. -/
theorem timedout_cases (h : routerInputStep s a = some t) (hlog : t.log = s.log ++ [.timedout]) :
    (s.router = .wait ∧ s.routerInputEvent.dequeue = none) ∨
      ∃ prio, s.router = .find prio ∧ cspPriorities ≤ prio := by
  have hev : ∀ ev, s.log ++ [ev] = s.log ++ [.timedout] → ev = .timedout := fun ev he =>
    List.singleton_inj.1 (List.append_cancel_left he)
  cases routerInputStep_turn h with
  | newPacket packet interface =>
    unfold newPacketEnter at hlog
    split at hlog
    · exact absurd hlog log_ne_snoc
    · exact InputEvent.noConfusion (hev _ hlog)
    · exact absurd hlog log_ne_snoc
  | element _ =>
    unfold newPacketElement at hlog
    simp only at hlog
    split at hlog
    · exact InputEvent.noConfusion (hev _ hlog)
    · exact absurd hlog log_ne_snoc
  | event _ => exact InputEvent.noConfusion (hev _ hlog)
  | wait hr =>
    unfold nextPacketWait at hlog
    split at hlog
    · rename_i hd
      exact .inl ⟨hr, hd⟩
    · exact absurd hlog log_ne_snoc
  | @find prio hr =>
    refine .inr ⟨prio, hr, Nat.not_lt.1 fun hlt => ?_⟩
    unfold nextPacketFind at hlog
    rw [dif_pos hlt] at hlog
    split at hlog
    · exact absurd hlog log_ne_snoc
    · exact InputEvent.noConfusion (hev _ hlog)

end RouterInput

/-! ### No packet is stranded while the events fit -/

/-- What the router relies on: without a call in progress every packet has its event, and a
reported timeout means that every FIFO is empty, but for calls that have not posted yet. -/
def NoneStranded (s : RouterInput cap) : Prop :=
  (s.Idle → s.routerInputEvent.size = s.packets) ∧
    ∀ a t, routerInputStep s a = some t → t.log = s.log ++ [.timedout] →
      s.packets = s.calls.countP NewPacketCall.posts ∧
        (s.calls = [] → ∀ prio, (s.routerInputFifo prio).items = [])

/-- Where they balance no packet is stranded. -/
theorem noneStranded_of_balanced {s : RouterInput cap} (hc : s.notified.Covered)
    (hb : s.notified.Balanced) : NoneStranded s := by
  refine ⟨fun ⟨hcalls, hrouter⟩ => ?_, fun a t ht hlog => ?_⟩
  · refine hb.idle ?_ (congrArg NextPacketCall.prio hrouter)
    show s.calls.countP NewPacketCall.posts = 0
    rw [hcalls]
    rfl
  · rcases RouterInput.timedout_cases ht hlog with ⟨hr, hd⟩ | ⟨prio, hr, hprio⟩
    · have htotal := hb.waiting hd (congrArg NextPacketCall.prio hr)
      refine ⟨htotal, fun hcalls prio => ?_⟩
      have hzero : s.packets = 0 := htotal.trans (by
        show s.calls.countP NewPacketCall.posts = 0
        rw [hcalls]
        rfl)
      have := Finset.sum_eq_zero_iff.1 hzero prio (Finset.mem_univ prio)
      exact List.length_eq_zero_iff.1 this
    · exact absurd (hc.scan_lt (congrArg NextPacketCall.prio hr)) (Nat.not_lt.2 hprio)

/-- **No packet is stranded in a run whose events fit.** -/
theorem routerInput_balanced {acts : List InputAction} {s : RouterInput cap}
    (h : Run routerInputStep EventFits .init acts s) : NoneStranded s := by
  have hinv : s.notified.Covered ∧ s.notified.Balanced :=
    h.invariant (P := fun s => s.notified.Covered ∧ s.notified.Balanced)
      (fun _ _ _ hs hfit hst => ⟨RouterInput.step_covered hst hs.1,
        RouterInput.step_balanced hst hfit hs.1 hs.2⟩)
      ⟨RouterInput.init_covered, RouterInput.init_balanced⟩
  exact noneStranded_of_balanced hinv.1 hinv.2

/-- A driver passes on a packet of priority `pri`. -/
def passOn (pri : BitVec 2) : List InputAction :=
  [.newPacket (some ⟨0, 0, 0, 0, .ofFields pri 1 2 3 4 0, fun _ => 0⟩) (some 0),
    .advance 0, .advance 0]

/-- One packet, passed on and routed. -/
theorem routerInput_balanced_passOn : ∃ s,
    Run routerInputStep EventFits (.init : RouterInput cspFifoInput)
      (passOn 2 ++ [.router, .router, .router, .router]) s ∧ NoneStranded s := by
  have hrun : ∃ s, Run routerInputStep EventFits (.init : RouterInput cspFifoInput)
      (passOn 2 ++ [.router, .router, .router, .router]) s ∧ (s.packets == 0) = true :=
    Run.of_any (by decide +kernel)
  obtain ⟨s, hs, -⟩ := hrun
  exact ⟨s, hs, routerInput_balanced hs⟩

/-- A packet of another priority after a full FIFO has no event. -/
theorem routerInput_stranded : ¬∀ acts s,
    Run routerInputStep (fun _ _ => True) (.init : RouterInput cspFifoInput) acts s →
      NoneStranded s := by
  intro hall
  have hrun : ∃ s, Run routerInputStep (fun _ _ => True) (.init : RouterInput cspFifoInput)
      ((List.replicate cspFifoInput (passOn 0)).flatten ++ passOn 1) s ∧
        (s.calls.isEmpty && s.router.prio.isNone && s.routerInputEvent.size != s.packets) = true :=
    Run.of_any (by decide +kernel)
  obtain ⟨s, hs, hp⟩ := hrun
  simp only [Bool.and_eq_true, List.isEmpty_iff, bne_iff_ne] at hp
  obtain ⟨⟨hcalls, hrouter⟩, hne⟩ := hp
  refine hne ((hall _ s hs).1 ⟨hcalls, ?_⟩)
  cases hr : s.router with
  | wait => rfl
  | find prio =>
    rw [hr] at hrouter
    exact absurd hrouter Bool.false_ne_true

end LibCSP
