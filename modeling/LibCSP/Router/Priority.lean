/-
# Which packet the router takes next

`csp_route_next_packet` waits for an event and then looks into the FIFOs, the most urgent one
first.  Drivers put packets in meanwhile, so an urgent packet may come into a FIFO that the router
has already found empty, and the router takes a less urgent one.

Apart from that it is a counter that serves by rank (`LibCSP.Basis.Counter`).  Each queue
operation is something that happens at the counter (`counterInputs`): a packet arrives when it
comes into its FIFO, the clerk looks up when the router takes its event, and serves when it takes
a packet.  In every run the packets that `csp_route_next_packet` returns are those that the
counter serves under these inputs (`routerInput_serves`).  So the packet it returns is
the first in its FIFO of those of its priority, a more urgent one that waits at that time has come
since the router took the event, and every packet that `csp_new_packet` has passed on is
returned once or waits.
-/

import LibCSP.Basis.Counter
import LibCSP.Router.Input

namespace LibCSP

open Basis

variable {cap : ℕ}

/-- The priority of the packet: 0 is the most urgent. -/
def CspRouteQueue.prio (input : CspRouteQueue) : ℕ := input.packet.id.pri.toNat

/-- The packet of a call that has put it into its FIFO. -/
def NewPacketCall.passed : NewPacketCall → Option CspRouteQueue
  | .element _ => none
  | .event input => some input

def InputEvent.returned : InputEvent → Option CspRouteQueue
  | .next input => some input
  | .freed _ | .received _ | .timedout => none

def InputEvent.passedOn : InputEvent → Option CspRouteQueue
  | .received input => some input
  | .freed _ | .next _ | .timedout => none

namespace RouterInput

/-- The packets that `csp_route_next_packet` has returned. -/
def nexts (s : RouterInput cap) : List CspRouteQueue := s.log.filterMap InputEvent.returned

/-- The packets that `csp_new_packet` has put into a FIFO: it has returned, or posts the event
next. -/
def passed (s : RouterInput cap) : List CspRouteQueue :=
  s.log.filterMap InputEvent.passedOn ++ s.calls.filterMap NewPacketCall.passed

/-- An event returns a packet, or none. -/
theorem nexts_emit (s : RouterInput cap) (ev : InputEvent) :
    (s.emit ev).nexts = s.nexts ++ ev.returned.toList := by
  unfold nexts emit
  rw [List.filterMap_append]
  cases ev <;> rfl

/-- An event passes a packet on, or none. -/
theorem passed_emit (s : RouterInput cap) (ev : InputEvent) :
    (s.emit ev).passed = s.log.filterMap InputEvent.passedOn ++ ev.passedOn.toList ++
      s.calls.filterMap NewPacketCall.passed := by
  unfold passed emit
  rw [List.filterMap_append]
  cases ev <;> rfl

/-- What a queue operation is at the counter. -/
def counterInputs (s : RouterInput cap) : InputAction → List (CounterInput CspRouteQueue)
  | .newPacket _ _ => []
  | .advance i =>
    match s.calls[i]? with
    | some (.element input) =>
      match (s.routerInputFifo (cspRouteGetFifo input.packet.id.pri)).enqueue input with
      | some _ => [.arrive input]
      | none => []
    | _ => []
  | .router =>
    match s.router with
    | .wait =>
      match s.routerInputEvent.dequeue with
      | some _ => [.look]
      | none => []
    | .find prio =>
      if h : prio < cspPriorities then
        match (s.routerInputFifo ⟨prio, h⟩).dequeue with
        | some _ => [.serve prio]
        | none => []
      else [.rest]

/-- What the FIFOs hold is what waits at the counter, and what was returned was served. -/
structure Serves (c : Counter CspRouteQueue) (s : RouterInput cap) : Prop where
  fifo : ∀ prio, (s.routerInputFifo prio).items = ofRank CspRouteQueue.prio prio.val c.waiting
  nexts : c.served = s.nexts
  passed : s.passed.Perm c.arrived
  /-- Behind the FIFOs that the router found empty nobody waits who was there when it took its
  event. -/
  seen : ∀ prio, s.router = .find prio → ∀ x ∈ c.seen, prio ≤ x.prio

end RouterInput

section Step

variable {s t : RouterInput cap} {c : Counter CspRouteQueue} {i : ℕ} {input : CspRouteQueue}

/-- A call that ends has passed its packet on. -/
theorem passed_eraseIdx {call : NewPacketCall} (hi : s.calls[i]? = some call) :
    (s.calls.filterMap NewPacketCall.passed).Perm
      (call.passed.toList ++ (s.calls.eraseIdx i).filterMap NewPacketCall.passed) := by
  obtain ⟨hlt, rfl⟩ := List.getElem?_eq_some_iff.1 hi
  have hperm := (List.getElem_cons_eraseIdx_perm hlt).symm.filterMap NewPacketCall.passed
  rw [List.filterMap_cons] at hperm
  cases hcall : NewPacketCall.passed s.calls[i] with
  | none => simpa [hcall] using hperm
  | some x => simpa [hcall] using hperm

/-- A call that posts next has put its packet into a FIFO. -/
theorem passed_set_event (hi : s.calls[i]? = some (.element input)) :
    ((s.calls.set i (.event input)).filterMap NewPacketCall.passed).Perm
      (s.calls.filterMap NewPacketCall.passed ++ [input]) := by
  obtain ⟨hlt, hcall⟩ := List.getElem?_eq_some_iff.1 hi
  have hset := (List.set_perm_cons_eraseIdx hlt (.event input)).filterMap NewPacketCall.passed
  have herase := passed_eraseIdx hi
  rw [List.filterMap_cons] at hset
  exact (hset.trans (herase.symm.cons input)).trans (List.perm_append_singleton input _).symm

namespace RouterInput.Serves

/-- Somebody arrives. -/
theorem arrive (h : Serves c s) (hi : s.calls[i]? = some (.element input)) :
    ∃ c', Run (Counter.step CspRouteQueue.prio) (fun _ _ => True) c
      (s.counterInputs (.advance i)) c' ∧ Serves c' (newPacketElement i input s) := by
  unfold newPacketElement
  simp only [counterInputs, hi]
  cases hq : (s.routerInputFifo (cspRouteGetFifo input.packet.id.pri)).enqueue input with
  | none =>
    refine ⟨c, .nil, h.fifo, ?_, ?_, h.seen⟩
    · rw [nexts_emit]
      exact h.nexts.trans (List.append_nil _).symm
    · rw [passed_emit]
      refine .trans ?_ h.passed
      rw [InputEvent.passedOn, Option.toList_none, List.append_nil]
      exact (passed_eraseIdx hi).symm.append_left _
  | some q =>
    obtain ⟨-, hitems⟩ := Queue.enqueue_eq_some.1 hq
    refine ⟨_, .cons trivial rfl .nil, fun prio => ?_, h.nexts, ?_, h.seen⟩
    · show (Function.update s.routerInputFifo (cspRouteGetFifo input.packet.id.pri) q prio).items =
        ofRank _ _ (c.seen ++ (c.unseen ++ [input]))
      rw [← List.append_assoc, ofRank_append, ofRank_cons]
      by_cases hprio : prio = cspRouteGetFifo input.packet.id.pri
      · subst hprio
        have hprio : input.prio = (cspRouteGetFifo input.packet.id.pri).val := rfl
        rw [Function.update_self, hitems, h.fifo, if_pos hprio]
        rfl
      · have hne : ¬ input.prio = prio.val := fun heq => hprio (Fin.ext heq.symm)
        rw [Function.update_of_ne hprio, h.fifo, if_neg hne]
        exact (List.append_nil _).symm
    · refine .trans ?_ (h.passed.append_right [input])
      unfold RouterInput.passed
      rw [List.append_assoc]
      exact (passed_set_event hi).append_left _

/-- `csp_new_packet` returns. -/
theorem received (h : Serves c s) (hi : s.calls[i]? = some (.event input)) :
    Serves c (newPacketEvent i input s) := by
  refine ⟨h.fifo, ?_, .trans ?_ h.passed, h.seen⟩
  · unfold newPacketEvent
    rw [nexts_emit]
    exact h.nexts.trans (List.append_nil _).symm
  · unfold newPacketEvent
    rw [passed_emit, List.append_assoc]
    exact (passed_eraseIdx hi).symm.append_left _

/-- The router is where it does not look. -/
theorem of_wait {log : List InputEvent} (h : Serves c s)
    (hlog : log.filterMap InputEvent.returned = s.log.filterMap InputEvent.returned)
    (hlog' : log.filterMap InputEvent.passedOn = s.log.filterMap InputEvent.passedOn) :
    Serves c { s with router := .wait, log := log } := by
  refine ⟨h.fifo, h.nexts.trans hlog.symm, ?_, nofun⟩
  unfold RouterInput.passed
  rw [hlog']
  exact h.passed

/-- The router takes an event. -/
theorem wait (h : Serves c s) (hr : s.router = .wait) :
    ∃ c', Run (Counter.step CspRouteQueue.prio) (fun _ _ => True) c (s.counterInputs .router) c' ∧
      Serves c' (nextPacketWait s) := by
  unfold nextPacketWait
  simp only [counterInputs, hr]
  cases hd : s.routerInputEvent.dequeue with
  | none =>
    have hemit : s.emit .timedout = { s with router := .wait, log := s.log ++ [.timedout] } := by
      rw [← hr]
      rfl
    simp only [hemit]
    exact ⟨c, .nil, h.of_wait (by simp [InputEvent.returned]) (by simp [InputEvent.passedOn])⟩
  | some r =>
    refine ⟨_, .cons trivial rfl .nil, fun prio => ?_, h.nexts, h.passed, ?_⟩
    · simpa [Counter.waiting] using h.fifo prio
    · rintro prio hprio x -
      obtain rfl := NextPacketCall.find.inj hprio
      exact Nat.zero_le _

/-- The router looks into a FIFO. -/
theorem find {prio : ℕ} (h : Serves c s) (hr : s.router = .find prio) :
    ∃ c', Run (Counter.step CspRouteQueue.prio) (fun _ _ => True) c (s.counterInputs .router) c' ∧
      Serves c' (nextPacketFind prio s) := by
  have hseen := h.seen prio hr
  unfold nextPacketFind
  simp only [counterInputs, hr]
  split
  · rename_i hlt
    cases hd : (s.routerInputFifo ⟨prio, hlt⟩).dequeue with
    | none =>
      -- nobody of this rank waits
      have hnone : ∀ y ∈ c.waiting, y.prio ≠ prio := by
        rw [← ofRank_eq_nil, ← h.fifo ⟨prio, hlt⟩]
        exact Queue.dequeue_eq_none.1 hd
      refine ⟨c, .nil, h.fifo, h.nexts, h.passed, ?_⟩
      rintro prio' hprio' x hx
      obtain rfl := NextPacketCall.find.inj hprio'
      have hle := hseen x hx
      have hne := hnone x (List.mem_append_left _ hx)
      omega
    | some r =>
      obtain ⟨input, q⟩ := r
      have hitems := Queue.dequeue_eq_some.1 hd
      rw [h.fifo] at hitems
      obtain ⟨c', hc', hserved, hrest⟩ := Counter.exists_serve hseen hitems
      obtain ⟨-, x, harrived, -, -, -, hrank⟩ := Counter.serve_eq_some hc'
      refine ⟨c', .cons trivial hc' .nil, fun j => ?_, ?_, ?_, nofun⟩
      · show (Function.update s.routerInputFifo ⟨prio, hlt⟩ q j).items = _
        by_cases hj : j = ⟨prio, hlt⟩
        · subst hj
          rw [Function.update_self]
          exact hrest.symm
        · have hne : ¬ j.val = prio := fun heq => hj (Fin.ext heq)
          rw [Function.update_of_ne hj, h.fifo, hrank, if_neg hne]
          rfl
      · rw [nexts_emit, hserved, h.nexts]
        rfl
      · rw [harrived, passed_emit, InputEvent.passedOn, Option.toList_none, List.append_nil]
        exact h.passed
  · rename_i hlt
    have hnil : c.seen = [] := by
      refine List.eq_nil_iff_forall_not_mem.2 fun x hx => ?_
      have hle := hseen x hx
      have hprio : x.prio < cspPriorities := prio_lt_cspPriorities x.packet.id.pri
      omega
    refine ⟨c, .cons trivial ?_ .nil, ?_⟩
    · simp [Counter.step, hnil]
    · exact h.of_wait (by simp [InputEvent.returned]) (by simp [InputEvent.passedOn])

/-- **A step of the queues is one of the counter, or none.** -/
theorem step (h : Serves c s) {a : InputAction} (hst : routerInputStep s a = some t) :
    ∃ c', Run (Counter.step CspRouteQueue.prio) (fun _ _ => True) c (s.counterInputs a) c' ∧
      Serves c' t := by
  cases routerInputStep_turn hst with
  | newPacket packet interface =>
    refine ⟨c, .nil, ?_⟩
    unfold newPacketEnter
    split
    · exact h
    · refine ⟨h.fifo, ?_, ?_, h.seen⟩
      · rw [nexts_emit]
        exact h.nexts.trans (List.append_nil _).symm
      · rw [passed_emit, InputEvent.passedOn, Option.toList_none, List.append_nil]
        exact h.passed
    · refine ⟨h.fifo, h.nexts, .trans (.of_eq ?_) h.passed, h.seen⟩
      unfold RouterInput.passed
      rw [List.filterMap_append]
      simp [NewPacketCall.passed]
  | element hi => exact h.arrive hi
  | event hi =>
    simp only [counterInputs, hi]
    exact ⟨c, .nil, h.received hi⟩
  | wait hr => exact h.wait hr
  | find hr => exact h.find hr

end RouterInput.Serves

end Step

/-- In the beginning nobody has come and nobody was served. -/
theorem serves_init : RouterInput.Serves .init (.init : RouterInput cap) :=
  ⟨fun _ => rfl, rfl, .refl _, nofun⟩

/-- **The router takes packets as a counter serves by rank**, in every run of any number of
drivers and the router: where what happens at the counter is what the queue operations are, what
the router returned was served, what the drivers passed on was returned once or waits, and within
each priority the packets are returned in the order in which they came into the FIFO. -/
theorem routerInput_serves {acts : List InputAction} {s : RouterInput cap}
    {is : List (CounterInput CspRouteQueue)}
    (h : Run (noting routerInputStep RouterInput.counterInputs) (fun _ _ => True) (.init, []) acts
      (s, is)) :
    ∃ c, Run (Counter.step CspRouteQueue.prio) (fun _ _ => True) .init is c ∧
      s.Serves c ∧ (s.nexts ++ c.waiting).Perm s.passed ∧
      ∀ prio, ofRank CspRouteQueue.prio prio.val s.nexts ++ (s.routerInputFifo prio).items =
        ofRank CspRouteQueue.prio prio.val (is.filterMap CounterInput.arrival) := by
  have hstep (s : RouterInput cap) (c : Counter CspRouteQueue) (act : InputAction)
      (t : RouterInput cap) (hs : s.Serves c) (_ : True) (hst : routerInputStep s act = some t) :
      ∃ c', Run (Counter.step CspRouteQueue.prio) (fun _ _ => True) c (s.counterInputs act) c' ∧
        t.Serves c' := hs.step hst
  obtain ⟨c, hrun, hserves⟩ := Run.noted hstep h serves_init
  have hlossless := Counter.lossless hrun
  refine ⟨c, hrun, hserves, ?_, fun prio => ?_⟩
  · rw [← hserves.nexts]
    exact hlossless.perm.trans hserves.passed.symm
  · rw [← hserves.nexts, hserves.fifo, ← Counter.arrived_eq hrun]
    exact hlossless.order prio.val

/-- **An urgent packet is overlooked** when it comes in behind the router's back. -/
theorem routerInput_serves_late :
    ∃ (s : RouterInput cspFifoInput) (is : List (CounterInput CspRouteQueue)),
      Run (noting routerInputStep RouterInput.counterInputs) (fun _ _ => True) (.init, [])
        (passOn 2 ++ [.router, .router] ++ passOn 0 ++ [.router, .router]) (s, is) ∧
      s.nexts.map CspRouteQueue.prio = [2] ∧
      ∃ c, Run (Counter.step CspRouteQueue.prio) (fun _ _ => True) .init is c ∧
        s.Serves c ∧ (s.nexts ++ c.waiting).Perm s.passed ∧
        ∀ prio, ofRank CspRouteQueue.prio prio.val s.nexts ++ (s.routerInputFifo prio).items =
          ofRank CspRouteQueue.prio prio.val (is.filterMap CounterInput.arrival) := by
  have hrun : ∃ x : RouterInput cspFifoInput × List (CounterInput CspRouteQueue),
      Run (noting routerInputStep RouterInput.counterInputs) (fun _ _ => True) (.init, [])
        (passOn 2 ++ [.router, .router] ++ passOn 0 ++ [.router, .router]) x ∧
        decide (x.1.nexts.map CspRouteQueue.prio = [2]) = true := Run.of_any (by decide +kernel)
  obtain ⟨⟨s, is⟩, hrun, hnexts⟩ := hrun
  exact ⟨s, is, hrun, of_decide_eq_true hnexts, routerInput_serves hrun⟩

end LibCSP
