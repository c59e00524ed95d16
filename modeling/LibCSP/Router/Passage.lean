/-
# What passes through a node

The router takes packets from its input queues, and gives packets for other nodes to an
interface.  Nothing else that happens in a node does either of it, and beside
`csp_new_packet` nothing puts a packet into an input queue (`stackStep_through`).

So what a node gives away was taken, was for another node, and is what `csp_send_direct`
makes of it (`vTaskCSPRouter_passes`).
-/

import LibCSP.Router.Step

namespace LibCSP

open Basis

variable {N : ℕ}

/-- A packet that the router takes from an input queue, or that an interface is given. -/
inductive Passage
  | took (p : CspPacket)
  | gave (p : CspPacket)

def StackEvent.passage : StackEvent N → Option Passage
  | .dequeued p => some (.took p)
  | .nexthop p => some (.gave p)
  | .hooked _ | .discarded _ _ | .forwarded _ | .queued _ _ | .handedOver _ | .dropped _ | .opened _
    | .connected _ | .closed _ | .conn _ _ _ => none

def Stack.passages (s : Stack N) : List Passage := s.log.filterMap StackEvent.passage

/-- The input queues are the same, and these packets passed. -/
structure Through (s s' : Stack N) (ps : List Passage) : Prop where
  fifo : s'.routerInputFifo = s.routerInputFifo
  event : s'.routerInputEvent = s.routerInputEvent
  passages : s'.passages = s.passages ++ ps

namespace Through

variable {s s' s'' : Stack N} {ps ps' : List Passage}

/-- Nothing goes through. -/
theorem refl (s : Stack N) : Through s s [] := ⟨rfl, rfl, (List.append_nil _).symm⟩

/-- One step after the other. -/
theorem trans (h : Through s s' ps) (h' : Through s' s'' ps') : Through s s'' (ps ++ ps') := by
  refine ⟨h'.fifo.trans h.fifo, h'.event.trans h.event, ?_⟩
  rw [h'.passages, h.passages, List.append_assoc]

/-- A step through which nothing goes. -/
theorem quiet (h : Through s s' ps) (h' : Through s' s'' []) : Through s s'' ps := by
  simpa using h.trans h'

/-- A step that logs nothing. -/
theorem of_eq (hfifo : s'.routerInputFifo = s.routerInputFifo)
    (hevent : s'.routerInputEvent = s.routerInputEvent) (hlog : s'.log = s.log) :
    Through s s' [] := by
  refine ⟨hfifo, hevent, ?_⟩
  rw [Stack.passages, hlog, List.append_nil]
  rfl

/-- An event is a passage, or none. -/
theorem emit (s : Stack N) (ev : StackEvent N) : Through s (s.emit ev) ev.passage.toList := by
  refine ⟨rfl, rfl, ?_⟩
  rw [Stack.passages, Stack.emit, List.filterMap_append, List.filterMap_cons]
  cases ev.passage <;> rfl

end Through

/-! ### Calls and connections -/

section Calls

variable {s : Stack N}

/-- A change of a connection passes nothing. -/
theorem put_through (s : Stack N) (i : Fin N) (w : World) : Through s (s.put i w) [] := by
  refine ⟨rfl, rfl, ?_⟩
  have hnone : (w.log.map (StackEvent.conn i (s.conns i).connOpts)).filterMap
      StackEvent.passage = [] := by
    rw [List.filterMap_map]
    exact List.filterMap_eq_nil_iff.2 fun _ _ => rfl
  rw [Stack.passages, Stack.put, List.filterMap_append, hnone]
  rfl

/-- Nor does a call on it. -/
theorem call_through (e : StackEnv) (s : Stack N) (i : Fin N) (c : Call) :
    Through s (s.call e i c) [] := put_through s i _

/-- Nor does a task that goes on. -/
theorem setTask_through (s : Stack N) (t : ℕ) (caller : Caller N) :
    Through s (s.setTask t caller) [] := .of_eq rfl rfl rfl

/-- Nor does an entry of the table. -/
theorem setConn_through (s : Stack N) (i : Fin N) (c : Conn) : Through s (s.setConn i c) [] :=
  .of_eq rfl rfl rfl

/-- A packet for a connection goes nowhere else. -/
theorem routeConn_through (e : StackEnv) (i : Fin N) (raw : CspPacket) (s : Stack N) :
    Through s (routeConn e i raw s) [] := by
  rcases routeConn_cases e i raw s with ⟨why, -, h⟩ | ⟨p, -, h⟩
  · rw [h]
    exact .emit s _
  · rw [h]
    exact Through.quiet (.emit s _) (call_through e _ i _)

/-- Nor does one for a connection-less socket. -/
theorem routeConnLess_through (e : StackEnv) (socket : CspSocket) (p : CspPacket) (s : Stack N) :
    Through s (routeConnLess e socket p s) [] := by
  have hnext : Through s s.next [] := .of_eq rfl rfl rfl
  unfold routeConnLess
  split
  · exact .emit s _
  · split <;> exact hnext.quiet (.emit s.next _)

/-- A `csp_connect` that returns passes nothing. -/
theorem connectReturn_through (e : StackEnv) (t : ℕ) (i : Fin N) (retry : Bool) (c : Call)
    (err : Option CspErr) (s : Stack N) : Through s (connectReturn e t i retry c err s) [] := by
  have hcall := call_through e s i c
  unfold connectReturn
  split
  · exact hcall.quiet (setTask_through _ t _)
  · exact (hcall.quiet (setTask_through _ t _)).quiet (.emit _ _)
  · exact hcall.quiet (setTask_through _ t _)

/-- `csp_bind` passes nothing. -/
theorem cspBind_through (socket : CspSocket) (port : U8) (s : Stack N) :
    Through s (cspBind socket port s) [] := by
  unfold cspBind
  split
  · exact .refl s
  · split
    · exact .refl s
    · exact .of_eq rfl rfl rfl

/-- Nor does the search for a port. -/
theorem connectPort_through {e : StackEnv} {t : ℕ} {prio dest dport : U8} {opts : U32}
    {s s' : Stack N} (h : connectPort e t prio dest dport opts s = some s') :
    Through s s' [] := by
  unfold connectPort at h
  split at h
  · obtain ⟨sport, -, rfl⟩ := Option.map_eq_some_iff.1 h
    split <;> exact .of_eq rfl rfl rfl
  · obtain rfl := Option.some.inj h
    exact .of_eq rfl rfl rfl

end Calls

variable [NeZero N]

/-- Nor does `csp_conn_new`. -/
theorem cspConnNew_through (e : StackEnv) (idin idout : CspId) (s : Stack N) :
    Through s (cspConnNew e idin idout s).2 [] := by
  have hstart : Through s (if s.search.2 = true then
      s.next.setConn s.search.1 { s.conns s.search.1 with state := .connOpen } else s.next) [] := by
    split <;> exact .of_eq rfl rfl rfl
  unfold cspConnNew
  split
  · simp only
    generalize (if s.search.2 = true then
      s.next.setConn s.search.1 { s.conns s.search.1 with state := .connOpen } else s.next) = s₁
      at hstart ⊢
    split
    · exact hstart
    · have hlast : Through s₁ { s₁ with
          lastGiven := Fin.ofNat N (s.search.1.val % 2 ^ 8) } [] := .of_eq rfl rfl rfl
      exact ((hstart.quiet hlast).quiet (.emit _ (.opened s.search.1))).quiet (put_through _ _ _)
  · exact .of_eq rfl rfl rfl

/-- Nor does the second half of `csp_connect`. -/
theorem connectAllocate_through (e : StackEnv) (t : ℕ) (incomingId outgoingId : CspId)
    (opts : U32) (s : Stack N) :
    Through s (connectAllocate e t incomingId outgoingId opts s) [] := by
  have hnew := cspConnNew_through e incomingId outgoingId s
  unfold connectAllocate
  generalize cspConnNew e incomingId outgoingId s = r at hnew ⊢
  obtain ⟨r, s₁⟩ := r
  cases r with
  | none => exact hnew.quiet (setTask_through _ t _)
  | some i =>
    have hset := hnew.quiet (setConn_through s₁ i { s₁.conns i with connOpts := opts })
    simp only
    split
    · exact hset.quiet (connectReturn_through e t i true .connect _ _)
    · exact (hset.quiet (setTask_through _ t _)).quiet (.emit _ _)

/-- **Beside the router and the interfaces nothing passes**, and the input queues stay as they
are. -/
theorem stackStep_through {e : StackEnv} {s s' : Stack N} {a : Action N}
    (h : stackStep e s a = some s') (hroute : a ≠ .route)
    (hinput : ∀ input, a ≠ .newPacket input) : Through s s' [] := by
  cases stackStep_turn h with
  | checkTimeouts i => exact call_through e s i _
  | route => exact absurd rfl hroute
  | newPacket input => exact absurd rfl (hinput input)
  | bind socket port => exact cspBind_through socket port s
  | connect _ hport => exact connectPort_through hport
  | allocate _ => exact connectAllocate_through e _ _ _ _ s
  | connectWake _ _ => exact connectReturn_through e _ _ _ _ _ s
  | connectTimeout _ => exact connectReturn_through e _ _ _ _ _ s
  | send i p _ => exact call_through e s i _
  | sendWaits i p _ _ => exact (call_through e s i _).quiet (setTask_through _ _ _)
  | sendWake _ _ => exact (call_through e s _ _).quiet (setTask_through _ _ _)
  | sendTimeout _ => exact setTask_through s _ _
  | read i => exact call_through e s i _
  | close i => exact Through.quiet (.emit s _) (call_through e _ i _)

/-! ### The router -/

/-- A packet for a new connection goes nowhere else. -/
theorem routeNew_through (e : StackEnv) (socket : Option CspSocket) (p : CspPacket)
    (s : Stack N) : Through s (routeNew e socket p s) [] := by
  unfold routeNew
  cases socket with
  | none => exact .emit s _
  | some socket =>
    have hnew := cspConnNew_through e p.id (replyId e p.id) s
    simp only
    generalize cspConnNew e p.id (replyId e p.id) s = r at hnew ⊢
    obtain ⟨r, s₁⟩ := r
    cases r with
    | none => exact hnew.quiet (.emit s₁ _)
    | some i => exact (hnew.quiet (setConn_through s₁ i _)).quiet (routeConn_through e i p _)

/-- And so does any packet for this node. -/
theorem routeLocal_through (e : StackEnv) (p : CspPacket) (s : Stack N) :
    Through s (routeLocal e p s) [] := by
  unfold routeLocal
  split
  · exact routeConnLess_through e _ p s
  · split
    · exact routeConn_through e _ p s
    · exact routeNew_through e _ p s

/-- The node passes this packet on: it is for another node, the hook lets it pass, and there is
a route for it that works and does not lead back. -/
structure StackEnv.Relays (e : StackEnv) (input : CspRouteQueue) : Prop where
  transit : e.IsTransit input.packet.id
  admits : ∀ hook, e.hook = some hook → ∀ tick packet, hook tick packet = true
  route : ∀ tick, ∃ iface nexthop, cspRouteIf (e.routes tick) input.packet.id.dst = some iface ∧
    iface.nexthop = some nexthop ∧ nexthop input.packet = 1 ∧
      ¬ (0 < iface.mtu ∧ iface.mtu < input.packet.length)
  horizon : ∀ tick, e.routeInterface tick input.packet.id.dst ≠ input.interface ∨
    e.splitHorizonOff tick input.interface = true

omit [NeZero N] in
/-- A forwarded packet is given to an interface as `csp_send_direct` leaves it. -/
theorem routeForward_through (e : StackEnv) (input : CspRouteQueue) (s : Stack N) :
    ∃ wire : Option CspPacket, Through s (routeForward e input s) (wire.toList.map .gave) ∧
      (∀ q ∈ wire, ∃ routes nonce,
        (e.node.cspSendDirect routes input.packet.id nonce input.packet).2 = some q) ∧
      (e.Relays input → input.packet.id.src ≠ e.myAddress → wire = some input.packet) := by
  unfold routeForward
  simp only
  split
  · rename_i hdrop
    refine ⟨none, .emit s _, nofun, fun hrelay _ => ?_⟩
    obtain ⟨iface, nexthop, hroute, -⟩ := hrelay.route s.tick
    rw [hroute, Option.isNone_some, Bool.false_or, Bool.and_eq_true, beq_iff_eq,
      Bool.not_eq_true'] at hdrop
    rcases hrelay.horizon s.tick with hne | hoff
    · exact absurd hdrop.1 hne
    · exact absurd (hdrop.2.symm.trans hoff) Bool.false_ne_true
  · obtain ⟨err, wire, hr⟩ : ∃ err wire, e.node.cspSendDirect (e.routes s.tick) input.packet.id
      (e.nonce s.tick) input.packet = (err, wire) := ⟨_, _, rfl⟩
    refine ⟨wire, ?_, fun q hq => ⟨_, _, (congrArg Prod.snd hr).trans hq⟩,
      fun hrelay hforeign => ?_⟩
    · have hnext : Through s s.next [] := .of_eq rfl rfl rfl
      have hend : ∀ t : Stack N, Through t (if err = .none then
          t.emit (.forwarded input.packet.buf)
            else t.discard .notSent (some input.packet.buf)) [] := by
        intro t
        split <;> exact .emit t _
      rw [hr]
      cases wire with
      | none => exact hnext.quiet (hend _)
      | some q => exact (hnext.trans (.emit s.next (.nexthop q))).quiet (hend _)
    · obtain ⟨iface, nexthop, hroute, hnexthop, -, hmtu⟩ := hrelay.route s.tick
      have hforeign : ¬ input.packet.id.src = e.node.myAddress := hforeign
      unfold Node.cspSendDirect at hr
      simp only [hroute, hnexthop, if_neg hforeign, if_neg hmtu] at hr
      exact (congrArg Prod.snd hr).symm

/-- **What one packet makes pass:** one for another node is given on as `csp_send_direct` leaves
it, or not at all; one for this node is not. -/
theorem routePacket_through (e : StackEnv) (input : CspRouteQueue) (s : Stack N) :
    ∃ wire : Option CspPacket, Through s (routePacket e input s) (wire.toList.map .gave) ∧
      (∀ q ∈ wire, e.IsTransit input.packet.id ∧ ∃ routes nonce,
        (e.node.cspSendDirect routes input.packet.id nonce input.packet).2 = some q) ∧
      (e.Relays input → input.packet.id.src ≠ e.myAddress → wire = some input.packet) := by
  have hpacket : Through s { s with packet := some input.packet.buf } [] := .of_eq rfl rfl rfl
  unfold routePacket
  simp only
  split
  · rename_i htransit
    obtain ⟨wire, hwire, hq, hrelay⟩ :=
      routeForward_through e input { s with packet := some input.packet.buf }
    exact ⟨wire, by simpa using hpacket.trans hwire, fun q hmem => ⟨htransit, hq q hmem⟩, hrelay⟩
  · rename_i hlocal
    exact ⟨none, hpacket.quiet (routeLocal_through e input.packet _),
      fun _ hmem => absurd hmem (Option.not_mem_none _),
      fun hrelay _ => absurd hrelay.transit hlocal⟩

/-- **What passes in an iteration** that takes a packet. -/
theorem vTaskCSPRouter_passes {e : StackEnv} {s s₁ : Stack N} {input : CspRouteQueue}
    (h : cspRouteNextPacket s = (some input, s₁)) :
    ∃ wire : Option CspPacket,
      Through s₁ (vTaskCSPRouter e s) (.took input.packet :: wire.toList.map .gave) ∧
      (∀ q ∈ wire, e.IsTransit input.packet.id ∧ ∃ routes nonce,
        (e.node.cspSendDirect routes input.packet.id nonce input.packet).2 = some q) ∧
      (e.Relays input → input.packet.id.src ≠ e.myAddress → wire = some input.packet) := by
  have htook : Through s₁ (s₁.emit (.dequeued input.packet)) [.took input.packet] := .emit s₁ _
  unfold vTaskCSPRouter
  rw [h]
  simp only
  cases hhook : e.hook with
  | none =>
    obtain ⟨wire, hwire, hq⟩ := routePacket_through e input (s₁.emit (.dequeued input.packet))
    exact ⟨wire, htook.trans hwire, hq⟩
  | some hook =>
    have hnext : ∀ t : Stack N, Through t t.next [] := fun t => .of_eq rfl rfl rfl
    have hasked := (htook.quiet (hnext _)).quiet (.emit _ (.hooked (s₁.emit
      (.dequeued input.packet)).packet))
    simp only
    split
    · obtain ⟨wire, hwire, hq⟩ := routePacket_through e input ((s₁.emit
        (.dequeued input.packet)).next.emit (.hooked (s₁.emit (.dequeued input.packet)).packet))
      exact ⟨wire, hasked.trans hwire, hq⟩
    · rename_i hrefused
      exact ⟨none, hasked.quiet (.emit _ _), fun _ hmem => absurd hmem (Option.not_mem_none _),
        fun hrelay _ => absurd (hrelay.admits hook hhook _ _) hrefused⟩

/-- An iteration without a packet. -/
theorem vTaskCSPRouter_none {e : StackEnv} {s s₁ : Stack N}
    (h : cspRouteNextPacket s = (none, s₁)) : vTaskCSPRouter e s = s₁ := by
  unfold vTaskCSPRouter
  rw [h]

/-! ### The input queues -/

omit [NeZero N]

/-- The packet waits for the router. -/
def Stack.Waits (s : Stack N) (input : CspRouteQueue) : Prop :=
  ∃ prio, input ∈ (s.routerInputFifo prio).items

/-- What waits is not touched. -/
theorem Through.waits {s s' : Stack N} {ps : List Passage} (h : Through s s' ps)
    {input : CspRouteQueue} : s'.Waits input ↔ s.Waits input := by
  unfold Stack.Waits
  rw [h.fifo]

/-- What waits after a change of one queue. -/
theorem waits_update {s : Stack N} {prio : Fin cspPriorities}
    {q : Queue CspRouteQueue cspFifoInput} {P : CspRouteQueue → Prop}
    (hs : ∀ input, s.Waits input → P input) (hq : ∀ input ∈ q.items, P input)
    (j : Fin cspPriorities) :
    ∀ input ∈ (Function.update s.routerInputFifo prio q j).items, P input := by
  intro input hmem
  by_cases hj : j = prio
  · subst hj
    rw [Function.update_self] at hmem
    exact hq input hmem
  · rw [Function.update_of_ne hj] at hmem
    exact hs input ⟨j, hmem⟩

/-- **What the router takes has waited**, and what waits afterwards has waited before. -/
theorem cspRouteNextPacket_waits {s s₁ : Stack N} {r : Option CspRouteQueue}
    (h : cspRouteNextPacket s = (r, s₁)) :
    (∀ input ∈ r, s.Waits input) ∧ ∀ input, s₁.Waits input → s.Waits input := by
  unfold cspRouteNextPacket at h
  split at h
  · cases h
    exact ⟨nofun, fun _ hw => hw⟩
  · simp only at h
    split at h
    · cases h
      exact ⟨nofun, fun _ hw => hw⟩
    · split at h
      · cases h
        exact ⟨nofun, fun _ hw => hw⟩
      · rename_i prio _ _ input q hd
        cases h
        have hitems := Queue.dequeue_eq_some.1 hd
        constructor
        · intro input' hinput
          rw [← Option.some.inj hinput]
          exact ⟨prio, hitems ▸ List.mem_cons_self⟩
        · rintro input' ⟨j, hmem⟩
          refine waits_update (fun _ hw => hw) (fun x hx => ?_) j input' hmem
          exact ⟨prio, hitems ▸ List.mem_cons_of_mem _ hx⟩

/-- A packet that comes in waits, or is dropped. -/
theorem cspNewPacket_waits (input : CspRouteQueue) (s : Stack N) :
    (cspNewPacket input s).passages = s.passages ∧
      ∀ input', (cspNewPacket input s).Waits input' → s.Waits input' ∨ input' = input := by
  unfold cspNewPacket
  simp only
  split
  · refine ⟨?_, fun _ hw => .inl hw⟩
    rw [(Through.emit s _).passages]
    exact List.append_nil _
  · rename_i q hq
    obtain ⟨-, hitems⟩ := Queue.enqueue_eq_some.1 hq
    have hmem : ∀ x ∈ q.items, s.Waits x ∨ x = input := by
      intro x hx
      rw [hitems, List.mem_append, List.mem_singleton] at hx
      exact hx.imp_left fun hx => ⟨_, hx⟩
    split
    · exact ⟨rfl, fun x ⟨j, hj⟩ => waits_update (fun _ hw => .inl hw) hmem j x hj⟩
    · exact ⟨rfl, fun x ⟨j, hj⟩ => waits_update (fun _ hw => .inl hw) hmem j x hj⟩

end LibCSP
