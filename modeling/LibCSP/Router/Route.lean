/-
# The router

One iteration of the loop in `vTaskCSPRouter` (`src/csp_route.c`), after
`csp_conn_check_timeouts`: take a packet from the input queues, call the user's hook,
then forward the packet or find the socket or the connection it is for.  The exits
of the loop are cut into definitions where the source goes from one question to the
next.  `csp_promisc_add`, which only reads the packet, and the counters of the interfaces
are left out.

The hook is called with the variable `packet` before that is assigned, so the router
has it from the last iteration (`Stack.packet`).
-/

import LibCSP.Router.Stack
import LibCSP.Security.RoundTrip

namespace LibCSP

open Basis

variable {N : ℕ}

/-- `csp_route_next_packet`. -/
def cspRouteNextPacket (s : Stack N) : Option CspRouteQueue × Stack N :=
  match s.routerInputEvent.dequeue with
  | none => (none, s)
  | some (_, ev) =>
    let s := { s with routerInputEvent := ev }
    match (List.finRange cspPriorities).find? fun prio => (s.routerInputFifo prio).size ≠ 0 with
    | none => (none, s)
    | some prio =>
      match (s.routerInputFifo prio).dequeue with
      | none => (none, s)
      | some (input, q) =>
        (some input, { s with routerInputFifo := Function.update s.routerInputFifo prio q })

/-- Taking a packet in is aside of the connections. -/
theorem cspRouteNextPacket_aside (s : Stack N) : Aside s (cspRouteNextPacket s).2 [] := by
  unfold cspRouteNextPacket
  split
  · exact .refl s
  · simp only
    split
    · exact ⟨rfl, rfl, rfl, rfl, (List.append_nil _).symm⟩
    · split <;> exact ⟨rfl, rfl, rfl, rfl, (List.append_nil _).symm⟩

/-- It has not been looked at yet. -/
theorem cspRouteNextPacket_packet (s : Stack N) : (cspRouteNextPacket s).2.packet = s.packet := by
  unfold cspRouteNextPacket
  split
  · rfl
  · simp only
    split
    · rfl
    · split <;> rfl

/-- The clock stays. -/
theorem cspRouteNextPacket_tick (s : Stack N) : (cspRouteNextPacket s).2.tick = s.tick := by
  unfold cspRouteNextPacket
  split
  · rfl
  · simp only
    split
    · rfl
    · split <;> rfl

/-- `csp_new_packet`: the interface is not `NULL`. -/
def cspNewPacket (input : CspRouteQueue) (s : Stack N) : Stack N :=
  let fifo := cspConnGetRxq input.packet.id.pri
  match (s.routerInputFifo fifo).enqueue input with
  | none => s.emit (.dropped input.packet.buf)
  | some q =>
    let s := { s with routerInputFifo := Function.update s.routerInputFifo fifo q }
    match s.routerInputEvent.enqueue () with
    | none => s
    | some ev => { s with routerInputEvent := ev }

/-- The message is not to me: it is routed to the correct interface. -/
def routeForward (e : StackEnv) (input : CspRouteQueue) (s : Stack N) : Stack N :=
  let packet := input.packet
  let routes := e.routes s.tick
  if (cspRouteIf routes packet.id.dst).isNone ||
      e.routeInterface s.tick packet.id.dst == input.interface &&
        !e.splitHorizonOff s.tick input.interface then
    s.discard .noRoute (some packet.buf)
  else
    let r := e.node.cspSendDirect routes packet.id (e.nonce s.tick) packet
    let s := match r.2 with
      | none => s.next
      | some q => s.next.emit (.nexthop q)
    if r.1 = .none then s.emit (.forwarded packet.buf)
    else s.discard .notSent (some packet.buf)

/-- **A forwarded packet has no route, or is given to `csp_send_direct`** and its interface. -/
theorem routeForward_cases (e : StackEnv) (input : CspRouteQueue) (s : Stack N) :
    Aside s (routeForward e input s) [.discarded .noRoute (some input.packet.buf)] ∨
      ∃ nonce err wire, e.node.cspSendDirect (e.routes s.tick) input.packet.id nonce
          input.packet = (err, wire) ∧
        Aside s (routeForward e input s) (wire.toList.map .nexthop ++
          [if err = .none then .forwarded input.packet.buf
            else .discarded .notSent (some input.packet.buf)]) := by
  unfold routeForward
  simp only
  split
  · exact .inl (.emit s _)
  · obtain ⟨err, wire, hr⟩ : ∃ err wire, e.node.cspSendDirect (e.routes s.tick) input.packet.id
      (e.nonce s.tick) input.packet = (err, wire) := ⟨_, _, rfl⟩
    refine .inr ⟨_, err, wire, hr, ?_⟩
    have hend : ∀ t : Stack N, Aside t (if err = .none then t.emit (.forwarded input.packet.buf)
        else t.discard .notSent (some input.packet.buf))
          [if err = .none then .forwarded input.packet.buf
            else .discarded .notSent (some input.packet.buf)] := by
      intro t
      split <;> exact .emit t _
    rw [hr]
    cases wire with
    | none => exact (Aside.refl s).next.trans (hend _)
    | some q => exact ((Aside.refl s).next.trans (.emit _ (.nexthop q))).trans (hend _)

/-- The socket is connection-less: the packet is delivered now. -/
def routeConnLess (e : StackEnv) (socket : CspSocket) (packet : CspPacket) (s : Stack N) :
    Stack N :=
  match e.node.cspRouteSecurityCheck socket.opts packet with
  | .error _ => s.discard .security (some packet.buf)
  | .ok packet =>
    if e.socketQueue s.tick then s.next.emit (.queued socket.opts packet)
    else s.next.discard .socketFull (some packet.buf)

/-- The connection is known: the packet is checked and passed to the right transport module. -/
def routeConn (e : StackEnv) (i : Fin N) (packet : CspPacket) (s : Stack N) : Stack N :=
  match e.node.cspRouteSecurityCheck (s.conns i).connOpts packet with
  | .error _ => s.discard .security (some packet.buf)
  | .ok packet =>
    if packet.id.has cspFrdp then
      (s.emit (.handedOver packet.buf)).put i (cspRdpNewPacket e.env packet (s.view i))
    else if (s.conns i).connOpts &&& cspSoRdpreq ≠ 0 then s.discard .noRdp (some packet.buf)
    else (s.emit (.handedOver packet.buf)).put i (cspUdpNewPacket e.env packet (s.view i))

/-- `idout` of a new incoming connection. -/
def replyId (e : StackEnv) (id : CspId) : CspId :=
  .ofFields id.pri e.myAddress id.src id.sport id.dport id.flags

variable [NeZero N]

/-- No connection was found: try to create a new one. -/
def routeNew (e : StackEnv) (socket : Option CspSocket) (packet : CspPacket) (s : Stack N) :
    Stack N :=
  match socket with
  | none => s.discard .noSocket (some packet.buf)
  | some socket =>
    match cspConnNew e packet.id (replyId e packet.id) s with
    | (none, s) => s.discard .noConn (some packet.buf)
    | (some i, s) =>
      routeConn e i packet
        (s.setConn i { s.conns i with rxSocket := socket.queue, connOpts := socket.opts })

/-- The message is to me. -/
def routeLocal (e : StackEnv) (packet : CspPacket) (s : Stack N) : Stack N :=
  match (cspPortGetSocket s.ports packet.id.dport.toNat).filter
      (fun socket => socket.opts &&& cspSoConnLess ≠ 0) with
  | some socket => routeConnLess e socket packet s
  | none =>
    match cspConnFind s.conns packet.id cspIdConnMask with
    | some i => routeConn e i packet s
    | none => routeNew e (cspPortGetSocket s.ports packet.id.dport.toNat) packet s

/-- The packet is for another node. -/
def StackEnv.IsTransit (e : StackEnv) (id : CspId) : Prop :=
  id.dst ≠ e.myAddress ∧ id.dst ≠ cspBroadcastAddr

instance (e : StackEnv) (id : CspId) : Decidable (e.IsTransit id) :=
  inferInstanceAs (Decidable (_ ∧ _))

/-- An iteration from the assignment of `packet` on. -/
def routePacket (e : StackEnv) (input : CspRouteQueue) (s : Stack N) : Stack N :=
  let s := { s with packet := some input.packet.buf }
  if e.IsTransit input.packet.id then routeForward e input s
  else routeLocal e input.packet s

/-- `vTaskCSPRouter`: one iteration, after `csp_conn_check_timeouts`. -/
def vTaskCSPRouter (e : StackEnv) (s : Stack N) : Stack N :=
  match cspRouteNextPacket s with
  | (none, s) => s
  | (some input, s) =>
    let s := s.emit (.dequeued input.packet)
    match e.hook with
    | none => routePacket e input s
    | some hook =>
      if hook s.tick s.packet then routePacket e input (s.next.emit (.hooked s.packet))
      else (s.next.emit (.hooked s.packet)).discard .hook s.packet

/-- The events of an iteration up to the hook's decision. -/
def intake (e : StackEnv) (s : Stack N) (input : CspRouteQueue) : List (StackEvent N) :=
  .dequeued input.packet ::
    if e.hook.isSome then [.hooked s.packet] else []

/-- `csp_route_input_hook` lets the packet pass, if there is a hook. -/
def StackEnv.admits (e : StackEnv) (s : Stack N) : Bool :=
  (e.hook.map fun hook => hook s.tick s.packet).getD true

/-- **An iteration ends with the hook, or routes its packet** with the connections as they
were. -/
theorem vTaskCSPRouter_cases {e : StackEnv} {s s₁ : Stack N} {input : CspRouteQueue}
    (h : cspRouteNextPacket s = (some input, s₁)) :
    (e.hook.isSome ∧ e.admits s = false ∧ Aside s (vTaskCSPRouter e s)
        (intake e s input ++ [.discarded .hook s.packet])) ∨
      (e.admits s = true ∧
        ∃ s₂, Aside s s₂ (intake e s input) ∧ vTaskCSPRouter e s = routePacket e input s₂) := by
  have hnext := cspRouteNextPacket_aside s
  have hpacket := cspRouteNextPacket_packet s
  have htick := cspRouteNextPacket_tick s
  unfold vTaskCSPRouter intake StackEnv.admits
  rw [h] at hnext hpacket htick ⊢
  have htaken : Aside s (s₁.emit (.dequeued input.packet)) [.dequeued input.packet] :=
    hnext.trans (.emit s₁ _)
  simp only
  cases hhook : e.hook with
  | none => exact .inr ⟨rfl, _, htaken, rfl⟩
  | some hook =>
    have hasked := htaken.trans ((Aside.refl _).next.trans (.emit _ (.hooked s.packet)))
    simp only [Option.isSome_some, if_true, Option.map_some, Option.getD_some]
    rw [show (s₁.emit (.dequeued input.packet)).packet = s.packet from hpacket,
      show (s₁.emit (.dequeued input.packet)).tick = s.tick from htick]
    cases hook s.tick s.packet with
    | true => exact .inr ⟨rfl, _, hasked, rfl⟩
    | false => exact .inl ⟨trivial, rfl, hasked.trans (.emit _ _)⟩

/-! ### A node to look at -/

/-- Node 1, with all routes on interface 0, in surroundings where nothing fails. -/
def StackEnv.favourable : StackEnv :=
  { env := .favourable .little
    myAddress := 1
    hmacKey := cspHmacSetKey [1, 2, 3]
    xteaKey := cspXteaSetKey [4, 5, 6]
    routes := fun _ => Node.openRoutes
    routeInterface := fun _ _ => 0
    splitHorizonOff := fun _ _ => false
    hook := none
    socketQueue := fun _ => true
    sportLock := fun _ => true
    nonce := fun _ => 42 }

/-- RDP is not in use. -/
structure Rdp.Unused (rdp : Rdp) : Prop where
  state : rdp.state = .rdpClosed
  txQueue : rdp.txQueue.items = []
  rxQueue : rdp.rxQueue.items = []

/-- A node after `csp_init`, whatever port `csp_conn_init` has drawn and whatever the connections
hold besides: the zeros of a static array, and the timeouts of `csp_rdp_allocate`. -/
structure Stack.Started (s : Stack N) : Prop where
  closed : ∀ i, (s.conns i).state = .connClosed
  unused : ∀ i, (s.conns i).rdp.Unused
  fifos : ∀ prio, (s.routerInputFifo prio).items = []
  tasks : ∀ t, s.tasks t = .idle
  log : s.log = []

/-- A closed connection with nothing in its queues.  An element of `arr_conn` has zeros for the
numbers of its RDP half after `csp_conn_init`; what depends on them is stated from every start
(`Stack.Started`). -/
def Conn.unused : Conn :=
  { Conn.opened 0 0 0 with state := .connClosed, idin := 0, idout := 0, rdp.state := .rdpClosed }

/-- A node after `csp_init`, with the first ephemeral port drawn and such connections. -/
def Stack.init (N : ℕ) [NeZero N] : Stack N :=
  { conns := fun _ => .unused
    lastGiven := 0
    sport := 16
    ports := fun _ => ⟨.portClosed, none⟩
    routerInputFifo := fun _ => Queue.empty
    routerInputEvent := Queue.empty
    packet := none
    tasks := fun _ => .idle
    tick := 0
    log := [] }

/-- The table with the first ephemeral port is one after `csp_init`. -/
theorem Stack.init_started : (Stack.init N).Started :=
  ⟨fun _ => rfl, fun _ => ⟨rfl, rfl, rfl⟩, fun _ => rfl, fun _ => rfl, rfl⟩

/-- A node with a packet from interface 1 in its input queue. -/
def Stack.receive (s : Stack N) (p : CspPacket) : Stack N := cspNewPacket ⟨1, p⟩ s

end LibCSP
