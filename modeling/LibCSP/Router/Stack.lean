/-
# The connection table

The static data of a node: the array of connections (`src/csp_conn.c`), the table of
bound ports (`src/csp_port.c`), the input queues of the router and its local variable
`packet` (`src/csp_route.c`), and what its user tasks are doing.  There are
`CSP_CONN_MAX` connections, here `N` of them.

A function that works on one connection is a function on `World`s
(`LibCSP.Rdp.Conn`); `Stack.view` gives it the connection and `Stack.put` takes it
back.  The counter of questions to the surroundings is one for the whole stack, and so
is the log, in which an event of a connection has its place in the array and its
`conn_opts`.
-/

import Mathlib.Algebra.Group.Fin.Basic
import LibCSP.Rdp.Endpoint
import LibCSP.Security.Wire

namespace LibCSP

open Basis

/-! ### Constants -/

instance : NeZero cspConnMax := ⟨by decide⟩

/-- `CSP_FIFO_INPUT`. -/
def cspFifoInput : ℕ := 100
/-- `CSP_MAX_BIND_PORT`. -/
def cspMaxBindPort : ℕ := 15
/-- `CSP_ANY`. -/
def cspAny : ℕ := cspMaxBindPort + 1
/-- `CSP_ID_PORT_MAX`. -/
def cspIdPortMax : ℕ := 63
/-- `CSP_BROADCAST_ADDR`. -/
def cspBroadcastAddr : BitVec 5 := 31
/-- `CSP_ID_CONN_MASK`: both addresses and both ports. -/
def cspIdConnMask : CspId := 0x3fffff00
/-- `CSP_ID_DPORT_MASK`. -/
def cspIdDportMask : CspId := 0x000fc000
/-- `CSP_SO_RDPREQ`, which is also `CSP_O_RDP`; the `CSP_O` options for HMAC, XTEA and
CRC32 are the `CSP_SO` ones too. -/
def cspSoRdpreq : U32 := 0x0001
/-- `CSP_SO_CONN_LESS`. -/
def cspSoConnLess : U32 := 0x0100

/-- The identifier with these fields. -/
def CspId.ofFields (pri : BitVec 2) (src dst : BitVec 5) (dport sport : BitVec 6) (flags : U8) :
    CspId :=
  (pri ++ src ++ dst ++ dport ++ sport ++ flags : BitVec (2 + 5 + 5 + 6 + 6 + 8))

section Fields

variable (pri : BitVec 2) (src dst : BitVec 5) (dport sport : BitVec 6) (flags : U8)

/-- The flags of an identifier of these fields. -/
theorem flags_ofFields : (CspId.ofFields pri src dst dport sport flags).flags = flags :=
  (BitVec.extractLsb'_append_eq_of_add_le (by decide)).trans BitVec.extractLsb'_eq_self

/-- Its source port. -/
theorem sport_ofFields : (CspId.ofFields pri src dst dport sport flags).sport = sport := by
  unfold CspId.sport CspId.ofFields
  ext i hi
  simp only [BitVec.getElem_extractLsb', BitVec.getLsbD_append]
  grind

/-- Its destination port. -/
theorem dport_ofFields : (CspId.ofFields pri src dst dport sport flags).dport = dport := by
  unfold CspId.dport CspId.ofFields
  ext i hi
  simp only [BitVec.getElem_extractLsb', BitVec.getLsbD_append]
  grind

/-- Its destination. -/
theorem dst_ofFields : (CspId.ofFields pri src dst dport sport flags).dst = dst := by
  unfold CspId.dst CspId.ofFields
  ext i hi
  simp only [BitVec.getElem_extractLsb', BitVec.getLsbD_append]
  grind

/-- Its source. -/
theorem src_ofFields : (CspId.ofFields pri src dst dport sport flags).src = src := by
  unfold CspId.src CspId.ofFields
  ext i hi
  simp only [BitVec.getElem_extractLsb', BitVec.getLsbD_append]
  grind

end Fields

/-- An identifier is made of its fields. -/
theorem ofFields_self (id : CspId) :
    CspId.ofFields id.pri id.src id.dst id.dport id.sport id.flags = id := by
  unfold CspId.ofFields CspId.pri CspId.src CspId.dst CspId.dport CspId.sport CspId.flags
  rw [BitVec.extractLsb'_append_extractLsb'_eq_extractLsb' (by rfl),
    BitVec.extractLsb'_append_extractLsb'_eq_extractLsb' (by rfl),
    BitVec.extractLsb'_append_extractLsb'_eq_extractLsb' (by rfl),
    BitVec.extractLsb'_append_extractLsb'_eq_extractLsb' (by rfl),
    BitVec.extractLsb'_append_extractLsb'_eq_extractLsb' (by rfl)]
  exact BitVec.extractLsb'_eq_self

/-- A mask works field by field. -/
theorem and_ofFields (id : CspId) (pri : BitVec 2) (src dst : BitVec 5) (dport sport : BitVec 6)
    (flags : U8) : id &&& CspId.ofFields pri src dst dport sport flags =
      CspId.ofFields (id.pri &&& pri) (id.src &&& src) (id.dst &&& dst) (id.dport &&& dport)
        (id.sport &&& sport) (id.flags &&& flags) := by
  have hand : ∀ {v w : ℕ} (x y : BitVec v) (x' y' : BitVec w),
      (x ++ x') &&& (y ++ y') = (x &&& y) ++ (x' &&& y') := fun _ _ _ _ => BitVec.and_append
  nth_rewrite 1 [← ofFields_self id]
  refine (hand _ _ id.flags flags).trans ?_
  rw [hand, hand, hand, hand]
  rfl

/-- `CSP_ID_CONN_MASK` keeps the addresses and ports. -/
theorem and_connMask (id : CspId) :
    id &&& cspIdConnMask = CspId.ofFields 0 id.src id.dst id.dport id.sport 0 := by
  have h5 : ∀ x : BitVec 5, x &&& 31 = x := fun _ => BitVec.and_allOnes
  have h6 : ∀ x : BitVec 6, x &&& 63 = x := fun _ => BitVec.and_allOnes
  have h2 : ∀ x : BitVec 2, x &&& 0 = 0 := fun _ => BitVec.and_zero
  have h8 : ∀ x : BitVec 8, x &&& 0 = 0 := fun _ => BitVec.and_zero
  have hmask : cspIdConnMask = CspId.ofFields 0 31 31 63 63 0 := by decide
  rw [hmask, and_ofFields, h5, h5, h6, h6, h2, h8]

/-- `CSP_ID_DPORT_MASK` keeps the destination port. -/
theorem and_dportMask (id : CspId) :
    id &&& cspIdDportMask = CspId.ofFields 0 0 0 id.dport 0 0 := by
  have h6 : ∀ x : BitVec 6, x &&& 63 = x := fun _ => BitVec.and_allOnes
  have h0 : ∀ x : BitVec 6, x &&& 0 = 0 := fun _ => BitVec.and_zero
  have h5 : ∀ x : BitVec 5, x &&& 0 = 0 := fun _ => BitVec.and_zero
  have h2 : ∀ x : BitVec 2, x &&& 0 = 0 := fun _ => BitVec.and_zero
  have h8 : ∀ x : BitVec 8, x &&& 0 = 0 := fun _ => BitVec.and_zero
  have hmask : cspIdDportMask = CspId.ofFields 0 0 0 63 0 0 := by decide
  rw [hmask, and_ofFields, h6, h0, h5, h5, h2, h8]

/-- **Identifiers agree under `CSP_ID_CONN_MASK`** if they have the same addresses and ports. -/
theorem connMask_eq_iff {id id' : CspId} : id &&& cspIdConnMask = id' &&& cspIdConnMask ↔
    id.src = id'.src ∧ id.dst = id'.dst ∧ id.dport = id'.dport ∧ id.sport = id'.sport := by
  rw [and_connMask, and_connMask]
  constructor
  · intro h
    have hsrc := congrArg CspId.src h
    have hdst := congrArg CspId.dst h
    have hdport := congrArg CspId.dport h
    have hsport := congrArg CspId.sport h
    rw [src_ofFields, src_ofFields] at hsrc
    rw [dst_ofFields, dst_ofFields] at hdst
    rw [dport_ofFields, dport_ofFields] at hdport
    rw [sport_ofFields, sport_ofFields] at hsport
    exact ⟨hsrc, hdst, hdport, hsport⟩
  · rintro ⟨hsrc, hdst, hdport, hsport⟩
    rw [hsrc, hdst, hdport, hsport]

/-! ### Ports -/

/-- `csp_socket_t`; the queue is `none` for `NULL`. -/
structure CspSocket where
  queue : Option ℕ
  opts : U32

/-- `PORT_CLOSED` and `PORT_OPEN`. -/
inductive PortState
  | portClosed
  | portOpen
  deriving DecidableEq, Repr

/-- `csp_port_t`; the socket is `none` for `NULL`. -/
structure CspPort where
  state : PortState
  socket : Option CspSocket

/-- `csp_port_get_socket`. -/
def cspPortGetSocket (ports : ℕ → CspPort) (port : ℕ) : Option CspSocket :=
  if cspAny < port then none
  else if (ports port).state = .portOpen then (ports port).socket
  else if (ports cspAny).state = .portOpen then (ports cspAny).socket
  else none

/-! ### The state of a node -/

/-- `csp_route_queue_t`. -/
structure CspRouteQueue where
  interface : ℕ
  packet : CspPacket

/-- Why the router discards a packet. -/
inductive Discard
  /-- `csp_route_input_hook` returned 0. -/
  | hook
  /-- No route to the destination, or the route leads back. -/
  | noRoute
  /-- `csp_send_direct` failed. -/
  | notSent
  /-- `csp_route_security_check` failed. -/
  | security
  /-- The queue of a connection-less socket is full. -/
  | socketFull
  /-- No socket is bound to the port. -/
  | noSocket
  /-- `csp_conn_new` found no connection. -/
  | noConn
  /-- The connection requires RDP. -/
  | noRdp
  deriving DecidableEq, Repr

/-- What happens in a node.  Packets in the router's hands are named by their buffer. -/
inductive StackEvent (N : ℕ)
  /-- The router took this packet from its input queue. -/
  | dequeued (p : CspPacket)
  /-- `csp_route_input_hook` was called with this pointer. -/
  | hooked (packet : Option ℕ)
  /-- The router called `csp_buffer_free` with this pointer. -/
  | discarded (why : Discard) (packet : Option ℕ)
  /-- `nexthop` of an interface was called with this packet. -/
  | nexthop (p : CspPacket)
  /-- `csp_send_direct` took the packet from the router. -/
  | forwarded (buf : ℕ)
  /-- The packet was put into the queue of a connection-less socket with these options. -/
  | queued (opts : U32) (p : CspPacket)
  /-- The packet was passed to `csp_rdp_new_packet` or `csp_udp_new_packet`. -/
  | handedOver (buf : ℕ)
  /-- The input queue was full. -/
  | dropped (buf : ℕ)
  /-- `csp_conn_new` returned this connection. -/
  | opened (i : Fin N)
  /-- `csp_connect` returned this connection. -/
  | connected (i : Fin N)
  /-- User space called `csp_close`. -/
  | closed (i : Fin N)
  /-- An event of a connection with these `conn_opts`. -/
  | conn (i : Fin N) (opts : U32) (ev : Event)

/-- Where a user task is. -/
inductive Caller (N : ℕ)
  | idle
  /-- In `csp_connect`, with a port and no connection yet. -/
  | allocating (incomingId outgoingId : CspId) (opts : U32)
  /-- Waiting in `csp_rdp_connect`, with this value of `retry`. -/
  | connectWait (i : Fin N) (retry : Bool)
  /-- Waiting in `csp_rdp_send`. -/
  | sendWait (i : Fin N) (packet : CspPacket)

/-- The connection a task waits for. -/
def Caller.waitsFor {N : ℕ} : Caller N → Option (Fin N)
  | .idle | .allocating _ _ _ => none
  | .connectWait i _ | .sendWait i _ => some i

/-- The state of a node. -/
structure Stack (N : ℕ) where
  /-- `arr_conn`. -/
  conns : Fin N → Conn
  /-- `csp_conn_last_given`. -/
  lastGiven : Fin N
  /-- The last ephemeral port. -/
  sport : U8
  ports : ℕ → CspPort
  routerInputFifo : Fin cspPriorities → Queue CspRouteQueue cspFifoInput
  routerInputEvent : Queue Unit cspFifoInput
  /-- The variable `packet` of `vTaskCSPRouter`, which keeps its value between iterations;
  `none` before the first packet. -/
  packet : Option ℕ
  tasks : ℕ → Caller N
  tick : ℕ
  log : List (StackEvent N)

/-- The surroundings of a node, and its configuration.  The questions to `routes`, `hook`
and so on are numbered like those to `env`. -/
structure StackEnv where
  env : Env
  myAddress : BitVec 5
  hmacKey : StoredKey
  xteaKey : StoredKey
  routes : ℕ → Routes
  /-- The interface of a route. -/
  routeInterface : ℕ → BitVec 5 → ℕ
  splitHorizonOff : ℕ → ℕ → Bool
  /-- `csp_route_input_hook`, if there is one: whether its result is not 0. -/
  hook : Option (ℕ → Option ℕ → Bool)
  /-- The queue of a connection-less socket has room. -/
  socketQueue : ℕ → Bool
  sportLock : ℕ → Bool
  /-- `rand` for the XTEA nonce. -/
  nonce : ℕ → U32

/-- What the security functions read of the node. -/
def StackEnv.node (e : StackEnv) : Node := ⟨e.env.host, e.myAddress, e.hmacKey, e.xteaKey⟩

namespace Stack

variable {N : ℕ}

def next (s : Stack N) : Stack N := { s with tick := s.tick + 1 }

def emit (s : Stack N) (ev : StackEvent N) : Stack N := { s with log := s.log ++ [ev] }

/-- Connection `i` for a call. -/
def view (s : Stack N) (i : Fin N) : World := ⟨s.conns i, s.tick, []⟩

/-- Connection `i` after a call. -/
def put (s : Stack N) (i : Fin N) (w : World) : Stack N :=
  { s with
    conns := Function.update s.conns i w.conn
    tick := w.tick
    log := s.log ++ w.log.map (.conn i (s.conns i).connOpts) }

def setConn (s : Stack N) (i : Fin N) (c : Conn) : Stack N :=
  { s with conns := Function.update s.conns i c }

def setTask (s : Stack N) (t : ℕ) (c : Caller N) : Stack N :=
  { s with tasks := Function.update s.tasks t c }

/-- The router discards the packet at this pointer. -/
def discard (s : Stack N) (why : Discard) (packet : Option ℕ) : Stack N :=
  s.emit (.discarded why packet)

end Stack

/-! ### What happens beside the connections -/

/-- The connections, the tables and the tasks are the same, and these events happened. -/
structure Aside {N : ℕ} (s s' : Stack N) (evs : List (StackEvent N)) : Prop where
  conns : s'.conns = s.conns
  lastGiven : s'.lastGiven = s.lastGiven
  ports : s'.ports = s.ports
  tasks : s'.tasks = s.tasks
  log : s'.log = s.log ++ evs

namespace Aside

variable {N : ℕ} {s s' s'' : Stack N} {evs evs' : List (StackEvent N)}

/-- Nothing happens. -/
theorem refl (s : Stack N) : Aside s s [] := ⟨rfl, rfl, rfl, rfl, (List.append_nil _).symm⟩

/-- One stretch after the other. -/
theorem trans (h : Aside s s' evs) (h' : Aside s' s'' evs') : Aside s s'' (evs ++ evs') := by
  refine ⟨h'.conns.trans h.conns, h'.lastGiven.trans h.lastGiven, h'.ports.trans h.ports,
    h'.tasks.trans h.tasks, ?_⟩
  rw [h'.log, h.log, List.append_assoc]

/-- An event is aside of the connections. -/
theorem emit (s : Stack N) (ev : StackEvent N) : Aside s (s.emit ev) [ev] :=
  ⟨rfl, rfl, rfl, rfl, rfl⟩

/-- The clock is. -/
theorem next (h : Aside s s' evs) : Aside s s'.next evs :=
  ⟨h.conns, h.lastGiven, h.ports, h.tasks, h.log⟩

/-- So is the local variable of the router. -/
theorem setPacket (h : Aside s s' evs) (p : Option ℕ) : Aside s { s' with packet := p } evs :=
  ⟨h.conns, h.lastGiven, h.ports, h.tasks, h.log⟩

end Aside

/-! ### `src/csp_conn.c` -/

section Conns

variable {N : ℕ}

/-- `csp_conn_find`. -/
def cspConnFind (conns : Fin N → Conn) (id mask : CspId) : Option (Fin N) :=
  (List.finRange N).find? fun i =>
    (conns i).state ≠ .connClosed && (conns i).idin &&& mask == id &&& mask

/-- A connection that is found is open. -/
theorem cspConnFind_open {conns : Fin N → Conn} {id mask : CspId} {i : Fin N}
    (h : cspConnFind conns id mask = some i) : (conns i).state = .connOpen := by
  have hfound := List.find?_some h
  rw [Bool.and_eq_true, decide_eq_true_iff] at hfound
  cases hst : (conns i).state with
  | connClosed => exact absurd hst hfound.1
  | connOpen => rfl

variable [NeZero N]

/-- The search loop of `csp_conn_new`: where it ends, and whether a closed connection was
found there. -/
def cspConnSearch (conns : Fin N → Conn) (last : Fin N) : ℕ → Fin N → Fin N × Bool
  | 0, i => (i, false)
  | n + 1, i =>
    if (conns i).state = .connClosed then (i, true)
    else if i + 1 = last then (i + 1, false)
    else cspConnSearch conns last n (i + 1)

/-- The connection that the search of `csp_conn_new` ends with. -/
def Stack.search (s : Stack N) : Fin N × Bool :=
  cspConnSearch s.conns s.lastGiven N (s.lastGiven + 1)

/-- What the loop finds is closed, and not where it ends. -/
theorem cspConnSearch_found {conns : Fin N → Conn} {last : Fin N} {n : ℕ} {i : Fin N}
    (h : (cspConnSearch conns last n i).2 = true) :
    (conns (cspConnSearch conns last n i).1).state = .connClosed ∧
      (i ≠ last → (cspConnSearch conns last n i).1 ≠ last) := by
  induction n generalizing i with
  | zero => exact absurd h Bool.false_ne_true
  | succ n ih =>
    unfold cspConnSearch at h ⊢
    by_cases hc : (conns i).state = .connClosed
    · rw [if_pos hc]
      exact ⟨hc, id⟩
    · by_cases hi : i + 1 = last
      · rw [if_neg hc, if_pos hi] at h
        exact absurd h Bool.false_ne_true
      · rw [if_neg hc, if_neg hi] at h ⊢
        obtain ⟨hclosed, hne⟩ := ih h
        exact ⟨hclosed, fun _ => hne hi⟩

/-- The indexes of the search, one after the other. -/
theorem ofNat_succ (d : ℕ) : Fin.ofNat N (d + 1) = 1 + Fin.ofNat N d := by
  refine Fin.ext ?_
  rw [Fin.val_add]
  show (d + 1) % N = ((1 : Fin N).val + d % N) % N
  rw [Nat.add_mod_mod, show (1 : Fin N).val = 1 % N from rfl, Nat.mod_add_mod, Nat.add_comm]

/-- **The loop comes back to where it started** unless it finds a closed connection: it is
`d + 1` steps away from there. -/
theorem cspConnSearch_end {conns : Fin N → Conn} {last : Fin N} {n d : ℕ} {i : Fin N}
    (hd : i + Fin.ofNat N (d + 1) = last) (hn : d < n)
    (h : (cspConnSearch conns last n i).2 = false) : (cspConnSearch conns last n i).1 = last := by
  induction n generalizing i d with
  | zero => exact absurd hn (Nat.not_lt_zero d)
  | succ n ih =>
    unfold cspConnSearch at h ⊢
    by_cases hc : (conns i).state = .connClosed
    · rw [if_pos hc] at h
      exact absurd h.symm Bool.false_ne_true
    · by_cases hi : i + 1 = last
      · rw [if_neg hc, if_pos hi]
        exact hi
      · rw [if_neg hc, if_neg hi] at h ⊢
        cases d with
        | zero =>
          rw [ofNat_succ, show Fin.ofNat N 0 = 0 from rfl, add_zero] at hd
          exact absurd hd hi
        | succ d =>
          rw [ofNat_succ, ← add_assoc] at hd
          exact ih hd (by omega) h

/-- A search that fails ends where it began. -/
theorem Stack.search_end {s : Stack N} (h : s.search.2 = false) : s.search.1 = s.lastGiven := by
  have hN := NeZero.pos N
  by_cases hone : N = 1
  · subst hone
    exact cspConnSearch_end (d := 0) (Subsingleton.elim _ _) Nat.one_pos h
  · refine cspConnSearch_end (d := N - 2) ?_ (by omega) h
    rw [add_assoc, ← ofNat_succ, show N - 2 + 1 + 1 = N by omega]
    have hN : Fin.ofNat N N = 0 := Fin.ext (Nat.mod_self N)
    rw [hN, add_zero]

/-- **The loop looks at the last connection given only if there is no other.** -/
theorem Stack.search_last {s : Stack N} (h : s.search.2 = true) (hlast : s.search.1 = s.lastGiven) :
    N = 1 := by
  by_contra hN
  have hstart : s.lastGiven + 1 ≠ s.lastGiven := by
    intro heq
    have hone : (1 : Fin N) = 0 := add_eq_left.1 heq
    have hval := congrArg Fin.val hone
    rw [Fin.val_one', Fin.val_zero] at hval
    have hpos := NeZero.pos N
    rw [Nat.mod_eq_of_lt (by omega)] at hval
    exact absurd hval (by decide)
  exact (cspConnSearch_found h).2 hstart hlast

/-- What `csp_conn_new` sets up without the lock. -/
def cspConnSetup (e : Env) (idin idout : CspId) (w : World) : World :=
  cspConnFlushRxQueue { (cspGetMs e w).2 with
    conn.idin := idin
    conn.idout := idout
    conn.rxSocket := none
    conn.timestamp := (cspGetMs e w).1 }

/-- `csp_conn_new`. -/
def cspConnNew (e : StackEnv) (idin idout : CspId) (s : Stack N) : Option (Fin N) × Stack N :=
  if e.env.connLock s.tick then
    let r := s.search
    let last := s.lastGiven
    -- a closed connection is taken before the search is known to have succeeded
    let s := if r.2 then s.next.setConn r.1 { s.conns r.1 with state := .connOpen } else s.next
    if r.1 = last then (none, s)
    else
      -- the static variable has eight bits
      let s := { s with lastGiven := Fin.ofNat N (r.1.val % 2 ^ 8) }
      (some r.1, (s.emit (.opened r.1)).put r.1 (cspConnSetup e.env idin idout (s.view r.1)))
  else (none, s.next)

end Conns

/-- `csp_udp_new_packet`. -/
def cspUdpNewPacket (e : Env) (packet : CspPacket) (w : World) : World :=
  let r := cspConnEnqueuePacket (some packet) w
  if r.1 ≠ .none then r.2.free packet
  else
    match r.2.conn.rxSocket with
    | none => r.2
    | some socket =>
      if e.acceptQueue r.2.tick then
        { r.2.next.emit (.accept socket) with conn.rxSocket := none }
      else (cspClose e r.2.next).2

/-- The body of the loop of `csp_conn_check_timeouts`. -/
def cspConnCheckTimeouts (e : Env) (w : World) : World :=
  if w.conn.state = .connOpen then
    if w.conn.idin.has cspFrdp then cspRdpCheckTimeouts e w else w
  else w

/-! ### `csp_connect` -/

/-- The flags of the identifiers of a connection with these options. -/
def cspConnectFlags (opts : U32) : U8 :=
  (if opts &&& cspSoRdpreq ≠ 0 then cspFrdp else 0) |||
    (if opts &&& cspSoHmacreq ≠ 0 then cspFhmac else 0) |||
    (if opts &&& cspSoXteareq ≠ 0 then cspFxtea else 0) |||
    (if opts &&& cspSoCrc32req ≠ 0 then cspFcrc32 else 0)

/-- `incoming_id`. -/
def incomingId (address : BitVec 5) (prio dest dport sport : U8) (opts : U32) : CspId :=
  .ofFields (prio.setWidth 2) (dest.setWidth 5) address (sport.setWidth 6) (dport.setWidth 6)
    (cspConnectFlags opts)

/-- `outgoing_id`. -/
def outgoingId (address : BitVec 5) (prio dest dport sport : U8) (opts : U32) : CspId :=
  .ofFields (prio.setWidth 2) address (dest.setWidth 5) (dport.setWidth 6) (sport.setWidth 6)
    (cspConnectFlags opts)

/-- The search for an ephemeral port: the value of `sport` behind the loop, or `none` when
it has not ended after so many rounds. -/
def sportSearch (isFree : U8 → Bool) (start : U8) : ℕ → U8 → Option U8
  | 0, _ => none
  | n + 1, sport =>
    let sport := sport + 1
    if sport = start then some sport
    else
      let sport := if cspIdPortMax < sport.toNat then BitVec.ofNat 8 (cspMaxBindPort + 1) else sport
      if isFree sport then some sport else sportSearch isFree start n sport

/-- The end of `csp_connect`: a connection that failed to connect is closed. -/
def connectDone (e : Env) (r : Option CspErr × World) : Option CspErr × World :=
  match r.1 with
  | none => r
  | some .none => r
  | some err => (some err, (cspClose e r.2).2)

end LibCSP
