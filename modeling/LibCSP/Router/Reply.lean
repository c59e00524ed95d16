/-
# Replies

A server answers on the connection that its router opened for the packets of a client.
The identifier of the answer is `replyId` of the packets' identifier: addresses and ports are
swapped, and the client's connection is waiting for just that.  But the client's router
asks the table of ports before the table of connections (`Stack.target`).  No socket can be
bound above `CSP_ANY`, and the ephemeral ports begin with `CSP_ANY`.  So a connection with that
port loses its answers to a connection-less socket that is bound to it, and any connection loses
them to one before it in the table with the same addresses and ports.  In all other cases the
answers get there (`reply_reaches_iff`).
-/

import LibCSP.Router.Unique

namespace LibCSP

open Basis

/-! ### Where the router takes a packet -/

/-- Where the router takes a packet. -/
inductive Target (N : ℕ)
  /-- To another node. -/
  | forward
  /-- To the queue of a connection-less socket. -/
  | socket (socket : CspSocket)
  /-- To an open connection. -/
  | conn (i : Fin N)
  /-- To a new connection for this socket, if there is a socket. -/
  | opens (socket : Option CspSocket)

variable {N M : ℕ}

/-- The decisions of an iteration, for a packet with this identifier. -/
def Stack.target (e : StackEnv) (s : Stack N) (id : CspId) : Target N :=
  if e.IsTransit id then .forward
  else
    match (cspPortGetSocket s.ports id.dport.toNat).filter
        (fun socket => socket.opts &&& cspSoConnLess ≠ 0) with
    | some socket => .socket socket
    | none =>
      match cspConnFind s.conns id cspIdConnMask with
      | some i => .conn i
      | none => .opens (cspPortGetSocket s.ports id.dport.toNat)

/-- **The router does what the target says.** -/
theorem routePacket_target [NeZero N] (e : StackEnv) (input : CspRouteQueue) (s : Stack N) :
    routePacket e input s =
      match s.target e input.packet.id with
      | .forward => routeForward e input { s with packet := some input.packet.buf }
      | .socket socket =>
        routeConnLess e socket input.packet { s with packet := some input.packet.buf }
      | .conn i => routeConn e i input.packet { s with packet := some input.packet.buf }
      | .opens socket =>
          routeNew e socket input.packet { s with packet := some input.packet.buf } := by
  unfold routePacket Stack.target routeLocal
  simp only
  by_cases htransit : e.IsTransit input.packet.id
  · rw [if_pos htransit, if_pos htransit]
  · rw [if_neg htransit, if_neg htransit]
    cases (cspPortGetSocket s.ports input.packet.id.dport.toNat).filter
        (fun socket => socket.opts &&& cspSoConnLess ≠ 0) with
    | some socket => rfl
    | none =>
      cases cspConnFind s.conns input.packet.id cspIdConnMask with
      | some i => rfl
      | none => rfl

/-- **An iteration hands its packet to the connection it is for**, if the hook lets it pass. -/
theorem vTaskCSPRouter_conn [NeZero N] {e : StackEnv} {s s₁ : Stack N} {input : CspRouteQueue}
    {i : Fin N} (hnext : cspRouteNextPacket s = (some input, s₁)) (hpass : e.admits s = true)
    (ht : s.target e input.packet.id = .conn i) :
    ∃ s₂, Aside s s₂ (intake e s input) ∧ vTaskCSPRouter e s = routeConn e i input.packet s₂ := by
  rcases vTaskCSPRouter_cases (e := e) hnext with ⟨-, hstop, -⟩ | ⟨-, s₂, haside, hroute⟩
  · exact absurd (hstop.symm.trans hpass) Bool.false_ne_true
  · have ht₂ : s₂.target e input.packet.id = .conn i := by
      unfold Stack.target
      rw [haside.ports, haside.conns]
      exact ht
    refine ⟨_, haside.setPacket (some input.packet.buf), ?_⟩
    rw [hroute, routePacket_target, ht₂]

/-! ### Sockets that catch an ephemeral port -/

/-- A connection-less socket is bound to `CSP_ANY`. -/
def Stack.CatchesAny (s : Stack N) : Prop :=
  (s.ports cspAny).state = .portOpen ∧
    ∃ socket ∈ (s.ports cspAny).socket, socket.opts &&& cspSoConnLess ≠ 0

/-- The socket for any port is the one of `CSP_ANY`. -/
theorem cspPortGetSocket_any (ports : ℕ → CspPort) :
    cspPortGetSocket ports cspAny =
      if (ports cspAny).state = .portOpen then (ports cspAny).socket else none := by
  unfold cspPortGetSocket
  rw [if_neg (lt_irrefl cspAny)]
  split <;> rfl

/-- **Of the ephemeral ports only `CSP_ANY` has sockets.** -/
theorem connLess_ephemeral {s : Stack N} {port : ℕ} (h : cspAny ≤ port) :
    (cspPortGetSocket s.ports port).filter (fun socket => socket.opts &&& cspSoConnLess ≠ 0) =
        none ↔
      ¬ (port = cspAny ∧ s.CatchesAny) := by
  rcases Nat.eq_or_lt_of_le h with rfl | hlt
  · rw [cspPortGetSocket_any, Option.filter_eq_none_iff]
    unfold Stack.CatchesAny
    by_cases hopen : (s.ports cspAny).state = .portOpen
    · rw [if_pos hopen]
      simp only [hopen, true_and, not_exists, not_and, decide_eq_true_eq]
      exact Iff.rfl
    · rw [if_neg hopen]
      simp only [hopen, false_and, and_false, not_false_eq_true, iff_true]
      exact fun _ ha => absurd ha.symm (Option.some_ne_none _)
  · have hnone : cspPortGetSocket s.ports port = none := if_pos hlt
    rw [hnone]
    exact iff_of_true rfl fun ⟨heq, _⟩ => absurd heq (Nat.ne_of_gt hlt)

/-! ### Identifiers of an answer -/

/-- The router opened the connection for its identifier, or the place was never used. -/
def AcceptedStack (e : StackEnv) (x : Traced N) : Prop :=
  ∀ i, x.byConnect i = false →
    (x.stack.conns i).idin = 0 ∨ (x.stack.conns i).idout = replyId e (x.stack.conns i).idin

section Accepted

variable {e : StackEnv}

/-- A connection that is kept keeps its two identifiers. -/
theorem Shell.Kept.accepted {c c' : Conn} (h : c.shell.Kept c'.shell)
    (hc : c.idin = 0 ∨ c.idout = replyId e c.idin) :
    c'.idin = 0 ∨ c'.idout = replyId e c'.idin := by
  have hin : c'.idin = c.idin := by
    rcases h with h | h <;> exact congrArg Shell.idin h
  have hout : c'.idout = c.idout := by
    rcases h with h | h <;> exact congrArg Shell.idout h
  rw [hin, hout]
  exact hc

variable [NeZero N]

/-- Every step keeps them, or makes both from one packet. -/
theorem AcceptedStack.step {x y : Traced N} {a : Action N} (h : AcceptedStack e x)
    (hst : tracedStep e x a = some y) : AcceptedStack e y := by
  cases tracedStep_turn hst with
  | staying hs hby => exact fun i hi => (hs.shells i).accepted (h i (hby ▸ hi))
  | ported _ hconns hby =>
    intro i hi
    rw [hconns]
    exact h i (hby ▸ hi)
  | @accepted _ raw socket i _ _ hg hby =>
    intro j hj
    rw [hby] at hj
    by_cases hji : j = i
    · subst hji
      have hin : (y.stack.conns j).idin = raw.id := by
        rcases hg.self with hself | hself <;> exact congrArg Shell.idin hself
      have hout : (y.stack.conns j).idout = replyId e raw.id := by
        rcases hg.self with hself | hself <;> exact congrArg Shell.idout hself
      rw [hin, hout]
      exact .inr rfl
    · rw [Function.update_of_ne hji] at hj
      exact (hg.others j hji).accepted (h j hj)
  | @allocated t inId outId opts _ i _ _ hg hby =>
    intro j hj
    rw [hby] at hj
    by_cases hji : j = i
    · subst hji
      rw [Function.update_self] at hj
      exact absurd hj.symm Bool.false_ne_true
    · rw [Function.update_of_ne hji] at hj
      exact (hg.others j hji).accepted (h j hj)
  | single _ hshells _ hby =>
    intro i hi
    obtain ⟨st, hst⟩ := hshells i
    have hin : (y.stack.conns i).idin = (x.stack.conns i).idin := congrArg Shell.idin hst
    have hout : (y.stack.conns i).idout = (x.stack.conns i).idout := congrArg Shell.idout hst
    rw [hin, hout]
    exact h i (hby ▸ hi)

/-- **An accepted connection answers to where its first packet came from**, in every run. -/
theorem run_accepted {ok : Traced N → Action N → Prop} {is : List (Action N)} {port : U8}
    {x : Traced N} (hrun : Run (tracedStep e) ok (Traced.init N port) is x) : AcceptedStack e x :=
  hrun.invariant (P := AcceptedStack e) (fun _ _ _ h _ hst => h.step hst) fun _ _ => .inl rfl

end Accepted

/-- The 6 bits of an ephemeral port. -/
theorem toNat_setWidth_ephemeral {port : U8} (h : EphemeralPort port) :
    (port.setWidth 6).toNat = port.toNat := by
  have hhi : port.toNat ≤ 63 := h.2
  rw [BitVec.toNat_setWidth]
  exact Nat.mod_eq_of_lt (by omega)

/-- **The answer has the addresses and ports that the client's connection waits for**, with an
ephemeral destination port. -/
theorem Requested.answer {client server : StackEnv} {c : Shell} {idin : CspId}
    (h : Requested client c) (hdst : c.idout.dst = server.myAddress)
    (hin : idin &&& cspIdConnMask = c.idout &&& cspIdConnMask) :
    replyId server idin &&& cspIdConnMask = c.idin &&& cspIdConnMask ∧
      (replyId server idin).dst = client.myAddress ∧
      cspAny ≤ (replyId server idin).dport.toNat := by
  obtain ⟨prio, dest, dport, sport, hport, hcin, hcout⟩ := h
  obtain ⟨hsrc, -, hdport, hsport⟩ := connMask_eq_iff.1 hin
  rw [hcout] at hsrc hdport hsport hdst
  unfold outgoingId at hsrc hdport hsport hdst
  rw [src_ofFields] at hsrc
  rw [dport_ofFields] at hdport
  rw [sport_ofFields] at hsport
  rw [dst_ofFields] at hdst
  refine ⟨connMask_eq_iff.2 ?_, ?_, ?_⟩
  · rw [hcin]
    unfold replyId incomingId
    rw [src_ofFields, dst_ofFields, dport_ofFields, sport_ofFields, src_ofFields, dst_ofFields,
      dport_ofFields, sport_ofFields]
    exact ⟨hdst.symm, hsrc, hsport, hdport⟩
  · unfold replyId
    rw [dst_ofFields, hsrc]
  · unfold replyId
    rw [dport_ofFields, hsport, toNat_setWidth_ephemeral hport]
    exact hport.1

/-! ### Answers get to the client's connection -/

/-- No connection-less socket is bound to the port of connection `c`, and no open connection
before `c` has its addresses and ports. -/
structure Stack.Undiverted (s : Stack N) (c : Fin N) : Prop where
  socket : ¬ ((s.conns c).idin.dport.toNat = cspAny ∧ s.CatchesAny)
  first : ∀ i < c, (s.conns i).state ≠ .connClosed →
    (s.conns i).idin &&& cspIdConnMask ≠ (s.conns c).idin &&& cspIdConnMask

/-- A reply is for its connection exactly if no other open connection matches first. -/
theorem target_eq_conn_iff {e : StackEnv} {s : Stack N} {c : Fin N} {id : CspId}
    (hst : (s.conns c).state ≠ .connClosed) (hdst : id.dst = e.myAddress)
    (hid : id &&& cspIdConnMask = (s.conns c).idin &&& cspIdConnMask)
    (hport : cspAny ≤ id.dport.toNat) : s.target e id = .conn c ↔ s.Undiverted c := by
  have hlocal : ¬ e.IsTransit id := fun h => h.1 hdst
  have hdport : id.dport = (s.conns c).idin.dport := (connMask_eq_iff.1 hid).2.2.1
  have hfind : cspConnFind s.conns id cspIdConnMask = some c ↔ ∀ i < c,
      (s.conns i).state ≠ .connClosed →
        (s.conns i).idin &&& cspIdConnMask ≠ (s.conns c).idin &&& cspIdConnMask := by
    rw [cspConnFind_eq, cspConnFindIn, findKey_finRange_iff, hid]
    exact ⟨fun h i hi hsti => h.2 i hi (decide_eq_true hsti),
      fun h => ⟨⟨decide_eq_true hst, rfl⟩, fun i hi hsti => h i hi (of_decide_eq_true hsti)⟩⟩
  have hsock := connLess_ephemeral (s := s) hport
  rw [hdport] at hsock
  unfold Stack.target
  rw [if_neg hlocal, hdport]
  cases hs : (cspPortGetSocket s.ports (s.conns c).idin.dport.toNat).filter
      (fun socket => socket.opts &&& cspSoConnLess ≠ 0) with
  | some socket =>
    refine iff_of_false (fun h => by cases h) fun h => ?_
    exact absurd (hs.symm.trans (hsock.2 h.socket)) (Option.some_ne_none socket)
  | none =>
    have hnot := hsock.1 hs
    cases hf : cspConnFind s.conns id cspIdConnMask with
    | none =>
      refine iff_of_false (fun h => by cases h) fun h => ?_
      exact absurd ((hfind.2 h.first).symm.trans hf) (Option.some_ne_none c)
    | some i =>
      constructor
      · intro h
        obtain rfl := Target.conn.inj h
        exact ⟨hnot, hfind.1 hf⟩
      · intro h
        exact congrArg Target.conn (Option.some.inj (hf.symm.trans (hfind.2 h.first)))

variable [NeZero N] [NeZero M]

/-- **Which answers get there.**  What a server sends on the connection that its router opened for
packets of connection `c` is taken to `c` by the client's router, if and only if no socket and
no other connection comes first. -/
theorem reply_reaches_iff {client server : StackEnv} {is : List (Action N)}
    {js : List (Action M)} {port port' : U8} {x : Traced N} {y : Traced M} {c : Fin N} {j : Fin M}
    (hport : EphemeralPort port)
    (hx : Run (tracedStep client) (fun _ _ => True) (Traced.init N port) is x)
    (hy : Run (tracedStep server) (fun _ _ => True) (Traced.init M port') js y)
    (hc : c ∈ x.made) (hdst : (x.stack.conns c).idout.dst = server.myAddress)
    (hj : y.byConnect j = false)
    (hin : (y.stack.conns j).idin &&& cspIdConnMask =
      (x.stack.conns c).idout &&& cspIdConnMask) (q : CspPacket) :
    (x.stack.target client { q with id := (y.stack.conns j).idout }.id = .conn c ↔
      x.stack.Undiverted c) ∧
    (x.stack.Undiverted c → ∀ (interface : ℕ) (s₁ : Stack N),
      cspRouteNextPacket x.stack =
          (some ⟨interface, { q with id := (y.stack.conns j).idout }⟩, s₁) →
        client.admits x.stack = true → ∃ evs s₂, Aside x.stack s₂ evs ∧
          vTaskCSPRouter client x.stack =
            routeConn client c { q with id := (y.stack.conns j).idout } s₂) := by
  have hreq : Requested client (x.stack.conns c).shell := (run_made hport hx).conns c hc.1
  obtain ⟨hid, hdst', hany⟩ := hreq.answer hdst hin
  have hout : (y.stack.conns j).idout = replyId server (y.stack.conns j).idin := by
    refine (run_accepted hy j hj).resolve_left fun hzero => ?_
    obtain ⟨prio, dest, dport, sport, hsport, -, hcout⟩ := hreq
    have hport0 : (x.stack.conns c).idout.sport = sport.setWidth 6 := by
      rw [show (x.stack.conns c).idout = _ from hcout]
      exact sport_ofFields _ _ _ _ _ _
    have hzero' := (connMask_eq_iff.1 hin).2.2.2
    rw [hzero, hport0] at hzero'
    have hval := congrArg BitVec.toNat hzero'
    rw [toNat_setWidth_ephemeral hsport] at hval
    have hlo : 16 ≤ sport.toNat := hsport.1
    have h0 : (0 : CspId).sport.toNat = 0 := rfl
    omega
  have hiff : x.stack.target client (y.stack.conns j).idout = .conn c ↔
      x.stack.Undiverted c := by
    rw [hout]
    exact target_eq_conn_iff hc.2 hdst' hid hany
  refine ⟨hiff, fun hund interface s₁ hnext hpass => ?_⟩
  obtain ⟨s₂, haside, hroute⟩ := vTaskCSPRouter_conn hnext hpass (hiff.2 hund)
  exact ⟨_, s₂, haside, hroute⟩

/-! ### Nodes 1 and 5 -/

/-- Node 5. -/
def StackEnv.answering : StackEnv := { StackEnv.favourable with myAddress := 5 }

def Target.isSocket : Target N → Bool
  | .socket _ => true
  | _ => false

/-- A server gets a packet from port `sport` of node 1 for its port 10. -/
theorem exists_accepted (sport : BitVec 6) (hs : sport = 16 ∨ sport = 17) :
    ∃ y : Traced cspConnMax, Run (tracedStep .answering) (fun _ _ => True)
      (Traced.init cspConnMax 16) [.bind ⟨some 0, 0⟩ 10,
        .newPacket ⟨1, { portPacket 0 with id := .ofFields 2 1 5 10 sport 0 }⟩, .route] y ∧
      y.byConnect 1 = false ∧ (y.stack.conns 1).idin = .ofFields 2 1 5 10 sport 0 ∧
      (y.stack.conns 1).idout = .ofFields 2 5 1 sport 10 0 := by
  obtain ⟨y, hrun, hy⟩ : ∃ y : Traced cspConnMax, Run (tracedStep .answering) (fun _ _ => True)
      (Traced.init cspConnMax 16) [.bind ⟨some 0, 0⟩ 10,
        .newPacket ⟨1, { portPacket 0 with id := .ofFields 2 1 5 10 sport 0 }⟩, .route] y ∧
      decide (y.byConnect 1 = false ∧ (y.stack.conns 1).idin = .ofFields 2 1 5 10 sport 0 ∧
        (y.stack.conns 1).idout = .ofFields 2 5 1 sport 10 0) = true := by
    rcases hs with rfl | rfl <;> exact Run.of_any (by decide +kernel)
  exact ⟨y, hrun, of_decide_eq_true hy⟩

/-- A connection with port 17 gets its answers. -/
theorem reply_reaches_iff_port : ∃ x y : Traced cspConnMax,
    Run (tracedStep .favourable) (fun _ _ => True) (Traced.init cspConnMax 16)
      [.connect 0 2 5 10 0, .allocate 0] x ∧
    (y.stack.conns 1).idout = .ofFields 2 5 1 17 10 0 ∧
    x.stack.target .favourable (y.stack.conns 1).idout = .conn 1 := by
  obtain ⟨y, hy, hj, hyin, hyout⟩ := exists_accepted 17 (.inr rfl)
  obtain ⟨x, hx, hxs⟩ : ∃ x : Traced cspConnMax, Run (tracedStep .favourable) (fun _ _ => True)
      (Traced.init cspConnMax 16) [.connect 0 2 5 10 0, .allocate 0] x ∧
      decide (1 ∈ x.made ∧ (x.stack.conns 1).idout = .ofFields 2 1 5 10 17 0 ∧
        (x.stack.conns 1).idin.dport = 17 ∧ (x.stack.conns 0).state = .connClosed) = true :=
    Run.of_any (by decide +kernel)
  obtain ⟨hc, hout, hport, hfirst⟩ := of_decide_eq_true hxs
  have hund : x.stack.Undiverted 1 := by
    refine ⟨fun h => ?_, fun i hi hst => ?_⟩
    · rw [hport] at h
      exact absurd h.1 (by decide)
    · obtain rfl : i = 0 := Fin.lt_one_iff i |>.1 hi
      exact absurd hfirst hst
  have hdst : (x.stack.conns 1).idout.dst = StackEnv.answering.myAddress := by
    rw [hout]
    decide
  have hin : (y.stack.conns 1).idin &&& cspIdConnMask =
      (x.stack.conns 1).idout &&& cspIdConnMask := by rw [hyin, hout]
  exact ⟨x, y, hx, hyout, (reply_reaches_iff (by decide) hx hy hc hdst hj hin
    (CspPacket.blank 3)).1.2 hund⟩

/-- **Port `CSP_ANY` with a connection-less socket:** the answer goes to the socket. -/
theorem reply_to_socket :
    ¬ ∀ (client server : StackEnv) (is js : List (Action cspConnMax)) (port port' : U8)
        (x y : Traced cspConnMax) (c j : Fin cspConnMax) (q : CspPacket),
      EphemeralPort port →
      Run (tracedStep client) (fun _ _ => True) (Traced.init cspConnMax port) is x →
      Run (tracedStep server) (fun _ _ => True) (Traced.init cspConnMax port') js y →
      c ∈ x.made → (x.stack.conns c).idout.dst = server.myAddress →
      (x.stack.conns c).idout.dst ≠ cspBroadcastAddr → y.byConnect j = false →
      (y.stack.conns j).idin &&& cspIdConnMask = (x.stack.conns c).idout &&& cspIdConnMask →
      x.stack.target client { q with id := (y.stack.conns j).idout }.id = .conn c := by
  intro h
  obtain ⟨y, hy, hj, hyin, hyout⟩ := exists_accepted 16 (.inl rfl)
  obtain ⟨x, hx, hxs⟩ : ∃ x : Traced cspConnMax, Run (tracedStep .favourable) (fun _ _ => True)
      (Traced.init cspConnMax 63) [.bind ⟨some 0, cspSoConnLess⟩ 16, .connect 0 2 5 10 0,
        .allocate 0] x ∧
      decide (1 ∈ x.made ∧ (x.stack.conns 1).idout = .ofFields 2 1 5 10 16 0 ∧
        (x.stack.target .favourable (.ofFields 2 5 1 16 10 0)).isSocket = true) = true :=
    Run.of_any (by decide +kernel)
  obtain ⟨hc, hout, hsocket⟩ := of_decide_eq_true hxs
  have hdst : (x.stack.conns 1).idout.dst = StackEnv.answering.myAddress := by
    rw [hout]
    decide
  have hcast : (x.stack.conns 1).idout.dst ≠ cspBroadcastAddr := by
    rw [hdst]
    decide
  have htarget := h _ _ _ _ _ _ x y 1 1 (CspPacket.blank 3) (by decide) hx hy hc hdst hcast hj
    (by rw [hyin, hout])
  have hsame : (x.stack.target .favourable (y.stack.conns 1).idout).isSocket = false :=
    congrArg Target.isSocket htarget
  rw [hyout] at hsame
  exact absurd (hsocket.symm.trans hsame) (by decide)

end LibCSP
