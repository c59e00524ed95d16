/-
# Every packet is consumed once

What the router does with packets is a sequence of moves: it takes one from its queue,
calls the hook, and consumes the packet, by freeing it, by passing it to an interface, to
the queue of a socket or to a transport module.  Whatever the exit, an iteration makes one
of each (`vTaskCSPRouter_moves`).

The hook is called before the variable `packet` is assigned, and the packet it rejects is
the one in this variable.  So an iteration is in order exactly if there is no hook, or
`packet` already points to the packet taken (`vTaskCSPRouter_orderly_iff`).
-/

import LibCSP.Router.Step

namespace LibCSP

open Basis

/-! ### Moves -/

/-- What the router does with packets. -/
inductive Move
  | taken (buf : ℕ)
  | hooked (packet : Option ℕ)
  /-- `csp_buffer_free`, `csp_send_direct`, the queue of a connection-less socket, or a
  transport module. -/
  | consumed (packet : Option ℕ)
  deriving DecidableEq

variable {N : ℕ}

def StackEvent.move : StackEvent N → Option Move
  | .dequeued p => some (.taken p.buf)
  | .hooked packet => some (.hooked packet)
  | .discarded _ packet => some (.consumed packet)
  | .forwarded buf => some (.consumed (some buf))
  | .queued _ p => some (.consumed (some p.buf))
  | .handedOver buf => some (.consumed (some buf))
  | .nexthop _ | .dropped _ | .opened _ | .connected _ | .closed _ | .conn _ _ _ => none

def Stack.moves (s : Stack N) : List Move := s.log.filterMap StackEvent.move

/-- The moves of what happened aside of the connections. -/
theorem Aside.moves {s s' : Stack N} {evs : List (StackEvent N)} (h : Aside s s' evs) :
    s'.moves = s.moves ++ evs.filterMap StackEvent.move := by
  rw [Stack.moves, h.log, List.filterMap_append]
  rfl

/-- An event is one move, or none. -/
theorem emit_moves (s : Stack N) (ev : StackEvent N) :
    (s.emit ev).moves = s.moves ++ ev.move.toList := by
  rw [(Aside.emit s ev).moves, List.filterMap_cons]
  cases ev.move <;> rfl

/-- A connection's own events are no moves. -/
theorem filterMap_conn (i : Fin N) (opts : U32) (evs : List Event) :
    (evs.map (StackEvent.conn i opts)).filterMap StackEvent.move = [] := by
  rw [List.filterMap_map]
  exact List.filterMap_eq_nil_iff.2 fun _ _ => rfl

/-- A call on a connection moves no packet of the router. -/
theorem call_moves (e : StackEnv) (s : Stack N) (i : Fin N) (c : Call) :
    (s.call e i c).moves = s.moves := by
  unfold Stack.call Stack.put Stack.moves
  rw [List.filterMap_append, filterMap_conn, List.append_nil]

/-- Nor does a connection that is given out. -/
theorem Fresh.moves {s s' : Stack N} {i : Fin N} {idin idout : CspId} {k : Option ℕ} {opts : U32}
    (h : Fresh s i idin idout k opts s') : s'.moves = s.moves := by
  obtain ⟨evs, hl, -⟩ := h.log
  unfold Stack.moves
  rw [hl, List.filterMap_append, List.filterMap_cons, filterMap_conn]
  exact List.append_nil _

/-- A packet for a connection is consumed, whatever becomes of it. -/
theorem routeConn_moves (e : StackEnv) (i : Fin N) (p : CspPacket) (s : Stack N) :
    (routeConn e i p s).moves = s.moves ++ [.consumed (some p.buf)] := by
  rcases routeConn_cases e i p s with ⟨why, -, h⟩ | ⟨q, -, h⟩
  · rw [h]
    exact emit_moves s _
  · rw [h, call_moves]
    exact emit_moves s _

/-- A packet to forward is consumed. -/
theorem routeForward_moves (e : StackEnv) (input : CspRouteQueue) (s : Stack N) :
    (routeForward e input s).moves = s.moves ++ [.consumed (some input.packet.buf)] := by
  rcases routeForward_cases e input s with h | ⟨nonce, err, wire, -, h⟩
  · exact h.moves
  · rw [h.moves, List.filterMap_append]
    have hwire :
        (wire.toList.map StackEvent.nexthop).filterMap (StackEvent.move (N := N)) = [] := by
      rw [List.filterMap_map]
      exact List.filterMap_eq_nil_iff.2 fun _ _ => rfl
    rw [hwire]
    split <;> rfl

/-- A packet for a connection-less socket is consumed. -/
theorem routeConnLess_moves (e : StackEnv) (socket : CspSocket) (p : CspPacket) (s : Stack N) :
    (routeConnLess e socket p s).moves = s.moves ++ [.consumed (some p.buf)] := by
  unfold routeConnLess
  cases hcheck : e.node.cspRouteSecurityCheck socket.opts p with
  | error err => exact emit_moves s _
  | ok q =>
    have hbuf := (cspRouteSecurityCheck_enforced hcheck).identity.buf
    simp only
    split
    · rw [← hbuf]
      exact emit_moves s.next _
    · rw [← hbuf]
      exact emit_moves s.next _

/-- A call on a connection and the return to user space are no moves. -/
theorem connectReturn_moves (e : StackEnv) (t : ℕ) (i : Fin N) (retry : Bool) (c : Call)
    (err : Option CspErr) (s : Stack N) : (connectReturn e t i retry c err s).moves = s.moves := by
  have hcall := call_moves e s i c
  unfold connectReturn
  split
  · exact hcall
  · exact (emit_moves _ _).trans ((List.append_nil _).trans hcall)
  · exact hcall

section Router

variable [NeZero N]

/-- `csp_conn_new` consumes none. -/
theorem cspConnNew_moves (e : StackEnv) (idin idout : CspId) (s : Stack N) :
    (cspConnNew e idin idout s).2.moves = s.moves := by
  rcases cspConnNew_cases e idin idout s with ⟨-, h⟩ | ⟨-, h⟩ | ⟨-, h⟩
  · rw [h]
    rfl
  · rw [Stack.moves, h.log]
    rfl
  · exact h.moves

/-- A packet for a new connection is consumed, also when there is none. -/
theorem routeNew_moves (e : StackEnv) (socket : Option CspSocket) (p : CspPacket) (s : Stack N) :
    (routeNew e socket p s).moves = s.moves ++ [.consumed (some p.buf)] := by
  unfold routeNew
  cases socket with
  | none => exact emit_moves s _
  | some socket =>
    have hnew := cspConnNew_moves e p.id (replyId e p.id) s
    simp only
    generalize cspConnNew e p.id (replyId e p.id) s = r at hnew ⊢
    obtain ⟨r, s₁⟩ := r
    rw [← hnew]
    cases r with
    | none => exact emit_moves s₁ _
    | some i => exact routeConn_moves e i p _

/-- **Each exit of the dispatch consumes the packet**, and no other. -/
theorem routePacket_moves (e : StackEnv) (input : CspRouteQueue) (s : Stack N) :
    (routePacket e input s).moves = s.moves ++ [.consumed (some input.packet.buf)] := by
  unfold routePacket routeLocal
  simp only
  split
  · exact routeForward_moves e input _
  · split
    · exact routeConnLess_moves e _ input.packet _
    · split
      · exact routeConn_moves e _ input.packet _
      · exact routeNew_moves e _ input.packet _

/-- **The moves of an iteration.** -/
theorem vTaskCSPRouter_moves {e : StackEnv} {s s₁ : Stack N} {input : CspRouteQueue}
    (h : cspRouteNextPacket s = (some input, s₁)) :
    (vTaskCSPRouter e s).moves = s.moves ++ (.taken input.packet.buf ::
      (if e.hook.isSome then [.hooked s.packet] else []) ++
        [.consumed (if e.admits s then some input.packet.buf else s.packet)]) := by
  have hintake : (intake e s input).filterMap StackEvent.move = .taken input.packet.buf ::
      if e.hook.isSome then [.hooked s.packet] else [] := by
    unfold intake
    cases e.hook <;> rfl
  rcases vTaskCSPRouter_cases (e := e) h with ⟨-, hpass, hend⟩ | ⟨hpass, s₂, hs₂, hroute⟩
  · rw [hend.moves, List.filterMap_append, hintake, hpass]
    rfl
  · rw [hroute, routePacket_moves, hs₂.moves, hintake, hpass, List.append_assoc]
    rfl

/-! ### Iterations in order -/

/-- An iteration that takes this packet calls the hook for it, and consumes it. -/
def inOrder (e : StackEnv) (buf : ℕ) : List Move :=
  .taken buf :: (if e.hook.isSome then [.hooked (some buf)] else []) ++ [.consumed (some buf)]

/-- The hook, if there is one, is called with the packet that is taken. -/
def HookSees (e : StackEnv) (s : Stack N) (buf : ℕ) : Prop := e.hook.isSome → s.packet = some buf

/-- **An iteration is in order exactly if the hook sees its packet.** -/
theorem vTaskCSPRouter_inOrder_iff {e : StackEnv} {s s₁ : Stack N} {input : CspRouteQueue}
    (h : cspRouteNextPacket s = (some input, s₁)) :
    (vTaskCSPRouter e s).moves = s.moves ++ inOrder e input.packet.buf ↔
      HookSees e s input.packet.buf := by
  rw [vTaskCSPRouter_moves h, List.append_cancel_left_eq]
  unfold inOrder HookSees StackEnv.admits
  cases e.hook with
  | none => exact iff_of_true rfl nofun
  | some hook =>
    simp only [Option.isSome_some, if_true, Option.map_some, Option.getD_some, forall_const]
    constructor
    · intro heq
      injection heq with _ heq
      injection heq with heq _
      exact Move.hooked.inj heq
    · intro heq
      rw [heq, ite_self]

/-! ### Runs -/

/-- The moves are those of iterations in order. -/
def Orderly (e : StackEnv) (moves : List Move) : Prop :=
  ∃ bufs : List ℕ, moves = bufs.flatMap (inOrder e)

/-- The action is no iteration with a hook that sees another packet. -/
def HookSeesPacket (e : StackEnv) (s : Stack N) (a : Action N) : Prop :=
  a = .route → ∀ input ∈ (cspRouteNextPacket s).1, HookSees e s input.packet.buf

/-- **A round of the router consumes what it dequeued**, once. -/
theorem vTaskCSPRouter_orderly {e : StackEnv} {s : Stack N} (h : Orderly e s.moves)
    (hok : HookSeesPacket e s .route) : Orderly e (vTaskCSPRouter e s).moves := by
  cases hnext : cspRouteNextPacket s with
  | mk input s₁ =>
  cases input with
  | none =>
    have haside := cspRouteNextPacket_aside s
    unfold vTaskCSPRouter
    rw [hnext] at haside ⊢
    rw [haside.moves]
    simpa using h
  | some input =>
    have hsees := hok rfl input (by rw [hnext]; rfl)
    obtain ⟨bufs, hbufs⟩ := h
    refine ⟨bufs ++ [input.packet.buf], ?_⟩
    rw [(vTaskCSPRouter_inOrder_iff hnext).2 hsees, hbufs, List.flatMap_append]
    simp

/-- The second half of `csp_connect` consumes none. -/
theorem connectAllocate_moves (e : StackEnv) (t : ℕ) (incomingId outgoingId : CspId) (opts : U32)
    (s : Stack N) : (connectAllocate e t incomingId outgoingId opts s).moves = s.moves := by
  have hnew := cspConnNew_moves e incomingId outgoingId s
  unfold connectAllocate
  generalize cspConnNew e incomingId outgoingId s = r at hnew ⊢
  obtain ⟨r, s₁⟩ := r
  rw [← hnew]
  cases r with
  | none => rfl
  | some i =>
    simp only
    split
    · exact connectReturn_moves e t i true .connect _ _
    · exact (emit_moves _ _).trans (List.append_nil _)

/-- The other actions make no moves. -/
theorem stackStep_moves {e : StackEnv} {s s' : Stack N} {a : Action N} (ha : a ≠ .route)
    (h : stackStep e s a = some s') : s'.moves = s.moves := by
  cases stackStep_stepped h with
  | still hstill =>
    unfold Stack.moves
    rw [hstill.log]
  | checkTimeouts i => exact call_moves e s i _
  | route => exact absurd rfl ha
  | dropped input => exact (emit_moves _ _).trans (List.append_nil _)
  | ported t prio dest dport sport opts => rfl
  | allocate ht => exact connectAllocate_moves e _ _ _ _ s
  | connectWake ht => exact connectReturn_moves e _ _ _ _ _ s
  | connectTimeout ht => exact connectReturn_moves e _ _ _ _ _ s
  | send t i p => exact call_moves e s i _
  | sendWaits t i p q => exact call_moves e s i _
  | sendWake ht => exact call_moves e s _ _
  | sendTimeout t => rfl
  | read i => exact call_moves e s i _
  | close i => exact (call_moves e _ i _).trans ((emit_moves _ _).trans (List.append_nil _))

/-- **The router takes packets one by one and consumes each once**, in every run in which the
hook, if there is one, sees the packet that is taken. -/
theorem run_orderly {e : StackEnv} {s t : Stack N} {is : List (Action N)}
    (h : Orderly e s.moves) (hrun : Run (stackStep e) (HookSeesPacket e) s is t) :
    Orderly e t.moves := by
  refine hrun.invariant (P := fun s => Orderly e s.moves) (fun s a u hs hok hst => ?_) h
  by_cases ha : a = .route
  · subst ha
    obtain rfl := Option.some.inj hst
    exact vTaskCSPRouter_orderly hs hok
  · rw [stackStep_moves ha hst]
    exact hs

end Router

/-! ### A hook -/

/-- A packet from node 3 to node 2. -/
def transitPacket (buf : ℕ) : CspPacket := { CspPacket.blank 3 with buf := buf, id := 0x86200000 }

/-- Without a hook the hypotheses are met. -/
theorem run_orderly_without_hook : ∃ t : Stack cspConnMax,
    Run (stackStep .favourable) (HookSeesPacket .favourable)
      ((Stack.init cspConnMax).receive (transitPacket 7)) [.route] t ∧
      t.moves = [.taken 7, .consumed (some 7)] ∧ Orderly .favourable t.moves := by
  have hok :
      HookSeesPacket .favourable ((Stack.init cspConnMax).receive (transitPacket 7)) .route :=
    fun _ _ _ => nofun
  have hrun : Run (stackStep .favourable) (HookSeesPacket .favourable) _ [.route] _ :=
    .cons hok rfl .nil
  exact ⟨_, hrun, rfl, run_orderly ⟨[], rfl⟩ hrun⟩

/-- The hook of this node lets the first packet pass only. -/
def hookedEnv : StackEnv := { StackEnv.favourable with hook := some fun tick _ => tick == 0 }

/-- **A hook sees the packet of the last iteration.**  Of two packets, 7 and 8, the first
passes and is forwarded; the hook rejects the second, and 7 is freed instead of it. -/
theorem hook_sees_last_packet :
    ¬ ∀ (e : StackEnv) (s t : Stack cspConnMax) (is : List (Action cspConnMax)),
      Orderly e s.moves → Run (stackStep e) (fun _ _ => True) s is t → Orderly e t.moves := by
  intro h
  obtain ⟨s, hs⟩ : ∃ s, s = ((Stack.init cspConnMax).receive (transitPacket 7)).receive
    (transitPacket 8) := ⟨_, rfl⟩
  have hstart : Orderly hookedEnv s.moves := ⟨[], by rw [hs]; rfl⟩
  have hrun : Run (stackStep hookedEnv) (fun _ _ => True) s [.route, .route] _ :=
    .cons trivial rfl (.cons trivial rfl .nil)
  obtain ⟨bufs, hbufs⟩ := h _ _ _ _ hstart hrun
  have hmoves : (vTaskCSPRouter hookedEnv (vTaskCSPRouter hookedEnv s)).moves =
      [.taken 7, .hooked none, .consumed (some 7), .taken 8, .hooked (some 7),
        .consumed (some 7)] := by
    rw [hs]
    rfl
  rw [hmoves] at hbufs
  cases bufs with
  | nil => exact absurd hbufs nofun
  | cons buf bufs =>
    injection hbufs with _ hbufs
    injection hbufs with hbufs _
    exact absurd (Move.hooked.inj hbufs) nofun

end LibCSP
