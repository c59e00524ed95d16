/-
# What a node keeps for itself

A packet that comes out of the router's hands into user space was taken by the router in the
same iteration, or has waited in a reorder queue since an earlier one.  So whatever is true of
the packets that the router takes as its own is true of all that user space ever gets
(`Brings.step`): the connections may close and open again in between, and hand their reorder
queues on.

In particular no packet for another node gets there (`run_local`).
-/

import LibCSP.Router.Secure
import LibCSP.Router.Consume

namespace LibCSP

open Basis

variable {N : ℕ}

/-! ### What user space is handed -/

/-- What user space gets from a connection, and from a connection-less socket, is one of these. -/
def StackEvent.Hands (D Q : CspPacket → Prop) : StackEvent N → Prop
  | .queued _ p => Q p
  | .conn _ _ (.deliver _ p) => D p
  | _ => True

/-- The router's own events hand nothing over. -/
theorem StackEvent.IsRouting.hands {D Q : CspPacket → Prop} {ev : StackEvent N}
    (h : ev.IsRouting) : ev.Hands D Q := by
  cases ev with
  | queued _ _ => exact h.elim
  | conn _ _ _ => exact h.elim
  | _ => trivial

/-- What is handed over has also any weaker property. -/
theorem StackEvent.Hands.mono {D D' Q Q' : CspPacket → Prop} {ev : StackEvent N}
    (h : ev.Hands D Q) (hD : ∀ p, D p → D' p) (hQ : ∀ p, Q p → Q' p) : ev.Hands D' Q' := by
  cases ev with
  | queued _ p => exact hQ p h
  | conn _ _ ev =>
    cases ev with
    | deliver _ p => exact hD p h
    | _ => trivial
  | _ => trivial

/-- The reorder queues hold packets of the first kind, and user space was handed packets of the
other two. -/
structure Brings (P D Q : CspPacket → Prop) (s s' : Stack N) : Prop where
  stored : ∀ i, AllStored P (s'.conns i)
  log : ∃ evs, s'.log = s.log ++ evs ∧ ∀ ev ∈ evs, ev.Hands D Q

namespace Brings

variable {P D Q : CspPacket → Prop} {e : StackEnv} {s s' s'' : Stack N} {i : Fin N}

/-- A step that logs nothing brings nothing. -/
theorem of_eq (hs : ∀ i, AllStored P (s.conns i)) (hc : s'.conns = s.conns)
    (hl : s'.log = s.log) : Brings P D Q s s' := by
  refine ⟨hc ▸ hs, [], ?_, fun _ hev => absurd hev List.not_mem_nil⟩
  rw [hl, List.append_nil]

/-- What happens aside of the connections brings what it logs. -/
theorem aside {evs : List (StackEvent N)} (hs : ∀ i, AllStored P (s.conns i))
    (h : Aside s s' evs) (hevs : ∀ ev ∈ evs, ev.Hands D Q) : Brings P D Q s s' :=
  ⟨h.conns ▸ hs, evs, h.log, hevs⟩

/-- So does an event. -/
theorem emit {ev : StackEvent N} (hs : ∀ i, AllStored P (s.conns i)) (hev : ev.Hands D Q) :
    Brings P D Q s (s.emit ev) :=
  aside hs (.emit s ev) (List.forall_mem_singleton.2 hev)

/-- One step after the other. -/
theorem trans (h : Brings P D Q s s') (h' : Brings P D Q s' s'') : Brings P D Q s s'' := by
  obtain ⟨evs, hl, hevs⟩ := h.log
  obtain ⟨evs', hl', hevs'⟩ := h'.log
  refine ⟨h'.stored, evs ++ evs', ?_, List.forall_mem_append.2 ⟨hevs, hevs'⟩⟩
  rw [hl', hl, List.append_assoc]

/-- Nothing happens to the connections and the log afterwards. -/
theorem and_eq (h : Brings P D Q s s') (hc : s''.conns = s'.conns) (hl : s''.log = s'.log) :
    Brings P D Q s s'' :=
  h.trans (of_eq h.stored hc hl)

/-- A step with an event at its end. -/
theorem and_emit {ev : StackEvent N} (h : Brings P D Q s s') (hev : ev.Hands D Q) :
    Brings P D Q s (s'.emit ev) :=
  h.trans (emit h.stored hev)

/-- A call brings what its end allows. -/
theorem of_ending {c : Call} {b : Prop} (hs : ∀ i, AllStored P (s.conns i))
    (hend : Ending b P D (s.view i) (c.exec e.env (s.view i))) :
    Brings P D Q s (s.call e i c) := by
  obtain ⟨-, hstored, evs, hl, hd⟩ := hend.brings
  refine ⟨fun j => ?_, evs.map (.conn i (s.conns i).connOpts), ?_, fun ev hev => ?_⟩
  · by_cases hji : j = i
    · subst hji
      rw [call_conns_self]
      exact hstored
    · rw [call_conns_of_ne hji]
      exact hs j
  · show s.log ++ (c.exec e.env (s.view i)).log.map _ = _
    rw [hl]
    rfl
  · obtain ⟨x, hx, rfl⟩ := List.mem_map.1 hev
    cases x with
    | deliver st q => exact hd st q hx
    | _ => trivial

/-- A new connection keeps the reorder queue of the last one. -/
theorem fresh {idin idout : CspId} {k : Option ℕ} {opts : U32} (hs : ∀ i, AllStored P (s.conns i))
    (hnew : Fresh s i idin idout k opts s') : Brings P D Q s s' := by
  obtain ⟨evs, hl, hsilent⟩ := hnew.log
  refine ⟨fun j => ?_, _, hl, fun ev hev => ?_⟩
  · by_cases hji : j = i
    · subst hji
      unfold AllStored
      rw [hnew.rdp]
      exact hs j
    · rw [hnew.others j hji]
      exact hs j
  · rcases List.mem_cons.1 hev with rfl | hev
    · trivial
    · obtain ⟨x, hx, rfl⟩ := List.mem_map.1 hev
      have hx := hsilent x hx
      cases x with
      | deliver _ _ => exact hx.elim
      | _ => trivial

/-- A connection that is claimed brings nothing; its reorder queue stays. -/
theorem claimed (hs : ∀ i, AllStored P (s.conns i)) (hclaim : Claimed s i s') :
    Brings P D Q s s' := by
  refine ⟨fun j => ?_, [], by rw [hclaim.log, List.append_nil], fun _ hev =>
    absurd hev List.not_mem_nil⟩
  rw [hclaim.conns]
  by_cases hji : j = i
  · subst hji
    rw [Function.update_self]
    exact hs j
  · rw [Function.update_of_ne hji]
    exact hs j

/-- A call that is given no packet. -/
theorem call {c : Call} (hPD : ∀ x, P x → D (cspRdpHeaderRemove x))
    (hs : ∀ i, AllStored P (s.conns i)) (hc : c.Brings e.env P D) :
    Brings P D Q s (s.call e i c) :=
  of_ending hs (Call.ending hPD e.env c (hs i) hc)

/-- A `csp_connect` that returns brings what was delivered to its connection. -/
theorem connectReturn {t : ℕ} {retry : Bool} {c : Call} {err : Option CspErr}
    (hPD : ∀ x, P x → D (cspRdpHeaderRemove x)) (hs : ∀ i, AllStored P (s.conns i))
    (hc : c.Brings e.env P D) : Brings P D Q s (connectReturn e t i retry c err s) := by
  have hcall : Brings P D Q s (s.call e i c) := call hPD hs hc
  have hidle : ∀ caller, Brings P D Q s ((s.call e i c).setTask t caller) := fun caller =>
    hcall.and_eq rfl rfl
  unfold LibCSP.connectReturn
  split
  · exact hidle _
  · exact (hidle _).and_emit trivial
  · exact hidle _

end Brings

/-! ### The router -/

/-- The packet is one of these once it is past a security check. -/
structure Becomes (e : StackEnv) (P D Q : CspPacket → Prop) (raw : CspPacket) : Prop where
  rdp : ∀ opts p, e.node.cspRouteSecurityCheck opts raw = .ok p → p.id.has cspFrdp = true →
    sizeofRdpHeader < p.length.toNat → P (rxPacket e.env.host p)
  udp : ∀ opts p, e.node.cspRouteSecurityCheck opts raw = .ok p → p.id.has cspFrdp = false → D p
  connLess : ∀ opts p, e.node.cspRouteSecurityCheck opts raw = .ok p → Q p

namespace Brings

variable {P D Q : CspPacket → Prop} {e : StackEnv} {s s' : Stack N} {raw : CspPacket}

/-- A packet for a connection-less socket brings itself. -/
theorem routeConnLess (hs : ∀ i, AllStored P (s.conns i)) (hraw : Becomes e P D Q raw)
    (socket : CspSocket) : Brings P D Q s (routeConnLess e socket raw s) := by
  have hnext : Brings P D Q s s.next := of_eq hs rfl rfl
  unfold LibCSP.routeConnLess
  split
  · exact emit hs trivial
  · rename_i p hcheck
    split
    · exact hnext.and_emit (hraw.connLess _ _ hcheck)
    · exact hnext.and_emit trivial

/-- A packet for a connection brings itself, or what it releases. -/
theorem routeConn (hPD : ∀ x, P x → D (cspRdpHeaderRemove x))
    (hs : ∀ i, AllStored P (s.conns i)) (hraw : Becomes e P D Q raw) (i : Fin N) :
    Brings P D Q s (routeConn e i raw s) := by
  rcases routeConn_cases e i raw s with ⟨why, -, hend⟩ | ⟨p, hp, hend⟩
  · rw [hend]
    exact emit hs trivial
  · rw [hend]
    have hemit : Brings P D Q s (s.emit (.handedOver raw.buf)) := emit hs trivial
    exact hemit.trans (of_ending hemit.stored (Call.packet_ending hPD e.env (hemit.stored i)
      (hraw.rdp _ p hp) (hraw.udp _ p hp)))

variable [NeZero N]

/-- So does a packet for a new connection. -/
theorem routeNew (hPD : ∀ x, P x → D (cspRdpHeaderRemove x))
    (hs : ∀ i, AllStored P (s.conns i)) (hraw : Becomes e P D Q raw)
    (socket : Option CspSocket) : Brings P D Q s (routeNew e socket raw s) := by
  unfold LibCSP.routeNew
  cases socket with
  | none => exact emit hs trivial
  | some socket =>
    have hcases := cspConnNew_cases e raw.id (replyId e raw.id) s
    simp only
    generalize cspConnNew e raw.id (replyId e raw.id) s = r at hcases ⊢
    obtain ⟨r, s₁⟩ := r
    rcases hcases with ⟨hr, hs₁⟩ | ⟨hr, hs₁⟩ | ⟨hr, hs₁⟩
    · simp only at hr hs₁
      subst hr hs₁
      exact (of_eq hs rfl rfl : Brings P D Q s s.next).and_emit trivial
    · simp only at hr hs₁
      subst hr
      exact (claimed hs hs₁).and_emit trivial
    · simp only at hr hs₁
      subst hr
      have hnew : Brings P D Q s _ := fresh hs (hs₁.assign socket.queue socket.opts)
      exact hnew.trans (routeConn hPD hnew.stored hraw _)

/-- And so does any packet for this node. -/
theorem routeLocal (hPD : ∀ x, P x → D (cspRdpHeaderRemove x))
    (hs : ∀ i, AllStored P (s.conns i)) (hraw : Becomes e P D Q raw) :
    Brings P D Q s (routeLocal e raw s) := by
  unfold LibCSP.routeLocal
  split
  · exact routeConnLess hs hraw _
  · split
    · exact routeConn hPD hs hraw _
    · exact routeNew hPD hs hraw _

omit [NeZero N] in
/-- A packet for another node brings nothing. -/
theorem routeForward (hs : ∀ i, AllStored P (s.conns i)) (input : CspRouteQueue) :
    Brings P D Q s (routeForward e input s) := by
  rcases routeForward_cases e input s with hend | ⟨nonce, err, wire, -, hend⟩
  · exact aside hs hend (List.forall_mem_singleton.2 trivial)
  · refine aside hs hend (List.forall_mem_append.2 ⟨fun ev hev => ?_, ?_⟩)
    · obtain ⟨q, -, rfl⟩ := List.mem_map.1 hev
      trivial
    · refine List.forall_mem_singleton.2 ?_
      split <;> trivial

/-- **An iteration of the router** brings its packet, if that is for this node. -/
theorem vTaskCSPRouter (hPD : ∀ x, P x → D (cspRdpHeaderRemove x))
    (hs : ∀ i, AllStored P (s.conns i))
    (hraw : ∀ input ∈ (cspRouteNextPacket s).1, ¬ e.IsTransit input.packet.id →
      Becomes e P D Q input.packet) : Brings P D Q s (vTaskCSPRouter e s) := by
  cases hnext : cspRouteNextPacket s with
  | mk input s₁ =>
  cases input with
  | none =>
    have haside := cspRouteNextPacket_aside s
    unfold LibCSP.vTaskCSPRouter
    rw [hnext] at haside ⊢
    exact aside hs haside fun ev hev => absurd hev List.not_mem_nil
  | some input =>
    have hintake : ∀ ev ∈ intake e s input, ev.Hands D Q := fun ev hev =>
      (intake_routing e s input ev hev).hands
    rcases vTaskCSPRouter_cases (e := e) hnext with ⟨-, -, hend⟩ | ⟨-, s₂, hs₂, hroute⟩
    · exact aside hs hend (List.forall_mem_append.2
        ⟨hintake, List.forall_mem_singleton.2 trivial⟩)
    · rw [hroute, routePacket]
      have hpacket : Brings P D Q s { s₂ with packet := some input.packet.buf } :=
        aside hs (hs₂.setPacket _) hintake
      split
      · exact hpacket.trans (routeForward hpacket.stored input)
      · rename_i htransit
        refine hpacket.trans (routeLocal hPD hpacket.stored (hraw input ?_ htransit))
        rw [hnext]
        exact rfl

/-- The second half of `csp_connect` brings nothing that was not stored. -/
theorem connectAllocate (hPD : ∀ x, P x → D (cspRdpHeaderRemove x))
    (hs : ∀ i, AllStored P (s.conns i)) (t : ℕ) (incomingId outgoingId : CspId) (opts : U32) :
    Brings P D Q s (connectAllocate e t incomingId outgoingId opts s) := by
  have hallocated := connectAllocate_allocated e t incomingId outgoingId opts s
  generalize LibCSP.connectAllocate e t incomingId outgoingId opts s = s' at hallocated ⊢
  cases hallocated with
  | none => exact of_eq hs rfl rfl
  | claimed hclaim => exact (claimed hs hclaim).and_eq rfl rfl
  | @rdp i s₁ _ hnew _ =>
    have hs₁ : Brings P D Q s s₁ := fresh hs hnew
    exact hs₁.trans (connectReturn hPD hs₁.stored trivial)
  | @udp i s₁ _ hnew =>
    have hs₁ : Brings P D Q s s₁ := fresh hs hnew
    have hidle : Brings P D Q s (s₁.setTask t .idle) := hs₁.and_eq rfl rfl
    exact hidle.and_emit trivial

/-- **A step brings nothing but the packet that the router takes** for this node. -/
theorem step {a : Action N} (hPD : ∀ x, P x → D (cspRdpHeaderRemove x))
    (hs : ∀ i, AllStored P (s.conns i))
    (hraw : ∀ input ∈ (cspRouteNextPacket s).1, ¬ e.IsTransit input.packet.id →
      Becomes e P D Q input.packet) (hst : stackStep e s a = some s') : Brings P D Q s s' := by
  have hcall : ∀ {i : Fin N} {c : Call}, c.Brings e.env P D → Brings P D Q s (s.call e i c) :=
    call hPD hs
  cases stackStep_stepped hst with
  | still hstill => exact of_eq hs hstill.conns hstill.log
  | checkTimeouts i => exact hcall trivial
  | route => exact vTaskCSPRouter hPD hs hraw
  | dropped input => exact emit hs trivial
  | ported t prio dest dport sport opts => exact of_eq hs rfl rfl
  | allocate ht => exact connectAllocate hPD hs _ _ _ _
  | connectWake ht => exact connectReturn hPD hs trivial
  | connectTimeout ht => exact connectReturn hPD hs trivial
  | send t i p => exact hcall trivial
  | sendWaits t i p q => exact (hcall (c := .send p) trivial).and_eq rfl rfl
  | @sendWake t i p ht => exact (hcall (c := .sendWake p) trivial).and_eq rfl rfl
  | sendTimeout t => exact of_eq hs rfl rfl
  | read i => exact hcall trivial
  | close i =>
    have hemit : Brings P D Q s (s.emit (.closed i)) := emit hs trivial
    exact hemit.trans (call hPD hemit.stored trivial)

end Brings

/-! ### Runs -/

/-- An RDP packet comes in with its identifier. -/
theorem rxPacket_id {o : ByteOrder} {p : CspPacket} (h : sizeofRdpHeader < p.length.toNat) :
    (rxPacket o p).id = p.id := by
  rw [rxPacket, cspRdpHeaderStore_of_le (Nat.le_of_lt h)]

/-- The packet is for this node, or for all. -/
def StackEnv.IsLocal (e : StackEnv) (p : CspPacket) : Prop := ¬ e.IsTransit p.id

/-- **A packet for this node becomes data for this node.** -/
theorem becomes_local {e : StackEnv} {raw : CspPacket} (h : e.IsLocal raw) :
    Becomes e e.IsLocal e.IsLocal e.IsLocal raw := by
  have hid : ∀ opts p, e.node.cspRouteSecurityCheck opts raw = .ok p → p.id = raw.id :=
    fun opts p hp => (cspRouteSecurityCheck_enforced hp).identity.id
  constructor
  · intro opts p hp _ hlen
    rw [StackEnv.IsLocal, rxPacket_id hlen, hid opts p hp]
    exact h
  · intro opts p hp _
    rw [StackEnv.IsLocal, hid opts p hp]
    exact h
  · intro opts p hp
    rw [StackEnv.IsLocal, hid opts p hp]
    exact h

variable [NeZero N]

omit [NeZero N] in
/-- After `csp_init` nothing is stored, so nothing of another kind is. -/
theorem Stack.Started.stored {P : CspPacket → Prop} {s : Stack N} (h : s.Started) (i : Fin N) :
    AllStored P (s.conns i) := by
  intro x hx
  rw [(h.unused i).rxQueue] at hx
  exact absurd hx List.not_mem_nil

omit [NeZero N] in
/-- Nothing was handed over either. -/
theorem Stack.Started.hands {D Q : CspPacket → Prop} {s : Stack N} (h : s.Started) :
    ∀ ev ∈ s.log, ev.Hands D Q := by
  rw [h.log]
  exact fun ev hev => absurd hev List.not_mem_nil

/-- **User space gets nothing that is for another node**, in any run: not from connections, whose
reorder queues outlive them, and not from connection-less sockets. -/
theorem run_local {e : StackEnv} {is : List (Action N)} {s t : Stack N} (hs : s.Started)
    (hrun : Run (stackStep e) (fun _ _ => True) s is t) :
    (∀ ev ∈ t.log, ev.Hands e.IsLocal e.IsLocal) ∧ ∀ i, AllStored e.IsLocal (t.conns i) := by
  refine hrun.invariant (P := fun s => (∀ ev ∈ s.log, ev.Hands e.IsLocal e.IsLocal) ∧
    ∀ i, AllStored e.IsLocal (s.conns i)) ?_ ⟨hs.hands, hs.stored⟩
  rintro s a s' ⟨hlog, hstored⟩ - hst
  obtain ⟨hstored', evs, hl, hevs⟩ : Brings e.IsLocal e.IsLocal e.IsLocal s s' :=
    Brings.step (fun _ h => h) hstored (fun _ _ h => becomes_local h) hst
  rw [hl]
  exact ⟨List.forall_mem_append.2 ⟨hlog, hevs⟩, hstored'⟩

/-- A packet for port 10 of this node, and one for another node, come in. -/
theorem run_local_other : ∃ t : Stack cspConnMax,
    Run (stackStep .favourable) (fun _ _ => True) (Stack.init cspConnMax)
      [.bind ⟨some 0, 0⟩ 10, .newPacket ⟨1, portPacket 0⟩, .newPacket ⟨1, transitPacket 8⟩,
        .route, .route] t ∧
      t.log.any (StackEvent.delivers 0 7) = true ∧
      (∀ ev ∈ t.log, ev.Hands StackEnv.favourable.IsLocal StackEnv.favourable.IsLocal) ∧
      ∀ i, AllStored StackEnv.favourable.IsLocal (t.conns i) := by
  have hrun : ∃ t : Stack cspConnMax,
      Run (stackStep .favourable) (fun _ _ => True) (Stack.init cspConnMax)
        [.bind ⟨some 0, 0⟩ 10, .newPacket ⟨1, portPacket 0⟩,
          .newPacket ⟨1, transitPacket 8⟩, .route, .route] t ∧
        t.log.any (StackEvent.delivers 0 7) = true := Run.of_any (by decide +kernel)
  obtain ⟨t, hrun, hdelivered⟩ := hrun
  exact ⟨t, hrun, hdelivered, run_local Stack.init_started hrun⟩

end LibCSP
