/-
# Where packets come from

Every packet that reaches user space was taken by the router from its input queue and
passed the security check under the options of the socket or the connection it went
to.  On its way it may wait in the reorder queue of a connection.  A law says what holds
of the packets at these three places: in a reorder queue, in the receive queues of a
connection, in the queue of a connection-less socket (`Law`).

A law holds in every run (`Law.run`) if it holds of what the router hands over.  There is
one more way into a reorder queue: a connection that gets a new user keeps the queue of
the last one, and then the packets in it have to be admitted under the new options
(`Law.Keeps`).
-/

import LibCSP.Router.Step

namespace LibCSP

open Basis

variable {N : ℕ}

/-- What is known of packets, by the events up to now and the options they were checked
under. -/
structure Law (e : StackEnv) (N : ℕ) where
  /-- A packet in a reorder queue. -/
  stored : List (StackEvent N) → U32 → CspPacket → Prop
  /-- A packet in a receive queue. -/
  delivered : List (StackEvent N) → U32 → CspPacket → Prop
  /-- A packet in the queue of a connection-less socket. -/
  queued : List (StackEvent N) → U32 → CspPacket → Prop
  /-- A packet may be left in a reorder queue for a user with these options. -/
  inherited : U32 → CspPacket → Prop
  stored_mono : ∀ {log log' opts x}, stored log opts x → log ⊆ log' → stored log' opts x
  delivered_mono : ∀ {log log' opts q}, delivered log opts q → log ⊆ log' →
    delivered log' opts q
  queued_mono : ∀ {log log' opts p}, queued log opts p → log ⊆ log' → queued log' opts p
  reopen : ∀ {log opts opts' x}, stored log opts x → inherited opts' x → stored log opts' x
  remove : ∀ {log opts x}, stored log opts x → delivered log opts (cspRdpHeaderRemove x)
  /-- What `csp_rdp_new_packet` gets. -/
  rdp : ∀ {log opts raw p}, .dequeued raw ∈ log →
    e.node.cspRouteSecurityCheck opts raw = .ok p → p.id.has cspFrdp = true →
    sizeofRdpHeader < p.length.toNat → stored log opts (rxPacket e.env.host p)
  /-- What `csp_udp_new_packet` gets. -/
  udp : ∀ {log opts raw p}, .dequeued raw ∈ log →
    e.node.cspRouteSecurityCheck opts raw = .ok p → p.id.has cspFrdp = false →
    opts &&& cspSoRdpreq = 0 → delivered log opts p
  connLess : ∀ {log opts raw p}, .dequeued raw ∈ log →
    e.node.cspRouteSecurityCheck opts raw = .ok p → queued log opts p

namespace Law

variable {e : StackEnv}

/-- The law holds of what happened. -/
def OfEvent (L : Law e N) (log : List (StackEvent N)) : StackEvent N → Prop
  | .queued opts p => L.queued log opts p
  | .conn _ opts (.deliver _ q) => L.delivered log opts q
  | _ => True

/-- The law holds of all packets in the reorder queues and in the log. -/
structure Holds (L : Law e N) (s : Stack N) : Prop where
  stored : ∀ i, AllStored (L.stored s.log (s.conns i).connOpts) (s.conns i)
  log : ∀ ev ∈ s.log, L.OfEvent s.log ev

section Event

variable {L : Law e N} {log log' : List (StackEvent N)} {ev : StackEvent N}

/-- A law about the past stays true. -/
theorem OfEvent.mono (h : L.OfEvent log ev) (hl : log ⊆ log') : L.OfEvent log' ev := by
  cases ev with
  | queued opts p => exact L.queued_mono h hl
  | conn i opts ev =>
    cases ev with
    | deliver st q => exact L.delivered_mono h hl
    | _ => trivial
  | _ => trivial

/-- The router's own events obey every law. -/
theorem ofEvent_routing (h : ev.IsRouting) : L.OfEvent log ev := by
  cases ev with
  | queued _ _ => exact h.elim
  | conn _ _ _ => exact h.elim
  | _ => trivial

/-- So does what a call logs without handing anything over. -/
theorem ofEvent_silent {evs : List Event} (h : ∀ ev ∈ evs, ev.Silent) (i : Fin N) (opts : U32) :
    ∀ ev ∈ evs.map (StackEvent.conn i opts), L.OfEvent log ev := by
  intro ev hev
  obtain ⟨x, hx, rfl⟩ := List.mem_map.1 hev
  have hsilent := h x hx
  cases x with
  | deliver _ _ => exact hsilent.elim
  | _ => trivial

end Event

end Law

/-! ### What a call keeps -/

/-- **A call keeps the options, and brings only what is admitted.** -/
theorem Ending.brings {c : Prop} {P D : CspPacket → Prop} {w w' : World}
    (h : Ending c P D w w') :
    w'.conn.connOpts = w.conn.connOpts ∧ AllStored P w'.conn ∧
      ∃ evs, w'.log = w.log ++ evs ∧ ∀ st q, .deliver st q ∈ evs → D q := by
  cases h with
  | handled h =>
    obtain ⟨evs, hl, hd, -⟩ := h.log
    exact ⟨congrArg Shell.connOpts h.shell, h.stored, evs, hl, hd⟩
  | @shut w₁ _ h _ hs =>
    obtain ⟨evs, hl, hd, -⟩ := h.log
    obtain ⟨evs', hl', hsilent⟩ := hs.log
    refine ⟨(congrArg Shell.connOpts hs.shell).trans (congrArg Shell.connOpts h.shell), ?_,
      evs ++ evs', by rw [hl', hl, List.append_assoc], fun st q hq => ?_⟩
    · intro x hx
      rcases hs.queues with ⟨-, hempty⟩ | ⟨-, hsame⟩
      · rw [hempty] at hx
        exact absurd hx List.not_mem_nil
      · rw [hsame] at hx
        exact h.stored x hx
    · rcases List.mem_append.1 hq with hq | hq
      · exact hd st q hq
      · exact (hsilent _ hq).elim

namespace Law.Holds

variable {e : StackEnv} {L : Law e N} {s s' : Stack N} {i : Fin N}

/-- What a step logs and stores has to obey the law. -/
theorem grow {evs : List (StackEvent N)} (h : L.Holds s) (hl : s'.log = s.log ++ evs)
    (hevs : ∀ ev ∈ evs, L.OfEvent s'.log ev)
    (hc : ∀ i, AllStored (L.stored s.log (s'.conns i).connOpts) (s'.conns i)) : L.Holds s' := by
  have hsub : s.log ⊆ s'.log := by
    rw [hl]
    exact List.subset_append_left ..
  have hall : ∀ ev ∈ s.log ++ evs, L.OfEvent s'.log ev :=
    List.forall_mem_append.2 ⟨fun ev hev => (h.log ev hev).mono hsub, hevs⟩
  exact ⟨fun i x hx => L.stored_mono (hc i x hx) hsub, fun ev hev => hall ev (hl ▸ hev)⟩

/-- What happens aside of the connections stores nothing. -/
theorem aside {evs : List (StackEvent N)} (h : L.Holds s) (ha : Aside s s' evs)
    (hevs : ∀ ev ∈ evs, L.OfEvent s'.log ev) : L.Holds s' := by
  refine h.grow ha.log hevs fun i => ?_
  rw [ha.conns]
  exact h.stored i

/-- The router's own events store nothing. -/
theorem routing {evs : List (StackEvent N)} (h : L.Holds s) (ha : Aside s s' evs)
    (hevs : ∀ ev ∈ evs, ev.IsRouting) : L.Holds s' :=
  h.aside ha fun ev hev => ofEvent_routing (hevs ev hev)

/-- Nor does an event that obeys the law. -/
theorem emit {ev : StackEvent N} (h : L.Holds s) (hev : ∀ log, L.OfEvent log ev) :
    L.Holds (s.emit ev) := by
  refine h.aside (.emit s ev) fun ev' hev' => ?_
  rw [List.mem_singleton.1 hev']
  exact hev _

/-- A law is about connections and log. -/
theorem of_eq (h : L.Holds s) (hc : s'.conns = s.conns) (hl : s'.log = s.log) : L.Holds s' := by
  refine ⟨fun i => ?_, ?_⟩
  · rw [hc, hl]
    exact h.stored i
  · rw [hl]
    exact h.log

/-- **A call brings only what the law admits** under the options of its connection. -/
theorem of_ending {c : Call} {b : Prop} (h : L.Holds s)
    (hend : Ending b (L.stored s.log (s.conns i).connOpts)
      (L.delivered s.log (s.conns i).connOpts) (s.view i) (c.exec e.env (s.view i))) :
    L.Holds (s.call e i c) := by
  obtain ⟨hopts, hstored, evs, hl, hd⟩ := hend.brings
  have hlog : (s.call e i c).log = s.log ++ evs.map (.conn i (s.conns i).connOpts) := by
    show s.log ++ (c.exec e.env (s.view i)).log.map _ = _
    rw [hl]
    rfl
  refine h.grow hlog (fun ev hev => ?_) fun j => ?_
  · obtain ⟨x, hx, rfl⟩ := List.mem_map.1 hev
    cases x with
    | deliver st q =>
      refine L.delivered_mono (hd st q hx) ?_
      rw [hlog]
      exact List.subset_append_left ..
    | _ => trivial
  · by_cases hji : j = i
    · subst hji
      rw [call_conns_self, hopts]
      exact hstored
    · rw [call_conns_of_ne hji]
      exact h.stored j

/-- A call that brings nothing. -/
theorem call {c : Call} (h : L.Holds s)
    (hc : c.Brings e.env (L.stored s.log (s.conns i).connOpts)
      (L.delivered s.log (s.conns i).connOpts)) : L.Holds (s.call e i c) :=
  h.of_ending (Call.ending (fun _ => L.remove) e.env c (h.stored i) hc)

/-- A new connection, where the packets left behind are admitted under its options. -/
theorem fresh {idin idout : CspId} {k : Option ℕ} {opts : U32} (h : L.Holds s)
    (hnew : Fresh s i idin idout k opts s')
    (hc : ∀ x ∈ (s.conns i).rdp.rxQueue.items, L.inherited opts x) : L.Holds s' := by
  obtain ⟨evs, hl, hsilent⟩ := hnew.log
  refine h.grow hl (fun ev hev => ?_) fun j => ?_
  · rcases List.mem_cons.1 hev with rfl | hev
    · trivial
    · exact ofEvent_silent hsilent i _ ev hev
  · by_cases hji : j = i
    · subst hji
      intro x hx
      rw [hnew.rdp] at hx
      rw [show (s'.conns j).connOpts = opts from congrArg Shell.connOpts hnew.shell]
      exact L.reopen (h.stored j x hx) (hc x hx)
    · rw [hnew.others j hji]
      exact h.stored j

/-- A connection that is claimed has nothing new in its reorder queue. -/
theorem claimed (h : L.Holds s) (hclaim : Claimed s i s') : L.Holds s' := by
  refine h.grow (hclaim.log.trans (List.append_nil _).symm)
    (fun _ hev => absurd hev List.not_mem_nil) fun j => ?_
  rw [hclaim.conns]
  by_cases hji : j = i
  · subst hji
    rw [Function.update_self]
    exact h.stored j
  · rw [Function.update_of_ne hji]
    exact h.stored j

/-- **A packet for a connection** was dequeued, and so obeys the law. -/
theorem routeConn {raw : CspPacket} (h : L.Holds s) (hraw : .dequeued raw ∈ s.log) :
    L.Holds (routeConn e i raw s) := by
  rcases routeConn_transport e i raw s with ⟨why, -, hend⟩ | ⟨p, hp, htransport, hend⟩
  · rw [hend]
    exact h.emit fun _ => trivial
  · rw [hend]
    have hemit : L.Holds (s.emit (.handedOver raw.buf)) := h.emit fun _ => trivial
    have hraw' : .dequeued raw ∈ (s.emit (.handedOver raw.buf)).log :=
      List.mem_append_left _ hraw
    refine hemit.of_ending (Call.packet_ending (fun _ => L.remove) e.env (hemit.stored i)
      (fun hrdp hlen => L.rdp hraw' hp hrdp hlen) fun hrdp => L.udp hraw' hp hrdp ?_)
    exact htransport.resolve_left (hrdp ▸ Bool.false_ne_true)

/-- `csp_rdp_connect` brings nothing. -/
theorem connectReturn {c : Call} {err : Option CspErr} {t : ℕ} {retry : Bool}
    (hcall : L.Holds (s.call e i c)) : L.Holds (connectReturn e t i retry c err s) := by
  unfold LibCSP.connectReturn
  split
  · exact hcall.of_eq rfl rfl
  · have hidle : L.Holds ((s.call e i c).setTask t .idle) := hcall.of_eq rfl rfl
    exact hidle.emit fun _ => trivial
  · exact hcall.of_eq rfl rfl

end Law.Holds

/-! ### Steps and runs -/

namespace Law

variable [NeZero N] {e : StackEnv} {L : Law e N} {s s' : Stack N}

/-- The packets that are left where `csp_conn_new` finds a connection may stay for a user with
these options. -/
def Reopens (L : Law e N) (s : Stack N) (opts : U32) : Prop :=
  (s.conns s.search.1).state = .connClosed →
    ∀ x ∈ (s.conns s.search.1).rdp.rxQueue.items, L.inherited opts x

/-- A new connection inherits only what it may. -/
def Keeps (L : Law e N) (s : Stack N) : Action N → Prop
  | .route => ∀ raw socket, s.arriving e = some raw → s.Accepts raw socket →
      L.Reopens s socket.opts
  | .allocate t => ∀ incomingId outgoingId opts,
      s.tasks t = .allocating incomingId outgoingId opts → L.Reopens s opts
  | _ => True

/-- **A round of the router obeys the law.** -/
theorem Holds.vTaskCSPRouter (h : L.Holds s) (hok : L.Keeps s .route) :
    L.Holds (vTaskCSPRouter e s) := by
  have hrouted := vTaskCSPRouter_routed e s
  generalize LibCSP.vTaskCSPRouter e s = s' at hrouted ⊢
  cases hrouted with
  | aside haside hevs => exact h.routing haside hevs
  | @queued s' evs raw p opts haside hevs hraw hcheck =>
    refine h.aside haside (List.forall_mem_append.2
      ⟨fun ev hev => ofEvent_routing (hevs ev hev), List.forall_mem_singleton.2 ?_⟩)
    refine L.connLess ?_ hcheck
    rw [haside.log]
    exact List.mem_append_right _ (List.mem_append_left _ hraw)
  | known haside hevs hraw _ _ =>
    refine (h.routing haside hevs).routeConn ?_
    rw [haside.log]
    exact List.mem_append_right _ hraw
  | opened haside hevs hraw harrive haccept hi hnew =>
    subst hi
    have hconns := haside.conns
    have hs₂ := (h.routing haside hevs).fresh hnew fun x hx => by
      have hclosed := hnew.closed
      rw [hconns] at hx hclosed
      exact hok _ _ harrive haccept hclosed x hx
    refine hs₂.routeConn ?_
    obtain ⟨evs', hl, -⟩ := hnew.log
    rw [hl, haside.log]
    exact List.mem_append_left _ (List.mem_append_right _ hraw)
  | claimed why buf haside hevs hclaim =>
    exact ((h.routing haside hevs).claimed hclaim).emit fun _ => trivial

/-- **The second half of `csp_connect`** obeys it, if the options do when it reopens a
connection. -/
theorem Holds.connectAllocate (h : L.Holds s) (t : ℕ) (incomingId outgoingId : CspId)
    {opts : U32} (hok : L.Reopens s opts) :
    L.Holds (connectAllocate e t incomingId outgoingId opts s) := by
  have hallocated := connectAllocate_allocated e t incomingId outgoingId opts s
  generalize LibCSP.connectAllocate e t incomingId outgoingId opts s = s' at hallocated ⊢
  cases hallocated with
  | none => exact h.of_eq rfl rfl
  | claimed hclaim => exact (h.claimed hclaim).of_eq rfl rfl
  | rdp hi hnew _ =>
    subst hi
    have hs₁ := h.fresh hnew fun x hx => hok hnew.closed x hx
    exact Holds.connectReturn (hs₁.call trivial)
  | @udp i s₁ hi hnew =>
    subst hi
    have hs₁ := h.fresh hnew fun x hx => hok hnew.closed x hx
    have hidle : L.Holds (s₁.setTask t .idle) := hs₁.of_eq rfl rfl
    exact hidle.emit fun _ => trivial

/-- **A step keeps the law.** -/
theorem Holds.step {a : Action N} (h : L.Holds s) (hok : L.Keeps s a)
    (hst : stackStep e s a = some s') : L.Holds s' := by
  cases stackStep_stepped hst with
  | still hstill => exact h.of_eq hstill.conns hstill.log
  | checkTimeouts i => exact h.call trivial
  | route => exact h.vTaskCSPRouter hok
  | dropped input => exact h.emit fun _ => trivial
  | ported t prio dest dport sport opts => exact h.of_eq rfl rfl
  | allocate ht => exact h.connectAllocate _ _ _ (hok _ _ _ ht)
  | connectWake ht => exact Holds.connectReturn (h.call trivial)
  | connectTimeout ht => exact Holds.connectReturn (h.call trivial)
  | send t i p => exact h.call trivial
  | sendWaits t i p q =>
    have hcall : L.Holds (s.call e i (.send p)) := h.call trivial
    exact hcall.of_eq rfl rfl
  | @sendWake t i p ht =>
    have hcall : L.Holds (s.call e i (.sendWake p)) := h.call trivial
    exact hcall.of_eq rfl rfl
  | sendTimeout t => exact h.of_eq rfl rfl
  | read i => exact h.call trivial
  | close i =>
    have hemit : L.Holds (s.emit (.closed i)) := h.emit fun _ => trivial
    exact hemit.call trivial

omit [NeZero N] in
/-- After `csp_init` there is nothing to obey the law. -/
theorem holds_started (L : Law e N) {s : Stack N} (h : s.Started) : L.Holds s := by
  refine ⟨fun i x hx => ?_, fun ev hev => ?_⟩
  · rw [(h.unused i).rxQueue] at hx
    exact absurd hx List.not_mem_nil
  · rw [h.log] at hev
    exact absurd hev List.not_mem_nil

/-- **A law holds in every run** in which new connections inherit only what they may. -/
theorem run {is : List (Action N)} {s t : Stack N} (hs : s.Started)
    (hrun : Run (stackStep e) L.Keeps s is t) : L.Holds t :=
  hrun.invariant (P := L.Holds) (fun _ _ _ hs hok hst => hs.step hok hst) (holds_started L hs)

end Law

end LibCSP
