/-
# Who a connection belongs to

A place of the connection table goes to a new user when `csp_conn_new` returns it, to the
router for a packet or to `csp_connect` for a task.  In between its identifiers and
options stay, and the only thing that may happen to it is that it is closed
(`Shell.Kept`).  So every action either gives no place to a new user, or one, and then
the action says to whom (`Turned`).
-/

import LibCSP.Router.Handle
import LibCSP.Router.Provenance

namespace LibCSP

open Basis

/-! ### One connection -/

/-- The identifiers and options stay; the connection may be closed. -/
def Shell.Kept (c c' : Shell) : Prop := c' = c ∨ c' = { c with state := .connClosed }

namespace Shell.Kept

variable {c c' c'' : Shell}

/-- Nothing happens. -/
theorem refl (c : Shell) : c.Kept c := .inl rfl

/-- One step after the other. -/
theorem trans (h : c.Kept c') (h' : c'.Kept c'') : c.Kept c'' := by
  rcases h with rfl | rfl
  · exact h'
  · rcases h' with rfl | rfl <;> exact .inr rfl

/-- What is open afterwards is as before. -/
theorem eq_of_open (h : c.Kept c') (hst : c'.state = .connOpen) : c' = c := by
  rcases h with rfl | rfl
  · rfl
  · exact absurd (show ConnState.connClosed = .connOpen from hst) (by decide)

end Shell.Kept

/-- A call closes its connection, or keeps it as it is. -/
theorem Ending.kept {c : Prop} {P D : CspPacket → Prop} {w w' : World} (h : Ending c P D w w') :
    w.conn.shell.Kept w'.conn.shell := by
  cases h with
  | handled h => exact .inl h.shell
  | shut _ h _ hs =>
    rw [hs.shell, h.shell]
    exact .inr rfl

variable {N : ℕ}

/-! ### Events -/

/-- The event is neither of a connection nor of `csp_conn_new`. -/
def StackEvent.Aloof : StackEvent N → Prop
  | .opened _ | .conn _ _ _ => False
  | _ => True

/-- No connection is given to anybody, and packets are delivered under these options. -/
structure StackEvent.Under (options : Fin N → U32) (ev : StackEvent N) : Prop where
  reopens : ev.reopens = none
  deliver : ∀ i opts st q, ev = .conn i opts (.deliver st q) → opts = options i

/-- The options of the connections. -/
def Stack.options (s : Stack N) (i : Fin N) : U32 := (s.conns i).connOpts

section Event

variable {ev : StackEvent N}

/-- An event that concerns no connection says nothing about options. -/
theorem StackEvent.Aloof.under (h : ev.Aloof) (options : Fin N → U32) : ev.Under options := by
  cases ev with
  | opened _ => exact h.elim
  | conn _ _ _ => exact h.elim
  | _ => exact ⟨rfl, fun _ _ _ _ heq => by cases heq⟩

/-- The router's own events concern no connection. -/
theorem StackEvent.IsRouting.aloof (h : ev.IsRouting) : ev.Aloof := by
  cases ev with
  | opened _ => exact h.elim
  | conn _ _ _ => exact h.elim
  | _ => trivial

/-- A call is logged under the options of its connection. -/
theorem call_under (i : Fin N) (options : Fin N → U32) (x : Event) :
    (StackEvent.conn i (options i) x).Under options := by
  refine ⟨rfl, fun _ _ _ _ heq => ?_⟩
  obtain ⟨rfl, rfl, -⟩ := StackEvent.conn.inj heq
  rfl

/-- A silent event says nothing about options. -/
theorem silent_under {x : Event} (h : x.Silent) (i : Fin N) (opts : U32)
    (options : Fin N → U32) : (StackEvent.conn i opts x).Under options := by
  refine ⟨rfl, fun _ _ _ _ heq => ?_⟩
  obtain ⟨-, -, rfl⟩ := StackEvent.conn.inj heq
  exact h.elim

end Event

/-! ### The table -/

/-- No connection goes to a new user. -/
structure Staying (s s' : Stack N) : Prop where
  shells : ∀ i, (s.conns i).shell.Kept (s'.conns i).shell
  tasks : ∀ t incomingId outgoingId opts, s'.tasks t = .allocating incomingId outgoingId opts →
    s.tasks t = .allocating incomingId outgoingId opts
  log : ∃ evs, s'.log = s.log ++ evs ∧ ∀ ev ∈ evs, ev.Under s.options

namespace Staying

variable {s s' s'' : Stack N}

/-- The options stay. -/
theorem options (h : Staying s s') : s'.options = s.options := by
  funext i
  rcases h.shells i with hi | hi <;> exact congrArg Shell.connOpts hi

/-- One step after the other. -/
theorem trans (h : Staying s s') (h' : Staying s' s'') : Staying s s'' := by
  have hoptions := h.options
  obtain ⟨evs, hl, hevs⟩ := h.log
  obtain ⟨evs', hl', hevs'⟩ := h'.log
  refine ⟨fun i => (h.shells i).trans (h'.shells i),
    fun t _ _ _ ht => h.tasks t _ _ _ (h'.tasks t _ _ _ ht),
    evs ++ evs', by rw [hl', hl, List.append_assoc], List.forall_mem_append.2 ⟨hevs, ?_⟩⟩
  rwa [hoptions] at hevs'

/-- A step that touches no connection. -/
theorem still (h : Still s s') : Staying s s' := by
  refine ⟨fun i => ?_, fun t _ _ _ ht => ?_, [], ?_, fun _ hev => absurd hev List.not_mem_nil⟩
  · rw [h.conns]
    exact .refl _
  · rw [← h.tasks]
    exact ht
  · rw [h.log, List.append_nil]

/-- Nothing happens. -/
theorem refl (s : Stack N) : Staying s s := still ⟨rfl, rfl, rfl⟩

/-- What happens aside of the connections. -/
theorem aside {evs : List (StackEvent N)} (h : Aside s s' evs)
    (hevs : ∀ ev ∈ evs, ev.Aloof) : Staying s s' := by
  refine ⟨fun i => ?_, fun t _ _ _ ht => ?_, evs, h.log, fun ev hev => (hevs ev hev).under _⟩
  · rw [h.conns]
    exact .refl _
  · rw [← h.tasks]
    exact ht

/-- In particular the router's own events. -/
theorem routing {evs : List (StackEvent N)} (h : Aside s s' evs)
    (hevs : ∀ ev ∈ evs, ev.IsRouting) : Staying s s' :=
  aside h fun ev hev => (hevs ev hev).aloof

/-- An event that concerns no connection. -/
theorem emit (s : Stack N) {ev : StackEvent N} (h : ev.Aloof) : Staying s (s.emit ev) :=
  aside (.emit s ev) fun _ hev => List.mem_singleton.1 hev ▸ h

/-- A task goes on to something else than `csp_conn_new`. -/
theorem setTask (s : Stack N) (t : ℕ) {c : Caller N}
    (hc : ∀ incomingId outgoingId opts, c ≠ .allocating incomingId outgoingId opts) :
    Staying s (s.setTask t c) := by
  refine ⟨fun _ => .refl _, fun t' _ _ _ ht => ?_, [], (List.append_nil _).symm,
    fun _ hev => absurd hev List.not_mem_nil⟩
  by_cases htt : t' = t
  · subst htt
    have hself : (s.setTask t' c).tasks t' = c := Function.update_self ..
    exact absurd (hself.symm.trans ht) (hc _ _ _)
  · have hother : (s.setTask t c).tasks t' = s.tasks t' := Function.update_of_ne htt ..
    exact hother.symm.trans ht

/-- A task that becomes idle. -/
theorem setIdle (s : Stack N) (t : ℕ) : Staying s (s.setTask t .idle) :=
  setTask s t fun _ _ _ heq => by cases heq

/-- **A call leaves its connection to its user, or closes it.** -/
theorem call (e : StackEnv) (s : Stack N) (i : Fin N) (c : Call) : Staying s (s.call e i c) := by
  have hend := Call.ending_any e.env c (s.view i)
  obtain ⟨-, -, evs, hl, -⟩ := hend.brings
  refine ⟨fun j => ?_, fun _ _ _ _ ht => ht, evs.map (.conn i (s.conns i).connOpts), ?_,
    fun ev hev => ?_⟩
  · by_cases hji : j = i
    · subst hji
      rw [call_conns_self]
      exact hend.kept
    · rw [call_conns_of_ne hji]
      exact .refl _
  · show s.log ++ (c.exec e.env (s.view i)).log.map _ = _
    rw [hl]
    rfl
  · obtain ⟨x, -, rfl⟩ := List.mem_map.1 hev
    exact call_under i s.options x

/-- A `csp_connect` that returns closes its connection, or keeps it. -/
theorem connectReturn (e : StackEnv) (t : ℕ) (i : Fin N) (retry : Bool) (c : Call)
    (err : Option CspErr) (s : Stack N) : Staying s (connectReturn e t i retry c err s) := by
  have hcall := call e s i c
  unfold LibCSP.connectReturn
  split
  · exact hcall.trans (setTask _ t fun _ _ _ heq => by cases heq)
  · exact (hcall.trans (setIdle _ t)).trans (emit _ trivial)
  · exact hcall.trans (setIdle _ t)

/-- So does a packet for a connection. -/
theorem routeConn (e : StackEnv) (i : Fin N) (raw : CspPacket) (s : Stack N) :
    Staying s (routeConn e i raw s) := by
  rcases routeConn_cases e i raw s with ⟨why, -, hend⟩ | ⟨p, -, hend⟩
  · rw [hend]
    exact emit s trivial
  · rw [hend]
    have hemit : Staying s (s.emit (.handedOver raw.buf)) := emit s trivial
    exact hemit.trans (call e _ i _)

end Staying

/-- Connection `i` was closed and goes to a new user with this shell; the others stay with
theirs. -/
structure Given (s : Stack N) (i : Fin N) (c : Shell) (s' : Stack N) : Prop where
  closed : (s.conns i).state = .connClosed
  self : c.Kept (s'.conns i).shell
  others : ∀ j, j ≠ i → (s.conns j).shell.Kept (s'.conns j).shell
  tasks : ∀ t incomingId outgoingId opts, s'.tasks t = .allocating incomingId outgoingId opts →
    s.tasks t = .allocating incomingId outgoingId opts
  log : ∃ evs evs', s'.log = s.log ++ evs ++ .opened i :: evs' ∧
    (∀ ev ∈ evs, ev.Aloof) ∧ ∀ ev ∈ evs', ev.Under s'.options

/-- A connection that is given out is open, with its identifiers and options. -/
theorem Fresh.given {s s' : Stack N} {i : Fin N} {idin idout : CspId} {k : Option ℕ} {opts : U32}
    (h : Fresh s i idin idout k opts s') : Given s i ⟨.connOpen, idin, idout, opts⟩ s' := by
  obtain ⟨evs, hl, hsilent⟩ := h.log
  refine ⟨h.closed, .inl h.shell, fun j hj => .inl (by rw [h.others j hj]),
    fun t _ _ _ ht => h.tasks ▸ ht, [], evs.map (.conn i (s.conns i).connOpts), ?_,
    fun _ hev => absurd hev List.not_mem_nil, fun ev hev => ?_⟩
  · rw [hl, List.append_nil]
  · obtain ⟨x, hx, rfl⟩ := List.mem_map.1 hev
    exact silent_under (hsilent x hx) i _ _

namespace Given

variable {s s₁ s₂ s' : Stack N} {i : Fin N} {c : Shell}

/-- Something happens beside the connections first. -/
theorem after {evs : List (StackEvent N)} (h : Given s₁ i c s') (ha : Aside s s₁ evs)
    (hevs : ∀ ev ∈ evs, ev.IsRouting) : Given s i c s' := by
  obtain ⟨evs₁, evs', hl, hevs₁, hevs'⟩ := h.log
  obtain ⟨hclosed, hself, hothers, htasks, -⟩ := h
  rw [ha.conns] at hclosed hothers
  rw [ha.tasks] at htasks
  refine ⟨hclosed, hself, hothers, htasks, evs ++ evs₁, evs', ?_, ?_, hevs'⟩
  · rw [hl, ha.log, List.append_assoc s.log]
  · exact List.forall_mem_append.2 ⟨fun ev hev => (hevs ev hev).aloof, hevs₁⟩

/-- And stays so. -/
theorem staying (h : Given s i c s₁) (h' : Staying s₁ s') : Given s i c s' := by
  obtain ⟨evs, evs₁, hl, hevs, hevs₁⟩ := h.log
  obtain ⟨evs', hl', hevs'⟩ := h'.log
  refine ⟨h.closed, h.self.trans (h'.shells i), fun j hj => (h.others j hj).trans (h'.shells j),
    fun t _ _ _ ht => h.tasks t _ _ _ (h'.tasks t _ _ _ ht), evs, evs₁ ++ evs', ?_, hevs, ?_⟩
  · rw [hl', hl, List.append_assoc, List.cons_append]
  · rw [h'.options]
    exact List.forall_mem_append.2 ⟨hevs₁, hevs'⟩

end Given

/-- In a table of one place only the state of a connection may change. -/
theorem Claimed.shells {s s' : Stack N} {i : Fin N} (h : Claimed s i s') (j : Fin N) :
    ∃ st, (s'.conns j).shell = { (s.conns j).shell with state := st } := by
  rw [h.conns]
  by_cases hji : j = i
  · subst hji
    rw [Function.update_self]
    exact ⟨.connOpen, rfl⟩
  · rw [Function.update_of_ne hji]
    exact ⟨_, rfl⟩

/-! ### Actions -/

variable [NeZero N]

/-- What an action does to the table. -/
inductive Turned (e : StackEnv) (s : Stack N) : Action N → Stack N → Prop
  | staying {a : Action N} {s' : Stack N} (h : Staying s s') : Turned e s a s'
  /-- `csp_connect` has a port, and nothing else changes. -/
  | ported {t : ℕ} {prio dest dport : U8} {opts : U32} {s' : Stack N}
      (h : connectPort e t prio dest dport opts s = some s') (hconns : s'.conns = s.conns)
      (hlog : s'.log = s.log) : Turned e s (.connect t prio dest dport opts) s'
  /-- The router opens a connection for a packet. -/
  | accepted {s' : Stack N} {raw : CspPacket} {socket : CspSocket} {i : Fin N}
      (harrive : s.arriving e = some raw) (haccept : s.Accepts raw socket)
      (h : Given s i ⟨.connOpen, raw.id, replyId e raw.id, socket.opts⟩ s') :
      Turned e s .route s'
  /-- `csp_connect` opens a connection. -/
  | allocated {t : ℕ} {incomingId outgoingId : CspId} {opts : U32} {s' : Stack N} {i : Fin N}
      (ht : s.tasks t = .allocating incomingId outgoingId opts) (hallots : e.Allots s)
      (h : Given s i ⟨.connOpen, incomingId, outgoingId, opts⟩ s') :
      Turned e s (.allocate t) s'
  /-- The table has one place, which is marked open and not given to anybody. -/
  | single {a : Action N} {s' : Stack N} (hN : N = 1)
      (hshells : ∀ i, ∃ st, (s'.conns i).shell = { (s.conns i).shell with state := st })
      (hlog : ∃ evs, s'.log = s.log ++ evs ∧ ∀ ev ∈ evs, ev.Aloof)
      (htasks : ∀ t incomingId outgoingId opts,
        s'.tasks t = .allocating incomingId outgoingId opts →
          s.tasks t = .allocating incomingId outgoingId opts) : Turned e s a s'

/-- **What a round of the router does to the table.** -/
theorem vTaskCSPRouter_turned (e : StackEnv) (s : Stack N) :
    Turned e s .route (vTaskCSPRouter e s) := by
  have hrouted := vTaskCSPRouter_routed e s
  generalize vTaskCSPRouter e s = s' at hrouted ⊢
  cases hrouted with
  | aside haside hevs => exact .staying (.routing haside hevs)
  | queued haside hevs _ _ =>
    refine .staying (.aside haside (List.forall_mem_append.2 ⟨?_, ?_⟩))
    · exact fun ev hev => (hevs ev hev).aloof
    · exact List.forall_mem_singleton.2 trivial
  | known haside hevs _ _ _ =>
    exact .staying ((Staying.routing haside hevs).trans (.routeConn e _ _ _))
  | opened haside hevs _ harrive haccept _ hnew =>
    exact .accepted harrive haccept
      ((hnew.given.after haside hevs).staying (.routeConn e _ _ _))
  | @claimed s₁ s₂ evs i why buf haside hevs hclaim =>
    refine .single hclaim.single (fun i => ?_) ?_ fun t _ _ _ ht => ?_
    · obtain ⟨st, hst⟩ := hclaim.shells i
      rw [haside.conns] at hst
      exact ⟨st, hst⟩
    · refine ⟨evs ++ [.discarded why buf], ?_, List.forall_mem_append.2
        ⟨fun ev hev => (hevs ev hev).aloof, List.forall_mem_singleton.2 ?_⟩⟩
      · rw [← List.append_assoc, ← haside.log, ← hclaim.log]
        rfl
      · trivial
    · have htasks := haside.tasks
      rw [← hclaim.tasks] at htasks
      exact htasks ▸ ht

/-- **What the second half of `csp_connect` does to the table.** -/
theorem connectAllocate_turned {e : StackEnv} {s : Stack N} {t : ℕ} {incomingId outgoingId : CspId}
    {opts : U32} (ht : s.tasks t = .allocating incomingId outgoingId opts) :
    Turned e s (.allocate t) (connectAllocate e t incomingId outgoingId opts s) := by
  have hnext : Staying s s.next := .still ⟨rfl, rfl, rfl⟩
  have hidle : Staying s (s.next.setTask t .idle) := hnext.trans (.setIdle s.next t)
  by_cases hallots : e.Allots s
  · have hallocated := connectAllocate_allocated e t incomingId outgoingId opts s
    generalize connectAllocate e t incomingId outgoingId opts s = s' at hallocated ⊢
    cases hallocated with
    | none => exact .staying hidle
    | @claimed s₁ hclaim =>
      refine .single hclaim.single hclaim.shells ⟨[], ?_, fun _ hev => absurd hev List.not_mem_nil⟩
        fun t' _ _ _ ht' => ?_
      · rw [List.append_nil]
        exact hclaim.log
      · exact hclaim.tasks ▸ (Staying.setIdle s₁ t).tasks t' _ _ _ ht'
    | rdp _ hnew _ => exact .allocated ht hallots (hnew.given.staying (.connectReturn ..))
    | udp _ hnew =>
      refine .allocated ht hallots (hnew.given.staying ?_)
      exact (Staying.setIdle _ t).trans (.emit _ trivial)
  · refine .staying ?_
    unfold connectAllocate
    rw [cspConnNew_of_not_allots hallots]
    exact hidle

/-- **Every action leaves the connections to their users, or gives one to a new one.** -/
theorem stackStep_turned {e : StackEnv} {s s' : Stack N} {a : Action N}
    (h : stackStep e s a = some s') : Turned e s a s' := by
  cases stackStep_stepped h with
  | still hstill => exact .staying (.still hstill)
  | checkTimeouts i => exact .staying (.call e s i _)
  | route => exact vTaskCSPRouter_turned e s
  | dropped input => exact .staying (.emit s trivial)
  | ported t prio dest dport sport opts =>
    cases stackStep_turn h with
    | connect _ h => exact .ported h rfl rfl
  | allocate ht => exact connectAllocate_turned ht
  | connectWake ht => exact .staying (.connectReturn ..)
  | connectTimeout ht => exact .staying (.connectReturn ..)
  | send t i p => exact .staying (.call e s i _)
  | sendWaits t i p q =>
    exact .staying ((Staying.call e s i _).trans (.setTask _ t fun _ _ _ heq => by cases heq))
  | @sendWake t i p ht => exact .staying ((Staying.call e s i _).trans (.setIdle _ t))
  | sendTimeout t => exact .staying (.setIdle s t)
  | read i => exact .staying (.call e s i _)
  | close i =>
    have hemit : Staying s (s.emit (.closed i)) := .emit s trivial
    exact .staying (hemit.trans (.call e _ i _))

end LibCSP
