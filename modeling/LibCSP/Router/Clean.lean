/-
# Closed connections

`csp_conn_new` hands out a closed connection without touching its RDP half, so RDP must
have left it in `RDP_CLOSED` with empty queues.  `csp_close` sees to that on a connection
whose `idin` has `CSP_FRDP`; on any other it relies on RDP never having been used
(`Conn.Clean`).  That fails in two ways.  The router passes packets to RDP by the flags of the
packet, not of the connection, so a SYN can start RDP on a connection without
`CSP_FRDP`.  And a task that was waiting in `csp_rdp_send` or `csp_rdp_connect`
goes on with its connection without asking whether it is still open.

When neither happens, closed connections are clean in every state reached
(`run_clean`).
-/

import LibCSP.Router.Step

namespace LibCSP

open Basis

/-! ### The RDP half of one connection -/

/-- RDP is in use on an open connection with `CSP_FRDP` only. -/
def Conn.Clean (c : Conn) : Prop :=
  c.state = .connClosed ∨ c.idin.has cspFrdp = false → c.rdp.Unused

/-- An open connection with `CSP_FRDP`. -/
def Conn.IsRdp (c : Conn) : Prop := c.state = .connOpen ∧ c.idin.has cspFrdp = true

instance (c : Conn) : Decidable c.IsRdp := inferInstanceAs (Decidable (_ ∧ _))

/-- Such a connection may use its RDP part. -/
theorem Conn.clean_of_isRdp {c : Conn} (h : c.IsRdp) : c.Clean := by
  rintro (hst | hin)
  · exact absurd (h.1.symm.trans hst) (by decide)
  · exact absurd (h.2.symm.trans hin) (by decide)

/-- Every other one has to leave it unused. -/
theorem Conn.isRdp_or (c : Conn) :
    c.IsRdp ∨ c.state = .connClosed ∨ c.idin.has cspFrdp = false := by
  cases hst : c.state with
  | connClosed => exact .inr (.inl rfl)
  | connOpen =>
    cases hin : c.idin.has cspFrdp with
    | false => exact .inr (.inr rfl)
    | true => exact .inl ⟨hst, hin⟩

/-- Closing leaves the RDP part unused. -/
theorem cspCloseNow_unused {w : World} (e : Env) (h : w.conn.rdp.Unused) :
    (cspCloseNow e w).2.conn.rdp.Unused := by
  unfold cspCloseNow
  split
  · simp only
    split
    · exact ⟨h.state, rfl, rfl⟩
    · exact h
  · exact h

/-- So does `csp_close` as a whole. -/
theorem cspClose_unused {w : World} (e : Env) (h : w.conn.rdp.Unused) :
    (cspClose e w).2.conn.rdp.Unused := by
  unfold cspClose cspRdpClose
  split
  · exact h
  · split
    · rw [h.state]
      exact cspCloseNow_unused e h
    · exact cspCloseNow_unused e h

/-- A segment without SYN keeps no copy. -/
theorem cspRdpSendCmp_none_unused {e : Env} {f : RdpFlags} (hf : f.syn = false) (s a : U16)
    {w : World} (h : w.conn.rdp.Unused) : (cspRdpSendCmp e none f s a w).2.conn.rdp.Unused := by
  have hsends := cspRdpSendCmp_none_sends e f s a w
  refine ⟨(congrArg Control.state hsends.control).trans h.state, ?_, ?_⟩
  · rw [cspRdpSendCmp_txQueue hf]
    exact h.txQueue
  · exact (congrArg Queue.items (congrArg Inbound.reorder hsends.inbound)).trans h.rxQueue

/-- Nor does `discard_close`. -/
theorem discardClose_unused {w : World} (e : Env) (p : CspPacket) (h : w.conn.rdp.Unused) :
    (discardClose e p w).conn.rdp.Unused := by
  unfold discardClose
  split
  · exact h
  · exact cspClose_unused e h

/-- **In `RDP_CLOSED` only a SYN without RST starts RDP.** -/
theorem cspRdpNewPacket_unused {e : Env} {p : CspPacket} {w : World} (h : w.conn.rdp.Unused)
    (hsyn : (rxHeader e.host p).rst = true ∨ (rxHeader e.host p).syn = false) :
    (cspRdpNewPacket e p w).conn.rdp.Unused := by
  unfold cspRdpNewPacket
  simp only
  split
  · obtain ⟨w₁, hw₁, hrdp⟩ : ∃ w₁, w₁ = (if (rxHeader e.host p).ack then
        storeAck (rxHeader e.host p) w else w) ∧ w₁.conn.rdp.Unused := by
      refine ⟨_, rfl, ?_⟩
      split
      · exact ⟨h.state, h.txQueue, h.rxQueue⟩
      · exact h
    simp only [newPacketRst, ← hw₁, hrdp.state, or_true, if_true]
    exact cspClose_unused e hrdp
  · rename_i hrst
    rw [h.state]
    simp only [newPacketClosed, hsyn.resolve_left hrst, Bool.false_eq_true, if_false]
    exact discardClose_unused e _ (cspRdpSendCmp_none_unused rfl _ _ h)

/-- The user's queues are not part of RDP. -/
theorem cspConnEnqueuePacket_rdp (p : Option CspPacket) (w : World) :
    (cspConnEnqueuePacket p w).2.conn.rdp = w.conn.rdp := by
  unfold cspConnEnqueuePacket
  split
  · rfl
  · split
    · rfl
    · simp only
      split <;> rfl

/-- A UDP packet leaves the RDP part unused. -/
theorem cspUdpNewPacket_unused {w : World} (e : Env) (p : CspPacket) (h : w.conn.rdp.Unused) :
    (cspUdpNewPacket e p w).conn.rdp.Unused := by
  have hq : (cspConnEnqueuePacket (some p) w).2.conn.rdp.Unused := by
    rw [cspConnEnqueuePacket_rdp]
    exact h
  unfold cspUdpNewPacket
  simp only
  split
  · exact hq
  · split
    · exact hq
    · split
      · exact hq
      · exact cspClose_unused e hq

/-- So does taking a packet out. -/
theorem readPacket_rdp (w : World) : (readPacket w).2.conn.rdp = w.conn.rdp := by
  obtain ⟨q, h⟩ := readPacket_world w
  rw [h]

/-- Which changes no identifier. -/
theorem readPacket_idin (w : World) : (readPacket w).2.conn.idin = w.conn.idin := by
  obtain ⟨q, h⟩ := readPacket_world w
  rw [h]

/-! ### A call -/

/-- The call does not start RDP on a connection that is not in RDP use. -/
def Call.Tidy (e : Env) (c : Conn) : Call → Prop
  | .packet p => p.id.has cspFrdp = true → c.idin.has cspFrdp = false →
      (rxHeader e.host p).rst = true ∨ (rxHeader e.host p).syn = false
  | .connect | .connectWake _ | .connectTimeout | .sendWake _ => c.IsRdp
  | .checkTimeouts | .send _ | .read | .close => True

instance (e : Env) (c : Conn) (k : Call) : Decidable (k.Tidy e c) :=
  match k with
  | .packet _ => inferInstanceAs (Decidable (_ → _))
  | .connect | .connectWake _ | .connectTimeout | .sendWake _ => inferInstanceAs (Decidable c.IsRdp)
  | .checkTimeouts | .send _ | .read | .close => isTrue trivial

/-- Where RDP is not in use, a tidy call does not start it. -/
theorem Call.unused {e : Env} {c : Call} {w : World}
    (hw : w.conn.state = .connClosed ∨ w.conn.idin.has cspFrdp = false) (h : w.conn.rdp.Unused)
    (hc : c.Tidy e w.conn) (hopen : ∀ p, c = .packet p → w.conn.state = .connOpen) :
    (c.exec e w).conn.rdp.Unused := by
  have hclosed : ¬ w.conn.IsRdp := by
    rintro ⟨hst, hin⟩
    rcases hw with hw | hw
    · exact absurd (hst.symm.trans hw) (by decide)
    · exact absurd (hin.symm.trans hw) (by decide)
  cases c with
  | checkTimeouts =>
    simp only [Call.exec, cspConnCheckTimeouts]
    split
    · split
      · exact absurd ⟨‹_›, ‹_›⟩ hclosed
      · exact h
    · exact h
  | packet p =>
    have hin : w.conn.idin.has cspFrdp = false := by
      rcases hw with hw | hw
      · exact absurd ((hopen p rfl).symm.trans hw) (by decide)
      · exact hw
    simp only [Call.exec]
    split
    · rename_i hp
      exact cspRdpNewPacket_unused h (hc hp hin)
    · exact cspUdpNewPacket_unused e p h
  | connect => exact absurd hc hclosed
  | connectWake retry => exact absurd hc hclosed
  | connectTimeout => exact absurd hc hclosed
  | sendWake p => exact absurd hc hclosed
  | send p =>
    simp only [Call.exec, sendStart]
    split
    · exact h
    · split
      · rw [sendEnter, if_pos (.inr (by rw [h.state]; decide))]
        exact h
      · unfold cspSendDirect
        simp only
        split <;> exact h
  | read =>
    simp only [Call.exec, cspRead]
    split
    · exact h
    · rename_i hst
      have hin : w.conn.idin.has cspFrdp = false := by
        rcases hw with hw | hw
        · exact absurd (by rw [hw]; decide) hst
        · exact hw
      split
      · exact h
      · simp only [readPacket_idin, hin, Bool.false_eq_true, if_false, readPacket_rdp]
        exact h
  | close => exact cspClose_unused e h

/-- **A tidy call keeps a connection clean.** -/
theorem Call.clean {e : Env} {c : Call} {w : World} (h : w.conn.Clean) (hc : c.Tidy e w.conn)
    (hopen : ∀ p, c = .packet p → w.conn.state = .connOpen) : (c.exec e w).conn.Clean := by
  rcases w.conn.isRdp_or with hrdp | hw
  · have hend := Call.ending_any e c w
    generalize c.exec e w = w' at hend
    cases hend with
    | handled hh =>
      refine Conn.clean_of_isRdp ⟨?_, ?_⟩
      · exact (congrArg Shell.state hh.shell).trans hrdp.1
      · exact (congrArg (fun s : Shell => s.idin.has cspFrdp) hh.shell).trans hrdp.2
    | shut _ hh _ hs =>
      have hin := (congrArg (fun s : Shell => s.idin.has cspFrdp) hh.shell).trans hrdp.2
      rcases hs.queues with ⟨htx, hrx⟩ | ⟨hn, -⟩
      · exact fun _ => ⟨hs.rdp hin, by rw [htx]; rfl, by rw [hrx]; rfl⟩
      · exact absurd (hin.symm.trans hn) (by decide)
  · exact fun _ => Call.unused hw (h hw) hc hopen

/-! ### The table -/

/-- `csp_connect` uses RDP in both directions or in none. -/
def Caller.SameFlags {N : ℕ} : Caller N → Prop
  | .allocating incomingId outgoingId _ => incomingId.has cspFrdp = outgoingId.has cspFrdp
  | _ => True

/-- The connections are clean, now and after a pending `csp_connect`. -/
structure CleanStack {N : ℕ} (s : Stack N) : Prop where
  clean : ∀ i, (s.conns i).Clean
  flags : ∀ t, (s.tasks t).SameFlags

namespace CleanStack

variable {N : ℕ} {s s' : Stack N} {i : Fin N} {c : Call} {e : StackEnv}

/-- Cleanliness is a property of connections and tasks. -/
theorem of_eq (h : CleanStack s) (hc : s'.conns = s.conns) (ht : s'.tasks = s.tasks) :
    CleanStack s' :=
  ⟨fun i => by rw [hc]; exact h.clean i, fun t => by rw [ht]; exact h.flags t⟩

/-- A task may wait for a connection with its own flags. -/
theorem setTask (h : CleanStack s) (t : ℕ) (caller : Caller N) (hf : caller.SameFlags) :
    CleanStack (s.setTask t caller) := by
  refine ⟨h.clean, fun t' => ?_⟩
  show (Function.update s.tasks t caller t').SameFlags
  by_cases heq : t' = t
  · rw [heq, Function.update_self]
    exact hf
  · rw [Function.update_of_ne heq]
    exact h.flags t'

/-- A tidy call keeps the connection clean. -/
theorem call (h : CleanStack s) (hc : c.Tidy e.env (s.conns i))
    (hopen : ∀ p, c = .packet p → (s.conns i).state = .connOpen) : CleanStack (s.call e i c) := by
  refine ⟨fun j => ?_, h.flags⟩
  by_cases hj : j = i
  · subst hj
    rw [call_conns_self]
    exact Call.clean (w := s.view j) (h.clean j) hc hopen
  · rw [call_conns_of_ne hj]
    exact h.clean j

/-- A connection that was closed and clean is new. -/
theorem fresh {idin idout : CspId} {k : Option ℕ} {opts : U32} (h : CleanStack s)
    (hnew : Fresh s i idin idout k opts s') : CleanStack s' := by
  refine ⟨fun j => ?_, fun t => by rw [hnew.tasks]; exact h.flags t⟩
  by_cases hj : j = i
  · subst hj
    intro _
    rw [hnew.rdp]
    exact h.clean j (.inl hnew.closed)
  · rw [hnew.others j hj]
    exact h.clean j

/-- A connection that is only marked open is clean as before. -/
theorem claimed (h : CleanStack s) (hclaim : Claimed s i s') : CleanStack s' := by
  refine ⟨fun j => ?_, fun t => by rw [hclaim.tasks]; exact h.flags t⟩
  rw [hclaim.conns]
  by_cases hj : j = i
  · subst hj
    rw [Function.update_self]
    exact fun _ => h.clean j (.inl hclaim.closed)
  · rw [Function.update_of_ne hj]
    exact h.clean j

/-- A packet that is handed to its connection keeps it clean, if the call is tidy. -/
theorem routeConn {raw : CspPacket} (h : CleanStack s) (hst : (s.conns i).state = .connOpen)
    (hc : ∀ p, e.node.cspRouteSecurityCheck (s.conns i).connOpts raw = .ok p →
      (Call.packet p).Tidy e.env (s.conns i)) : CleanStack (routeConn e i raw s) := by
  rcases routeConn_cases e i raw s with ⟨why, -, hend⟩ | ⟨p, hp, hend⟩
  · rw [hend]
    exact h.of_eq rfl rfl
  · rw [hend]
    have hemit : CleanStack (s.emit (.handedOver raw.buf)) := h.of_eq rfl rfl
    exact hemit.call (hc p hp) fun _ _ => hst

/-- So does a `csp_connect` that returns. -/
theorem connectReturn (h : CleanStack s) (hc : c.Tidy e.env (s.conns i))
    (hopen : ∀ p, c = .packet p → (s.conns i).state = .connOpen) (t : ℕ) (retry : Bool)
    (err : Option CspErr) : CleanStack (connectReturn e t i retry c err s) := by
  have hcall : CleanStack (s.call e i c) := h.call hc hopen
  unfold LibCSP.connectReturn
  split
  · exact hcall.setTask t _ trivial
  · exact (hcall.setTask t .idle trivial).of_eq rfl rfl
  · exact hcall.setTask t _ trivial

end CleanStack

/-! ### Steps and runs -/

variable {N : ℕ}

/-- The action makes tidy calls: the router hands no SYN to a connection without
`CSP_FRDP`, and a task that waited finds its connection open and with `CSP_FRDP`. -/
def TidyStep (e : StackEnv) (s : Stack N) : Action N → Prop
  | .route => ∀ r ∈ s.handing e, (Call.packet r.2).Tidy e.env (s.conns r.1)
  | .connectWake t | .connectTimeout t | .sendWake t =>
    ∀ i ∈ (s.tasks t).waitsFor, (s.conns i).IsRdp
  | _ => True

instance (e : StackEnv) (s : Stack N) (a : Action N) : Decidable (TidyStep e s a) :=
  match a with
  | .route => inferInstanceAs (Decidable (∀ r ∈ s.handing e, _))
  | .connectWake t | .connectTimeout t | .sendWake t =>
    inferInstanceAs (Decidable (∀ i ∈ (s.tasks t).waitsFor, _))
  | .checkTimeouts _ | .newPacket _ | .bind _ _ | .connect _ _ _ _ _ | .allocate _ | .send _ _ _
  | .sendTimeout _ | .read _ | .close _ => isTrue trivial

variable [NeZero N]

/-- **A round of the router keeps the stack clean.** -/
theorem vTaskCSPRouter_clean {e : StackEnv} {s : Stack N} (h : CleanStack s)
    (hok : TidyStep e s .route) : CleanStack (vTaskCSPRouter e s) := by
  have hrouted := vTaskCSPRouter_routed e s
  generalize vTaskCSPRouter e s = s' at hrouted ⊢
  cases hrouted with
  | aside haside _ => exact h.of_eq haside.conns haside.tasks
  | queued haside _ _ _ => exact h.of_eq haside.conns haside.tasks
  | known haside _ _ harrive hfind =>
    refine (h.of_eq haside.conns haside.tasks).routeConn ?_ fun p hcheck => ?_
    · rw [haside.conns]
      exact cspConnFind_open hfind
    · rw [haside.conns] at hcheck ⊢
      exact hok _ (handing_eq harrive hfind hcheck)
  | opened haside _ _ _ _ _ hnew =>
    have hst := congrArg Shell.state hnew.shell
    refine ((h.of_eq haside.conns haside.tasks).fresh hnew).routeConn hst fun p hcheck => ?_
    -- the identifier of the connection is that of the packet
    have hid := (cspRouteSecurityCheck_enforced hcheck).identity.id
    have hin : _ = p.id := (congrArg Shell.idin hnew.shell).trans hid.symm
    intro hp hn
    rw [← hin] at hp
    exact absurd (hp.symm.trans hn) (by decide)
  | claimed _ _ haside _ hclaim =>
    exact ((h.of_eq haside.conns haside.tasks).claimed hclaim).of_eq rfl rfl

/-- **The second half of `csp_connect` keeps the stack clean.** -/
theorem connectAllocate_clean {e : StackEnv} {s : Stack N} (h : CleanStack s) (t : ℕ)
    {incomingId outgoingId : CspId} (opts : U32)
    (hf : incomingId.has cspFrdp = outgoingId.has cspFrdp) :
    CleanStack (connectAllocate e t incomingId outgoingId opts s) := by
  have hallocated := connectAllocate_allocated e t incomingId outgoingId opts s
  generalize connectAllocate e t incomingId outgoingId opts s = s' at hallocated ⊢
  cases hallocated with
  | none => exact CleanStack.setTask (s := s.next) (h.of_eq rfl rfl) t .idle trivial
  | claimed hclaim => exact (h.claimed hclaim).setTask t .idle trivial
  | rdp _ hnew hrdp =>
    refine (h.fresh hnew).connectReturn (c := .connect) ⟨congrArg Shell.state hnew.shell, ?_⟩
      (fun _ hc => Call.noConfusion hc) t true _
    exact (congrArg (fun s : Shell => s.idin.has cspFrdp) hnew.shell).trans (hf.trans hrdp)
  | udp _ hnew => exact ((h.fresh hnew).setTask t .idle trivial).of_eq rfl rfl

/-- **A tidy step keeps the connections clean.** -/
theorem CleanStack.step {e : StackEnv} {s s' : Stack N} {a : Action N} (h : CleanStack s)
    (hok : TidyStep e s a) (hst : stackStep e s a = some s') : CleanStack s' := by
  cases stackStep_stepped hst with
  | still hstill => exact h.of_eq hstill.conns hstill.tasks
  | checkTimeouts i => exact h.call trivial fun _ hc => Call.noConfusion hc
  | route => exact vTaskCSPRouter_clean h hok
  | dropped input => exact h.of_eq rfl rfl
  | ported t prio dest dport sport opts =>
    refine CleanStack.setTask (s := { s.next with sport := sport }) (h.of_eq rfl rfl) t _ ?_
    show CspId.has _ _ = CspId.has _ _
    unfold CspId.has incomingId outgoingId
    rw [flags_ofFields, flags_ofFields]
  | @allocate t incomingId outgoingId opts ht =>
    have hf := h.flags t
    rw [ht] at hf
    exact connectAllocate_clean h t _ hf
  | @connectWake t i retry ht =>
    refine h.connectReturn (c := .connectWake retry) (hok i ?_) (fun _ hc => Call.noConfusion hc)
      t _ _
    rw [ht]
    rfl
  | @connectTimeout t i retry ht =>
    refine h.connectReturn (c := .connectTimeout) (hok i ?_) (fun _ hc => Call.noConfusion hc) t _ _
    rw [ht]
    rfl
  | send t i p => exact h.call trivial fun _ hc => Call.noConfusion hc
  | sendWaits t i p q =>
    have hcall : CleanStack (s.call e i (.send p)) :=
      h.call trivial fun _ hc => Call.noConfusion hc
    exact hcall.setTask t (.sendWait i q) trivial
  | @sendWake t i p ht =>
    refine CleanStack.setTask (h.call (c := .sendWake p) (hok i ?_)
      fun _ hc => Call.noConfusion hc) t .idle trivial
    rw [ht]
    rfl
  | sendTimeout t => exact h.setTask t .idle trivial
  | read i => exact h.call trivial fun _ hc => Call.noConfusion hc
  | close i =>
    have hemit : CleanStack (s.emit (.closed i)) := h.of_eq rfl rfl
    exact hemit.call trivial fun _ hc => Call.noConfusion hc

omit [NeZero N] in
/-- After `csp_init` no connection is in use, and no task waits for one. -/
theorem Stack.Started.cleanStack {s : Stack N} (h : s.Started) : CleanStack s := by
  refine ⟨fun i _ => h.unused i, fun t => ?_⟩
  rw [h.tasks t]
  trivial

/-- **Closed connections are clean**, in every run of tidy steps, and a connection that
`csp_conn_new` hands out is in `RDP_CLOSED`. -/
theorem run_clean {e : StackEnv} {is : List (Action N)} {s t : Stack N} (hs : s.Started)
    (hrun : Run (stackStep e) (TidyStep e) s is t) :
    (∀ i, (t.conns i).state = .connClosed → (t.conns i).rdp.Unused) ∧
      ∀ idin idout i, (cspConnNew e idin idout t).1 = some i →
        ((cspConnNew e idin idout t).2.conns i).rdp.Unused := by
  have h : CleanStack t :=
    hrun.invariant (P := CleanStack) (fun _ _ _ hs hok hst => hs.step hok hst) hs.cleanStack
  refine ⟨fun i hi => h.clean i (.inl hi), fun idin idout i hi => ?_⟩
  rcases cspConnNew_cases e idin idout t with ⟨hr, -⟩ | ⟨hr, -⟩ | ⟨hr, hnew⟩
  · exact absurd (hi.symm.trans hr) (Option.some_ne_none i)
  · exact absurd (hi.symm.trans hr) (Option.some_ne_none i)
  · obtain rfl := Option.some.inj (hr.symm.trans hi)
    rw [hnew.rdp]
    exact h.clean _ (.inl hnew.closed)

/-- A peer connects with RDP, and the user closes the connection twice. -/
theorem run_clean_rdp : ∃ t : Stack cspConnMax, Run (stackStep .favourable) (TidyStep .favourable)
    (Stack.init cspConnMax) [.bind ⟨some 0, 0⟩ 10, .newPacket ⟨1, synPacket⟩, .route, .close 1,
      .close 1] t ∧ (t.conns 1).rdp.Unused := by
  refine (Run.of_any (p := fun t : Stack cspConnMax => (t.conns 1).state = .connClosed)
    ?_).imp fun t ht => ⟨ht.1, (run_clean Stack.init_started ht.1).1 1 (of_decide_eq_true ht.2)⟩
  decide +kernel

/-- **A SYN on a connection without `CSP_FRDP` makes it unclean**: it is closed in
`RDP_SYN_RCVD`, with the SYN/ACK in its retransmit queue. -/
theorem syn_on_udp_connection :
    ¬ ∀ (e : StackEnv) (is : List (Action cspConnMax)) (t : Stack cspConnMax),
      Run (stackStep e) (fun _ _ => True) (Stack.init cspConnMax) is t →
        ∀ i, (t.conns i).state = .connClosed → (t.conns i).rdp.Unused := by
  intro h
  have hrun : ∃ t : Stack cspConnMax, Run (stackStep .favourable) (fun _ _ => True)
      (Stack.init cspConnMax) [.bind ⟨some 0, 0⟩ 10, .newPacket ⟨1, portPacket 0⟩, .route,
        .newPacket ⟨1, synPacket⟩, .route, .close 1] t ∧
      decide ((t.conns 1).state = .connClosed ∧ (t.conns 1).rdp.state = .rdpSynRcvd) = true :=
    Run.of_any (by decide +kernel)
  obtain ⟨t, hrun, ht⟩ := hrun
  obtain ⟨hst, hrdp⟩ := of_decide_eq_true ht
  exact absurd ((h _ _ _ hrun 1 hst).state.symm.trans hrdp) (by decide)

end LibCSP
