/-
# The node as a state machine

The router, its interfaces and the user's tasks take turns.  A turn is an `Action`: the
router looks after the timeouts of one connection, or handles one packet; an interface
hands in a packet; a task makes a call, up to its end or its next wait.  A call on a
connection is one of the functions on `World`s (`Call.exec`), everything else in a
turn happens beside the connections (`Aside`), or is the opening of a connection.

`csp_connect` is in three parts: it looks for a port, it takes a connection and sends the
SYN, and it waits.  `csp_rdp_send` waits too.  What a task needs for its next part lies
in `Stack.tasks`.
-/

import LibCSP.Basis.Run
import LibCSP.Rdp.Shell
import LibCSP.Router.Route
import LibCSP.Security.Check

namespace LibCSP

open Basis

/-! ### Calls -/

/-- A call on a connection. -/
inductive Call
  /-- A round of `csp_conn_check_timeouts`. -/
  | checkTimeouts
  /-- The router passes a checked packet to its transport module. -/
  | packet (p : CspPacket)
  /-- `csp_connect` on a new connection, up to the wait in `csp_rdp_connect`. -/
  | connect
  | connectWake (retry : Bool)
  | connectTimeout
  | send (p : CspPacket)
  | sendWake (p : CspPacket)
  | read
  | close

/-- `csp_send`, up to its end or the wait in `csp_rdp_send`. -/
def sendStart (e : Env) (p : CspPacket) (w : World) : Endpoint :=
  if w.conn.state ≠ .connOpen then ⟨w, .idle⟩
  else if w.conn.idout.has cspFrdp then sendEnter e p w
  else ⟨(cspSendDirect e w.conn.idout (some p) w).2, .idle⟩

def Call.exec (e : Env) : Call → World → World
  | .checkTimeouts, w => cspConnCheckTimeouts e w
  | .packet p, w => if p.id.has cspFrdp then cspRdpNewPacket e p w else cspUdpNewPacket e p w
  | .connect, w => (connectDone e (cspRdpConnect e w)).2
  | .connectWake retry, w => (connectDone e (cspRdpConnectWoken e retry (txWaitTake w))).2
  | .connectTimeout, w => (connectDone e (some (connectError w).1, (connectError w).2)).2
  | .send p, w => (sendStart e p w).world
  | .sendWake p, w => cspSendCommit e p (txWaitTake w)
  | .read, w => (cspRead e w).2
  | .close, w => (cspClose e w).2

/-- What the call can close the connection for. -/
def Call.MayEnd (e : Env) (w : World) : Call → Prop
  | .checkTimeouts => w.conn.idin.has cspFrdp = true ∧
      (w.conn.rxSocket ≠ none ∨ w.conn.rdp.state = .rdpCloseWait) ∧ TimedOut e w
  | .packet p => LibCSP.MayEnd w (rxHeader e.host p) ∧ (w.conn.rxSocket ≠ none ∨ p.id.has cspFrdp)
  | .connect | .connectWake _ | .connectTimeout | .close => True
  | .send _ | .sendWake _ | .read => False

/-- What the call adds to the reorder queue and delivers, if it does, is admitted. -/
def Call.Brings (e : Env) (P D : CspPacket → Prop) : Call → Prop
  | .packet p => (sizeofRdpHeader < p.length.toNat → P (rxPacket e.host p)) ∧ D p
  | _ => True

section Ending

variable {P D : CspPacket → Prop} {w : World}

/-- `csp_connect` may close its connection in the end. -/
theorem connectDone_ending (e : Env) {r : Option CspErr × World} (h : Handling P D w r.2)
    (hk : r.2.conn.rxSocket = w.conn.rxSocket) : Ending True P D w (connectDone e r).2 := by
  unfold connectDone
  split
  · exact .handled h
  · exact .handled h
  · exact h.ending hk (cspClose_ending e h.stored)

/-- Without an error the connection is kept. -/
theorem connectDone_kept (e : Env) {r : Option CspErr × World}
    (hr : r.1 = none ∨ r.1 = some .none) : (connectDone e r).2 = r.2 := by
  unfold connectDone
  rcases hr with hr | hr <;> rw [hr]

/-- A UDP packet is handed over, or ends a connection nobody has. -/
theorem cspUdpNewPacket_ending (e : Env) {p : CspPacket} (hs : AllStored P w.conn) (hp : D p) :
    Ending (w.conn.rxSocket ≠ none) P D w (cspUdpNewPacket e p w) := by
  have hq : Handling P D w (cspConnEnqueuePacket (some p) w).2 :=
    cspConnEnqueuePacket_handling hs hp
  have hk : (cspConnEnqueuePacket (some p) w).2.conn.rxSocket = w.conn.rxSocket := by
    unfold cspConnEnqueuePacket
    simp only
    split
    · rfl
    · split <;> rfl
  unfold cspUdpNewPacket
  simp only
  split
  · exact .handled (hq.inert (.free _ p))
  · cases hsock : (cspConnEnqueuePacket (some p) w).2.conn.rxSocket with
    | none => exact .handled hq
    | some socket =>
      have hne : w.conn.rxSocket ≠ none := by
        rw [← hk, hsock]
        exact Option.some_ne_none socket
      simp only
      split
      · refine .handled (hq.trans ⟨rfl, hq.stored, [.accept socket], rfl, fun _ _ h => ?_, ?_⟩)
        · exact absurd (List.mem_singleton.1 h) nofun
        · exact .once rfl (by rw [hsock]; rfl)
      · have hnext := hq.inert (.next _)
        exact hnext.ending hk ((cspClose_ending e hnext.stored).mono fun _ => hne)

/-- A packet goes to RDP or to UDP, and only that one brings it. -/
theorem Call.packet_ending (hPD : ∀ x, P x → D (cspRdpHeaderRemove x)) (e : Env) {p : CspPacket}
    (hs : AllStored P w.conn)
    (hrdp : p.id.has cspFrdp = true → sizeofRdpHeader < p.length.toNat → P (rxPacket e.host p))
    (hudp : p.id.has cspFrdp = false → D p) :
    Ending ((Call.packet p).MayEnd e w) P D w ((Call.packet p).exec e w) := by
  simp only [Call.exec]
  split
  · rename_i hp
    exact (cspRdpNewPacket_ending hPD e hs (hrdp hp)).mono fun h => ⟨h, .inr hp⟩
  · rename_i hp
    exact (cspUdpNewPacket_ending e hs (hudp (Bool.eq_false_of_not_eq_true hp))).mono
      fun h => ⟨.inl h, .inl h⟩

/-- **What a call does to its connection.** -/
theorem Call.ending (hPD : ∀ x, P x → D (cspRdpHeaderRemove x)) (e : Env) (c : Call)
    (hs : AllStored P w.conn) (hc : c.Brings e P D) :
    Ending (c.MayEnd e w) P D w (c.exec e w) := by
  have hrefl : Handling P D w w := (Inert.refl w).handling D hs
  have htake : Handling P D w (txWaitTake w) := hrefl.inert (.of_eq rfl rfl rfl rfl)
  cases c with
  | checkTimeouts =>
    simp only [Call.exec, cspConnCheckTimeouts]
    split
    · split
      · rename_i hin
        exact (cspRdpCheckTimeouts_ending e hs).mono fun h => ⟨hin, h⟩
      · exact .handled hrefl
    · exact .handled hrefl
  | packet p => exact Call.packet_ending hPD e hs (fun _ => hc.1) fun _ => hc.2
  | connect =>
    have hconnect := cspRdpConnect_inert e w
    exact connectDone_ending e (hconnect.handling D hs) hconnect.rxSocket
  | connectWake retry =>
    obtain ⟨hwoken, hk⟩ := cspRdpConnectWoken_handling (D := D) e retry htake.stored
    exact connectDone_ending e (htake.trans hwoken) hk
  | connectTimeout => exact connectDone_ending e (hrefl.inert (.of_eq rfl rfl rfl rfl)) rfl
  | send p =>
    simp only [Call.exec, sendStart]
    split
    · exact .handled hrefl
    · split
      · exact .handled (hrefl.inert (sendEnter_inert e p w))
      · exact .handled (hrefl.inert (cspSendDirect_inert e _ _ w))
  | sendWake p => exact .handled (htake.inert (cspSendCommit_inert e p _))
  | read => exact .handled (cspRead_handling e hs)
  | close => exact cspClose_ending e hs

/-- For facts that are not about the packets that are stored or delivered. -/
def anyPacket (_ : CspPacket) : Prop := True

/-- **What a call may end and hand over.** -/
theorem Call.ending_any (e : Env) (c : Call) (w : World) :
    Ending (c.MayEnd e w) anyPacket anyPacket w (c.exec e w) := by
  refine Call.ending (fun _ _ => trivial) e c (fun _ _ => trivial) ?_
  cases c with
  | packet p => exact ⟨fun _ => trivial, trivial⟩
  | _ => trivial

end Ending

/-! ### The table -/

variable {N : ℕ}

/-- Connection `i` gets a call. -/
def Stack.call (e : StackEnv) (s : Stack N) (i : Fin N) (c : Call) : Stack N :=
  s.put i (c.exec e.env (s.view i))

/-- The connection of a call. -/
theorem call_conns_self (e : StackEnv) (s : Stack N) (i : Fin N) (c : Call) :
    (s.call e i c).conns i = (c.exec e.env (s.view i)).conn := Function.update_self ..

/-- The other connections stay. -/
theorem call_conns_of_ne {e : StackEnv} {s : Stack N} {i j : Fin N} {c : Call} (h : j ≠ i) :
    (s.call e i c).conns j = s.conns j := Function.update_of_ne h ..

/-- The connection that is set. -/
theorem setConn_conns_self (s : Stack N) (i : Fin N) (c : Conn) : (s.setConn i c).conns i = c :=
  Function.update_self ..

/-- The others stay. -/
theorem setConn_conns_of_ne {s : Stack N} {i j : Fin N} {c : Conn} (h : j ≠ i) :
    (s.setConn i c).conns j = s.conns j := Function.update_of_ne h ..

/-- Connection `i` was closed and is new in `s'`, with these identifiers, socket and options.
Its RDP half is as the last user left it. -/
structure Fresh (s : Stack N) (i : Fin N) (idin idout : CspId) (k : Option ℕ) (opts : U32)
    (s' : Stack N) : Prop where
  closed : (s.conns i).state = .connClosed
  shell : (s'.conns i).shell = ⟨.connOpen, idin, idout, opts⟩
  rxSocket : (s'.conns i).rxSocket = k
  rdp : (s'.conns i).rdp = (s.conns i).rdp
  others : ∀ j, j ≠ i → s'.conns j = s.conns j
  tasks : s'.tasks = s.tasks
  log : ∃ evs : List Event,
    s'.log = s.log ++ .opened i :: evs.map (.conn i (s.conns i).connOpts) ∧
    ∀ ev ∈ evs, ev.Silent

/-- A closed connection is marked open, and that is all.  It is the only one of the table. -/
structure Claimed (s : Stack N) (i : Fin N) (s' : Stack N) : Prop where
  single : N = 1
  closed : (s.conns i).state = .connClosed
  conns : s'.conns = Function.update s.conns i { s.conns i with state := .connOpen }
  tasks : s'.tasks = s.tasks
  log : s'.log = s.log

/-- A connection that was given out gets its socket and options. -/
theorem Fresh.assign {s s' : Stack N} {i : Fin N} {idin idout : CspId} {k : Option ℕ}
    {opts : U32} (h : Fresh s i idin idout k opts s') (k' : Option ℕ) (opts' : U32) :
    Fresh s i idin idout k' opts'
      (s'.setConn i { s'.conns i with rxSocket := k', connOpts := opts' }) := by
  have hself := setConn_conns_self s' i { s'.conns i with rxSocket := k', connOpts := opts' }
  have hshell : (s'.conns i).shell.state = .connOpen ∧ (s'.conns i).shell.idin = idin ∧
      (s'.conns i).shell.idout = idout := by
    rw [h.shell]
    exact ⟨rfl, rfl, rfl⟩
  obtain ⟨hst, hin, hout⟩ := hshell
  refine ⟨h.closed, ?_, ?_, ?_, fun j hj => ?_, h.tasks, h.log⟩
  · rw [hself, ← hst, ← hin, ← hout]
    rfl
  · rw [hself]
  · rw [hself]
    exact h.rdp
  · rw [setConn_conns_of_ne hj]
    exact h.others j hj

section New

variable [NeZero N]

/-- `csp_conn_new` gets the lock and finds a closed connection. -/
def StackEnv.Allots (e : StackEnv) (s : Stack N) : Prop :=
  e.env.connLock s.tick = true ∧ s.search.2 = true

instance (e : StackEnv) (s : Stack N) : Decidable (e.Allots s) :=
  inferInstanceAs (Decidable (_ ∧ _))

/-- Without a lock or a closed connection nothing is given out. -/
theorem cspConnNew_of_not_allots {e : StackEnv} {s : Stack N} (h : ¬ e.Allots s)
    (idin idout : CspId) : cspConnNew e idin idout s = (none, s.next) := by
  unfold cspConnNew
  by_cases hlock : e.env.connLock s.tick = true
  · have hfound : s.search.2 = false := Bool.eq_false_of_not_eq_true fun hf => h ⟨hlock, hf⟩
    simp only [if_pos hlock, hfound, Bool.false_eq_true, if_false]
    exact if_pos (Stack.search_end hfound)
  · exact if_neg hlock

/-- **`csp_conn_new` opens a closed connection, or fails**; when the table has one place only
it fails with that place marked open. -/
theorem cspConnNew_cases (e : StackEnv) (idin idout : CspId) (s : Stack N) :
    ((cspConnNew e idin idout s).1 = none ∧ (cspConnNew e idin idout s).2 = s.next) ∨
      ((cspConnNew e idin idout s).1 = none ∧ Claimed s s.search.1 (cspConnNew e idin idout s).2) ∨
      ((cspConnNew e idin idout s).1 = some s.search.1 ∧
        Fresh s s.search.1 idin idout none (s.conns s.search.1).connOpts
          (cspConnNew e idin idout s).2) := by
  unfold cspConnNew
  cases hlock : e.env.connLock s.tick with
  | false => exact .inl ⟨rfl, rfl⟩
  | true =>
    simp only [if_true]
    cases hfound : s.search.2 with
    | false =>
      rw [if_pos (Stack.search_end hfound)]
      exact .inl ⟨rfl, rfl⟩
    | true =>
      have hclosed : (s.conns s.search.1).state = .connClosed := (cspConnSearch_found hfound).1
      simp only [if_true]
      have hsingle := Stack.search_last hfound
      generalize s.search.1 = i at hclosed hsingle ⊢
      by_cases hlast : i = s.lastGiven
      · rw [if_pos hlast]
        exact .inr (.inl ⟨rfl, hsingle hlast, hclosed, rfl, rfl, rfl⟩)
      · rw [if_neg hlast]
        obtain ⟨s₁, hs₁⟩ : ∃ s₁ : Stack N, s₁ = { s.next.setConn i { s.conns i with
            state := .connOpen } with lastGiven := Fin.ofNat N (i.val % 2 ^ 8) } := ⟨_, rfl⟩
        have hconn : s₁.conns i = { s.conns i with state := .connOpen } := by
          rw [hs₁]
          exact setConn_conns_self s.next i _
        have hlog : s₁.log = s.log := by rw [hs₁]; rfl
        rw [← hs₁]
        obtain ⟨w, hw⟩ : ∃ w, w = cspConnSetup e.env idin idout (s₁.view i) := ⟨_, rfl⟩
        have hview : (s₁.view i).conn = { s.conns i with state := .connOpen } := hconn
        have hself : ((s₁.emit (.opened i)).put i w).conns i = w.conn := Function.update_self ..
        obtain ⟨evs, hevs, hsilent⟩ : Silently (s₁.view i) w := by
          have hset : Silently (s₁.view i) { (cspGetMs e.env (s₁.view i)).2 with
              conn.idin := idin
              conn.idout := idout
              conn.rxSocket := none
              conn.timestamp := (cspGetMs e.env (s₁.view i)).1 } := .of_eq rfl
          rw [hw]
          exact hset.trans (cspConnFlushRxQueue_silently _)
        refine .inr (.inr ⟨rfl, hclosed, ?_, ?_, ?_, fun j hj => ?_, ?_, evs, ?_, hsilent⟩)
        · rw [← hw, hself, hw]
          show Shell.mk (s₁.view i).conn.state idin idout (s₁.view i).conn.connOpts = _
          rw [hview]
        · rw [← hw, hself, hw]
          rfl
        · rw [← hw, hself, hw]
          show (s₁.view i).conn.rdp = _
          rw [hview]
        · show Function.update s₁.conns i _ j = _
          rw [Function.update_of_ne hj, hs₁]
          exact setConn_conns_of_ne hj
        · rw [hs₁]
          rfl
        · rw [← hw]
          show (s₁.log ++ [.opened i]) ++ w.log.map (.conn i (s₁.conns i).connOpts) = _
          rw [hevs, hlog, hconn, List.append_assoc]
          rfl

end New

/-! ### The router's events -/

/-- The event belongs to the router alone: user space and the connections do not take part. -/
def StackEvent.IsRouting : StackEvent N → Prop
  | .queued _ _ | .opened _ | .connected _ | .closed _ | .conn _ _ _ => False
  | _ => True

/-- What is logged when a packet is taken in concerns no connection. -/
theorem intake_routing (e : StackEnv) (s : Stack N) (input : CspRouteQueue) :
    ∀ ev ∈ intake e s input, ev.IsRouting := by
  intro ev hev
  unfold intake at hev
  rcases List.mem_cons.1 hev with rfl | hev
  · trivial
  · split at hev
    · rw [List.mem_singleton.1 hev]
      trivial
    · exact absurd hev List.not_mem_nil

/-- The events of an exit that frees the packet. -/
theorem routing_snoc {evs : List (StackEvent N)} {ev : StackEvent N}
    (h : ∀ ev ∈ evs, ev.IsRouting) (hev : ev.IsRouting) : ∀ ev' ∈ evs ++ [ev], ev'.IsRouting :=
  List.forall_mem_append.2 ⟨h, List.forall_mem_singleton.2 hev⟩

/-- **A packet for a connection is discarded or handed over**, without `CSP_FRDP` only to a
connection that does not require it. -/
theorem routeConn_transport (e : StackEnv) (i : Fin N) (raw : CspPacket) (s : Stack N) :
    (∃ why, (why = .security ∨ why = .noRdp) ∧
        routeConn e i raw s = s.emit (.discarded why (some raw.buf))) ∨
      ∃ p, e.node.cspRouteSecurityCheck (s.conns i).connOpts raw = .ok p ∧
        (p.id.has cspFrdp = true ∨ (s.conns i).connOpts &&& cspSoRdpreq = 0) ∧
        routeConn e i raw s = (s.emit (.handedOver raw.buf)).call e i (.packet p) := by
  unfold routeConn
  cases hcheck : e.node.cspRouteSecurityCheck (s.conns i).connOpts raw with
  | error err => exact .inl ⟨_, .inl rfl, rfl⟩
  | ok p =>
    have hbuf := (cspRouteSecurityCheck_enforced hcheck).identity.buf
    simp only
    rw [hbuf]
    by_cases hrdp : p.id.has cspFrdp
    · rw [if_pos hrdp]
      refine .inr ⟨p, rfl, .inl hrdp, ?_⟩
      rw [Stack.call, Call.exec, if_pos hrdp]
      rfl
    · rw [if_neg hrdp]
      split
      · exact .inl ⟨_, .inr rfl, rfl⟩
      · rename_i hopts
        refine .inr ⟨p, rfl, .inr (not_not.1 hopts), ?_⟩
        rw [Stack.call, Call.exec, if_neg hrdp]
        rfl

/-- A packet for a connection is discarded, or handed to it. -/
theorem routeConn_cases (e : StackEnv) (i : Fin N) (raw : CspPacket) (s : Stack N) :
    (∃ why, (why = .security ∨ why = .noRdp) ∧
        routeConn e i raw s = s.emit (.discarded why (some raw.buf))) ∨
      ∃ p, e.node.cspRouteSecurityCheck (s.conns i).connOpts raw = .ok p ∧
        routeConn e i raw s = (s.emit (.handedOver raw.buf)).call e i (.packet p) := by
  rcases routeConn_transport e i raw s with hend | ⟨p, hp, -, hend⟩
  · exact .inl hend
  · exact .inr ⟨p, hp, hend⟩

/-! ### Actions -/

/-- `csp_bind`. -/
def cspBind (socket : CspSocket) (port : U8) (s : Stack N) : Stack N :=
  if cspAny < port.toNat then s
  else if (s.ports port.toNat).state ≠ .portClosed then s
  else { s with ports := Function.update s.ports port.toNat ⟨.portOpen, some socket⟩ }

/-- `csp_connect` up to the search for a connection. -/
def connectPort (e : StackEnv) (t : ℕ) (prio dest dport : U8) (opts : U32) (s : Stack N) :
    Option (Stack N) :=
  if e.sportLock s.tick then
    let isFree sport :=
      (cspConnFind s.conns (incomingId e.myAddress prio dest dport sport opts)
        cspIdDportMask).isNone
    (sportSearch isFree s.sport 256 s.sport).map fun sport =>
      if sport = s.sport then s.next
      else
        { s.next with sport := sport }.setTask t
          (.allocating (incomingId e.myAddress prio dest dport sport opts)
            (outgoingId e.myAddress prio dest dport sport opts) opts)
  else some s.next

/-- `csp_connect` after `csp_rdp_connect`, or at its wait. -/
def connectReturn (e : StackEnv) (t : ℕ) (i : Fin N) (retry : Bool) (c : Call)
    (err : Option CspErr) (s : Stack N) : Stack N :=
  match err with
  | none => (s.call e i c).setTask t (.connectWait i retry)
  | some .none => ((s.call e i c).setTask t .idle).emit (.connected i)
  | some _ => (s.call e i c).setTask t .idle

variable [NeZero N]

/-- `csp_connect` from the search for a connection on. -/
def connectAllocate (e : StackEnv) (t : ℕ) (incomingId outgoingId : CspId) (opts : U32)
    (s : Stack N) : Stack N :=
  match cspConnNew e incomingId outgoingId s with
  | (none, s) => s.setTask t .idle
  | (some i, s) =>
    let s := s.setConn i { s.conns i with connOpts := opts }
    if outgoingId.has cspFrdp then
      connectReturn e t i true .connect (cspRdpConnect e.env (s.view i)).1 s
    else (s.setTask t .idle).emit (.connected i)

/-- What `csp_connect` finds in the table. -/
inductive Allocated (e : StackEnv) (t : ℕ) (incomingId outgoingId : CspId) (opts : U32)
    (s : Stack N) : Stack N → Prop
  | none : Allocated e t incomingId outgoingId opts s (s.next.setTask t .idle)
  | claimed {s₁ : Stack N} (h : Claimed s s.search.1 s₁) :
      Allocated e t incomingId outgoingId opts s (s₁.setTask t .idle)
  | rdp {i : Fin N} {s₁ : Stack N} (hi : i = s.search.1)
      (h : Fresh s i incomingId outgoingId none opts s₁) (hrdp : outgoingId.has cspFrdp = true) :
      Allocated e t incomingId outgoingId opts s
        (connectReturn e t i true .connect (cspRdpConnect e.env (s₁.view i)).1 s₁)
  | udp {i : Fin N} {s₁ : Stack N} (hi : i = s.search.1)
      (h : Fresh s i incomingId outgoingId none opts s₁) :
      Allocated e t incomingId outgoingId opts s ((s₁.setTask t .idle).emit (.connected i))

/-- **What the second half of `csp_connect` may do.** -/
theorem connectAllocate_allocated (e : StackEnv) (t : ℕ) (incomingId outgoingId : CspId)
    (opts : U32) (s : Stack N) :
    Allocated e t incomingId outgoingId opts s
      (connectAllocate e t incomingId outgoingId opts s) := by
  unfold connectAllocate
  have hcases := cspConnNew_cases e incomingId outgoingId s
  generalize cspConnNew e incomingId outgoingId s = r at hcases ⊢
  obtain ⟨r, s₁⟩ := r
  rcases hcases with ⟨hr, hs₁⟩ | ⟨hr, hs₁⟩ | ⟨hr, hs₁⟩
  · simp only at hr hs₁
    subst hr hs₁
    exact .none
  · simp only at hr hs₁
    subst hr
    exact .claimed hs₁
  · simp only at hr hs₁
    subst hr
    have hnew := hs₁.assign (s₁.conns s.search.1).rxSocket opts
    simp only
    generalize s₁.setConn s.search.1 { s₁.conns s.search.1 with
      rxSocket := (s₁.conns s.search.1).rxSocket, connOpts := opts } = s₂ at hnew ⊢
    rw [hs₁.rxSocket] at hnew
    split
    · exact .rdp rfl hnew ‹_›
    · exact .udp rfl hnew

inductive Action (N : ℕ)
  | checkTimeouts (i : Fin N)
  /-- An iteration of the router after `csp_conn_check_timeouts`. -/
  | route
  /-- `csp_new_packet`. -/
  | newPacket (input : CspRouteQueue)
  | bind (socket : CspSocket) (port : U8)
  | connect (t : ℕ) (prio dest dport : U8) (opts : U32)
  | allocate (t : ℕ)
  | connectWake (t : ℕ)
  | connectTimeout (t : ℕ)
  | send (t : ℕ) (i : Fin N) (p : CspPacket)
  | sendWake (t : ℕ)
  | sendTimeout (t : ℕ)
  | read (i : Fin N)
  | close (i : Fin N)

/-- One action; `none` when it cannot happen in this state. -/
def stackStep (e : StackEnv) (s : Stack N) : Action N → Option (Stack N)
  | .checkTimeouts i => some (s.call e i .checkTimeouts)
  | .route => some (vTaskCSPRouter e s)
  | .newPacket input => some (cspNewPacket input s)
  | .bind socket port => some (cspBind socket port s)
  | .connect t prio dest dport opts =>
    match s.tasks t with
    | .idle => connectPort e t prio dest dport opts s
    | _ => none
  | .allocate t =>
    match s.tasks t with
    | .allocating incomingId outgoingId opts =>
      some (connectAllocate e t incomingId outgoingId opts s)
    | _ => none
  | .connectWake t =>
    match s.tasks t with
    | .connectWait i retry =>
      if (s.conns i).rdp.txWait then
        some (connectReturn e t i false (.connectWake retry)
          (cspRdpConnectWoken e.env retry (txWaitTake (s.view i))).1 s)
      else none
    | _ => none
  | .connectTimeout t =>
    match s.tasks t with
    | .connectWait i _ =>
      some (connectReturn e t i false .connectTimeout (some (connectError (s.view i)).1) s)
    | _ => none
  | .send t i p =>
    match s.tasks t with
    | .idle =>
      match (sendStart e.env p (s.view i)).task with
      | .sendWait q => some ((s.call e i (.send p)).setTask t (.sendWait i q))
      | _ => some (s.call e i (.send p))
    | _ => none
  | .sendWake t =>
    match s.tasks t with
    | .sendWait i p =>
      if (s.conns i).rdp.txWait then some ((s.call e i (.sendWake p)).setTask t .idle) else none
    | _ => none
  | .sendTimeout t =>
    match s.tasks t with
    | .sendWait _ _ => some (s.setTask t .idle)
    | _ => none
  | .read i => some (s.call e i .read)
  | .close i => some ((s.emit (.closed i)).call e i .close)

/-- The actions, each with what it needs and where it leads. -/
inductive StackTurn (e : StackEnv) (s : Stack N) : Action N → Stack N → Prop
  | checkTimeouts (i : Fin N) : StackTurn e s (.checkTimeouts i) (s.call e i .checkTimeouts)
  | route : StackTurn e s .route (vTaskCSPRouter e s)
  | newPacket (input : CspRouteQueue) : StackTurn e s (.newPacket input) (cspNewPacket input s)
  | bind (socket : CspSocket) (port : U8) :
      StackTurn e s (.bind socket port) (cspBind socket port s)
  | connect {t : ℕ} {prio dest dport : U8} {opts : U32} {s' : Stack N} (ht : s.tasks t = .idle)
      (h : connectPort e t prio dest dport opts s = some s') :
      StackTurn e s (.connect t prio dest dport opts) s'
  | allocate {t : ℕ} {incomingId outgoingId : CspId} {opts : U32}
      (ht : s.tasks t = .allocating incomingId outgoingId opts) :
      StackTurn e s (.allocate t) (connectAllocate e t incomingId outgoingId opts s)
  | connectWake {t : ℕ} {i : Fin N} {retry : Bool} (ht : s.tasks t = .connectWait i retry)
      (hwait : (s.conns i).rdp.txWait = true) :
      StackTurn e s (.connectWake t) (connectReturn e t i false (.connectWake retry)
        (cspRdpConnectWoken e.env retry (txWaitTake (s.view i))).1 s)
  | connectTimeout {t : ℕ} {i : Fin N} {retry : Bool} (ht : s.tasks t = .connectWait i retry) :
      StackTurn e s (.connectTimeout t)
        (connectReturn e t i false .connectTimeout (some (connectError (s.view i)).1) s)
  | send {t : ℕ} (i : Fin N) (p : CspPacket) (ht : s.tasks t = .idle) :
      StackTurn e s (.send t i p) (s.call e i (.send p))
  | sendWaits {t : ℕ} (i : Fin N) (p : CspPacket) {q : CspPacket} (ht : s.tasks t = .idle)
      (hq : (sendStart e.env p (s.view i)).task = .sendWait q) :
      StackTurn e s (.send t i p) ((s.call e i (.send p)).setTask t (.sendWait i q))
  | sendWake {t : ℕ} {i : Fin N} {p : CspPacket} (ht : s.tasks t = .sendWait i p)
      (hwait : (s.conns i).rdp.txWait = true) :
      StackTurn e s (.sendWake t) ((s.call e i (.sendWake p)).setTask t .idle)
  | sendTimeout {t : ℕ} {i : Fin N} {p : CspPacket} (ht : s.tasks t = .sendWait i p) :
      StackTurn e s (.sendTimeout t) (s.setTask t .idle)
  | read (i : Fin N) : StackTurn e s (.read i) (s.call e i .read)
  | close (i : Fin N) : StackTurn e s (.close i) ((s.emit (.closed i)).call e i .close)

/-- **Every action is one of these.** -/
theorem stackStep_turn {e : StackEnv} {s s' : Stack N} {a : Action N}
    (h : stackStep e s a = some s') : StackTurn e s a s' := by
  cases a with
  | checkTimeouts i =>
    obtain rfl := Option.some.inj h
    exact .checkTimeouts i
  | route =>
    obtain rfl := Option.some.inj h
    exact .route
  | newPacket input =>
    obtain rfl := Option.some.inj h
    exact .newPacket input
  | bind socket port =>
    obtain rfl := Option.some.inj h
    exact .bind socket port
  | connect t prio dest dport opts =>
    simp only [stackStep] at h
    split at h
    · rename_i ht
      exact .connect ht h
    · exact absurd h.symm (Option.some_ne_none s')
  | allocate t =>
    simp only [stackStep] at h
    split at h
    · rename_i ht
      obtain rfl := Option.some.inj h
      exact .allocate ht
    · exact absurd h.symm (Option.some_ne_none s')
  | connectWake t =>
    simp only [stackStep] at h
    split at h
    · rename_i ht
      split at h
      · rename_i hwait
        obtain rfl := Option.some.inj h
        exact .connectWake ht hwait
      · exact absurd h.symm (Option.some_ne_none s')
    · exact absurd h.symm (Option.some_ne_none s')
  | connectTimeout t =>
    simp only [stackStep] at h
    split at h
    · rename_i ht
      obtain rfl := Option.some.inj h
      exact .connectTimeout ht
    · exact absurd h.symm (Option.some_ne_none s')
  | send t i p =>
    simp only [stackStep] at h
    split at h
    · rename_i ht
      split at h
      · rename_i hq
        obtain rfl := Option.some.inj h
        exact .sendWaits i p ht hq
      · obtain rfl := Option.some.inj h
        exact .send i p ht
    · exact absurd h.symm (Option.some_ne_none s')
  | sendWake t =>
    simp only [stackStep] at h
    split at h
    · rename_i ht
      split at h
      · rename_i hwait
        obtain rfl := Option.some.inj h
        exact .sendWake ht hwait
      · exact absurd h.symm (Option.some_ne_none s')
    · exact absurd h.symm (Option.some_ne_none s')
  | sendTimeout t =>
    simp only [stackStep] at h
    split at h
    · rename_i ht
      obtain rfl := Option.some.inj h
      exact .sendTimeout ht
    · exact absurd h.symm (Option.some_ne_none s')
  | read i =>
    obtain rfl := Option.some.inj h
    exact .read i
  | close i =>
    obtain rfl := Option.some.inj h
    exact .close i

/-- The connections, the tasks and the log are as before. -/
structure Still (s s' : Stack N) : Prop where
  conns : s'.conns = s.conns
  tasks : s'.tasks = s.tasks
  log : s'.log = s.log

/-- What an action is to the connections, the tasks and the log. -/
inductive Stepped (e : StackEnv) (s : Stack N) : Action N → Stack N → Prop
  /-- Only a table, a queue or a counter changes. -/
  | still {a : Action N} {s' : Stack N} (h : Still s s') : Stepped e s a s'
  | checkTimeouts (i : Fin N) : Stepped e s (.checkTimeouts i) (s.call e i .checkTimeouts)
  | route : Stepped e s .route (vTaskCSPRouter e s)
  | dropped (input : CspRouteQueue) :
      Stepped e s (.newPacket input) (s.emit (.dropped input.packet.buf))
  /-- `csp_connect` has a port. -/
  | ported (t : ℕ) (prio dest dport sport : U8) (opts : U32) :
      Stepped e s (.connect t prio dest dport opts) ({ s.next with sport := sport }.setTask t
        (.allocating (incomingId e.myAddress prio dest dport sport opts)
          (outgoingId e.myAddress prio dest dport sport opts) opts))
  | allocate {t : ℕ} {incomingId outgoingId : CspId} {opts : U32}
      (ht : s.tasks t = .allocating incomingId outgoingId opts) :
      Stepped e s (.allocate t) (connectAllocate e t incomingId outgoingId opts s)
  | connectWake {t : ℕ} {i : Fin N} {retry : Bool} (ht : s.tasks t = .connectWait i retry) :
      Stepped e s (.connectWake t) (connectReturn e t i false (.connectWake retry)
        (cspRdpConnectWoken e.env retry (txWaitTake (s.view i))).1 s)
  | connectTimeout {t : ℕ} {i : Fin N} {retry : Bool} (ht : s.tasks t = .connectWait i retry) :
      Stepped e s (.connectTimeout t)
        (connectReturn e t i false .connectTimeout (some (connectError (s.view i)).1) s)
  | send (t : ℕ) (i : Fin N) (p : CspPacket) : Stepped e s (.send t i p) (s.call e i (.send p))
  | sendWaits (t : ℕ) (i : Fin N) (p q : CspPacket) :
      Stepped e s (.send t i p) ((s.call e i (.send p)).setTask t (.sendWait i q))
  | sendWake {t : ℕ} {i : Fin N} {p : CspPacket} (ht : s.tasks t = .sendWait i p) :
      Stepped e s (.sendWake t) ((s.call e i (.sendWake p)).setTask t .idle)
  | sendTimeout (t : ℕ) : Stepped e s (.sendTimeout t) (s.setTask t .idle)
  | read (i : Fin N) : Stepped e s (.read i) (s.call e i .read)
  | close (i : Fin N) : Stepped e s (.close i) ((s.emit (.closed i)).call e i .close)

omit [NeZero N] in
/-- A packet that comes in is enqueued or dropped. -/
theorem cspNewPacket_cases (input : CspRouteQueue) (s : Stack N) :
    Still s (cspNewPacket input s) ∨ cspNewPacket input s = s.emit (.dropped input.packet.buf) := by
  unfold cspNewPacket
  simp only
  split
  · exact .inr rfl
  · split <;> exact .inl ⟨rfl, rfl, rfl⟩

omit [NeZero N] in
/-- `csp_bind` touches no connection. -/
theorem cspBind_still (socket : CspSocket) (port : U8) (s : Stack N) :
    Still s (cspBind socket port s) := by
  unfold cspBind
  split
  · exact ⟨rfl, rfl, rfl⟩
  · split <;> exact ⟨rfl, rfl, rfl⟩

/-- **What the first half of `csp_connect` may do.** -/
theorem connectPort_stepped {e : StackEnv} {s s' : Stack N} {t : ℕ} {prio dest dport : U8}
    {opts : U32} (h : connectPort e t prio dest dport opts s = some s') :
    Stepped e s (.connect t prio dest dport opts) s' := by
  unfold connectPort at h
  split at h
  · obtain ⟨sport, -, rfl⟩ := Option.map_eq_some_iff.1 h
    split
    · exact .still ⟨rfl, rfl, rfl⟩
    · exact .ported t prio dest dport sport opts
  · obtain rfl := Option.some.inj h
    exact .still ⟨rfl, rfl, rfl⟩

/-- **What a step may do:** one case for each action. -/
theorem stackStep_stepped {e : StackEnv} {s s' : Stack N} {a : Action N}
    (h : stackStep e s a = some s') : Stepped e s a s' := by
  cases stackStep_turn h with
  | checkTimeouts i => exact .checkTimeouts i
  | route => exact .route
  | newPacket input =>
    rcases cspNewPacket_cases input s with hstill | hend
    · exact .still hstill
    · rw [hend]
      exact .dropped input
  | bind socket port => exact .still (cspBind_still socket port s)
  | connect _ h => exact connectPort_stepped h
  | allocate ht => exact .allocate ht
  | connectWake ht _ => exact .connectWake ht
  | connectTimeout ht => exact .connectTimeout ht
  | send i p _ => exact .send _ i p
  | sendWaits i p _ _ => exact .sendWaits _ i p _
  | sendWake ht _ => exact .sendWake ht
  | sendTimeout _ => exact .sendTimeout _
  | read i => exact .read i
  | close i => exact .close i

/-! ### An iteration of the router -/

/-- The packet of the next iteration, if it gets to the search for a connection. -/
def Stack.arriving (e : StackEnv) (s : Stack N) : Option CspPacket :=
  ((cspRouteNextPacket s).1.map CspRouteQueue.packet).filter fun p =>
    e.admits s && !decide (e.IsTransit p.id) &&
      ((cspPortGetSocket s.ports p.id.dport.toNat).filter
        fun socket => socket.opts &&& cspSoConnLess ≠ 0).isNone

/-- The open connection that the next iteration hands a packet to, and the packet after the
security check. -/
def Stack.handing (e : StackEnv) (s : Stack N) : Option (Fin N × CspPacket) :=
  (s.arriving e).bind fun raw =>
    (cspConnFind s.conns raw.id cspIdConnMask).bind fun i =>
      (e.node.cspRouteSecurityCheck (s.conns i).connOpts raw).toOption.map fun p => (i, p)

omit [NeZero N] in
/-- The connection and the packet that the router hands to it. -/
theorem handing_eq {e : StackEnv} {s : Stack N} {raw p : CspPacket} {i : Fin N}
    (harrive : s.arriving e = some raw)
    (hfind : cspConnFind s.conns raw.id cspIdConnMask = some i)
    (hcheck : e.node.cspRouteSecurityCheck (s.conns i).connOpts raw = .ok p) :
    s.handing e = some (i, p) := by
  unfold Stack.handing
  rw [harrive, Option.bind_some, hfind, Option.bind_some, hcheck]
  rfl

/-- The packet opens a connection for this socket. -/
def Stack.Accepts (s : Stack N) (p : CspPacket) (socket : CspSocket) : Prop :=
  cspConnFind s.conns p.id cspIdConnMask = none ∧
    cspPortGetSocket s.ports p.id.dport.toNat = some socket

/-- What an iteration of the router can be. -/
inductive Routed (e : StackEnv) (s : Stack N) : Stack N → Prop
  /-- The packet does not get to a connection or a socket. -/
  | aside {s' : Stack N} {evs : List (StackEvent N)} (h : Aside s s' evs)
      (hevs : ∀ ev ∈ evs, ev.IsRouting) : Routed e s s'
  /-- The packet goes to a connection-less socket. -/
  | queued {s' : Stack N} {evs : List (StackEvent N)} {raw p : CspPacket} {opts : U32}
      (h : Aside s s' (evs ++ [.queued opts p])) (hevs : ∀ ev ∈ evs, ev.IsRouting)
      (hraw : .dequeued raw ∈ evs)
      (hcheck : e.node.cspRouteSecurityCheck opts raw = .ok p) : Routed e s s'
  /-- The packet is for a connection that is open. -/
  | known {s₁ : Stack N} {evs : List (StackEvent N)} {raw : CspPacket} {i : Fin N}
      (h : Aside s s₁ evs) (hevs : ∀ ev ∈ evs, ev.IsRouting) (hraw : .dequeued raw ∈ evs)
      (harrive : s.arriving e = some raw)
      (hfind : cspConnFind s.conns raw.id cspIdConnMask = some i) :
      Routed e s (routeConn e i raw s₁)
  /-- The packet opens a connection. -/
  | opened {s₁ s₂ : Stack N} {evs : List (StackEvent N)} {raw : CspPacket} {i : Fin N}
      {socket : CspSocket} (h : Aside s s₁ evs) (hevs : ∀ ev ∈ evs, ev.IsRouting)
      (hraw : .dequeued raw ∈ evs) (harrive : s.arriving e = some raw)
      (haccept : s.Accepts raw socket) (hi : i = s.search.1)
      (hnew : Fresh s₁ i raw.id (replyId e raw.id) socket.queue socket.opts s₂) :
      Routed e s (routeConn e i raw s₂)
  /-- The packet gets no connection, but one is marked open. -/
  | claimed {s₁ s₂ : Stack N} {evs : List (StackEvent N)} {i : Fin N} (why : Discard)
      (buf : Option ℕ) (h : Aside s s₁ evs) (hevs : ∀ ev ∈ evs, ev.IsRouting)
      (hclaim : Claimed s₁ i s₂) : Routed e s (s₂.discard why buf)

/-- A packet to forward touches no connection. -/
theorem routeForward_routed {e : StackEnv} {s s₂ : Stack N} {input : CspRouteQueue}
    {evs : List (StackEvent N)} (h : Aside s s₂ evs) (hevs : ∀ ev ∈ evs, ev.IsRouting) :
    Routed e s (routeForward e input s₂) := by
  rcases routeForward_cases e input s₂ with hend | ⟨nonce, err, wire, -, hend⟩
  · exact .aside (h.trans hend) (routing_snoc hevs trivial)
  · refine .aside (h.trans hend) (List.forall_mem_append.2 ⟨hevs,
      routing_snoc (fun ev hev => ?_) ?_⟩)
    · obtain ⟨q, -, rfl⟩ := List.mem_map.1 hev
      trivial
    · split <;> trivial

/-- **An iteration of the router is one of these.** -/
theorem vTaskCSPRouter_routed (e : StackEnv) (s : Stack N) : Routed e s (vTaskCSPRouter e s) := by
  cases hnext : cspRouteNextPacket s with
  | mk input s₁ =>
  cases input with
  | none =>
    have haside := cspRouteNextPacket_aside s
    unfold vTaskCSPRouter
    rw [hnext] at haside ⊢
    exact .aside haside fun ev hev => absurd hev List.not_mem_nil
  | some input =>
  have hevs := intake_routing e s input
  have hraw : .dequeued input.packet ∈ intake e s input := List.mem_cons_self
  rcases vTaskCSPRouter_cases (e := e) hnext with ⟨-, -, hend⟩ | ⟨hpass, s₂, hs₂, hroute⟩
  · exact .aside hend (routing_snoc hevs trivial)
  · rw [hroute, routePacket]
    have hpacket := hs₂.setPacket (some input.packet.buf)
    generalize { s₂ with packet := some input.packet.buf } = s₃ at hpacket ⊢
    by_cases htransit : e.IsTransit input.packet.id
    · simp only [if_pos htransit]
      exact routeForward_routed hpacket hevs
    · simp only [if_neg htransit, routeLocal]
      rw [hpacket.ports]
      cases hsock : (cspPortGetSocket s.ports input.packet.id.dport.toNat).filter
          fun socket => socket.opts &&& cspSoConnLess ≠ 0 with
      | some socket =>
        simp only [routeConnLess]
        split
        · exact .aside (hpacket.trans (.emit _ _)) (routing_snoc hevs trivial)
        · rename_i p hcheck
          split
          · exact .queued (hpacket.next.trans (.emit _ _)) hevs hraw hcheck
          · exact .aside (hpacket.next.trans (.emit _ _))
              (routing_snoc hevs trivial)
      | none =>
        have harrive : s.arriving e = some input.packet := by
          unfold Stack.arriving
          rw [hnext, Option.map_some, Option.filter_some, if_pos]
          rw [hsock, hpass, decide_eq_false htransit]
          rfl
        simp only
        rw [hpacket.conns]
        cases hfind : cspConnFind s.conns input.packet.id cspIdConnMask with
        | some i => exact .known hpacket hevs hraw harrive hfind
        | none =>
          simp only [routeNew]
          cases hport : cspPortGetSocket s.ports input.packet.id.dport.toNat with
          | none =>
            exact .aside (hpacket.trans (.emit _ _))
              (routing_snoc hevs trivial)
          | some socket =>
            have hsearch : s₃.search.1 = s.search.1 := by
              unfold Stack.search
              rw [hpacket.conns, hpacket.lastGiven]
            have hcases := cspConnNew_cases e input.packet.id (replyId e input.packet.id) s₃
            generalize cspConnNew e input.packet.id (replyId e input.packet.id) s₃ = r at hcases ⊢
            obtain ⟨r, s₄⟩ := r
            rcases hcases with ⟨hr, hs₄⟩ | ⟨hr, hs₄⟩ | ⟨hr, hs₄⟩
            · simp only at hr hs₄
              subst hr hs₄
              exact .aside (hpacket.next.trans (.emit _ _))
                (routing_snoc hevs trivial)
            · simp only at hr hs₄
              subst hr
              exact .claimed .noConn (some input.packet.buf) hpacket hevs hs₄
            · simp only at hr hs₄
              subst hr
              exact .opened hpacket hevs hraw harrive ⟨hfind, hport⟩ hsearch (hs₄.assign _ _)

/-! ### A node with a socket -/

/-- A node with this socket bound to port 10. -/
def Stack.bound (opts : U32) : Stack cspConnMax :=
  cspBind ⟨some 0, opts⟩ 10 (Stack.init cspConnMax)

/-- A packet from node 3 for port 10 of node 1, with these flags. -/
def portPacket (flags : U8) : CspPacket :=
  { CspPacket.blank 3 with buf := 7, id := .ofFields 2 3 1 10 20 flags }

/-- A packet of the same peer with this RDP header. -/
def rdpPacket (flags : RdpFlags) (seqNr ackNr : U16) (payload : List U8) : CspPacket :=
  { segment flags seqNr ackNr payload with buf := 8, id := .ofFields 2 3 1 10 20 cspFrdp }

/-- A SYN packet. -/
def synPacket : CspPacket := rdpPacket .synOnly 100 0 (List.replicate 24 0)

end LibCSP
