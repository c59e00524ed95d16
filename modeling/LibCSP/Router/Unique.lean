/-
# One connection for an identifier

`csp_conn_find` returns the first connection in the table whose `idin` has the addresses and
ports of a packet, so no two open connections should have the same.  The router
looks for the addresses and ports before it opens a connection, and opens it in the same iteration.
`csp_connect` looks for a port that no connection has, under `sport_lock`, and only
records it in the table under another lock, in `csp_conn_new`.  In between the port
may be taken: by the router, which gives out `CSP_ANY` too, and by a `csp_connect` that finds
the counter of ports at the same port again.

Where the port is still free when `csp_conn_new` takes a connection, the identifiers of open
connections stay different (`run_uniqueIds`), and so do the ports of those that `csp_connect` made
(`UniquePorts.step`).  Which schedules leave it free is the subject of Router.Contest.
-/

import LibCSP.Basis.Keys
import LibCSP.Router.Traced

namespace LibCSP

open Basis

variable {N : ℕ}

/-! ### Looking up a connection -/

/-- `csp_conn_find` on an array in this order. -/
def cspConnFindIn (order : List (Fin N)) (conns : Fin N → Conn) (id mask : CspId) :
    Option (Fin N) :=
  findKey (fun i => decide ((conns i).state ≠ .connClosed)) (fun i => (conns i).idin &&& mask)
    (id &&& mask) order

/-- The search in the order of the array. -/
theorem cspConnFind_eq (conns : Fin N → Conn) (id mask : CspId) :
    cspConnFind conns id mask = cspConnFindIn (List.finRange N) conns id mask := rfl

/-- Open connections have identifiers that do not agree under `CSP_ID_CONN_MASK`. -/
def UniqueIds (conns : Fin N → Conn) : Prop :=
  Set.InjOn (fun i => (conns i).idin &&& cspIdConnMask) {i | (conns i).state ≠ .connClosed}

section Find

variable {conns : Fin N → Conn} {id mask : CspId} {i : Fin N}

/-- Nothing is found exactly if no open connection matches. -/
theorem cspConnFind_eq_none_iff : cspConnFind conns id mask = none ↔
    ∀ i, (conns i).state ≠ .connClosed → (conns i).idin &&& mask ≠ id &&& mask := by
  rw [cspConnFind_eq, cspConnFindIn, findKey_eq_none_iff]
  exact ⟨fun h i hi => h i (List.mem_finRange i) (decide_eq_true hi),
    fun h i _ hi => h i (of_decide_eq_true hi)⟩

/-- **`csp_conn_find` returns the only connection that matches**, in any order. -/
theorem UniqueIds.find_iff {order : List (Fin N)} (h : UniqueIds conns) (ho : ∀ j, j ∈ order) :
    cspConnFindIn order conns id cspIdConnMask = some i ↔
      (conns i).state ≠ .connClosed ∧ (conns i).idin &&& cspIdConnMask = id &&& cspIdConnMask := by
  have hset : {i | decide ((conns i).state ≠ .connClosed) = true} =
      {i | (conns i).state ≠ .connClosed} := Set.ext fun _ => decide_eq_true_iff
  have hinj : Set.InjOn (fun i => (conns i).idin &&& cspIdConnMask)
      {i | decide ((conns i).state ≠ .connClosed) = true} := hset ▸ h
  rw [cspConnFindIn, findKey_eq_some_iff hinj ho, decide_eq_true_iff]

end Find

/-! ### Steps and runs -/

section Step

variable {s s' : Stack N}

/-- There are two states. -/
theorem open_of_ne_closed {st : ConnState} (h : st ≠ .connClosed) : st = .connOpen := by
  cases st with
  | connClosed => exact absurd rfl h
  | connOpen => rfl

/-- What is open afterwards was open with the same identifier. -/
theorem Shell.Kept.used {c c' : Conn} (h : c.shell.Kept c'.shell)
    (hst : c'.state ≠ .connClosed) : c.state ≠ .connClosed ∧ c'.idin = c.idin := by
  have hsame := h.eq_of_open (open_of_ne_closed hst)
  have hstate : c'.state = c.state := congrArg Shell.state hsame
  exact ⟨hstate ▸ hst, congrArg Shell.idin hsame⟩

/-- Connections that stay keep their identifiers. -/
theorem UniqueIds.staying (h : UniqueIds s.conns) (hs : Staying s s') : UniqueIds s'.conns :=
  injOn_keep h fun j hj => by
    obtain ⟨hused, hin⟩ := (hs.shells j).used hj
    exact ⟨hused, congrArg (· &&& cspIdConnMask) hin⟩

/-- **A new connection with an identifier that matches no open one.** -/
theorem UniqueIds.given {i : Fin N} {c : Shell} (h : UniqueIds s.conns) (hg : Given s i c s')
    (hnew : cspConnFind s.conns c.idin cspIdConnMask = none) : UniqueIds s'.conns := by
  refine injOn_give (i := i) h (fun j hj hji => ?_) fun hi j hj => ?_
  · obtain ⟨hused, hin⟩ := (hg.others j hji).used hj
    exact ⟨hused, congrArg (· &&& cspIdConnMask) hin⟩
  · have hin : (s'.conns i).idin = c.idin :=
      congrArg Shell.idin (hg.self.eq_of_open (open_of_ne_closed hi))
    show (s.conns j).idin &&& cspIdConnMask ≠ (s'.conns i).idin &&& cspIdConnMask
    rw [hin]
    exact cspConnFind_eq_none_iff.1 hnew j hj

end Step

/-- The identifier that a task has chosen for its connection. -/
def Caller.incomingId : Caller N → Option CspId
  | .allocating incomingId _ _ => some incomingId
  | _ => none

variable [NeZero N]

/-- When `csp_conn_new` takes a connection for `csp_connect`, no open one matches its identifier. -/
def StillUnmatched (e : StackEnv) (s : Stack N) : Action N → Prop
  | .allocate t => e.Allots s →
      ((s.tasks t).incomingId.bind fun id => cspConnFind s.conns id cspIdConnMask) = none
  | _ => True

instance (e : StackEnv) (s : Stack N) (a : Action N) : Decidable (StillUnmatched e s a) :=
  match a with
  | .allocate _ => inferInstanceAs (Decidable (e.Allots s → _ = none))
  | .checkTimeouts _ | .route | .newPacket _ | .bind _ _ | .connect _ _ _ _ _ | .connectWake _
  | .connectTimeout _ | .send _ _ _ | .sendWake _ | .sendTimeout _ | .read _ | .close _ =>
    isTrue trivial

/-- **A step keeps the identifiers different**, if none matches the one that is given out. -/
theorem UniqueIds.step {e : StackEnv} {s s' : Stack N} {a : Action N} (h : UniqueIds s.conns)
    (hok : StillUnmatched e s a) (hst : stackStep e s a = some s') : UniqueIds s'.conns := by
  cases stackStep_turned hst with
  | staying hs => exact h.staying hs
  | ported _ hconns _ => exact hconns ▸ h
  | accepted _ haccept hg => exact h.given hg haccept.1
  | allocated ht hallots hg =>
    have hnone := hok hallots
    rw [ht] at hnone
    exact h.given hg hnone
  | single hN =>
    subst hN
    exact fun _ _ _ _ _ => Subsingleton.elim _ _

omit [NeZero N] in
/-- **What `csp_connect` chooses is free:** its port is not that of an open connection.  So if a
connection is taken for it before anything else happens, its identifier matches none. -/
theorem connectPort_free {e : StackEnv} {s s' : Stack N} {t : ℕ} {prio dest dport : U8} {opts : U32}
    (h : connectPort e t prio dest dport opts s = some s') (hidle : s.tasks t = .idle) :
    ∀ incomingId ∈ (s'.tasks t).incomingId, ∀ j, (s'.conns j).state ≠ .connClosed →
      (s'.conns j).idin.dport ≠ incomingId.dport := by
  intro id hid j hj hport
  rcases connectPort_cases h with rfl | ⟨sport, -, -, hfree, rfl⟩
  · have hnone : (s.tasks t).incomingId = none := congrArg Caller.incomingId hidle
    exact absurd (hid.symm.trans hnone) (Option.some_ne_none id)
  · have htask : (({ s.next with sport := sport }.setTask t
        (.allocating (incomingId e.myAddress prio dest dport sport opts)
          (outgoingId e.myAddress prio dest dport sport opts) opts)).tasks t).incomingId =
        some (incomingId e.myAddress prio dest dport sport opts) :=
      congrArg Caller.incomingId (Function.update_self t _ s.tasks)
    obtain rfl := Option.some.inj (htask.symm.trans hid)
    refine cspConnFind_eq_none_iff.1 hfree j hj ?_
    rw [and_dportMask, and_dportMask, ← hport]
    rfl

/-- A `csp_connect` whose parts follow each other meets none that matches. -/
theorem connectPort_unmatched {e : StackEnv} {s s' : Stack N} {t : ℕ} {prio dest dport : U8}
    {opts : U32} (h : connectPort e t prio dest dport opts s = some s')
    (hidle : s.tasks t = .idle) : StillUnmatched e s' (.allocate t) := by
  intro _
  refine Option.bind_eq_none_iff.2 fun id hid => cspConnFind_eq_none_iff.2 fun j hj hin => ?_
  exact connectPort_free h hidle id hid j hj (connMask_eq_iff.1 hin).2.2.1

/-- **Open connections have different identifiers**, in every run in which the port of a
`csp_connect` is still free when it gets a connection, and `csp_conn_find` returns the one that
matches. -/
theorem run_uniqueIds {e : StackEnv} {is : List (Action N)} {port : U8} {t : Stack N}
    (hrun : Run (stackStep e) (StillUnmatched e) (Stack.initAt N port) is t) :
    UniqueIds t.conns ∧ ∀ (order : List (Fin N)) (id : CspId) (i : Fin N), (∀ j, j ∈ order) →
      (cspConnFindIn order t.conns id cspIdConnMask = some i ↔
        (t.conns i).state ≠ .connClosed ∧
          (t.conns i).idin &&& cspIdConnMask = id &&& cspIdConnMask) := by
  have hinit : UniqueIds (Stack.initAt N port).conns := fun _ hi => (hi rfl).elim
  have h : UniqueIds t.conns := hrun.invariant (P := fun s => UniqueIds s.conns)
    (fun _ _ _ h hok hst => h.step hok hst) hinit
  exact ⟨h, fun _ _ _ ho => h.find_iff ho⟩

/-- A packet and a `csp_connect` open two connections with different identifiers. -/
theorem run_uniqueIds_two : ∃ t : Stack cspConnMax,
    Run (stackStep .favourable) (StillUnmatched .favourable) (Stack.initAt cspConnMax 16)
      [.bind ⟨some 0, 0⟩ 10, .newPacket ⟨1, portPacket 0⟩, .route, .connect 0 2 3 20 0,
        .allocate 0] t ∧
    (t.conns 1).state = .connOpen ∧ (t.conns 2).state = .connOpen ∧ UniqueIds t.conns := by
  obtain ⟨t, hrun, ht⟩ : ∃ t : Stack cspConnMax, Run (stackStep .favourable)
      (StillUnmatched .favourable) (Stack.initAt cspConnMax 16)
      [.bind ⟨some 0, 0⟩ 10, .newPacket ⟨1, portPacket 0⟩, .route, .connect 0 2 3 20 0,
        .allocate 0] t ∧
      decide ((t.conns 1).state = .connOpen ∧ (t.conns 2).state = .connOpen) = true :=
    Run.of_any (by decide +kernel)
  obtain ⟨h₁, h₂⟩ := of_decide_eq_true ht
  exact ⟨t, hrun, h₁, h₂, (run_uniqueIds hrun).1⟩

/-- **Port `CSP_ANY`:** the 48th `csp_connect` to port 20 of node 3 gets it, and before the task
goes on a packet comes from there for the socket that is bound to it. -/
theorem any_port_taken :
    ¬ ∀ (e : StackEnv) (is : List (Action cspConnMax)) (port : U8) (t : Stack cspConnMax),
      EphemeralPort port → Run (stackStep e) (fun _ _ => True) (Stack.initAt cspConnMax port) is t →
        UniqueIds t.conns := by
  intro h
  obtain ⟨t, hrun, ht⟩ : ∃ t : Stack cspConnMax, Run (stackStep .favourable) (fun _ _ => True)
      (Stack.initAt cspConnMax 16)
      (.bind ⟨some 0, 0⟩ 16 :: ((List.range 48).map fun t => .connect t 2 3 20 0) ++
        [.newPacket ⟨1, { portPacket 0 with id := .ofFields 2 3 1 16 20 0 }⟩, .route,
          .allocate 47]) t ∧
      decide ((t.conns 1).state ≠ .connClosed ∧ (t.conns 2).state ≠ .connClosed ∧
        (t.conns 1).idin &&& cspIdConnMask = (t.conns 2).idin &&& cspIdConnMask) = true :=
    Run.of_any (by decide +kernel)
  obtain ⟨h₁, h₂, hin⟩ := of_decide_eq_true ht
  exact absurd (h _ _ _ _ (by decide) hrun h₁ h₂ hin) (by decide)

/-! ### Ports of `csp_connect` -/

/-- The open connections that `csp_connect` made. -/
def Traced.made (x : Traced N) : Set (Fin N) :=
  {i | x.byConnect i = true ∧ (x.stack.conns i).state ≠ .connClosed}

instance (x : Traced N) (i : Fin N) : Decidable (i ∈ x.made) :=
  inferInstanceAs (Decidable (_ ∧ _))

/-- They have different ports. -/
def UniquePorts (x : Traced N) : Prop :=
  Set.InjOn (fun i => (x.stack.conns i).idin.dport) x.made

/-- When `csp_conn_new` takes a connection for `csp_connect`, none that `csp_connect` made has its
port. -/
def PortStillFree (e : StackEnv) (x : Traced N) : Action N → Prop
  | .allocate t => e.Allots x.stack → ∀ i, i ∈ x.made →
      (x.stack.tasks t).incomingId.map CspId.dport ≠ some (x.stack.conns i).idin.dport
  | _ => True

instance (e : StackEnv) (x : Traced N) (a : Action N) : Decidable (PortStillFree e x a) :=
  match a with
  | .allocate _ => inferInstanceAs (Decidable (e.Allots x.stack → ∀ i, i ∈ x.made → _ ≠ _))
  | .checkTimeouts _ | .route | .newPacket _ | .bind _ _ | .connect _ _ _ _ _ | .connectWake _
  | .connectTimeout _ | .send _ _ _ | .sendWake _ | .sendTimeout _ | .read _ | .close _ =>
    isTrue trivial

/-- **A step keeps the ports different**, if the port is still free. -/
theorem UniquePorts.step {e : StackEnv} {x y : Traced N} {a : Action N} (h : UniquePorts x)
    (hok : PortStillFree e x a) (hst : tracedStep e x a = some y) : UniquePorts y := by
  cases tracedStep_turn hst with
  | staying hs hby =>
    refine injOn_keep h fun j ⟨hj, hst⟩ => ?_
    obtain ⟨hused, hin⟩ := (hs.shells j).used hst
    exact ⟨⟨hby ▸ hj, hused⟩, congrArg CspId.dport hin⟩
  | ported _ hconns hby =>
    refine injOn_keep h fun j ⟨hj, hst⟩ => ⟨⟨hby ▸ hj, hconns ▸ hst⟩, ?_⟩
    rw [hconns]
  | @accepted _ raw socket i _ _ hg hby =>
    refine injOn_give (i := i) h (fun j ⟨hj, hst⟩ hji => ?_) fun ⟨hi, _⟩ => ?_
    · rw [hby, Function.update_of_ne hji] at hj
      obtain ⟨hused, hin⟩ := (hg.others j hji).used hst
      exact ⟨⟨hj, hused⟩, congrArg CspId.dport hin⟩
    · rw [hby, Function.update_self] at hi
      exact absurd hi Bool.false_ne_true
  | @allocated t inId outId opts _ i ht hallots hg hby =>
    refine injOn_give (i := i) h (fun j ⟨hj, hst⟩ hji => ?_) fun ⟨_, hi⟩ j hj => ?_
    · rw [hby, Function.update_of_ne hji] at hj
      obtain ⟨hused, hin⟩ := (hg.others j hji).used hst
      exact ⟨⟨hj, hused⟩, congrArg CspId.dport hin⟩
    · have hin : (y.stack.conns i).idin = inId :=
        congrArg Shell.idin (hg.self.eq_of_open (open_of_ne_closed hi))
      show (x.stack.conns j).idin.dport ≠ (y.stack.conns i).idin.dport
      rw [hin]
      have hport := hok hallots j hj
      rw [ht] at hport
      exact fun heq => hport (congrArg some heq.symm)
  | single hN =>
    subst hN
    exact fun _ _ _ _ _ => Subsingleton.elim _ _

end LibCSP
