/-
# What `csp_connect` made

A connection does not tell who opened it.  `tracedStep` is `stackStep` with a note of that
beside the table.  A connection from `csp_connect` has the identifiers and options that
were asked for, with an ephemeral port as its own (`Requested`).  The ephemeral ports begin
with `CSP_MAX_BIND_PORT + 1`, which is `CSP_ANY`.
-/

import LibCSP.Router.Table

namespace LibCSP

open Basis

variable {N : ℕ} [NeZero N]

/-! ### Who opened a connection -/

/-- The second part of `csp_connect`. -/
def Action.isAllocate : Action N → Bool
  | .allocate _ => true
  | _ => false

/-- `csp_conn_new` returned connection `i` on the way from `s` to `s'`. -/
def Stack.gave (s s' : Stack N) (i : Fin N) : Bool :=
  (s'.log.drop s.log.length).any fun ev => ev.reopens == some i

/-- A node, and which of its connections went to `csp_connect` last. -/
structure Traced (N : ℕ) where
  stack : Stack N
  byConnect : Fin N → Bool

/-- `stackStep`, and a note of who got a connection. -/
def tracedStep (e : StackEnv) (x : Traced N) (a : Action N) : Option (Traced N) :=
  (stackStep e x.stack a).map fun s =>
    ⟨s, fun i => if x.stack.gave s i then a.isAllocate else x.byConnect i⟩

omit [NeZero N] in
/-- Events that concern no connection reopen none. -/
theorem any_reopens_eq_false {evs : List (StackEvent N)} {options : Fin N → U32}
    (h : ∀ ev ∈ evs, ev.Under options) (i : Fin N) :
    (evs.any fun ev => ev.reopens == some i) = false := by
  refine List.any_eq_false.2 fun ev hev => ?_
  rw [(h ev hev).reopens]
  exact Bool.false_ne_true

omit [NeZero N] in
/-- So no connection was given out. -/
theorem gave_eq_false {s s' : Stack N} {options : Fin N → U32}
    (h : ∃ evs, s'.log = s.log ++ evs ∧ ∀ ev ∈ evs, ev.Under options) (i : Fin N) :
    s.gave s' i = false := by
  obtain ⟨evs, hl, hevs⟩ := h
  unfold Stack.gave
  rw [hl, List.drop_left]
  exact any_reopens_eq_false hevs i

omit [NeZero N] in
/-- **The connection that was given out** is the one that the log names. -/
theorem Given.gave {s s' : Stack N} {i : Fin N} {c : Shell} (h : Given s i c s') (j : Fin N) :
    s.gave s' j = decide (j = i) := by
  obtain ⟨evs, evs', hl, hevs, hevs'⟩ := h.log
  have hbefore := any_reopens_eq_false (fun ev hev => (hevs ev hev).under s.options) j
  unfold Stack.gave
  rw [hl, List.append_assoc, List.drop_left, List.any_append, List.any_cons, hbefore,
    any_reopens_eq_false hevs' j, Bool.false_or, Bool.or_false]
  by_cases hji : j = i
  · rw [hji, decide_eq_true rfl]
    exact beq_self_eq_true _
  · rw [decide_eq_false hji]
    exact beq_eq_false_iff_ne.2 fun heq => hji (Option.some.inj heq).symm

/-- What an action does to the table and to the note of who opened a connection. -/
inductive TracedTurn (e : StackEnv) (x : Traced N) : Action N → Traced N → Prop
  | staying {a : Action N} {y : Traced N} (h : Staying x.stack y.stack)
      (hby : y.byConnect = x.byConnect) : TracedTurn e x a y
  | ported {t : ℕ} {prio dest dport : U8} {opts : U32} {y : Traced N}
      (h : connectPort e t prio dest dport opts x.stack = some y.stack)
      (hconns : y.stack.conns = x.stack.conns) (hby : y.byConnect = x.byConnect) :
      TracedTurn e x (.connect t prio dest dport opts) y
  | accepted {y : Traced N} {raw : CspPacket} {socket : CspSocket} {i : Fin N}
      (harrive : x.stack.arriving e = some raw) (haccept : x.stack.Accepts raw socket)
      (h : Given x.stack i ⟨.connOpen, raw.id, replyId e raw.id, socket.opts⟩ y.stack)
      (hby : y.byConnect = Function.update x.byConnect i false) : TracedTurn e x .route y
  | allocated {t : ℕ} {incomingId outgoingId : CspId} {opts : U32} {y : Traced N} {i : Fin N}
      (ht : x.stack.tasks t = .allocating incomingId outgoingId opts) (hallots : e.Allots x.stack)
      (h : Given x.stack i ⟨.connOpen, incomingId, outgoingId, opts⟩ y.stack)
      (hby : y.byConnect = Function.update x.byConnect i true) : TracedTurn e x (.allocate t) y
  | single {a : Action N} {y : Traced N} (hN : N = 1)
      (hshells : ∀ i, ∃ st,
        (y.stack.conns i).shell = { (x.stack.conns i).shell with state := st })
      (htasks : ∀ t incomingId outgoingId opts,
        y.stack.tasks t = .allocating incomingId outgoingId opts →
          x.stack.tasks t = .allocating incomingId outgoingId opts)
      (hby : y.byConnect = x.byConnect) : TracedTurn e x a y

/-- **A traced action is one of these.** -/
theorem tracedStep_turn {e : StackEnv} {x y : Traced N} {a : Action N}
    (h : tracedStep e x a = some y) : TracedTurn e x a y := by
  obtain ⟨s, hs, rfl⟩ := Option.map_eq_some_iff.1 h
  have hsame : (∀ i, x.stack.gave s i = false) →
      (fun i => if x.stack.gave s i then a.isAllocate else x.byConnect i) = x.byConnect :=
    fun hgave => funext fun i => by rw [hgave i]; exact if_neg Bool.false_ne_true
  have hnew : ∀ i c, Given x.stack i c s →
      (fun j => if x.stack.gave s j then a.isAllocate else x.byConnect j) =
        Function.update x.byConnect i a.isAllocate := by
    intro i c hgiven
    funext j
    rw [hgiven.gave j]
    by_cases hji : j = i
    · subst hji
      rw [Function.update_self, decide_eq_true rfl]
      exact if_pos rfl
    · rw [Function.update_of_ne hji, decide_eq_false hji]
      exact if_neg Bool.false_ne_true
  cases stackStep_turned hs with
  | staying hs => exact .staying hs (hsame (gave_eq_false hs.log))
  | ported hs hconns hlog =>
    have hquiet : ∃ evs, s.log = x.stack.log ++ evs ∧ ∀ ev ∈ evs, ev.Under s.options :=
      ⟨[], by rw [hlog, List.append_nil], fun _ hev => absurd hev List.not_mem_nil⟩
    exact .ported hs hconns (hsame (gave_eq_false hquiet))
  | accepted harrive haccept hgiven => exact .accepted harrive haccept hgiven (hnew _ _ hgiven)
  | allocated ht hallots hgiven => exact .allocated ht hallots hgiven (hnew _ _ hgiven)
  | single hN hshells hlog htasks =>
    obtain ⟨evs, hl, hevs⟩ := hlog
    exact .single hN hshells htasks
      (hsame (gave_eq_false ⟨evs, hl, fun ev hev => (hevs ev hev).under s.options⟩))

/-! ### Ephemeral ports -/

omit [NeZero N] in
/-- An ephemeral port: `CSP_ANY` is one of them. -/
def EphemeralPort (port : U8) : Prop := cspAny ≤ port.toNat ∧ port.toNat ≤ cspIdPortMax

instance (port : U8) : Decidable (EphemeralPort port) := inferInstanceAs (Decidable (_ ∧ _))

omit [NeZero N] in
/-- The counter stays in the ephemeral range. -/
theorem ephemeralPort_next {sport : U8} (h : EphemeralPort sport) :
    EphemeralPort (if cspIdPortMax < (sport + 1).toNat then BitVec.ofNat 8 (cspMaxBindPort + 1)
      else sport + 1) := by
  obtain ⟨hlo, hhi⟩ := h
  have hhi' : sport.toNat ≤ 63 := hhi
  have hsucc : (sport + 1).toNat = sport.toNat + 1 := by
    rw [BitVec.toNat_add]
    exact Nat.mod_eq_of_lt (show sport.toNat + 1 < 2 ^ 8 by omega)
  split
  · decide
  · rename_i hmax
    exact ⟨hsucc ▸ Nat.le_succ_of_le hlo, Nat.not_lt.1 hmax⟩

omit [NeZero N] in
/-- **The search for a port stays among the ephemeral ports.** -/
theorem sportSearch_ephemeral {isFree : U8 → Bool} {start sport port : U8} {n : ℕ}
    (hstart : EphemeralPort start) (hsport : EphemeralPort sport)
    (h : sportSearch isFree start n sport = some port) : EphemeralPort port := by
  induction n generalizing sport with
  | zero => exact absurd h.symm (Option.some_ne_none port)
  | succ n ih =>
    have hnext := ephemeralPort_next hsport
    unfold sportSearch at h
    simp only at h
    by_cases hend : sport + 1 = start
    · rw [if_pos hend] at h
      rw [← Option.some.inj h, hend]
      exact hstart
    · rw [if_neg hend] at h
      generalize (if cspIdPortMax < (sport + 1).toNat then BitVec.ofNat 8 (cspMaxBindPort + 1)
        else sport + 1) = sport' at h hnext
      by_cases hfree : isFree sport' = true
      · rw [if_pos hfree] at h
        rw [← Option.some.inj h]
        exact hnext
      · rw [if_neg hfree] at h
        exact ih hnext h

section Sport

/-- `csp_conn_new` leaves it alone. -/
theorem cspConnNew_sport (e : StackEnv) (idin idout : CspId) (s : Stack N) :
    (cspConnNew e idin idout s).2.sport = s.sport := by
  unfold cspConnNew
  simp only
  split
  · split
    · split <;> rfl
    · split <;> rfl
  · rfl

omit [NeZero N] in
/-- So does a packet for a connection. -/
theorem routeConn_sport (e : StackEnv) (i : Fin N) (raw : CspPacket) (s : Stack N) :
    (routeConn e i raw s).sport = s.sport := by
  rcases routeConn_cases e i raw s with ⟨why, -, hend⟩ | ⟨p, -, hend⟩ <;> rw [hend] <;> rfl

omit [NeZero N] in
/-- So does a `csp_connect` that returns. -/
theorem connectReturn_sport (e : StackEnv) (t : ℕ) (i : Fin N) (retry : Bool) (c : Call)
    (err : Option CspErr) (s : Stack N) : (connectReturn e t i retry c err s).sport = s.sport := by
  unfold connectReturn
  split <;> rfl

/-- So does its second half. -/
theorem connectAllocate_sport (e : StackEnv) (t : ℕ) (incomingId outgoingId : CspId)
    (opts : U32) (s : Stack N) :
    (connectAllocate e t incomingId outgoingId opts s).sport = s.sport := by
  have hnew := cspConnNew_sport e incomingId outgoingId s
  unfold connectAllocate
  generalize cspConnNew e incomingId outgoingId s = r at hnew ⊢
  obtain ⟨r, s₁⟩ := r
  cases r with
  | none => exact hnew
  | some i =>
    simp only
    split
    · rw [connectReturn_sport]
      exact hnew
    · exact hnew

omit [NeZero N] in
/-- So does a packet to forward. -/
theorem routeForward_sport (e : StackEnv) (input : CspRouteQueue) (s : Stack N) :
    (routeForward e input s).sport = s.sport := by
  unfold routeForward
  simp only
  split
  · rfl
  · split
    · split <;> rfl
    · split <;> rfl

/-- So does a packet for this node. -/
theorem routeLocal_sport (e : StackEnv) (packet : CspPacket) (s : Stack N) :
    (routeLocal e packet s).sport = s.sport := by
  unfold routeLocal
  split
  · unfold routeConnLess
    split
    · rfl
    · split <;> rfl
  · split
    · exact routeConn_sport e _ packet s
    · unfold routeNew
      split
      · rfl
      · have hnew := cspConnNew_sport e packet.id (replyId e packet.id) s
        generalize cspConnNew e packet.id (replyId e packet.id) s = r at hnew ⊢
        obtain ⟨r, s₁⟩ := r
        cases r with
        | none => exact hnew
        | some i => exact (routeConn_sport e i packet _).trans hnew

omit [NeZero N] in
/-- So does taking a packet in. -/
theorem cspRouteNextPacket_sport (s : Stack N) : (cspRouteNextPacket s).2.sport = s.sport := by
  unfold cspRouteNextPacket
  split
  · rfl
  · simp only
    split
    · rfl
    · split <;> rfl

/-- So does what follows. -/
theorem routePacket_sport (e : StackEnv) (input : CspRouteQueue) (s : Stack N) :
    (routePacket e input s).sport = s.sport := by
  unfold routePacket
  simp only
  split
  · exact routeForward_sport e input _
  · exact routeLocal_sport e input.packet _

/-- So does a round of the router as a whole. -/
theorem vTaskCSPRouter_sport (e : StackEnv) (s : Stack N) :
    (vTaskCSPRouter e s).sport = s.sport := by
  have hnext := cspRouteNextPacket_sport s
  unfold vTaskCSPRouter
  generalize cspRouteNextPacket s = r at hnext ⊢
  obtain ⟨r, s₁⟩ := r
  cases r with
  | none => exact hnext
  | some input =>
    simp only
    split
    · exact (routePacket_sport e input _).trans hnext
    · split
      · exact (routePacket_sport e input _).trans hnext
      · exact hnext

omit [NeZero N] in
/-- The search ends where it began, or with a free port. -/
theorem sportSearch_free {isFree : U8 → Bool} {start sport port : U8} {n : ℕ}
    (h : sportSearch isFree start n sport = some port) : port = start ∨ isFree port = true := by
  induction n generalizing sport with
  | zero => exact absurd h.symm (Option.some_ne_none port)
  | succ n ih =>
    unfold sportSearch at h
    simp only at h
    by_cases hend : sport + 1 = start
    · rw [if_pos hend] at h
      exact .inl ((Option.some.inj h).symm.trans hend)
    · rw [if_neg hend] at h
      generalize (if cspIdPortMax < (sport + 1).toNat then BitVec.ofNat 8 (cspMaxBindPort + 1)
        else sport + 1) = sport' at h
      by_cases hfree : isFree sport' = true
      · rw [if_pos hfree] at h
        rw [← Option.some.inj h]
        exact .inr hfree
      · rw [if_neg hfree] at h
        exact ih h

omit [NeZero N] in
/-- What `csp_connect` does until it has a port. -/
theorem connectPort_cases {e : StackEnv} {s s' : Stack N} {t : ℕ} {prio dest dport : U8}
    {opts : U32} (h : connectPort e t prio dest dport opts s = some s') :
    s' = s.next ∨ ∃ sport, (EphemeralPort s.sport → EphemeralPort sport) ∧ sport ≠ s.sport ∧
      cspConnFind s.conns (incomingId e.myAddress prio dest dport sport opts) cspIdDportMask =
        none ∧
      s' = { s.next with sport := sport }.setTask t
        (.allocating (incomingId e.myAddress prio dest dport sport opts)
          (outgoingId e.myAddress prio dest dport sport opts) opts) := by
  unfold connectPort at h
  split at h
  · obtain ⟨sport, hsport, rfl⟩ := Option.map_eq_some_iff.1 h
    by_cases hstart : sport = s.sport
    · exact .inl (if_pos hstart)
    · have hfree := (sportSearch_free hsport).resolve_left hstart
      exact .inr ⟨sport, fun hs => sportSearch_ephemeral hs hs hsport, hstart,
        Option.isNone_iff_eq_none.1 hfree, if_neg hstart⟩
  · exact .inl (Option.some.inj h).symm

omit [NeZero N] in
/-- So does a packet that comes in. -/
theorem cspNewPacket_sport (input : CspRouteQueue) (s : Stack N) :
    (cspNewPacket input s).sport = s.sport := by
  unfold cspNewPacket
  simp only
  split
  · rfl
  · split <;> rfl

omit [NeZero N] in
/-- So does `csp_bind`. -/
theorem cspBind_sport (socket : CspSocket) (port : U8) (s : Stack N) :
    (cspBind socket port s).sport = s.sport := by
  unfold cspBind
  split
  · rfl
  · split <;> rfl

/-- Only `csp_connect` looks for a port. -/
theorem stackStep_sport {e : StackEnv} {s s' : Stack N} {a : Action N}
    (h : stackStep e s a = some s') :
    s'.sport = s.sport ∨ ∃ t prio dest dport opts,
      connectPort e t prio dest dport opts s = some s' := by
  cases stackStep_turn h with
  | connect _ h => exact .inr ⟨_, _, _, _, _, h⟩
  | route => exact .inl (vTaskCSPRouter_sport e s)
  | newPacket input => exact .inl (cspNewPacket_sport input s)
  | bind socket port => exact .inl (cspBind_sport socket port s)
  | allocate _ => exact .inl (connectAllocate_sport e _ _ _ _ s)
  | connectWake _ _ | connectTimeout _ => exact .inl (connectReturn_sport e _ _ _ _ _ s)
  | checkTimeouts | send | sendWaits | sendWake | sendTimeout | read | close => exact .inl rfl

end Sport

/-! ### What `csp_connect` made -/

omit [NeZero N] in
/-- `csp_connect` asked for a connection with these identifiers and options. -/
def Requested (e : StackEnv) (c : Shell) : Prop :=
  ∃ prio dest dport sport, EphemeralPort sport ∧
    c.idin = incomingId e.myAddress prio dest dport sport c.connOpts ∧
    c.idout = outgoingId e.myAddress prio dest dport sport c.connOpts

omit [NeZero N] in
/-- A connection of `csp_connect` is one when it is closed. -/
theorem Requested.withState {e : StackEnv} {c : Shell} (h : Requested e c) (st : ConnState) :
    Requested e { c with state := st } := h

omit [NeZero N] in
/-- And when it is kept. -/
theorem Requested.kept {e : StackEnv} {c c' : Shell} (h : Requested e c) (hc : c.Kept c') :
    Requested e c' := by
  rcases hc with rfl | rfl <;> exact h

/-- The last ephemeral port is one, and what waits for a connection or got it from
`csp_connect` was asked for. -/
structure MadeStack (e : StackEnv) (x : Traced N) : Prop where
  sport : EphemeralPort x.stack.sport
  tasks : ∀ t incomingId outgoingId opts,
    x.stack.tasks t = .allocating incomingId outgoingId opts →
      Requested e ⟨.connOpen, incomingId, outgoingId, opts⟩
  conns : ∀ i, x.byConnect i = true → Requested e (x.stack.conns i).shell

/-- **`csp_connect` makes what it was asked for**, and nothing changes that. -/
theorem MadeStack.step {e : StackEnv} {x y : Traced N} {a : Action N} (h : MadeStack e x)
    (hst : tracedStep e x a = some y) : MadeStack e y := by
  have hstack : stackStep e x.stack a = some y.stack := by
    obtain ⟨s, hs, rfl⟩ := Option.map_eq_some_iff.1 hst
    exact hs
  have hsport : EphemeralPort y.stack.sport := by
    rcases stackStep_sport hstack with hs | ⟨t, prio, dest, dport, opts, hs⟩
    · exact hs ▸ h.sport
    · rcases connectPort_cases hs with hs | ⟨sport, hrange, -, -, hs⟩
      · rw [hs]
        exact h.sport
      · rw [hs]
        exact hrange h.sport
  cases tracedStep_turn hst with
  | staying hs hby =>
    refine ⟨hsport, fun t _ _ _ ht => h.tasks t _ _ _ (hs.tasks t _ _ _ ht), fun i hi => ?_⟩
    exact (h.conns i (hby ▸ hi)).kept (hs.shells i)
  | @ported t prio dest dport opts _ hs hconns hby =>
    refine ⟨hsport, fun t' inId outId opts' ht => ?_, fun i hi => ?_⟩
    · rcases connectPort_cases hs with hs | ⟨sport, hrange, -, -, hs⟩
      · rw [hs] at ht
        exact h.tasks t' _ _ _ ht
      · rw [hs] at ht
        by_cases htt : t' = t
        · subst htt
          have hself := (Function.update_self t' _ _).symm.trans ht
          obtain ⟨rfl, rfl, rfl⟩ := Caller.allocating.inj hself
          exact ⟨prio, dest, dport, sport, hrange h.sport, rfl, rfl⟩
        · exact h.tasks t' _ _ _ ((Function.update_of_ne htt _ _).symm.trans ht)
    · rw [hconns]
      exact h.conns i (hby ▸ hi)
  | @accepted _ raw socket i _ _ hgiven hby =>
    refine ⟨hsport, fun t _ _ _ ht => h.tasks t _ _ _ (hgiven.tasks t _ _ _ ht), fun j hj => ?_⟩
    rw [hby] at hj
    by_cases hji : j = i
    · subst hji
      rw [Function.update_self] at hj
      exact absurd hj Bool.false_ne_true
    · rw [Function.update_of_ne hji] at hj
      exact (h.conns j hj).kept (hgiven.others j hji)
  | @allocated t inId outId opts _ i ht _ hgiven hby =>
    refine ⟨hsport, fun t _ _ _ ht => h.tasks t _ _ _ (hgiven.tasks t _ _ _ ht), fun j hj => ?_⟩
    rw [hby] at hj
    by_cases hji : j = i
    · subst hji
      exact (h.tasks t _ _ _ ht).kept hgiven.self
    · rw [Function.update_of_ne hji] at hj
      exact (h.conns j hj).kept (hgiven.others j hji)
  | single _ hshells htasks hby =>
    refine ⟨hsport, fun t _ _ _ ht => h.tasks t _ _ _ (htasks t _ _ _ ht), fun i hi => ?_⟩
    obtain ⟨st, hst⟩ := hshells i
    rw [hst]
    exact (h.conns i (hby ▸ hi)).withState st

/-- A node after `csp_init`, with this value of `sport`. -/
def Stack.initAt (N : ℕ) [NeZero N] (port : U8) : Stack N := { Stack.init N with sport := port }

def Traced.init (N : ℕ) [NeZero N] (port : U8) : Traced N := ⟨Stack.initAt N port, fun _ => false⟩

/-- After `csp_init` there is none. -/
theorem madeStack_init (e : StackEnv) {port : U8} (h : EphemeralPort port) :
    MadeStack e (Traced.init N port) where
  sport := h
  tasks _ _ _ _ ht := by cases ht
  conns _ hi := absurd hi Bool.false_ne_true

/-- **The connections of `csp_connect` have ephemeral ports**, in every run. -/
theorem run_made {e : StackEnv} {ok : Traced N → Action N → Prop} {is : List (Action N)}
    {port : U8} {x : Traced N} (hport : EphemeralPort port)
    (hrun : Run (tracedStep e) ok (Traced.init N port) is x) : MadeStack e x :=
  hrun.invariant (P := MadeStack e) (fun _ _ _ h _ hst => h.step hst) (madeStack_init e hport)

end LibCSP
