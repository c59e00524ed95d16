/-
# Handles in user space

A connection belongs to user space from the moment its handle is posted to an accept
queue, or returned by `csp_connect`, until user space calls `csp_close` (`owned`, read
off the log).  Meanwhile the stack should not close it, for a closed connection goes to
the next peer.  `rx_socket` is `NULL` then, which protects it at the label
`discard_close` and from the first timeout.

Two places in the stack do not look at `rx_socket`: a RST in `RDP_CLOSE_WAIT` or
`RDP_CLOSED` closes the connection, and so does the timeout of `RDP_CLOSE_WAIT`.  A
peer that resets the connection twice, or once and waits, takes it from its owner.  When
that does not happen to a connection in use, and user space closes no connection that a
`csp_connect` still waits for, handles are safe in every run (`run_handles`).
-/

import LibCSP.Router.Step

namespace LibCSP

open Basis

variable {N : ℕ}

/-! ### Who owns a connection -/

/-- The connection that user space gets. -/
def StackEvent.gives : StackEvent N → Option (Fin N)
  | .connected i => some i
  | .conn i _ ev => if ev.isAccept then some i else none
  | _ => none

/-- The connection that user space gives back. -/
def StackEvent.ends : StackEvent N → Option (Fin N)
  | .closed i => some i
  | _ => none

/-- The connection that `csp_conn_new` hands out. -/
def StackEvent.reopens : StackEvent N → Option (Fin N)
  | .opened i => some i
  | _ => none

/-- Whether user space owns connection `i` after one more event. -/
def ownedStep (i : Fin N) (b : Bool) (ev : StackEvent N) : Bool :=
  (b && decide (ev.ends ≠ some i)) || decide (ev.gives = some i)

/-- Whether user space owns connection `i`. -/
def owned (log : List (StackEvent N)) (i : Fin N) : Bool := log.foldl (ownedStep i) false

/-- No connection is handed out or given to user space while user space owns it. -/
inductive Undisturbed : List (StackEvent N) → Prop
  | nil : Undisturbed []
  | snoc {log : List (StackEvent N)} {ev : StackEvent N} (h : Undisturbed log)
      (hev : ∀ i, ev.gives = some i ∨ ev.reopens = some i → owned log i = false) :
      Undisturbed (log ++ [ev])

/-- The event is not about who owns a connection. -/
structure StackEvent.Neutral (ev : StackEvent N) : Prop where
  gives : ev.gives = none
  ends : ev.ends = none
  reopens : ev.reopens = none

/-- One more event decides about the handle. -/
theorem owned_snoc (log : List (StackEvent N)) (ev : StackEvent N) (i : Fin N) :
    owned (log ++ [ev]) i = ownedStep i (owned log i) ev := by
  rw [owned, List.foldl_append]
  rfl

/-- A neutral event leaves it where it is. -/
theorem StackEvent.Neutral.ownedStep {ev : StackEvent N} (h : ev.Neutral) (i : Fin N) (b : Bool) :
    ownedStep i b ev = b := by
  unfold LibCSP.ownedStep
  rw [h.gives, h.ends]
  simp

/-- **Neutral events leave everything to its owner.** -/
theorem neutral_append (log : List (StackEvent N)) {evs : List (StackEvent N)}
    (hevs : ∀ ev ∈ evs, ev.Neutral) :
    (∀ i, owned (log ++ evs) i = owned log i) ∧ (Undisturbed log → Undisturbed (log ++ evs)) := by
  induction evs generalizing log with
  | nil =>
    rw [List.append_nil]
    exact ⟨fun _ => rfl, id⟩
  | cons ev evs ih =>
    have hev := hevs ev List.mem_cons_self
    obtain ⟨ho, hu⟩ := ih (log ++ [ev]) fun x hx => hevs x (List.mem_cons_of_mem _ hx)
    rw [List.append_assoc, List.singleton_append] at ho hu
    refine ⟨fun i => ?_, fun h => hu (h.snoc fun i hi => ?_)⟩
    · rw [ho, owned_snoc, hev.ownedStep]
    · rw [hev.gives, hev.reopens] at hi
      rcases hi with hi | hi <;> exact absurd hi.symm (Option.some_ne_none i)

/-- The router's own events are neutral. -/
theorem StackEvent.IsRouting.neutral {ev : StackEvent N} (h : ev.IsRouting) : ev.Neutral := by
  cases ev with
  | queued _ _ => exact h.elim
  | opened _ => exact h.elim
  | connected _ => exact h.elim
  | closed _ => exact h.elim
  | conn _ _ _ => exact h.elim
  | _ => exact ⟨rfl, rfl, rfl⟩

/-- So are those of a call that posts nothing. -/
theorem conn_neutral (i : Fin N) (opts : U32) {evs : List Event} (h : accepts evs = 0) :
    ∀ ev ∈ evs.map (StackEvent.conn i opts), ev.Neutral := by
  intro ev hev
  obtain ⟨x, hx, rfl⟩ := List.mem_map.1 hev
  have hnot := List.countP_eq_zero.1 h x hx
  exact ⟨if_neg hnot, rfl, rfl⟩

/-- A call that posts once posts at one place. -/
theorem accepts_eq_one {evs : List Event} (h : accepts evs = 1) :
    ∃ pre ev post, evs = pre ++ ev :: post ∧ ev.isAccept = true ∧ accepts pre = 0 ∧
      accepts post = 0 := by
  induction evs with
  | nil => exact absurd h (by decide)
  | cons x xs ih =>
    rw [accepts, List.countP_cons] at h
    cases hx : x.isAccept with
    | true =>
      rw [hx, if_pos rfl] at h
      exact ⟨[], x, xs, rfl, hx, rfl, Nat.succ.inj h⟩
    | false =>
      rw [hx, if_neg Bool.false_ne_true] at h
      obtain ⟨pre, ev, post, rfl, hev, hpre, hpost⟩ := ih h
      refine ⟨x :: pre, ev, post, rfl, hev, ?_, hpost⟩
      rw [accepts, List.countP_cons, hx, if_neg Bool.false_ne_true]
      exact hpre

/-- The handle of `i` is posted to a user who did not own it. -/
theorem posted_append {log : List (StackEvent N)} {i : Fin N} (opts : U32) {evs : List Event}
    (h : accepts evs = 1) (hi : owned log i = false) :
    (∀ j, owned (log ++ evs.map (.conn i opts)) j = (owned log j || decide (i = j))) ∧
      (Undisturbed log → Undisturbed (log ++ evs.map (.conn i opts))) := by
  obtain ⟨pre, ev, post, rfl, hev, hpre, hpost⟩ := accepts_eq_one h
  obtain ⟨ho₁, hu₁⟩ := neutral_append log (conn_neutral i opts hpre)
  obtain ⟨ho₂, hu₂⟩ := neutral_append (log ++ pre.map (.conn i opts) ++ [.conn i opts ev])
    (conn_neutral i opts hpost)
  have hgives : (StackEvent.conn i opts ev).gives = some i := if_pos hev
  rw [List.map_append, List.map_cons, ← List.append_assoc, List.append_cons]
  refine ⟨fun j => ?_, fun hu => hu₂ ((hu₁ hu).snoc fun j hj => ?_)⟩
  · rw [ho₂, owned_snoc, ho₁, ownedStep, hgives]
    simp [StackEvent.ends]
  · rw [ho₁]
    rcases hj with hj | hj
    · rw [← Option.some.inj (hgives.symm.trans hj)]
      exact hi
    · exact absurd hj.symm (Option.some_ne_none j)

/-! ### What a call does to an owner -/

/-- The connection is open, and user space has it or will get it from `csp_connect`. -/
structure Conn.InHand (c : Conn) : Prop where
  state : c.state = .connOpen
  rxSocket : c.rxSocket = none

/-- **A call leaves the shell and `rx_socket` as they are and posts nothing, or it has a reason
to end the connection; or it posts the handle.** -/
theorem Ending.posting {c : Prop} {P D : CspPacket → Prop} {w w' : World}
    (h : Ending c P D w w') : ∃ evs, w'.log = w.log ++ evs ∧
      ((accepts evs = 0 ∧ (c ∨ w'.conn.shell = w.conn.shell ∧
          w'.conn.rxSocket = w.conn.rxSocket)) ∨
        (accepts evs = 1 ∧ w.conn.rxSocket.isSome ∧ w'.conn.shell = w.conn.shell ∧
          w'.conn.rxSocket = none)) := by
  cases h with
  | handled h =>
    obtain ⟨evs, hl, -, hp⟩ := h.log
    refine ⟨evs, hl, ?_⟩
    generalize w'.conn.rxSocket = k' at hp
    cases hp with
    | none h₀ => exact .inl ⟨h₀, .inr ⟨h.shell, rfl⟩⟩
    | once h₁ hk => exact .inr ⟨h₁, hk, h.shell, rfl⟩
  | @shut w₁ hc h hk hs =>
    obtain ⟨evs, hl, -, hp⟩ := h.log
    obtain ⟨evs', hl', hsilent⟩ := hs.log
    refine ⟨evs ++ evs', by rw [hl', hl, List.append_assoc], .inl ⟨?_, .inl hc⟩⟩
    rw [accepts_append, accepts_silent hsilent]
    rw [hk] at hp
    generalize hk' : w.conn.rxSocket = k at hp
    cases hp with
    | none h₀ => rw [h₀]
    | once _ hk => exact absurd hk (by simp)

/-- The events of a call, as the stack logs them. -/
theorem put_log {s : Stack N} {i : Fin N} {w : World} {evs : List Event}
    (hl : w.log = (s.view i).log ++ evs) :
    (s.put i w).log = s.log ++ evs.map (.conn i (s.conns i).connOpts) := by
  show s.log ++ w.log.map _ = _
  rw [hl]
  rfl

/-- A task is in `csp_connect` with connection `i`. -/
def Stack.Connecting (s : Stack N) (i : Fin N) : Prop := ∃ t retry, s.tasks t = .connectWait i retry

/-- User space owns the connection, or will get it. -/
def Stack.InUse (s : Stack N) (i : Fin N) : Prop := owned s.log i = true ∨ s.Connecting i

/-- Connections in use are open, and each has one user. -/
structure HandleStack (s : Stack N) : Prop where
  inHand : ∀ i, s.InUse i → (s.conns i).InHand
  notOwned : ∀ i, s.Connecting i → owned s.log i = false
  alone : ∀ t t' i retry retry', s.tasks t = .connectWait i retry →
    s.tasks t' = .connectWait i retry' → t' = t
  log : Undisturbed s.log

namespace HandleStack

variable {s s' : Stack N} {i : Fin N}

/-- Neutral events happen and the tasks stay; connections in use stay in hand. -/
theorem keep {evs : List (StackEvent N)} (h : HandleStack s) (ht : s'.tasks = s.tasks)
    (hl : s'.log = s.log ++ evs) (hevs : ∀ ev ∈ evs, ev.Neutral)
    (hc : ∀ i, s.InUse i → (s'.conns i).InHand) : HandleStack s' := by
  obtain ⟨ho, hu⟩ := neutral_append s.log hevs
  have hconn : ∀ i, s'.Connecting i ↔ s.Connecting i := fun i => by
    unfold Stack.Connecting
    rw [ht]
  have howned : ∀ i, owned s'.log i = owned s.log i := fun i => by rw [hl, ho]
  refine ⟨fun i hi => hc i ?_, fun i hi => ?_, fun t t' => ?_, ?_⟩
  · unfold Stack.InUse at hi ⊢
    rwa [howned, hconn] at hi
  · rw [howned]
    exact h.notOwned i ((hconn i).1 hi)
  · rw [ht]
    exact h.alone t t'
  · rw [hl]
    exact hu h.log

/-- Nothing happens in the log. -/
theorem quiet (h : HandleStack s) (ht : s'.tasks = s.tasks) (hl : s'.log = s.log)
    (hc : ∀ i, s.InUse i → (s'.conns i).InHand) : HandleStack s' :=
  h.keep ht (hl.trans (List.append_nil _).symm)
    (fun _ hev => absurd hev List.not_mem_nil) hc

/-- What happens aside of the connections keeps the handles. -/
theorem aside {evs : List (StackEvent N)} (h : HandleStack s) (ha : Aside s s' evs)
    (hevs : ∀ ev ∈ evs, ev.Neutral) : HandleStack s' := by
  refine h.keep ha.tasks ha.log hevs fun i hi => ?_
  rw [ha.conns]
  exact h.inHand i hi

/-- So does a neutral event. -/
theorem emit {ev : StackEvent N} (h : HandleStack s) (hev : ev.Neutral) :
    HandleStack (s.emit ev) := by
  refine h.aside (.emit s ev) fun ev' hev' => ?_
  rw [List.mem_singleton.1 hev']
  exact hev

/-- **A call keeps the connections in use** unless it ends one of them. -/
theorem put {c : Prop} {P D : CspPacket → Prop} {w : World} (h : HandleStack s)
    (hend : Ending c P D (s.view i) w) (hc : s.InUse i → ¬ c)
    (hopen : (s.conns i).state = .connOpen ∨ Inert (s.view i) w) : HandleStack (s.put i w) := by
  obtain ⟨evs, hl, ⟨h₀, hkeep⟩ | ⟨h₁, hk, hshell, hnone⟩⟩ := hend.posting
  · have hlog : (s.put i w).log = s.log ++ evs.map (.conn i (s.conns i).connOpts) := put_log hl
    refine h.keep rfl hlog (conn_neutral i _ h₀) fun j hj => ?_
    · show (Function.update s.conns i w.conn j).InHand
      by_cases hji : j = i
      · subst hji
        obtain ⟨hst, hsock⟩ := h.inHand j hj
        obtain ⟨hshell, hrx⟩ := hkeep.resolve_left (hc hj)
        rw [Function.update_self]
        exact ⟨(congrArg Shell.state hshell).trans hst, hrx.trans hsock⟩
      · rw [Function.update_of_ne hji]
        exact h.inHand j hj
  · -- the handle was in the stack's hands
    have hnot : ¬ s.InUse i := fun hi => by
      rw [show (s.view i).conn.rxSocket = none from (h.inHand i hi).rxSocket] at hk
      exact Bool.false_ne_true hk
    have howner : owned s.log i = false := by
      rw [← Bool.not_eq_true]
      exact fun ho => hnot (.inl ho)
    have hstate : (s.conns i).state = .connOpen := by
      refine hopen.resolve_right fun hinert => ?_
      obtain ⟨evs', hl', hsilent⟩ := hinert.log
      rw [List.append_cancel_left (hl.symm.trans hl'), accepts_silent hsilent] at h₁
      exact absurd h₁ (by decide)
    obtain ⟨ho, hu⟩ := posted_append (s.conns i).connOpts h₁ howner
    have hlog : (s.put i w).log = s.log ++ evs.map (.conn i (s.conns i).connOpts) := put_log hl
    have hother : ∀ j, j ≠ i → (s.put i w).InUse j → (s.conns j).InHand := fun j hj hi => by
      refine h.inHand j (hi.imp_left fun hi => ?_)
      rw [hlog, ho, Bool.or_eq_true, decide_eq_true_iff] at hi
      exact hi.resolve_right fun hij => hj hij.symm
    refine ⟨fun j hj => ?_, fun j hj => ?_, h.alone, by rw [hlog]; exact hu h.log⟩
    · show (Function.update s.conns i w.conn j).InHand
      by_cases hji : j = i
      · rw [hji, Function.update_self]
        exact ⟨(congrArg Shell.state hshell).trans hstate, hnone⟩
      · rw [Function.update_of_ne hji]
        exact hother j hji hj
    · rw [hlog, ho, h.notOwned j hj, Bool.false_or, decide_eq_false_iff_not]
      rintro rfl
      exact hnot (.inr hj)

/-- A new connection is in nobody's hands. -/
theorem notInUse (h : HandleStack s) (hst : (s.conns i).state = .connClosed) : ¬ s.InUse i :=
  fun hi => absurd ((h.inHand i hi).state.symm.trans hst) (by decide)

/-- **A connection that is given out** was nobody's, and is in no use yet. -/
theorem fresh {idin idout : CspId} {k : Option ℕ} {opts : U32} (h : HandleStack s)
    (hnew : Fresh s i idin idout k opts s') : HandleStack s' ∧ ¬ s'.InUse i := by
  have hnot := h.notInUse hnew.closed
  have howner : owned s.log i = false := by
    rw [← Bool.not_eq_true]
    exact fun ho => hnot (.inl ho)
  obtain ⟨evs, hl, hsilent⟩ := hnew.log
  -- first the event, then the flushed queues
  have hopened : HandleStack (s.emit (.opened i)) := by
    refine ⟨fun j hj => h.inHand j (hj.imp_left fun hj => ?_), fun j hj => ?_, h.alone,
      h.log.snoc fun j hj => ?_⟩
    · rw [Stack.emit, owned_snoc, ownedStep] at hj
      simpa [StackEvent.gives, StackEvent.ends] using hj
    · rw [Stack.emit, owned_snoc, ownedStep, h.notOwned j hj]
      simp [StackEvent.gives]
    · rcases hj with hj | hj
      · exact absurd hj.symm (Option.some_ne_none j)
      · rw [← Option.some.inj hj]
        exact howner
  have hnot' : ¬ (s.emit (.opened i)).InUse i := by
    rintro (ho | ho)
    · rw [Stack.emit, owned_snoc, ownedStep, howner] at ho
      exact absurd ho (by simp [StackEvent.gives])
    · exact hnot (.inr ho)
  have hneutral := conn_neutral i (s.conns i).connOpts (accepts_silent hsilent)
  have hlog : s'.log = (s.emit (.opened i)).log ++ evs.map (.conn i (s.conns i).connOpts) := by
    rw [hl]
    exact List.append_cons ..
  refine ⟨hopened.keep hnew.tasks hlog hneutral fun j hj => ?_, ?_⟩
  · have hji : j ≠ i := by
      rintro rfl
      exact hnot' hj
    rw [hnew.others j hji]
    exact hopened.inHand j hj
  · rintro (ho | ⟨t, retry, ht⟩)
    · rw [hlog, (neutral_append _ hneutral).1] at ho
      exact hnot' (.inl ho)
    · rw [hnew.tasks] at ht
      exact hnot (.inr ⟨t, retry, ht⟩)

/-- A connection that is only marked open is handed to nobody. -/
theorem claimed (h : HandleStack s) (hclaim : Claimed s i s') : HandleStack s' := by
  refine h.quiet hclaim.tasks hclaim.log fun j hj => ?_
  rw [hclaim.conns]
  have hji : j ≠ i := by
    rintro rfl
    exact h.notInUse hclaim.closed hj
  rw [Function.update_of_ne hji]
  exact h.inHand j hj

end HandleStack

/-! ### Tasks -/

/-- The task may take the connection: it is in hand and belongs to nobody else. -/
structure Candidate (s : Stack N) (t : ℕ) (i : Fin N) : Prop where
  inHand : (s.conns i).InHand
  notOwned : owned s.log i = false
  alone : ∀ t' retry, s.tasks t' = .connectWait i retry → t' = t

/-- A task that waits has the connection for which it waits. -/
theorem HandleStack.candidate {s : Stack N} {t : ℕ} {i : Fin N} {retry : Bool}
    (h : HandleStack s) (ht : s.tasks t = .connectWait i retry) : Candidate s t i :=
  ⟨h.inHand i (.inr ⟨t, retry, ht⟩), h.notOwned i ⟨t, retry, ht⟩,
    fun t' retry' ht' => h.alone t t' i retry retry' ht ht'⟩

/-- A connection in hand that nobody uses is anybody's. -/
theorem Candidate.of_free {s : Stack N} {i : Fin N} (h : (s.conns i).InHand) (hi : ¬ s.InUse i)
    (t : ℕ) : Candidate s t i := by
  refine ⟨h, ?_, fun t' retry ht' => ?_⟩
  · rw [← Bool.not_eq_true]
    exact fun ho => hi (.inl ho)
  · exact absurd (.inr ⟨t', retry, ht'⟩) hi

/-- The task that changes, and the others. -/
theorem setTask_tasks (s : Stack N) (t t' : ℕ) (caller : Caller N) :
    (s.setTask t caller).tasks t' = if t' = t then caller else s.tasks t' :=
  Function.update_apply ..

namespace HandleStack

variable {s s' : Stack N} {i : Fin N} {t : ℕ}

/-- A task may wait for a connection that is a candidate. -/
theorem setTask (h : HandleStack s) (t : ℕ) (caller : Caller N)
    (hc : ∀ i retry, caller = .connectWait i retry → Candidate s t i) :
    HandleStack (s.setTask t caller) := by
  have hcases : ∀ t' i retry, (s.setTask t caller).tasks t' = .connectWait i retry →
      (t' = t ∧ Candidate s t i) ∨ (t' ≠ t ∧ s.tasks t' = .connectWait i retry) := by
    intro t' i retry ht'
    rw [setTask_tasks] at ht'
    split at ht'
    · exact .inl ⟨‹_›, hc i retry ht'⟩
    · exact .inr ⟨‹_›, ht'⟩
  refine ⟨fun i hi => ?_, fun i hi => ?_, fun t₁ t₂ i r₁ r₂ h₁ h₂ => ?_, h.log⟩
  · rcases hi with ho | ⟨t', retry, ht'⟩
    · exact h.inHand i (.inl ho)
    · rcases hcases t' i retry ht' with ⟨-, hcand⟩ | ⟨-, ht'⟩
      · exact hcand.inHand
      · exact h.inHand i (.inr ⟨t', retry, ht'⟩)
  · obtain ⟨t', retry, ht'⟩ := hi
    rcases hcases t' i retry ht' with ⟨-, hcand⟩ | ⟨-, ht'⟩
    · exact hcand.notOwned
    · exact h.notOwned i ⟨t', retry, ht'⟩
  · rcases hcases t₁ i r₁ h₁ with ⟨rfl, hc₁⟩ | ⟨hn₁, ht₁⟩
    · rcases hcases t₂ i r₂ h₂ with ⟨rfl, -⟩ | ⟨-, ht₂⟩
      · rfl
      · exact hc₁.alone t₂ r₂ ht₂
    · rcases hcases t₂ i r₂ h₂ with ⟨rfl, hc₂⟩ | ⟨-, ht₂⟩
      · exact absurd (hc₂.alone t₁ r₁ ht₁) hn₁
      · exact h.alone t₁ t₂ i r₁ r₂ ht₁ ht₂

/-- A task may be idle. -/
theorem setIdle (h : HandleStack s) (t : ℕ) : HandleStack (s.setTask t .idle) :=
  h.setTask t .idle fun _ _ heq => by cases heq

/-- Without its task a candidate is free. -/
theorem candidate_free (hc : Candidate s t i) : ¬ (s.setTask t .idle).InUse i := by
  rintro (ho | ⟨t', retry, ht'⟩)
  · exact absurd (ho.symm.trans hc.notOwned) (by decide)
  · rw [setTask_tasks] at ht'
    split at ht'
    · exact absurd ht' nofun
    · exact absurd (hc.alone t' retry ht') ‹_›

/-- `csp_connect` returns a candidate. -/
theorem connected (h : HandleStack s) (hc : Candidate s t i) :
    HandleStack ((s.setTask t .idle).emit (.connected i)) := by
  have hidle := h.setIdle t
  have hfree := candidate_free hc
  have ho : ∀ j, owned ((s.setTask t .idle).emit (.connected i)).log j =
      (owned s.log j || decide (i = j)) := fun j => by
    rw [Stack.emit, owned_snoc, ownedStep]
    simp [StackEvent.gives, StackEvent.ends, Stack.setTask]
  refine ⟨fun j hj => ?_, fun j hj => ?_, hidle.alone, hidle.log.snoc fun j hj => ?_⟩
  · rcases hj with hj | hj
    · rw [ho, Bool.or_eq_true, decide_eq_true_iff] at hj
      rcases hj with hj | rfl
      · exact h.inHand j (.inl hj)
      · exact hc.inHand
    · exact hidle.inHand j (.inr hj)
  · have hji : i ≠ j := by
      rintro rfl
      exact hfree (.inr hj)
    rw [ho, decide_eq_false hji, Bool.or_false]
    exact hidle.notOwned j hj
  · rcases hj with hj | hj
    · rw [← Option.some.inj hj]
      exact hc.notOwned
    · exact absurd hj.symm (Option.some_ne_none j)

/-- User space closes a connection that no `csp_connect` waits for. -/
theorem closed (h : HandleStack s) (hi : ¬ s.Connecting i) :
    HandleStack (s.emit (.closed i)) ∧ ¬ (s.emit (.closed i)).InUse i := by
  have ho : ∀ j, owned (s.emit (.closed i)).log j = (owned s.log j && decide (i ≠ j)) := fun j => by
    rw [Stack.emit, owned_snoc, ownedStep]
    simp [StackEvent.gives, StackEvent.ends]
  refine ⟨⟨fun j hj => h.inHand j (hj.imp_left fun hj => ?_), fun j hj => ?_, h.alone,
    h.log.snoc fun j hj => ?_⟩, ?_⟩
  · rw [ho, Bool.and_eq_true] at hj
    exact hj.1
  · rw [ho, h.notOwned j hj, Bool.false_and]
  · rcases hj with hj | hj <;> exact absurd hj.symm (Option.some_ne_none j)
  · rintro (hj | hj)
    · rw [ho, decide_eq_false (not_not.2 rfl), Bool.and_false] at hj
      exact Bool.false_ne_true hj
    · exact hi hj

end HandleStack

/-- A call that ends nothing keeps a candidate. -/
theorem Candidate.put {s : Stack N} {t : ℕ} {i : Fin N} {P D : CspPacket → Prop} {w : World}
    (hc : Candidate s t i) (h : Handling P D (s.view i) w) : Candidate (s.put i w) t i := by
  have hend : Ending False P D (s.view i) w := .handled h
  obtain ⟨evs, hl, ⟨h₀, hkeep⟩ | ⟨-, hk, -⟩⟩ := hend.posting
  · obtain ⟨hshell, hrx⟩ := hkeep.resolve_left id
    have hlog : (s.put i w).log = s.log ++ evs.map (.conn i (s.conns i).connOpts) := put_log hl
    refine ⟨?_, ?_, hc.alone⟩
    · show (Function.update s.conns i w.conn i).InHand
      rw [Function.update_self]
      exact ⟨(congrArg Shell.state hshell).trans hc.inHand.state, hrx.trans hc.inHand.rxSocket⟩
    · rw [hlog, (neutral_append s.log (conn_neutral i _ h₀)).1]
      exact hc.notOwned
  · rw [show (s.view i).conn.rxSocket = none from hc.inHand.rxSocket] at hk
    exact absurd hk Bool.false_ne_true

/-- **`csp_connect` returns or waits with a candidate**, or gives it up. -/
theorem HandleStack.connectReturn {e : StackEnv} {s : Stack N} {t : ℕ} {i : Fin N} {c : Call}
    {err : Option CspErr} {P D : CspPacket → Prop} (h : HandleStack s) (hc : Candidate s t i)
    (hend : Ending True P D (s.view i) (c.exec e.env (s.view i)))
    (hkept : err = none ∨ err = some .none →
      Handling P D (s.view i) (c.exec e.env (s.view i))) (retry : Bool) :
    HandleStack (connectReturn e t i retry c err s) := by
  have hopen : (s.conns i).state = .connOpen ∨ Inert (s.view i) (c.exec e.env (s.view i)) :=
    .inl hc.inHand.state
  have hcall : err = none ∨ err = some .none → HandleStack (s.call e i c) := fun herr =>
    h.put (c := False) (.handled (hkept herr)) (fun _ => id) hopen
  unfold LibCSP.connectReturn
  split
  · refine (hcall (.inl rfl)).setTask t _ fun j r heq => ?_
    obtain ⟨rfl, -⟩ := Caller.connectWait.inj heq
    exact hc.put (hkept (.inl rfl))
  · exact (hcall (.inr rfl)).connected (hc.put (hkept (.inr rfl)))
  · have hidle : HandleStack ((s.setTask t .idle).call e i c) :=
      (h.setIdle t).put hend (fun hi => absurd hi (HandleStack.candidate_free hc)) hopen
    exact hidle

/-! ### Steps and runs -/

/-- On a closed connection these calls do nothing. -/
theorem Call.exec_of_closed {e : Env} {c : Call} {w : World}
    (hc : c = .checkTimeouts ∨ c = .read ∨ c = .close ∨ ∃ p, c = .send p)
    (hst : w.conn.state = .connClosed) : c.exec e w = w := by
  have hopen : w.conn.state ≠ .connOpen := by
    rw [hst]
    decide
  rcases hc with rfl | rfl | rfl | ⟨p, rfl⟩
  · simp only [Call.exec, cspConnCheckTimeouts, if_neg hopen]
  · simp only [Call.exec, cspRead, if_pos hopen]
  · simp only [Call.exec, cspClose, if_pos hst]
  · simp only [Call.exec, sendStart, if_pos hopen]

/-- The stack ends no connection in use, and user space none that a `csp_connect` waits for. -/
def SparesHandles (e : StackEnv) (s : Stack N) : Action N → Prop
  | .checkTimeouts i => s.InUse i → ¬ Call.checkTimeouts.MayEnd e.env (s.view i)
  | .route => ∀ r ∈ s.handing e, s.InUse r.1 → ¬ (Call.packet r.2).MayEnd e.env (s.view r.1)
  | .close i => ¬ s.Connecting i
  | _ => True

namespace HandleStack

variable {e : StackEnv} {s s' : Stack N} {i : Fin N}

/-- A call of user space or of `csp_conn_check_timeouts`. -/
theorem call {c : Call} (h : HandleStack s) (hc : s.InUse i → ¬ c.MayEnd e.env (s.view i))
    (hk : c = .checkTimeouts ∨ c = .read ∨ c = .close ∨ ∃ p, c = .send p) :
    HandleStack (s.call e i c) := by
  refine h.put (Call.ending_any e.env c (s.view i)) hc ?_
  cases hst : (s.conns i).state with
  | connOpen => exact .inl rfl
  | connClosed =>
    rw [Call.exec_of_closed hk hst]
    exact .inr (.refl _)

/-- A packet for a connection keeps the handles, unless it ends one in use. -/
theorem routeConn {raw : CspPacket} (h : HandleStack s) (hst : (s.conns i).state = .connOpen)
    (hc : ∀ p, e.node.cspRouteSecurityCheck (s.conns i).connOpts raw = .ok p → s.InUse i →
      ¬ (Call.packet p).MayEnd e.env (s.view i)) : HandleStack (routeConn e i raw s) := by
  rcases routeConn_cases e i raw s with ⟨why, -, hend⟩ | ⟨p, hp, hend⟩
  · rw [hend]
    exact h.emit ⟨rfl, rfl, rfl⟩
  · rw [hend]
    have hemit : HandleStack (s.emit (.handedOver raw.buf)) := h.emit ⟨rfl, rfl, rfl⟩
    have hlog : (s.emit (.handedOver raw.buf)).InUse i → s.InUse i := by
      refine Or.imp_left fun ho => ?_
      rw [Stack.emit, owned_snoc, StackEvent.Neutral.ownedStep ⟨rfl, rfl, rfl⟩] at ho
      exact ho
    exact hemit.put (Call.ending_any e.env (.packet p) _) (fun hi => hc p hp (hlog hi)) (.inl hst)

end HandleStack

variable [NeZero N]

/-- **A round of the router keeps the handles.** -/
theorem vTaskCSPRouter_handles {e : StackEnv} {s : Stack N} (h : HandleStack s)
    (hok : SparesHandles e s .route) : HandleStack (vTaskCSPRouter e s) := by
  have hrouted := vTaskCSPRouter_routed e s
  generalize vTaskCSPRouter e s = s' at hrouted ⊢
  cases hrouted with
  | aside haside hevs => exact h.aside haside fun ev hev => (hevs ev hev).neutral
  | queued haside hevs _ _ =>
    refine h.aside haside (List.forall_mem_append.2 ⟨fun ev hev => (hevs ev hev).neutral, ?_⟩)
    exact List.forall_mem_singleton.2 ⟨rfl, rfl, rfl⟩
  | known haside hevs _ harrive hfind =>
    have hneutral := fun ev hev => (hevs ev hev).neutral
    refine (h.aside haside hneutral).routeConn ?_ fun p hcheck hi => ?_
    · rw [haside.conns]
      exact cspConnFind_open hfind
    · unfold Stack.InUse Stack.Connecting at hi
      rw [haside.log, (neutral_append _ hneutral).1, haside.tasks] at hi
      rw [haside.conns] at hcheck
      have hnot := hok _ (handing_eq harrive hfind hcheck) hi
      unfold Call.MayEnd MayEnd Stack.view at hnot ⊢
      rw [haside.conns]
      exact hnot
  | opened haside hevs _ _ _ _ hnew =>
    obtain ⟨hs₂, hfree⟩ := (h.aside haside fun ev hev => (hevs ev hev).neutral).fresh hnew
    exact hs₂.routeConn (congrArg Shell.state hnew.shell) fun _ _ hi => absurd hi hfree
  | claimed _ _ haside hevs hclaim =>
    exact ((h.aside haside fun ev hev => (hevs ev hev).neutral).claimed hclaim).emit
      ⟨rfl, rfl, rfl⟩

/-- **The second half of `csp_connect` keeps the handles.** -/
theorem connectAllocate_handles {e : StackEnv} {s : Stack N} (h : HandleStack s) (t : ℕ)
    (incomingId outgoingId : CspId) (opts : U32) :
    HandleStack (connectAllocate e t incomingId outgoingId opts s) := by
  have hallocated := connectAllocate_allocated e t incomingId outgoingId opts s
  generalize connectAllocate e t incomingId outgoingId opts s = s' at hallocated ⊢
  cases hallocated with
  | none =>
    have hnext : HandleStack s.next := h.quiet rfl rfl h.inHand
    exact hnext.setIdle t
  | claimed hclaim => exact (h.claimed hclaim).setIdle t
  | rdp _ hnew _ =>
    obtain ⟨hs₁, hfree⟩ := h.fresh hnew
    have hcand := Candidate.of_free ⟨congrArg Shell.state hnew.shell, hnew.rxSocket⟩ hfree t
    refine hs₁.connectReturn (P := anyPacket) (D := anyPacket) hcand
      (Call.ending_any e.env .connect _) (fun hr => ?_) true
    simp only [Call.exec]
    rw [connectDone_kept e.env hr]
    exact (cspRdpConnect_inert e.env _).handling anyPacket fun _ _ => trivial
  | udp _ hnew =>
    obtain ⟨hs₁, hfree⟩ := h.fresh hnew
    exact hs₁.connected
      (.of_free ⟨congrArg Shell.state hnew.shell, hnew.rxSocket⟩ hfree t)

/-- **A step that spares the connections in use keeps each with its user.** -/
theorem HandleStack.step {e : StackEnv} {s s' : Stack N} {a : Action N} (h : HandleStack s)
    (hok : SparesHandles e s a) (hst : stackStep e s a = some s') : HandleStack s' := by
  cases stackStep_stepped hst with
  | still hstill =>
    refine h.quiet hstill.tasks hstill.log fun i hi => ?_
    rw [hstill.conns]
    exact h.inHand i hi
  | checkTimeouts i => exact h.call hok (.inl rfl)
  | route => exact vTaskCSPRouter_handles h hok
  | dropped input => exact h.emit ⟨rfl, rfl, rfl⟩
  | ported t prio dest dport sport opts =>
    have hnext : HandleStack { s.next with sport := sport } := h.quiet rfl rfl h.inHand
    exact hnext.setTask t _ fun _ _ heq => by cases heq
  | allocate ht => exact connectAllocate_handles h _ _ _ _
  | @connectWake t i retry ht =>
    refine h.connectReturn (c := .connectWake retry) (P := anyPacket) (D := anyPacket)
      (h.candidate ht) (Call.ending_any e.env (.connectWake retry) _) (fun hr => ?_) false
    simp only [Call.exec]
    rw [connectDone_kept e.env hr]
    have htake : Inert (s.view i) (txWaitTake (s.view i)) := .of_eq rfl rfl rfl rfl
    exact htake.handled (cspRdpConnectWoken_handling e.env retry fun _ _ => trivial).1
      fun _ _ => trivial
  | @connectTimeout t i retry ht =>
    refine h.connectReturn (c := .connectTimeout) (P := anyPacket) (D := anyPacket)
      (h.candidate ht) (Call.ending_any e.env .connectTimeout _) (fun hr => ?_) false
    rcases hr with hr | hr
    · exact absurd hr (Option.some_ne_none _)
    · exact absurd (show CspErr.timedout = CspErr.none from Option.some.inj hr) (by decide)
  | send t i p => exact h.call (fun _ => id) (.inr (.inr (.inr ⟨p, rfl⟩)))
  | sendWaits t i p q =>
    have hcall : HandleStack (s.call e i (.send p)) :=
      h.call (fun _ => id) (.inr (.inr (.inr ⟨p, rfl⟩)))
    exact hcall.setTask t (.sendWait i q) fun _ _ heq => by cases heq
  | @sendWake t i p ht =>
    have htake : Inert (s.view i) (txWaitTake (s.view i)) := .of_eq rfl rfl rfl rfl
    have hcall : HandleStack (s.call e i (.sendWake p)) :=
      h.put (Call.ending_any e.env (.sendWake p) _) (fun _ => id)
        (.inr (htake.trans (cspSendCommit_inert e.env p _)))
    exact hcall.setIdle t
  | sendTimeout t => exact h.setIdle t
  | read i => exact h.call (fun _ => id) (.inr (.inl rfl))
  | close i =>
    obtain ⟨hclosed, hfree⟩ := h.closed hok
    exact hclosed.call (fun hi => absurd hi hfree) (.inr (.inr (.inl rfl)))

omit [NeZero N] in
/-- After `csp_init` nobody has a connection. -/
theorem Stack.Started.handleStack {s : Stack N} (h : s.Started) : HandleStack s where
  inHand i hi := by
    rcases hi with hi | ⟨t, retry, ht⟩
    · rw [h.log] at hi
      exact absurd hi Bool.false_ne_true
    · rw [h.tasks t] at ht
      cases ht
  notOwned _ _ := by
    rw [h.log]
    rfl
  alone t _ _ _ _ ht := by
    rw [h.tasks t] at ht
    cases ht
  log := by
    rw [h.log]
    exact .nil

/-- **A handle in user space stays its owner's**, in every run in which the stack spares the
connections in use: its connection is open, and is not handed out again. -/
theorem run_handles {e : StackEnv} {is : List (Action N)} {s t : Stack N} (hs : s.Started)
    (hrun : Run (stackStep e) (SparesHandles e) s is t) :
    (∀ i, owned t.log i = true → (t.conns i).state = .connOpen) ∧ Undisturbed t.log := by
  have h : HandleStack t := hrun.invariant (P := HandleStack)
    (fun _ _ _ hs hok hst => hs.step hok hst) hs.handleStack
  exact ⟨fun i hi => (h.inHand i (.inl hi)).state, h.log⟩

/-- A UDP packet opens a connection for user space. -/
theorem run_handles_udp : ∃ t : Stack cspConnMax,
    Run (stackStep .favourable) (SparesHandles .favourable) (Stack.init cspConnMax)
      [.bind ⟨some 0, 0⟩ 10, .newPacket ⟨1, portPacket 0⟩, .route] t ∧
    owned t.log 1 = true ∧ (t.conns 1).state = .connOpen := by
  obtain ⟨s, hs⟩ : ∃ s, s = (Stack.bound 0).receive (portPacket 0) := ⟨_, rfl⟩
  have hnone : s.handing .favourable = none := by rw [hs]; decide +kernel
  have hroute : SparesHandles .favourable s .route := by
    intro r hr
    exact absurd (hr.symm.trans hnone) (Option.some_ne_none r)
  have hrun : Run (stackStep .favourable) (SparesHandles .favourable) (Stack.init cspConnMax)
      [.bind ⟨some 0, 0⟩ 10, .newPacket ⟨1, portPacket 0⟩, .route]
      (vTaskCSPRouter .favourable s) :=
    .cons trivial rfl (.cons trivial (congrArg some hs.symm) (.cons hroute rfl .nil))
  have howned : owned (vTaskCSPRouter .favourable s).log 1 = true := by rw [hs]; decide +kernel
  exact ⟨_, hrun, howned, (run_handles Stack.init_started hrun).1 1 howned⟩

/-- **A second RST takes the connection from its user**: after the first it is in
`RDP_CLOSE_WAIT`. -/
theorem rst_takes_handle :
    ¬ ∀ (e : StackEnv) (is : List (Action cspConnMax)) (t : Stack cspConnMax),
      Run (stackStep e) (fun _ _ => True) (Stack.init cspConnMax) is t →
        (∀ i, owned t.log i = true → (t.conns i).state = .connOpen) ∧ Undisturbed t.log := by
  intro h
  have hrun : ∃ t : Stack cspConnMax, Run (stackStep .favourable) (fun _ _ => True)
      (Stack.init cspConnMax) [.bind ⟨some 0, 0⟩ 10, .newPacket ⟨1, synPacket⟩, .route,
        .newPacket ⟨1, rdpPacket .ackOnly 101 0 [42]⟩, .route,
        .newPacket ⟨1, rdpPacket .rstAck 102 0 []⟩, .route,
        .newPacket ⟨1, rdpPacket .rstAck 102 0 []⟩, .route] t ∧
      decide (owned t.log 1 = true ∧ (t.conns 1).state = .connClosed) = true :=
    Run.of_any (by decide +kernel)
  obtain ⟨t, hrun, ht⟩ := hrun
  obtain ⟨howned, hst⟩ := of_decide_eq_true ht
  exact absurd (((h _ _ _ hrun).1 1 howned).symm.trans hst) (by decide)

end LibCSP
