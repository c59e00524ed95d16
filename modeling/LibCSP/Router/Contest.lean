/-
# Ports between choice and connection

`csp_connect` chooses a port in one critical section and `csp_conn_new` records it in another, so
what it found free may be given away in between.  `watchedStep` is `tracedStep` with a note of
that: for each task what connections were given out since it chose a port, and how far the counter
`sport` has moved.

The search for a port looks at all open connections (`connectPort_free`).  So while a call is
between its two parts, every open connection with its port is one that was given out since
(`Watched.Aware`), and the schedule decides.  Unless another `csp_connect` is given a connection
for the port in that time, the ports are different (`run_uniquePorts`), and so are the identifiers
unless a connection is given out that would match (`run_uniqueIds_kept`).

That another call is given the port means that two calls between their parts had the same one
(`run_uniquePorts_alone`), and for that the counter must have come round.  So it is enough that it
does not while a call is between its parts (`run_uniquePorts_prompt`).
-/

import LibCSP.Router.Unique

namespace LibCSP

open Basis

variable {N : ℕ}

/-! ### What was given out since -/

/-- A connection that was given out. -/
structure Grant where
  byConnect : Bool
  idin : CspId

/-- A node, and for each task what was given out since it chose a port, how far the counter has
moved, and where it was then. -/
structure Watched (N : ℕ) where
  traced : Traced N
  since : ℕ → List Grant
  moved : ℕ
  chosenAt : ℕ → ℕ

/-- The task is between the two parts of `csp_connect`. -/
def Watched.between (x : Watched N) (t : ℕ) : Bool := (x.traced.stack.tasks t).incomingId.isSome

/-- How many ports the counter has gone on, in the circle of the 48 ephemeral ports. -/
def portsPassed (old new : U8) : ℕ := (new.toNat + 48 - old.toNat) % 48

variable [NeZero N]

/-- The connections that were given out on the way from `x` to `y`. -/
def granted (x y : Traced N) : List Grant :=
  ((List.finRange N).filter fun i => x.stack.gave y.stack i).map fun i =>
    ⟨y.byConnect i, (y.stack.conns i).idin⟩

/-- `tracedStep`, and a note of what is given out while a call is between its two parts. -/
def watchedStep (e : StackEnv) (x : Watched N) (a : Action N) : Option (Watched N) :=
  (tracedStep e x.traced a).map fun y =>
    let moved := x.moved + portsPassed x.traced.stack.sport y.stack.sport
    ⟨y, fun t => if x.between t then x.since t ++ granted x.traced y else [], moved,
      fun t => if x.between t then x.chosenAt t else moved⟩

def Watched.init (N : ℕ) [NeZero N] (port : U8) : Watched N :=
  ⟨Traced.init N port, fun _ => [], 0, fun _ => 0⟩

omit [NeZero N] in
/-- What was given out is noted. -/
theorem mem_granted {x y : Traced N} {i : Fin N} (h : x.stack.gave y.stack i = true) :
    ⟨y.byConnect i, (y.stack.conns i).idin⟩ ∈ granted x y :=
  List.mem_map.2 ⟨i, List.mem_filter.2 ⟨List.mem_finRange i, h⟩, rfl⟩

/-! ### Who is between the parts -/

/-- **A call comes between its parts with a port that no open connection has.**  The others that
are there were there before. -/
theorem allocating_cases {e : StackEnv} {s s' : Stack N} {a : Action N}
    (h : stackStep e s a = some s') {t : ℕ} {inId outId : CspId} {opts : U32}
    (ht : s'.tasks t = .allocating inId outId opts) :
    s.tasks t = .allocating inId outId opts ∨
      ((∃ prio dest dport opts₀, a = .connect t prio dest dport opts₀) ∧ s.tasks t = .idle ∧
        s'.sport ≠ s.sport ∧ inId.dport = s'.sport.setWidth 6 ∧
        ∀ j, (s'.conns j).state ≠ .connClosed → (s'.conns j).idin.dport ≠ inId.dport) := by
  cases stackStep_turned h with
  | staying hs => exact .inl (hs.tasks t _ _ _ ht)
  | accepted _ _ hg => exact .inl (hg.tasks t _ _ _ ht)
  | allocated _ _ hg => exact .inl (hg.tasks t _ _ _ ht)
  | single _ _ _ htasks => exact .inl (htasks t _ _ _ ht)
  | @ported t₀ prio dest dport opts₀ _ hport =>
    cases stackStep_turn h with
    | connect hidle _ =>
      rcases connectPort_cases hport with rfl | ⟨sport, -, hne, -, hs'⟩
      · exact .inl ht
      · by_cases htt : t = t₀
        · subst htt
          have hfree := connectPort_free hport hidle inId (by rw [ht]; rfl)
          have hid : inId = incomingId e.myAddress prio dest dport sport opts₀ := by
            have hself : s'.tasks t = .allocating (incomingId e.myAddress prio dest dport sport opts₀)
                (outgoingId e.myAddress prio dest dport sport opts₀) opts₀ := by
              rw [hs']
              exact Function.update_self t _ s.tasks
            exact (Caller.allocating.inj (ht.symm.trans hself)).1
          have hsport : s'.sport = sport := by rw [hs']; rfl
          refine .inr ⟨⟨_, _, _, _, rfl⟩, hidle, hsport ▸ hne, ?_, hfree⟩
          rw [hid, hsport]
          exact dport_ofFields ..
        · have hother : s'.tasks t = s.tasks t := by
            rw [hs']
            exact Function.update_of_ne htt _ s.tasks
          exact .inl (hother ▸ ht)

/-! ### The schedule -/

/-- While a `csp_connect` is between its two parts, no other is given a connection for its port. -/
def PortKept (e : StackEnv) (x : Watched N) : Action N → Prop
  | .allocate t => e.Allots x.traced.stack → ∀ g ∈ x.since t, g.byConnect = true →
      (x.traced.stack.tasks t).incomingId.map CspId.dport ≠ some g.idin.dport
  | _ => True

/-- In that time no connection is given out whose identifier matches its own. -/
def IdKept (e : StackEnv) (x : Watched N) : Action N → Prop
  | .allocate t => e.Allots x.traced.stack → ∀ g ∈ x.since t,
      (x.traced.stack.tasks t).incomingId.map (· &&& cspIdConnMask) ≠
        some (g.idin &&& cspIdConnMask)
  | _ => True

instance (e : StackEnv) (x : Watched N) (a : Action N) : Decidable (PortKept e x a) :=
  match a with
  | .allocate _ => inferInstanceAs (Decidable (e.Allots x.traced.stack → ∀ g ∈ _, _ → _ ≠ _))
  | .checkTimeouts _ | .route | .newPacket _ | .bind _ _ | .connect _ _ _ _ _ | .connectWake _
  | .connectTimeout _ | .send _ _ _ | .sendWake _ | .sendTimeout _ | .read _ | .close _ =>
    isTrue trivial

/-- Every open connection with the port of a call between its two parts was given out since the
call chose it. -/
def Watched.Aware (x : Watched N) : Prop :=
  ∀ t inId outId opts, x.traced.stack.tasks t = .allocating inId outId opts →
    ∀ i, (x.traced.stack.conns i).state ≠ .connClosed →
      (x.traced.stack.conns i).idin.dport = inId.dport →
        ⟨x.traced.byConnect i, (x.traced.stack.conns i).idin⟩ ∈ x.since t

omit [NeZero N] in
/-- A task that allocates is between the parts. -/
theorem Watched.between_of {x : Watched N} {t : ℕ} {inId outId : CspId} {opts : U32}
    (h : x.traced.stack.tasks t = .allocating inId outId opts) : x.between t = true := by
  rw [Watched.between, h]
  rfl

omit [NeZero N] in
/-- A task between the parts allocates, with its identifiers and options. -/
theorem Watched.exists_of_between {x : Watched N} {t : ℕ} (h : x.between t = true) :
    ∃ inId outId opts, x.traced.stack.tasks t = .allocating inId outId opts := by
  cases htask : x.traced.stack.tasks t with
  | allocating inId outId opts => exact ⟨inId, outId, opts, rfl⟩
  | idle | connectWait _ _ | sendWait _ _ =>
    rw [Watched.between, htask] at h
    exact absurd h Bool.false_ne_true

/-- The note changes nothing about the node. -/
theorem watchedStep_traced {e : StackEnv} {x y : Watched N} {a : Action N}
    (h : watchedStep e x a = some y) : tracedStep e x.traced a = some y.traced := by
  obtain ⟨y, hy, rfl⟩ := Option.map_eq_some_iff.1 h
  exact hy

/-- **An open connection was open before, or it is noted that it was given out.** -/
theorem open_or_granted {e : StackEnv} {x y : Traced N} {a : Action N} (hN : N ≠ 1)
    (h : tracedStep e x a = some y) {i : Fin N} (hi : (y.stack.conns i).state ≠ .connClosed) :
    ((x.stack.conns i).state ≠ .connClosed ∧ (y.stack.conns i).idin = (x.stack.conns i).idin ∧
        y.byConnect i = x.byConnect i) ∨
      ⟨y.byConnect i, (y.stack.conns i).idin⟩ ∈ granted x y := by
  cases tracedStep_turn h with
  | staying hs hby =>
    obtain ⟨hused, hin⟩ := (hs.shells i).used hi
    exact .inl ⟨hused, hin, congrFun hby i⟩
  | ported _ hconns hby =>
    rw [hconns] at hi ⊢
    exact .inl ⟨hi, rfl, congrFun hby i⟩
  | accepted _ _ hg hby | allocated _ _ hg hby =>
    rename_i j _ _
    by_cases hij : i = j
    · exact .inr (mem_granted (by rw [hg.gave, decide_eq_true hij]))
    · obtain ⟨hused, hin⟩ := (hg.others i hij).used hi
      exact .inl ⟨hused, hin, by rw [hby, Function.update_of_ne hij]⟩
  | single h1 => exact absurd h1 hN

/-- **What is noted of a call between its parts**: what is given out goes to the note of a call
that was there before, and a call that has just chosen begins with an empty one. -/
theorem noted_cases {e : StackEnv} {x y : Watched N} {a : Action N}
    (hst : watchedStep e x a = some y) {t : ℕ} {inId outId : CspId} {opts : U32}
    (ht : y.traced.stack.tasks t = .allocating inId outId opts) :
    (x.traced.stack.tasks t = .allocating inId outId opts ∧
        y.since t = x.since t ++ granted x.traced y.traced ∧ y.chosenAt t = x.chosenAt t) ∨
      ((∃ prio dest dport opts₀, a = .connect t prio dest dport opts₀) ∧
        (y.traced.stack.sport ≠ x.traced.stack.sport ∧
          inId.dport = y.traced.stack.sport.setWidth 6) ∧
        (∀ j, (y.traced.stack.conns j).state ≠ .connClosed →
          (y.traced.stack.conns j).idin.dport ≠ inId.dport) ∧
        y.since t = [] ∧ y.chosenAt t = y.moved) := by
  obtain ⟨y, hy, rfl⟩ := Option.map_eq_some_iff.1 hst
  obtain ⟨s, hs, hsy⟩ := Option.map_eq_some_iff.1 hy
  obtain rfl : s = y.stack := hsy ▸ rfl
  rcases allocating_cases hs ht with hbefore | ⟨ha, hidle, hne, hdport, hfree⟩
  · have hbetween := Watched.between_of hbefore
    exact .inl ⟨hbefore, if_pos hbetween, if_pos hbetween⟩
  · have hbetween : ¬ x.between t = true := by
      rw [Watched.between, hidle]
      exact Bool.false_ne_true
    exact .inr ⟨ha, ⟨hne, hdport⟩, hfree, if_neg hbetween, if_neg hbetween⟩

/-- **The note is complete.** -/
theorem Watched.Aware.step {e : StackEnv} {x y : Watched N} {a : Action N} (hN : N ≠ 1)
    (h : x.Aware) (hst : watchedStep e x a = some y) : y.Aware := by
  intro t inId outId opts ht i hi hport
  rcases noted_cases hst ht with ⟨hbefore, hsince, -⟩ | ⟨-, -, hfree, -⟩
  · rw [hsince]
    rcases open_or_granted hN (watchedStep_traced hst) hi with ⟨hused, hin, hby⟩ | hgranted
    · refine List.mem_append_left _ ?_
      have hnoted := h t _ _ _ hbefore i hused (hin ▸ hport)
      rw [← hin, ← hby] at hnoted
      exact hnoted
    · exact List.mem_append_right _ hgranted
  · exact absurd hport (hfree i hi)

/-- After `csp_init` there is nothing to note. -/
theorem Watched.aware_init {port : U8} : (Watched.init N port).Aware :=
  fun _ _ _ _ ht => by cases ht

/-- So if no other call is given the port, it is still free. -/
theorem Watched.Aware.portStillFree {e : StackEnv} {x : Watched N} {a : Action N} (h : x.Aware)
    (hok : PortKept e x a) : PortStillFree e x.traced a := by
  cases a with
  | allocate t =>
    intro hallots i ⟨hby, hused⟩
    cases htask : x.traced.stack.tasks t with
    | allocating inId outId opts =>
      intro heq
      have hport : inId.dport = (x.traced.stack.conns i).idin.dport := Option.some.inj heq
      have hnoted := h t _ _ _ htask i hused hport.symm
      refine hok hallots _ hnoted hby ?_
      rw [htask]
      exact heq
    | idle | connectWait _ _ | sendWait _ _ => exact fun heq => absurd heq.symm (Option.some_ne_none _)
  | _ => trivial

/-- And if nobody is given a connection that would match, none does. -/
theorem Watched.Aware.stillUnmatched {e : StackEnv} {x : Watched N} {a : Action N} (h : x.Aware)
    (hok : IdKept e x a) : StillUnmatched e x.traced.stack a := by
  cases a with
  | allocate t =>
    intro hallots
    refine Option.bind_eq_none_iff.2 fun id hid => cspConnFind_eq_none_iff.2 fun i hused hin => ?_
    cases htask : x.traced.stack.tasks t with
    | allocating inId outId opts =>
      rw [htask] at hid
      obtain rfl : inId = id := Option.some.inj hid
      have hnoted := h t _ _ _ htask i hused (connMask_eq_iff.1 hin).2.2.1
      refine hok hallots _ hnoted ?_
      rw [htask]
      exact congrArg some hin.symm
    | idle | connectWait _ _ | sendWait _ _ =>
      rw [htask] at hid
      exact absurd hid.symm (Option.some_ne_none id)
  | _ => trivial

/-! ### Different ports -/

/-- The note is complete, and the ports are different. -/
structure Watched.Sure (x : Watched N) : Prop where
  aware : x.Aware
  ports : UniquePorts x.traced

/-- **A step keeps the ports different**, if the port was kept. -/
theorem Watched.Sure.step {e : StackEnv} {x y : Watched N} {a : Action N} (hN : N ≠ 1)
    (h : x.Sure) (hok : PortKept e x a) (hst : watchedStep e x a = some y) : y.Sure :=
  ⟨h.aware.step hN hst, h.ports.step (h.aware.portStillFree hok) (watchedStep_traced hst)⟩

/-- After `csp_init` there is no connection of `csp_connect`. -/
theorem Watched.sure_init {port : U8} : (Watched.init N port).Sure :=
  ⟨Watched.aware_init, fun _ ⟨hi, _⟩ => absurd hi Bool.false_ne_true⟩

omit [NeZero N] in
/-- A table of one place. -/
theorem uniquePorts_single (hN : N = 1) (x : Traced N) : UniquePorts x := by
  subst hN
  exact fun _ _ _ _ _ => Subsingleton.elim _ _

/-- **The identifiers are different, too**, in every run in which no connection that would match a
call's identifier is given out while the call is between its two parts. -/
theorem run_uniqueIds_kept {e : StackEnv} {is : List (Action N)} {port : U8} {x : Watched N}
    (hrun : Run (watchedStep e) (IdKept e) (Watched.init N port) is x) :
    UniqueIds x.traced.stack.conns := by
  by_cases hN : N = 1
  · subst hN
    exact fun _ _ _ _ _ => Subsingleton.elim _ _
  · have h : x.Aware ∧ UniqueIds x.traced.stack.conns :=
      hrun.invariant (P := fun x => x.Aware ∧ UniqueIds x.traced.stack.conns)
        (fun _ _ _ ⟨haware, hids⟩ hok hst => by
          obtain ⟨s, hs, hsy⟩ := Option.map_eq_some_iff.1 (watchedStep_traced hst)
          exact ⟨haware.step hN hst, hsy ▸ hids.step (haware.stillUnmatched hok) hs⟩)
        ⟨Watched.aware_init, fun _ hi => (hi rfl).elim⟩
    exact h.2

/-! ### Calls with the same port -/

/-- Between the two parts of `csp_connect` no two calls have the same port. -/
def Watched.Alone (x : Watched N) : Prop :=
  ∀ t t' id id', (x.traced.stack.tasks t).incomingId = some id →
    (x.traced.stack.tasks t').incomingId = some id' → t ≠ t' → id.dport ≠ id'.dport

/-- Nothing was given out for the ports of the calls that are between the two parts. -/
def Watched.Spared (x : Watched N) : Prop :=
  ∀ t inId outId opts, x.traced.stack.tasks t = .allocating inId outId opts →
    ∀ g ∈ x.since t, g.byConnect = true → g.idin.dport ≠ inId.dport

/-- After its second part a call is not between the parts any more. -/
theorem connectAllocate_done (e : StackEnv) (t : ℕ) (inId outId : CspId) (opts : U32)
    (s : Stack N) : ((connectAllocate e t inId outId opts s).tasks t).incomingId = none := by
  have hset : ∀ (s : Stack N) (c : Caller N), c.incomingId = none →
      ((s.setTask t c).tasks t).incomingId = none := by
    intro s c hc
    show (Function.update s.tasks t c t).incomingId = none
    rw [Function.update_self]
    exact hc
  unfold connectAllocate
  split
  · exact hset _ _ rfl
  · simp only
    split
    · unfold connectReturn
      split <;> exact hset _ _ rfl
    · exact hset _ _ rfl

/-- **What was given to a `csp_connect`** is what it had chosen. -/
theorem granted_byConnect {e : StackEnv} {x y : Traced N} {a : Action N}
    (h : tracedStep e x a = some y) {g : Grant} (hg : g ∈ granted x y)
    (hby : g.byConnect = true) : ∃ t inId outId opts, a = .allocate t ∧ e.Allots x.stack ∧
      x.stack.tasks t = .allocating inId outId opts ∧ g.idin = inId ∧
        (y.stack.tasks t).incomingId = none := by
  obtain ⟨i, hi, rfl⟩ := List.mem_map.1 hg
  have hgave : x.stack.gave y.stack i = true := (List.mem_filter.1 hi).2
  obtain ⟨s, hs, rfl⟩ := Option.map_eq_some_iff.1 h
  have ha : a.isAllocate = true := (if_pos hgave).symm.trans hby
  have hquiet : ¬ x.stack.gave s i = false := fun hfalse =>
    Bool.false_ne_true (hfalse.symm.trans hgave)
  cases a with
  | allocate t =>
    cases stackStep_turned hs with
    | staying hst => exact absurd (gave_eq_false hst.log i) hquiet
    | single _ _ hlog _ =>
      obtain ⟨evs, hl, hevs⟩ := hlog
      exact absurd (gave_eq_false ⟨evs, hl, fun ev hev => (hevs ev hev).under s.options⟩ i) hquiet
    | @allocated _ inId outId opts _ j ht hallots hgiven =>
      have hij : i = j := of_decide_eq_true ((hgiven.gave i).symm.trans hgave)
      have hidin : (s.conns i).shell.idin = inId := by
        rw [hij]
        rcases hgiven.self with hself | hself <;> rw [hself]
      refine ⟨t, inId, outId, opts, rfl, hallots, ht, hidin, ?_⟩
      cases stackStep_turn hs with
      | allocate _ => exact connectAllocate_done e t _ _ _ _
  | _ => exact absurd ha Bool.false_ne_true

/-- Who is given a connection is between its parts, and has another port than the others there. -/
theorem Watched.Spared.step {e : StackEnv} {x y : Watched N} {a : Action N} (h : x.Spared)
    (hok : x.Alone) (hst : watchedStep e x a = some y) : y.Spared := by
  intro t inId outId opts ht g hg hby
  rcases noted_cases hst ht with ⟨hbefore, hsince, -⟩ | ⟨-, -, -, hsince, -⟩
  · rw [hsince] at hg
    rcases List.mem_append.1 hg with hold | hnew
    · exact h t _ _ _ hbefore g hold hby
    · obtain ⟨t', inId', outId', opts', -, -, htask', rfl, hdone⟩ :=
        granted_byConnect (watchedStep_traced hst) hnew hby
      refine hok t' t _ _ (by rw [htask']; rfl) (by rw [hbefore]; rfl) ?_
      rintro rfl
      rw [ht] at hdone
      exact absurd hdone (Option.some_ne_none inId)
  · rw [hsince] at hg
    exact absurd hg List.not_mem_nil

/-- A port is kept when nothing was given out for it since its call chose it. -/
theorem portKept_of_notGiven {e : StackEnv} {x : Watched N} {t : ℕ}
    (h : e.Allots x.traced.stack → ∀ inId outId opts,
      x.traced.stack.tasks t = .allocating inId outId opts → ∀ g ∈ x.since t,
        g.byConnect = true → g.idin.dport ≠ inId.dport) : PortKept e x (.allocate t) := by
  intro hallots g hg hby hport
  obtain ⟨inId, hin, hdport⟩ := Option.map_eq_some_iff.1 hport
  obtain ⟨inId', outId, opts, htask⟩ :=
    Watched.exists_of_between (x := x) (t := t) (by rw [Watched.between, hin]; rfl)
  rw [htask] at hin
  obtain rfl : inId' = inId := Option.some.inj hin
  exact h hallots _ _ _ htask g hg hby hdport.symm

/-- So a spared call's port is kept for it. -/
theorem Watched.Spared.portKept {e : StackEnv} {x : Watched N} (h : x.Spared) (a : Action N) :
    PortKept e x a := by
  cases a with
  | allocate t => exact portKept_of_notGiven fun _ => h t
  | _ => trivial

/-- **The ports are different if no call meets another with its port:** in every run in which no
two calls that are between the two parts of `csp_connect` have the same one. -/
theorem run_uniquePorts_alone {e : StackEnv} {is : List (Action N)} {port : U8} {x : Watched N}
    (hrun : Run (watchedStep e) (fun x _ => x.Alone) (Watched.init N port) is x) :
    UniquePorts x.traced := by
  by_cases hN : N = 1
  · exact uniquePorts_single hN x.traced
  · have h : x.Spared ∧ x.Sure := hrun.invariant (P := fun x => x.Spared ∧ x.Sure)
      (fun _ a _ ⟨hspared, hsure⟩ hok hst =>
        ⟨hspared.step hok hst, hsure.step hN (hspared.portKept a) hst⟩)
      ⟨fun _ _ _ _ ht => (by cases ht), Watched.sure_init⟩
    exact h.2.ports

/-! ### The counter -/

/-- The counter goes on by the ports that have passed. -/
theorem portsPassed_mod {old new : U8} (hold : EphemeralPort old) (hnew : EphemeralPort new) :
    (old.toNat + portsPassed old new) % 48 = new.toNat % 48 := by
  have hlast : old.toNat ≤ 63 := hold.2
  have hfirst : 16 ≤ new.toNat := hnew.1
  unfold portsPassed
  omega

/-- A counter that has moved has passed a port. -/
theorem portsPassed_pos {old new : U8} (hold : EphemeralPort old) (hnew : EphemeralPort new)
    (hne : new ≠ old) : 0 < portsPassed old new := by
  have h₁ : 16 ≤ old.toNat ∧ old.toNat ≤ 63 := hold
  have h₂ : 16 ≤ new.toNat ∧ new.toNat ≤ 63 := hnew
  have h₃ : new.toNat ≠ old.toNat := fun heq => hne (BitVec.eq_of_toNat_eq heq)
  unfold portsPassed
  omega

/-- When `csp_conn_new` takes a connection for a call, the counter has not come round since the
call chose its port. -/
def Prompt (e : StackEnv) (x : Watched N) : Action N → Prop
  | .allocate t => e.Allots x.traced.stack → x.moved < x.chosenAt t + 48
  | _ => True

/-- Where the counter was when the calls between their parts chose, and what was given out for
their ports: nothing, unless the counter has come round. -/
structure Watched.Counted (first : ℕ) (x : Watched N) : Prop where
  sport : x.traced.stack.sport.toNat % 48 = (first + x.moved) % 48
  chosen : ∀ t inId outId opts, x.traced.stack.tasks t = .allocating inId outId opts →
    inId.dport.toNat % 48 = (first + x.chosenAt t) % 48 ∧ x.chosenAt t ≤ x.moved
  distinct : ∀ t t', x.between t = true → x.between t' = true → t ≠ t' →
    x.chosenAt t ≠ x.chosenAt t'
  late : ∀ t inId outId opts, x.traced.stack.tasks t = .allocating inId outId opts →
    ∀ g ∈ x.since t, g.byConnect = true → g.idin.dport = inId.dport →
      x.chosenAt t + 48 ≤ x.moved

section

variable {e : StackEnv} {first : ℕ} {x y : Watched N} {a : Action N}

/-- **A call that is between its parts** was there before and has its moment, or has just chosen
the port that the counter now has. -/
theorem chosen_cases (hmade : MadeStack e x.traced) (hst : watchedStep e x a = some y) {t : ℕ}
    {inId outId : CspId} {opts : U32} (ht : y.traced.stack.tasks t = .allocating inId outId opts) :
    (x.traced.stack.tasks t = .allocating inId outId opts ∧ y.chosenAt t = x.chosenAt t) ∨
      ((∃ prio dest dport opts₀, a = .connect t prio dest dport opts₀) ∧
        inId.dport.toNat = y.traced.stack.sport.toNat ∧ x.moved < y.moved ∧
          y.chosenAt t = y.moved) := by
  rcases noted_cases hst ht with ⟨hbefore, -, hat⟩ | ⟨ha, ⟨hne, hdport⟩, -, -, hat⟩
  · exact .inl ⟨hbefore, hat⟩
  · have hport' : EphemeralPort y.traced.stack.sport :=
      (hmade.step (watchedStep_traced hst)).sport
    refine .inr ⟨ha, ?_, ?_, hat⟩
    · have hlast : y.traced.stack.sport.toNat ≤ 63 := hport'.2
      rw [hdport, BitVec.toNat_setWidth]
      exact Nat.mod_eq_of_lt (by omega)
    · obtain ⟨y, hy, rfl⟩ := Option.map_eq_some_iff.1 hst
      exact Nat.lt_add_of_pos_right (portsPassed_pos hmade.sport hport' hne)

/-- The counter is where it has moved to. -/
theorem Watched.Counted.step_sport (h : x.Counted first) (hmade : MadeStack e x.traced)
    (hst : watchedStep e x a = some y) : x.moved ≤ y.moved ∧
      y.traced.stack.sport.toNat % 48 = (first + y.moved) % 48 := by
  have hport' : EphemeralPort y.traced.stack.sport := (hmade.step (watchedStep_traced hst)).sport
  obtain ⟨y, hy, rfl⟩ := Option.map_eq_some_iff.1 hst
  have hmod : (x.traced.stack.sport.toNat + portsPassed x.traced.stack.sport y.stack.sport) % 48 =
      y.stack.sport.toNat % 48 := portsPassed_mod hmade.sport hport'
  have hsport := h.sport
  refine ⟨Nat.le_add_right _ _, ?_⟩
  show y.stack.sport.toNat % 48 =
    (first + (x.moved + portsPassed x.traced.stack.sport y.stack.sport)) % 48
  omega

/-- Two calls that are between their parts have chosen at two moments. -/
theorem Watched.Counted.step_distinct (h : x.Counted first) (hmade : MadeStack e x.traced)
    (hst : watchedStep e x a = some y) {t t' : ℕ} (ht : y.between t = true)
    (ht' : y.between t' = true) (htt : t ≠ t') : y.chosenAt t ≠ y.chosenAt t' := by
  obtain ⟨inId, outId, opts, htask⟩ := Watched.exists_of_between ht
  obtain ⟨inId', outId', opts', htask'⟩ := Watched.exists_of_between ht'
  rcases chosen_cases hmade hst htask with ⟨hbefore, hat⟩ | ⟨⟨_, _, _, _, rfl⟩, -, hlt, hat⟩ <;>
    rcases chosen_cases hmade hst htask' with
      ⟨hbefore', hat'⟩ | ⟨⟨_, _, _, _, ha⟩, -, hlt', hat'⟩
  · rw [hat, hat']
    exact h.distinct t t' (Watched.between_of hbefore) (Watched.between_of hbefore') htt
  · have hle := (h.chosen t _ _ _ hbefore).2
    omega
  · have hle := (h.chosen t' _ _ _ hbefore').2
    omega
  · exact absurd (Action.connect.inj ha).1 htt

/-- What is given out for the port of another call is given out after the counter has come
round: who is given it has been prompt, and so has chosen later. -/
theorem Watched.Counted.step_late (h : x.Counted first) (hmade : MadeStack e x.traced)
    (hok : Prompt e x a) (hst : watchedStep e x a = some y) {t : ℕ} {inId outId : CspId}
    {opts : U32} (ht : y.traced.stack.tasks t = .allocating inId outId opts) {g : Grant}
    (hg : g ∈ y.since t) (hby : g.byConnect = true) (hport : g.idin.dport = inId.dport) :
    y.chosenAt t + 48 ≤ y.moved := by
  have hmoved := (h.step_sport hmade hst).1
  rcases noted_cases hst ht with ⟨hbefore, hsince, hat⟩ | ⟨-, -, -, hsince, -⟩
  · rw [hat]
    rw [hsince] at hg
    rcases List.mem_append.1 hg with hold | hnew
    · exact (h.late t _ _ _ hbefore g hold hby hport).trans hmoved
    · obtain ⟨t', inId', outId', opts', rfl, hallots, htask', rfl, hdone⟩ :=
        granted_byConnect (watchedStep_traced hst) hnew hby
      have htt : t ≠ t' := by
        rintro rfl
        rw [ht] at hdone
        exact absurd hdone (Option.some_ne_none inId)
      have hprompt : x.moved < x.chosenAt t' + 48 := hok hallots
      have hdistinct := h.distinct t t' (Watched.between_of hbefore) (Watched.between_of htask') htt
      obtain ⟨hc, hle⟩ := h.chosen t _ _ _ hbefore
      obtain ⟨hc', hle'⟩ := h.chosen t' _ _ _ htask'
      rw [hport] at hc'
      omega
  · rw [hsince] at hg
    exact absurd hg List.not_mem_nil

/-- **A step keeps count**, if whoever is given a connection has been prompt. -/
theorem Watched.Counted.step (h : x.Counted first) (hmade : MadeStack e x.traced)
    (hok : Prompt e x a) (hst : watchedStep e x a = some y) : y.Counted first := by
  obtain ⟨hmoved, hsport⟩ := h.step_sport hmade hst
  refine ⟨hsport, fun t inId outId opts ht => ?_, fun t t' => h.step_distinct hmade hst,
    fun t inId outId opts ht g => h.step_late hmade hok hst ht⟩
  rcases chosen_cases hmade hst ht with ⟨hbefore, hat⟩ | ⟨-, hdport, -, hat⟩
  · obtain ⟨hc, hle⟩ := h.chosen t _ _ _ hbefore
    rw [hat]
    exact ⟨hc, hle.trans hmoved⟩
  · rw [hat, hdport]
    exact ⟨hsport, le_rfl⟩

end

/-- Who is given a connection before the counter has come round gets a port of its own. -/
theorem Watched.Counted.portKept {e : StackEnv} {first : ℕ} {x : Watched N} {a : Action N}
    (h : x.Counted first) (hok : Prompt e x a) : PortKept e x a := by
  cases a with
  | allocate t =>
    refine portKept_of_notGiven fun hallots inId outId opts htask g hg hby hport => ?_
    have hlate := h.late t _ _ _ htask g hg hby hport
    have hprompt : x.moved < x.chosenAt t + 48 := hok hallots
    omega
  | _ => trivial

/-- **The ports are different if nobody is slow:** in every run in which the counter does not come
round between a call's choice of a port and its connection. -/
theorem run_uniquePorts_prompt {e : StackEnv} {is : List (Action N)} {port : U8} {x : Watched N}
    (hport : EphemeralPort port)
    (hrun : Run (watchedStep e) (Prompt e) (Watched.init N port) is x) :
    UniquePorts x.traced := by
  by_cases hN : N = 1
  · exact uniquePorts_single hN x.traced
  · have hinit : (Watched.init N port).Counted port.toNat :=
      ⟨rfl, fun _ _ _ _ ht => (by cases ht), fun _ _ ht => absurd ht Bool.false_ne_true,
        fun _ _ _ _ ht => (by cases ht)⟩
    have h : (MadeStack e x.traced ∧ x.Counted port.toNat) ∧ x.Sure :=
      hrun.invariant (P := fun x => (MadeStack e x.traced ∧ x.Counted port.toNat) ∧ x.Sure)
        (fun _ _ _ ⟨⟨hmade, hcounted⟩, hsure⟩ hok hst =>
          have hmade' := hmade.step (watchedStep_traced hst)
          ⟨⟨hmade', hcounted.step hmade hok hst⟩,
            hsure.step hN (hcounted.portKept hok) hst⟩)
        ⟨⟨madeStack_init e hport, hinit⟩, Watched.sure_init⟩
    exact h.2.ports

end LibCSP
