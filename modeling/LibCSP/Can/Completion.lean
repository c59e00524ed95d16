/-
# What a blocking transmission reports

`csp_tx_callback` frees the element before it posts `tx_sem`, and `csp_can_tx` posts without
looking whether the element is still its own.  So a post may come when the element has a new owner
that has emptied the semaphore and waits, and the new owner returns 1 with its frames still on the
bus (`stale_post_reports`, `late_post_reports`).  In a run in which no post comes like this, and in
which the packet a callback finds is the one its frame belongs to, 1 means that the last frame has
been confirmed (`run_reports`): what an element has counted is what the frame on its way brings its
packet to, so that the callback that finds the packet to be through was called for the last frame.
-/

import LibCSP.Can.Tasks

namespace LibCSP

open Basis

/-! ### What is confirmed -/

/-- It is the last frame of packet `n`, and `csp_tx_callback` was called for it without error. -/
def BusFrame.Confirms (n : ℕ) (f : BusFrame) : Prop :=
  f.call = n ∧ f.upTo = f.total ∧ f.ok = true ∧ f.stage ≠ .onBus

instance (n : ℕ) (f : BusFrame) : Decidable (f.Confirms n) := inferInstanceAs (Decidable (_ ∧ _))

/-- The last frame of packet `n` was confirmed. -/
def CanTasks.Confirmed (s : CanTasks) (n : ℕ) : Prop :=
  ∃ k < s.nextFrame, ∃ f ∈ s.frames k, f.Confirms n

instance (s : CanTasks) (n : ℕ) : Decidable (s.Confirmed n) :=
  inferInstanceAs (Decidable (∃ k < s.nextFrame, ∃ f ∈ s.frames k, f.Confirms n))

/-- A call that has returned 1 has had its last frame confirmed. -/
def CanTasks.Reports (s : CanTasks) : Prop :=
  ∀ n t, s.calls n = some t → t.stage = .returned 1 → s.Confirmed n

namespace TxStage

/-- The element has the packet. -/
def stored : TxStage → Bool
  | .new | .store _ => false
  | _ => true

/-- The first frame was sent, or was not taken. -/
def sent : TxStage → Bool
  | .wait _ | .post _ _ | .returned _ => true
  | _ => false

/-- The semaphore was emptied, and the wait for it is not over. -/
def awaits : TxStage → Option (Fin pbufElements)
  | .send i | .wait i => some i
  | _ => none

/-- The semaphore that is posted next. -/
def posts : TxStage → Option (Fin pbufElements)
  | .post i _ => some i
  | _ => none

/-- The call returns 1. -/
def reports : TxStage → Bool
  | .post _ ret | .returned ret => ret = 1
  | _ => false

end TxStage

namespace FrameStage

/-- The callback has not looked at the element. -/
def pending : FrameStage → Bool
  | .onBus | .found _ => true
  | _ => false

/-- The callback has found the packet to be through, and posts. -/
def completes : FrameStage → Bool
  | .freeing _ post => post
  | .posting _ => true
  | _ => false

/-- The semaphore that is posted next. -/
def posts : FrameStage → Option (Fin pbufElements)
  | .posting i => some i
  | _ => none

end FrameStage

/-- The semaphore of element `i` is posted for packet `n`: every other call that waits for it, or is
about to, has had its last frame confirmed. -/
def CanTasks.InTime (s : CanTasks) (i : Fin pbufElements) (n : ℕ) : Prop :=
  ∀ m < s.next, m ≠ n → ∀ t ∈ s.calls m, t.stage.awaits = some i → s.Confirmed m

instance (s : CanTasks) (i : Fin pbufElements) (n : ℕ) : Decidable (s.InTime i n) :=
  inferInstanceAs (Decidable (∀ m < s.next, m ≠ n → ∀ t ∈ s.calls m, _ → _))

/-- No post comes late, a callback finds the packet its frame belongs to, and an element that gets a
packet has nothing counted. -/
def CanTasks.Orderly (s : CanTasks) : CanTaskAction → Prop
  | .post n => ∀ t ∈ s.calls n, ∀ i ∈ t.stage.posts, s.InTime i n
  | .finish k => ∀ f ∈ s.frames k, ∀ i ∈ f.stage.posts, s.InTime i f.call
  | .look k _ => ∀ f ∈ s.frames k, ∀ i, f.stage = .found i → f.ok = true →
      ∀ p ∈ (s.pbuf.elements i).packet, p.buf = f.call
  | .store n => ∀ t ∈ s.calls n, ∀ i, t.stage = .store i → (s.pbuf.elements i).txCount = 0
  | _ => True

instance (s : CanTasks) (a : CanTaskAction) : Decidable (s.Orderly a) :=
  match a with
  | .post n => inferInstanceAs (Decidable (∀ t ∈ s.calls n, ∀ i ∈ t.stage.posts, s.InTime i n))
  | .finish k =>
    inferInstanceAs (Decidable (∀ f ∈ s.frames k, ∀ i ∈ f.stage.posts, s.InTime i f.call))
  | .look k _ => inferInstanceAs (Decidable (∀ f ∈ s.frames k, ∀ i, f.stage = .found i →
      f.ok = true → ∀ p ∈ (s.pbuf.elements i).packet, p.buf = f.call))
  | .store n => inferInstanceAs (Decidable (∀ t ∈ s.calls n, ∀ i, t.stage = .store i →
      (s.pbuf.elements i).txCount = 0))
  | .call _ _ | .new _ _ | .arm _ | .send _ _ | .wake _ | .timeout _ | .callback _ _ _ | .free _ =>
    isTrue trivial

/-! ### The invariant -/

/-- The packets, the frames and the semaphores agree. -/
structure CanTasks.Consistent (s : CanTasks) : Prop where
  called : ∀ n t, s.calls n = some t → n < s.next ∧ t.packet.buf = n
  framed : ∀ k f, s.frames k = some f → k < s.nextFrame
  /-- An element has the packet of a call that has put it there. -/
  stored : ∀ i p, (s.pbuf.elements i).packet = some p →
    ∃ t, s.calls p.buf = some t ∧ t.packet = p ∧ t.stage.stored = true
  unique : ∀ i j p q, (s.pbuf.elements i).packet = some p → (s.pbuf.elements j).packet = some q →
    p.buf = q.buf → i = j
  /-- Before its first frame two bytes at most are counted. -/
  begun : ∀ n t, s.calls n = some t → t.stage.sent = false → ∀ i p,
    (s.pbuf.elements i).packet = some p → p.buf = n →
      (s.pbuf.elements i).txCount.toNat = min p.length.toNat 2
  flown : ∀ k f, s.frames k = some f → f.upTo ≤ f.total ∧
    ∃ t, s.calls f.call = some t ∧ t.stage.sent = true
  /-- What is counted is what the frame on its way brings it to. -/
  pending : ∀ k f, s.frames k = some f → f.stage.pending = true → ∀ i p,
    (s.pbuf.elements i).packet = some p → p.buf = f.call →
      (s.pbuf.elements i).txCount.toNat = f.upTo ∧ p.length.toNat = f.total
  /-- One frame of a packet is on its way. -/
  single : ∀ k l f g, s.frames k = some f → s.frames l = some g → f.stage.pending = true →
    g.stage.pending = true → f.call = g.call → k = l
  completed : ∀ k f, s.frames k = some f → f.stage.completes = true → f.Confirms f.call
  semaphore : ∀ n t i, s.calls n = some t → t.stage.awaits = some i → s.txSem i = true →
    s.Confirmed n
  reported : ∀ n t, s.calls n = some t → t.stage.reports = true → s.Confirmed n

/-- After `csp_can_init` no call is under way. -/
theorem CanTasks.init_consistent (cfpIdent : BitVec 10) : (init cfpIdent).Consistent := by
  have hcalls : ∀ {n t}, (init cfpIdent).calls n = some t → False := fun h =>
    absurd h.symm (Option.some_ne_none _)
  have hframes : ∀ {k f}, (init cfpIdent).frames k = some f → False := fun h =>
    absurd h.symm (Option.some_ne_none _)
  have hpackets : ∀ {i p}, ((init cfpIdent).pbuf.elements i).packet = some p → False := fun h =>
    absurd h.symm (Option.some_ne_none _)
  exact
    { called := fun _ _ h => (hcalls h).elim
      framed := fun _ _ h => (hframes h).elim
      stored := fun _ _ h => (hpackets h).elim
      unique := fun _ _ _ _ h => (hpackets h).elim
      begun := fun _ _ h => (hcalls h).elim
      flown := fun _ _ h => (hframes h).elim
      pending := fun _ _ h => (hframes h).elim
      single := fun _ _ _ _ h => (hframes h).elim
      completed := fun _ _ h => (hframes h).elim
      semaphore := fun _ _ _ h => (hcalls h).elim
      reported := fun _ _ h => (hcalls h).elim }

namespace CanTasks.Consistent

variable {s : CanTasks} {i : Fin pbufElements} {n k : ℕ}

/-- Elements lose packets. -/
theorem shrink {pbuf : Pbuf} (h : s.Consistent) (hpbuf : s.pbuf.Shrinks pbuf) :
    (s.setPbuf pbuf).Consistent where
  called := h.called
  framed := h.framed
  stored i p hp := h.stored i p (hpbuf i p hp).1
  unique i j p q hp hq := h.unique i j p q (hpbuf i p hp).1 (hpbuf j q hq).1
  begun n t hn hst i p hp hbuf := by
    obtain ⟨hp, hcount⟩ := hpbuf i p hp
    exact (congrArg BitVec.toNat hcount).trans (h.begun n t hn hst i p hp hbuf)
  flown := h.flown
  pending k f hk hst i p hp hbuf := by
    obtain ⟨hp, hcount⟩ := hpbuf i p hp
    obtain ⟨hupTo, htotal⟩ := h.pending k f hk hst i p hp hbuf
    exact ⟨(congrArg BitVec.toNat hcount).trans hupTo, htotal⟩
  single := h.single
  completed := h.completed
  semaphore := h.semaphore
  reported := h.reported

/-- **A post** needs that everybody who waits for the semaphore is through. -/
theorem setSem {b : Bool} (h : s.Consistent)
    (hpost : b = true → ∀ n t, s.calls n = some t → t.stage.awaits = some i → s.Confirmed n) :
    (s.setSem i b).Consistent where
  called := h.called
  framed := h.framed
  stored := h.stored
  unique := h.unique
  begun := h.begun
  flown := h.flown
  pending := h.pending
  single := h.single
  completed := h.completed
  semaphore n t j hn hst hsem := by
    by_cases hj : j = i
    · subst hj
      exact hpost ((s.setSem_self).symm.trans hsem) n t hn hst
    · exact h.semaphore n t j hn hst ((s.setSem_ne hj).symm.trans hsem)
  reported := h.reported

/-- A call takes a step. -/
theorem setCall {t t' : TxTask} (h : s.Consistent) (hn : s.calls n = some t)
    (hpacket : t'.packet = t.packet) (hstored : t.stage.stored = true → t'.stage.stored = true)
    (hsent : t.stage.sent = true → t'.stage.sent = true)
    (hawaits : ∀ i, t'.stage.awaits = some i → s.txSem i = true → s.Confirmed n)
    (hreports : t'.stage.reports = true → s.Confirmed n) : (s.setCall n t').Consistent := by
  have hself : (s.setCall n t').calls n = some t' := s.setCall_self t'
  have hother : ∀ m, m ≠ n → (s.setCall n t').calls m = s.calls m := fun m hm =>
    s.setCall_ne hm t'
  -- what holds of the call before the step and is kept
  have hkeep : ∀ {P : TxTask → Prop}, (P t → P t') → ∀ m, (∃ u, s.calls m = some u ∧ P u) →
      ∃ u, (s.setCall n t').calls m = some u ∧ P u := by
    rintro P hP m ⟨u, hu, hPu⟩
    by_cases hm : m = n
    · subst hm
      obtain rfl := Option.some.inj (hn.symm.trans hu)
      exact ⟨t', hself, hP hPu⟩
    · exact ⟨u, (hother m hm).trans hu, hPu⟩
  refine ⟨fun m u hu => ?_, h.framed, fun j p hp => ?_, h.unique, fun m u hu hst => ?_,
    fun k f hk => ?_, h.pending, h.single, h.completed, fun m u j hu hst => ?_,
    fun m u hu hst => ?_⟩
  · by_cases hm : m = n
    · subst hm
      obtain rfl := Option.some.inj (hself.symm.trans hu)
      rw [hpacket]
      exact h.called m t hn
    · exact h.called m u ((hother m hm).symm.trans hu)
  · exact hkeep (P := fun u => u.packet = p ∧ u.stage.stored = true)
      (fun hP => ⟨hpacket.trans hP.1, hstored hP.2⟩) p.buf (h.stored j p hp)
  · by_cases hm : m = n
    · subst hm
      obtain rfl := Option.some.inj (hself.symm.trans hu)
      refine h.begun m t hn (Bool.eq_false_iff.2 fun htrue => ?_)
      exact Bool.false_ne_true (hst.symm.trans (hsent htrue))
    · exact h.begun m u ((hother m hm).symm.trans hu) hst
  · obtain ⟨hle, hcall⟩ := h.flown k f hk
    exact ⟨hle, hkeep (P := fun u => u.stage.sent = true) hsent f.call hcall⟩
  · by_cases hm : m = n
    · subst hm
      obtain rfl := Option.some.inj (hself.symm.trans hu)
      exact hawaits j hst
    · exact h.semaphore m u j ((hother m hm).symm.trans hu) hst
  · by_cases hm : m = n
    · subst hm
      obtain rfl := Option.some.inj (hself.symm.trans hu)
      exact hreports hst
    · exact h.reported m u ((hother m hm).symm.trans hu) hst

/-- A new call, which has no number yet. -/
theorem addCall {t : TxTask} {cfpIdent : BitVec 10} (h : s.Consistent)
    (hbuf : t.packet.buf = s.next) (hawaits : t.stage.awaits = none)
    (hreports : t.stage.reports = false) :
    ({ s.addCall t with cfpIdent := cfpIdent } : CanTasks).Consistent := by
  have hself : (s.addCall t).calls s.next = some t := s.setCall_self t
  have hother : ∀ m, m ≠ s.next → (s.addCall t).calls m = s.calls m := fun m hm =>
    s.setCall_ne hm t
  have hkept : ∀ {m u}, s.calls m = some u → (s.addCall t).calls m = some u := fun {m u} hu =>
    (hother m (h.called m u hu).1.ne).trans hu
  refine ⟨fun m u hu => ?_, h.framed, fun j p hp => ?_, h.unique, fun m u hu hst j p hp hm => ?_,
    fun k f hk => ?_, h.pending, h.single, h.completed, fun m u j hu hst => ?_,
    fun m u hu hst => ?_⟩
  · by_cases hm : m = s.next
    · subst hm
      obtain rfl := Option.some.inj (hself.symm.trans hu)
      exact ⟨Nat.lt_succ_self _, hbuf⟩
    · obtain ⟨hlt, hpacket⟩ := h.called m u ((hother m hm).symm.trans hu)
      exact ⟨Nat.lt_succ_of_lt hlt, hpacket⟩
  · obtain ⟨u, hu, hstored⟩ := h.stored j p hp
    exact ⟨u, hkept hu, hstored⟩
  · -- the packet of an element has a number already
    obtain ⟨v, hv, -⟩ := h.stored j p hp
    refine h.begun m u ((hother m ?_).symm.trans hu) hst j p hp hm
    exact hm ▸ (h.called p.buf v hv).1.ne
  · obtain ⟨hle, u, hu, hsent⟩ := h.flown k f hk
    exact ⟨hle, u, hkept hu, hsent⟩
  · by_cases hm : m = s.next
    · subst hm
      obtain rfl := Option.some.inj (hself.symm.trans hu)
      exact absurd (hawaits.symm.trans hst) (Option.some_ne_none j).symm
    · exact h.semaphore m u j ((hother m hm).symm.trans hu) hst
  · by_cases hm : m = s.next
    · subst hm
      obtain rfl := Option.some.inj (hself.symm.trans hu)
      exact absurd (hreports.symm.trans hst) Bool.false_ne_true
    · exact h.reported m u ((hother m hm).symm.trans hu) hst

/-- **The element gets its packet**, of a call that has sent nothing. -/
theorem setPacket {t : TxTask} {buf : PbufElement} (h : s.Consistent) (hn : s.calls n = some t)
    (hstored : t.stage.stored = true) (hsent : t.stage.sent = false)
    (hnone : ∀ j p, (s.pbuf.elements j).packet = some p → p.buf ≠ n)
    (hbuf : buf.packet = some t.packet) (hcount : buf.txCount.toNat = min t.packet.length.toNat 2) :
    (s.setPbuf (s.pbuf.set i buf)).Consistent := by
  obtain ⟨-, hnum⟩ := h.called n t hn
  have hself : (s.pbuf.set i buf).elements i = buf := Pbuf.set_elements_self ..
  have hother : ∀ j, j ≠ i → (s.pbuf.set i buf).elements j = s.pbuf.elements j := fun j hj =>
    Pbuf.set_elements_ne _ hj _
  have hpacket : ∀ {p}, ((s.pbuf.set i buf).elements i).packet = some p → p = t.packet :=
    fun hp => Option.some.inj ((hself ▸ hp).symm.trans hbuf)
  refine ⟨h.called, h.framed, fun j p hp => ?_, fun j l p q hp hq hpq => ?_,
    fun m u hu hst j p hp hm => ?_, h.flown, fun k f hk hst j p hp hcall => ?_, h.single,
    h.completed, h.semaphore, h.reported⟩
  · by_cases hj : j = i
    · subst hj
      obtain rfl := hpacket hp
      exact ⟨t, hnum ▸ hn, rfl, hstored⟩
    · exact h.stored j p (hother j hj ▸ hp)
  · by_cases hj : j = i <;> by_cases hl : l = i
    · exact hj.trans hl.symm
    · subst hj
      obtain rfl := hpacket hp
      exact absurd (hpq.symm.trans hnum) (hnone l q (hother l hl ▸ hq))
    · subst hl
      obtain rfl := hpacket hq
      exact absurd (hpq.trans hnum) (hnone j p (hother j hj ▸ hp))
    · exact h.unique j l p q (hother j hj ▸ hp) (hother l hl ▸ hq) hpq
  · by_cases hj : j = i
    · subst hj
      obtain rfl := hpacket hp
      exact (congrArg (fun b : PbufElement => b.txCount.toNat) hself).trans hcount
    · exact (congrArg (fun b : PbufElement => b.txCount.toNat) (hother j hj)).trans
        (h.begun m u hu hst j p (hother j hj ▸ hp) hm)
  · by_cases hj : j = i
    · -- no frame of this packet was sent
      subst hj
      obtain rfl := hpacket hp
      obtain ⟨-, u, hu, hflown⟩ := h.flown k f hk
      obtain rfl := Option.some.inj (hn.symm.trans ((hcall.symm.trans hnum) ▸ hu))
      exact absurd (hsent.symm.trans hflown) Bool.false_ne_true
    · obtain ⟨hupTo, htotal⟩ := h.pending k f hk hst j p (hother j hj ▸ hp) hcall
      exact ⟨(congrArg (fun b : PbufElement => b.txCount.toNat) (hother j hj)).trans hupTo, htotal⟩

/-- Bytes are counted while no frame of the packet is on its way. -/
theorem count {p : CspPacket} {c : U16} (h : s.Consistent)
    (hp : (s.pbuf.elements i).packet = some p)
    (hsent : ∃ t, s.calls p.buf = some t ∧ t.stage.sent = true)
    (hnone : ∀ k g, s.frames k = some g → g.stage.pending = true → g.call ≠ p.buf) :
    (s.setPbuf (s.pbuf.set i { s.pbuf.elements i with txCount := c })).Consistent := by
  have hother : ∀ j, j ≠ i → (s.pbuf.set i { s.pbuf.elements i with txCount := c }).elements j =
      s.pbuf.elements j := fun j hj => Pbuf.set_elements_ne _ hj _
  have hpacket : ∀ j, ((s.pbuf.set i { s.pbuf.elements i with txCount := c }).elements j).packet =
      (s.pbuf.elements j).packet := by
    intro j
    by_cases hj : j = i
    · subst hj
      rw [Pbuf.set_elements_self]
    · rw [hother j hj]
  have hself : ∀ {q}, ((s.pbuf.set i { s.pbuf.elements i with txCount := c }).elements i).packet =
      some q → q = p := fun hq => Option.some.inj ((hpacket i ▸ hq).symm.trans hp)
  refine ⟨h.called, h.framed, fun j q hq => h.stored j q (hpacket j ▸ hq), fun j l q r hq hr =>
    h.unique j l q r (hpacket j ▸ hq) (hpacket l ▸ hr), fun m u hu hst j q hq hm => ?_, h.flown,
    fun k f hk hst j q hq hcall => ?_, h.single, h.completed, h.semaphore, h.reported⟩
  · by_cases hj : j = i
    · subst hj
      obtain rfl := hself hq
      obtain ⟨t, ht, htsent⟩ := hsent
      obtain rfl := Option.some.inj (ht.symm.trans (hm ▸ hu))
      exact absurd (hst.symm.trans htsent) Bool.false_ne_true
    · exact (congrArg (fun b : PbufElement => b.txCount.toNat) (hother j hj)).trans
        (h.begun m u hu hst j q (hother j hj ▸ hq) hm)
  · by_cases hj : j = i
    · subst hj
      obtain rfl := hself hq
      exact absurd hcall.symm (hnone k f hk hst)
    · obtain ⟨hupTo, htotal⟩ := h.pending k f hk hst j q (hother j hj ▸ hq) hcall
      exact ⟨(congrArg (fun b : PbufElement => b.txCount.toNat) (hother j hj)).trans hupTo, htotal⟩

/-- **A callback takes a step.** -/
theorem setFrame {f : BusFrame} {ok : Bool} {st : FrameStage} (h : s.Consistent)
    (hk : s.frames k = some f) (hok : f.stage = .onBus ∨ ok = f.ok) (hst : st ≠ .onBus)
    (hpending : st.pending = true → f.stage.pending = true)
    (hcompletes : st.completes = true → f.upTo = f.total ∧ ok = true) :
    (s.setFrame k { f with ok := ok, stage := st }).Consistent := by
  have hself : (s.setFrame k { f with ok := ok, stage := st }).frames k =
      some { f with ok := ok, stage := st } := s.setFrame_self _
  have hother : ∀ l, l ≠ k → (s.setFrame k { f with ok := ok, stage := st }).frames l =
      s.frames l := fun l hl => s.setFrame_ne hl _
  -- a frame as it was, but for its stage and the error
  have hwas : ∀ {l g}, (s.setFrame k { f with ok := ok, stage := st }).frames l = some g →
      ∃ g', s.frames l = some g' ∧ g.call = g'.call ∧ g.upTo = g'.upTo ∧ g.total = g'.total ∧
        (g.stage.pending = true → g'.stage.pending = true) := by
    intro l g hg
    by_cases hl : l = k
    · subst hl
      obtain rfl := Option.some.inj (hself.symm.trans hg)
      exact ⟨f, hk, rfl, rfl, rfl, hpending⟩
    · exact ⟨g, (hother l hl).symm.trans hg, rfl, rfl, rfl, id⟩
  have hconfirmed : ∀ {m}, s.Confirmed m →
      (s.setFrame k { f with ok := ok, stage := st }).Confirmed m := by
    rintro m ⟨l, hlt, g, hg, hconf⟩
    by_cases hl : l = k
    · subst hl
      obtain rfl := Option.some.inj (hk.symm.trans hg)
      obtain ⟨hcall, hupTo, htrue, hbus⟩ := hconf
      exact ⟨l, hlt, _, hself, hcall, hupTo, (hok.resolve_left hbus).trans htrue, hst⟩
    · exact ⟨l, hlt, g, (hother l hl).trans hg, hconf⟩
  refine ⟨h.called, fun l g hg => ?_, h.stored, h.unique, h.begun, fun l g hg => ?_,
    fun l g hg hp j p hj hcall => ?_, fun l m g g' hg hg' hp hp' hcall => ?_, fun l g hg hc => ?_,
    fun m u j hu ha hsem => hconfirmed (h.semaphore m u j hu ha hsem),
    fun m u hu hr => hconfirmed (h.reported m u hu hr)⟩
  · obtain ⟨g', hg', -⟩ := hwas hg
    exact h.framed l g' hg'
  · obtain ⟨g', hg', hcall, hupTo, htotal, -⟩ := hwas hg
    rw [hcall, hupTo, htotal]
    exact h.flown l g' hg'
  · obtain ⟨g', hg', hgcall, hupTo, htotal, hgp⟩ := hwas hg
    rw [hupTo, htotal]
    exact h.pending l g' hg' (hgp hp) j p hj (hcall.trans hgcall)
  · obtain ⟨f₁, hf₁, hcall₁, -, -, hp₁⟩ := hwas hg
    obtain ⟨f₂, hf₂, hcall₂, -, -, hp₂⟩ := hwas hg'
    exact h.single l m f₁ f₂ hf₁ hf₂ (hp₁ hp) (hp₂ hp') (hcall₁.symm.trans (hcall.trans hcall₂))
  · by_cases hl : l = k
    · subst hl
      obtain rfl := Option.some.inj (hself.symm.trans hg)
      obtain ⟨hupTo, htrue⟩ := hcompletes hc
      exact ⟨rfl, hupTo, htrue, hst⟩
    · exact h.completed l g ((hother l hl).symm.trans hg) hc

/-- **A frame is sent** for a packet that has none on its way. -/
theorem addFrame {f : BusFrame} (h : s.Consistent) (hbus : f.stage = .onBus)
    (hle : f.upTo ≤ f.total) (hcall : ∃ t, s.calls f.call = some t ∧ t.stage.sent = true)
    (hcount : ∀ j p, (s.pbuf.elements j).packet = some p → p.buf = f.call →
      (s.pbuf.elements j).txCount.toNat = f.upTo ∧ p.length.toNat = f.total)
    (hnone : ∀ k g, s.frames k = some g → g.stage.pending = true → g.call ≠ f.call) :
    (s.addFrame f).Consistent := by
  have hself : (s.addFrame f).frames s.nextFrame = some f := s.setFrame_self f
  have hother : ∀ l, l ≠ s.nextFrame → (s.addFrame f).frames l = s.frames l := fun l hl =>
    s.setFrame_ne hl f
  have hconfirmed : ∀ {m}, s.Confirmed m → (s.addFrame f).Confirmed m := by
    rintro m ⟨l, hlt, g, hg, hconf⟩
    exact ⟨l, Nat.lt_succ_of_lt hlt, g, (hother l hlt.ne).trans hg, hconf⟩
  -- a frame is the new one or was there
  have hcases : ∀ {l g}, (s.addFrame f).frames l = some g →
      (l = s.nextFrame ∧ g = f) ∨ s.frames l = some g := by
    intro l g hg
    by_cases hl : l = s.nextFrame
    · subst hl
      exact .inl ⟨rfl, (Option.some.inj (hself.symm.trans hg)).symm⟩
    · exact .inr ((hother l hl).symm.trans hg)
  refine ⟨h.called, fun l g hg => ?_, h.stored, h.unique, h.begun, fun l g hg => ?_,
    fun l g hg hp j p hj hpcall => ?_, fun l m g g' hg hg' hp hp' hgcall => ?_, fun l g hg hc => ?_,
    fun m u j hu ha hsem => hconfirmed (h.semaphore m u j hu ha hsem),
    fun m u hu hr => hconfirmed (h.reported m u hu hr)⟩
  · obtain ⟨rfl, -⟩ | hg := hcases hg
    · exact Nat.lt_succ_self _
    · exact Nat.lt_succ_of_lt (h.framed l g hg)
  · obtain ⟨-, rfl⟩ | hg := hcases hg
    · exact ⟨hle, hcall⟩
    · exact h.flown l g hg
  · obtain ⟨-, rfl⟩ | hg := hcases hg
    · exact hcount j p hj hpcall
    · exact h.pending l g hg hp j p hj hpcall
  · obtain ⟨rfl, rfl⟩ | hl := hcases hg <;> obtain ⟨rfl, rfl⟩ | hm := hcases hg'
    · rfl
    · exact absurd hgcall.symm (hnone m g' hm hp')
    · exact absurd hgcall (hnone l g hl hp)
    · exact h.single l m g g' hl hm hp hp' hgcall
  · obtain ⟨-, rfl⟩ | hg := hcases hg
    · rw [hbus] at hc
      exact absurd hc Bool.false_ne_true
    · exact h.completed l g hg hc

/-- When the callback is through with the frame that was on its way, none is. -/
theorem none_pending {f : BusFrame} {ok : Bool} {st : FrameStage} (h : s.Consistent)
    (hk : s.frames k = some f) (hpend : f.stage.pending = true) (hst : st.pending = false) :
    ∀ l g, (s.setFrame k { f with ok := ok, stage := st }).frames l = some g →
      g.stage.pending = true → g.call ≠ f.call := by
  intro l g hg hgp hcall
  by_cases hl : l = k
  · subst hl
    obtain rfl := Option.some.inj ((s.setFrame_self _).symm.trans hg)
    exact absurd (hst.symm.trans hgp) Bool.false_ne_true
  · exact hl (h.single l k g f ((s.setFrame_ne hl _).symm.trans hg) hk hgp hpend hcall)

/-- **`csp_tx_callback` looks at the element** of the packet its frame belongs to. -/
theorem look {f : BusFrame} {taken : Bool} (h : s.Consistent) (hk : s.frames k = some f)
    (hst : f.stage = .found i)
    (hown : f.ok = true → ∀ p ∈ (s.pbuf.elements i).packet, p.buf = f.call) :
    (canTaskLook s k f i taken).Consistent := by
  have hpend : f.stage.pending = true := by
    rw [hst]
    rfl
  -- without the next frame nothing is on its way, and nobody is told
  have hquiet : ∀ st : FrameStage, st ≠ .onBus → st.pending = false → st.completes = false →
      (s.setFrame k { f with stage := st }).Consistent := fun st hbus hp hc =>
    h.setFrame hk (.inr rfl) hbus (fun hp' => absurd (hp.symm.trans hp') Bool.false_ne_true)
      (fun hc' => absurd (hc.symm.trans hc') Bool.false_ne_true)
  by_cases hfailed : (s.pbuf.elements i).packet = none ∨ f.ok = false
  · rw [canTaskLook_failed k taken hfailed]
    exact hquiet _ FrameStage.noConfusion rfl rfl
  obtain ⟨hpacket, hnok⟩ := not_or.1 hfailed
  obtain ⟨p, hp⟩ := Option.ne_none_iff_exists'.1 hpacket
  have hok : f.ok = true := Bool.eq_true_of_not_eq_false hnok
  have hcall : p.buf = f.call := hown hok p hp
  obtain ⟨hupTo, htotal⟩ := h.pending k f hk hpend i p hp hcall
  obtain ⟨hle, t, ht, hsent⟩ := h.flown k f hk
  by_cases hlt : (s.pbuf.elements i).txCount < p.length
  · rw [canTaskLook_more k taken hp hok hlt]
    have hdlc : (moreFrame p f.canid (s.pbuf.elements i).txCount.toNat).dlc =
        min 8 (p.length.toNat - (s.pbuf.elements i).txCount.toNat) := CspPacket.length_slice ..
    generalize moreFrame p f.canid (s.pbuf.elements i).txCount.toNat = frame at hdlc ⊢
    rw [BitVec.lt_def] at hlt
    have hnext : (s.pbuf.elements i).txCount.toNat + frame.dlc ≤ p.length.toNat := by omega
    have hcounted : ∀ st : FrameStage, st ≠ .onBus → st.pending = false → st.completes = false →
        ((s.setFrame k { f with stage := st }).setPbuf (s.pbuf.set i { s.pbuf.elements i with
          txCount := (s.pbuf.elements i).txCount + BitVec.ofNat 16 frame.dlc })).Consistent :=
      fun st hbus hp' hc => (hquiet st hbus hp' hc).count hp ⟨t, hcall ▸ ht, hsent⟩
        (hcall ▸ h.none_pending hk hpend hp')
    cases taken with
    | false => exact hcounted _ FrameStage.noConfusion rfl rfl
    | true =>
      have hself := Pbuf.set_elements_self s.pbuf i { s.pbuf.elements i with
        txCount := (s.pbuf.elements i).txCount + BitVec.ofNat 16 frame.dlc }
      have h' := hcounted .returned FrameStage.noConfusion rfl rfl
      refine h'.addFrame rfl hnext ⟨t, (congrArg s.calls hcall).trans ht, hsent⟩
        (fun j q hq hqcall => ?_)
        (fun l g hg hgp hgcall => h.none_pending hk hpend rfl l g hg hgp (hgcall.trans hcall))
      have hpi : ((s.pbuf.set i { s.pbuf.elements i with
          txCount := (s.pbuf.elements i).txCount + BitVec.ofNat 16 frame.dlc }).elements i).packet =
          some p := (congrArg PbufElement.packet hself).trans hp
      obtain rfl : j = i := h'.unique j i q p hq hpi hqcall
      obtain rfl : q = p := Option.some.inj (hq.symm.trans hpi)
      refine ⟨(congrArg (fun b : PbufElement => b.txCount.toNat) hself).trans ?_, rfl⟩
      have hlen := q.length.isLt
      show ((s.pbuf.elements j).txCount + BitVec.ofNat 16 frame.dlc).toNat =
        (s.pbuf.elements j).txCount.toNat + frame.dlc
      rw [BitVec.toNat_add, BitVec.toNat_ofNat]
      omega
  · rw [canTaskLook_through k taken hp hok hlt]
    -- all bytes were counted, and the frame that brought them is this one
    have hlast : f.upTo = f.total := by
      rw [BitVec.lt_def] at hlt
      omega
    exact h.setFrame hk (.inr rfl) FrameStage.noConfusion (absurd · Bool.false_ne_true)
      fun _ => ⟨hlast, hok⟩

/-- **Every step of an orderly run keeps the invariant.** -/
theorem step {o : ByteOrder} {a : CanTaskAction} {s' : CanTasks} (h : s.Consistent)
    (hok : s.Orderly a) (hs : canTaskStep o s a = some s') : s'.Consistent := by
  have hno : ∀ {i : Fin pbufElements}, (none : Option (Fin pbufElements)) = some i → False :=
    fun h => Option.some_ne_none _ h.symm
  have hfalse : ∀ {P : Prop}, false = true → P := fun h => absurd h Bool.false_ne_true
  cases canTaskStep_turn hs with
  | call packet idFree cfpIdent st hst =>
    obtain rfl | rfl := hst <;> exact h.addCall rfl rfl rfl
  | refused clock hn =>
    exact h.setCall hn rfl (fun _ => rfl) (fun _ => rfl) (fun _ ha => (hno ha).elim) hfalse
  | new clock hn hnew =>
    exact (h.shrink (pbufNew_shrinks hnew)).setCall hn rfl hfalse hfalse
      (fun _ ha => (hno ha).elim) hfalse
  | @store n p ident i hn =>
    -- no element has the packet yet
    have hnone : ∀ j q, (s.pbuf.elements j).packet = some q → q.buf ≠ n := by
      rintro j q hq rfl
      obtain ⟨t, ht, -, hstored⟩ := h.stored j q hq
      obtain rfl := Option.some.inj (hn.symm.trans ht)
      exact hfalse hstored
    have hzero : (s.pbuf.elements i).txCount = 0 := hok _ hn i rfl
    have h' : (s.setCall n ⟨p, ident, .arm i⟩).Consistent :=
      h.setCall hn rfl (fun _ => rfl) hfalse (fun _ ha => (hno ha).elim) hfalse
    refine h'.setPacket (s.setCall_self _) rfl rfl hnone rfl ?_
    show ((s.pbuf.elements i).txCount + BitVec.ofNat 16 (min p.length.toNat 2)).toNat = _
    rw [hzero, show (0 : U16) = 0#16 from rfl, BitVec.zero_add, BitVec.toNat_ofNat]
    exact Nat.mod_eq_of_lt (by omega)
  | @arm n p ident i hn =>
    have h' : (s.setSem i false).Consistent := h.setSem hfalse
    refine h'.setCall hn rfl (fun _ => rfl) hfalse (fun j hj hsem => ?_) hfalse
    obtain rfl := Option.some.inj hj
    exact hfalse ((s.setSem_self).symm.trans hsem)
  | @send n p ident i hn =>
    have h' : (s.setCall n ⟨p, ident, .wait i⟩).Consistent :=
      h.setCall hn rfl (fun _ => rfl) hfalse (fun j hj => h.semaphore n _ j hn hj) hfalse
    refine h'.addFrame rfl (Nat.min_le_left _ _) ⟨_, s.setCall_self _, rfl⟩ (fun j q hq hcall => ?_)
      (fun k g hk _ hcall => ?_)
    · obtain ⟨t, ht, rfl, -⟩ := h.stored j q hq
      obtain rfl := Option.some.inj (hn.symm.trans (hcall ▸ ht))
      exact ⟨h.begun n _ hn rfl j _ hq hcall, rfl⟩
    · obtain ⟨-, t, ht, hsent⟩ := h.flown k g hk
      obtain rfl := Option.some.inj (hn.symm.trans (hcall ▸ ht))
      exact hfalse hsent
  | sendFailed hn =>
    exact h.setCall hn rfl (fun _ => rfl) (fun _ => rfl) (fun _ ha => (hno ha).elim) hfalse
  | @wake n p ident i hn hsem =>
    have hconf : s.Confirmed n := h.semaphore n _ i hn rfl hsem
    have h' : (s.setSem i false).Consistent := h.setSem hfalse
    exact h'.setCall hn rfl (fun _ => rfl) (fun _ => rfl) (fun _ ha => (hno ha).elim) fun _ => hconf
  | timeout hn =>
    exact h.setCall hn rfl (fun _ => rfl) (fun _ => rfl) (fun _ ha => (hno ha).elim) hfalse
  | @post n p ident i ret hn =>
    have h' : (s.setSem i true).Consistent := h.setSem fun _ m t hm ha => by
      by_cases hmn : m = n
      · subst hmn
        obtain rfl := Option.some.inj (hn.symm.trans hm)
        exact (hno ha).elim
      · exact hok _ hn i rfl m (h.called m t hm).1 hmn t hm ha
    exact h'.setCall hn rfl (fun _ => rfl) (fun _ => rfl) (fun _ ha => (hno ha).elim)
      (h.reported n ⟨p, ident, .post i ret⟩ hn)
  | missed ok clock hk hst =>
    exact h.setFrame hk (.inl hst) FrameStage.noConfusion hfalse hfalse
  | callback ok clock hk hst hfind =>
    refine (h.shrink (pbufFind_shrinks hfind)).setFrame hk (.inl hst) FrameStage.noConfusion
      (fun _ => ?_) hfalse
    rw [hst]
    rfl
  | look taken hk hst => exact h.look hk hst fun hf => hok _ hk _ hst hf
  | @free k f i post hk hst =>
    refine (h.shrink (pbufFree_shrinks i s.pbuf)).setFrame hk (.inr rfl) ?_ ?_ fun hc => ?_
    · cases post <;> exact FrameStage.noConfusion
    · cases post <;> exact hfalse
    · cases post with
      | false => exact hfalse hc
      | true =>
        obtain ⟨-, hlast, htrue, -⟩ := h.completed k f hk (by rw [hst]; rfl)
        exact ⟨hlast, htrue⟩
  | @finish k f i hk hst =>
    obtain hconf := h.completed k f hk (by rw [hst]; rfl)
    obtain ⟨-, hlast, htrue, -⟩ := id hconf
    have h' : (s.setSem i true).Consistent := h.setSem fun _ m t hm ha => by
      by_cases hmn : m = f.call
      · subst hmn
        exact ⟨k, h.framed k f hk, f, hk, hconf⟩
      · exact hok f hk i (by rw [hst]; rfl) m (h.called m t hm).1 hmn t hm ha
    exact h'.setFrame hk (.inr rfl) FrameStage.noConfusion hfalse hfalse

end CanTasks.Consistent

/-! ### Reports -/

/-- **The calls and frames under way agree with the elements**, in every run. -/
theorem run_consistent {o : ByteOrder} {cfpIdent : BitVec 10} {is : List CanTaskAction}
    {s : CanTasks} (hrun : Run (canTaskStep o) CanTasks.Orderly (CanTasks.init cfpIdent) is s) :
    s.Consistent :=
  hrun.invariant (fun _ _ _ h hok hs => h.step hok hs) (CanTasks.init_consistent cfpIdent)

/-- **`csp_can_tx` reports its own completion** in every orderly run: when it has returned 1, the
last frame of its packet was confirmed. -/
theorem run_reports {o : ByteOrder} {cfpIdent : BitVec 10} {is : List CanTaskAction} {s : CanTasks}
    (hrun : Run (canTaskStep o) CanTasks.Orderly (CanTasks.init cfpIdent) is s) : s.Reports := by
  intro n t hn hst
  refine (run_consistent hrun).reported n t hn ?_
  rw [hst]
  rfl

/-- Two calls at work; the packet of the first takes two frames. -/
def twoCalls : List CanTaskAction :=
  [.call ⟨0, 0, 0, 5, 0x02200000, fun _ => 0⟩ true, .new 0 fun _ => 0, .store 0, .arm 0,
    .send 0 true, .call ⟨0, 0, 0, 9, 0x02200000, fun _ => 0⟩ true, .new 1 fun _ => 0, .store 1,
    .callback 0 true fun _ => 0, .look 0 true, .arm 1, .callback 1 true fun _ => 0, .look 1 true,
    .send 1 true, .free 1, .finish 1, .wake 0, .post 0]

/-- Two calls, the first of which is done. -/
theorem run_reports_two : ∃ s : CanTasks,
    Run (canTaskStep .little) CanTasks.Orderly (.init 0) twoCalls s ∧
      (∃ t, s.calls 0 = some t ∧ t.stage = .returned 1) ∧ s.Confirmed 0 := by
  have hrun : ∃ s : CanTasks, Run (canTaskStep .little) CanTasks.Orderly (.init 0) twoCalls s ∧
      (s.calls 0).any (fun t => t.stage = .returned 1) = true := Run.of_any (by decide +kernel)
  obtain ⟨s, hs, hany⟩ := hrun
  obtain ⟨t, ht, hst⟩ := (Option.any_eq_true _ _).1 hany
  have hret := of_decide_eq_true hst
  exact ⟨s, hs, ⟨t, ht, hret⟩, run_reports hs 0 t ht hret⟩

/-! ### Late posts -/

/-- A frame on the bus confirms nothing yet. -/
theorem CanTasks.not_confirmed_addFrame {s : CanTasks} {f : BusFrame} {n : ℕ}
    (h : ¬ s.Confirmed n) (hbus : f.stage = .onBus) : ¬ (s.addFrame f).Confirmed n := by
  rintro ⟨k, hlt, g, hg, hconf⟩
  by_cases hk : k = s.nextFrame
  · subst hk
    obtain rfl := Option.some.inj ((s.setFrame_self f).symm.trans hg)
    exact hconf.2.2.2 hbus
  · have hg' : g ∈ s.frames k := (s.setFrame_ne hk f).symm.trans hg
    exact h ⟨k, by have : k < s.nextFrame + 1 := hlt; omega, g, hg', hconf⟩

/-- **A semaphore posted too early** is all it takes: the call that waits for it, or is about to,
can return 1 with its last frame not confirmed. -/
theorem late_post_reports {o : ByteOrder} {s : CanTasks} {n : ℕ} {t : TxTask}
    {i : Fin pbufElements} (hn : s.calls n = some t) (ha : t.stage.awaits = some i)
    (hsem : s.txSem i = true) (hconf : ¬ s.Confirmed n) :
    ∃ is u, Run (canTaskStep o) (fun _ _ => True) s is u ∧ ¬ u.Reports := by
  -- from the wait on it takes two steps
  have hwait : ∀ {s : CanTasks} {p : CspPacket} {ident : BitVec 10},
      s.calls n = some ⟨p, ident, .wait i⟩ → s.txSem i = true → ¬ s.Confirmed n →
        ∃ u, Run (canTaskStep o) (fun _ _ => True) s [.wake n, .post n] u ∧ ¬ u.Reports := by
    intro s p ident hn hsem hconf
    have hwake : canTaskStep o s (.wake n) =
        some ((s.setSem i false).setCall n ⟨p, ident, .post i 1⟩) := by
      simp only [canTaskStep, hn, if_pos hsem]
    have hpost : canTaskStep o ((s.setSem i false).setCall n ⟨p, ident, .post i 1⟩) (.post n) =
        some ((((s.setSem i false).setCall n ⟨p, ident, .post i 1⟩).setSem i true).setCall n
          ⟨p, ident, .returned 1⟩) := by
      simp only [canTaskStep, CanTasks.setCall_self]
    exact ⟨_, .cons trivial hwake (.cons trivial hpost .nil), fun h =>
      hconf (h n _ (CanTasks.setCall_self ..) rfl)⟩
  obtain ⟨p, ident, st⟩ := t
  cases st with
  | wait j =>
    obtain rfl := Option.some.inj ha
    obtain ⟨u, hu, hbad⟩ := hwait hn hsem hconf
    exact ⟨_, u, hu, hbad⟩
  | send j =>
    obtain rfl := Option.some.inj ha
    obtain ⟨f, hbus, hsend⟩ : ∃ f : BusFrame, f.stage = .onBus ∧
        canTaskStep o s (.send n true) = some ((s.setCall n ⟨p, ident, .wait j⟩).addFrame f) := by
      simp only [canTaskStep, hn, if_true]
      exact ⟨_, rfl, rfl⟩
    have hn' : ((s.setCall n ⟨p, ident, .wait j⟩).addFrame f).calls n =
        some ⟨p, ident, .wait j⟩ := s.setCall_self _
    obtain ⟨u, hu, hbad⟩ := hwait hn' hsem (CanTasks.not_confirmed_addFrame hconf hbus)
    exact ⟨_, u, .cons trivial hsend hu, hbad⟩
  | _ => exact absurd ha (Option.some_ne_none i).symm

/-- **A stale post.**  The callback for the first packet frees the element, the next call gets it,
empties the semaphore and sends; then the callback posts. -/
theorem stale_post_reports : ¬ ∀ (o : ByteOrder) (cfpIdent : BitVec 10) (is : List CanTaskAction)
    (s : CanTasks), Run (canTaskStep o) (fun _ _ => True) (.init cfpIdent) is s → s.Reports := by
  intro hall
  have hrun : ∃ s : CanTasks, Run (canTaskStep .little) (fun _ _ => True) (.init 0)
      [.call ⟨0, 0, 0, 2, 0x02200000, fun _ => 0⟩ true, .new 0 fun _ => 0, .store 0, .arm 0,
        .send 0 true, .callback 0 true fun _ => 0, .look 0 true, .free 0,
        .call ⟨0, 0, 0, 2, 0x02200000, fun _ => 0⟩ true, .new 1 fun _ => 0, .store 1, .arm 1,
        .send 1 true, .finish 0, .wake 1, .post 1] s ∧
      ((s.calls 1).any (fun t => t.stage = .returned 1) && !decide (s.Confirmed 1)) = true :=
    Run.of_any (by decide +kernel)
  obtain ⟨s, hs, h⟩ := hrun
  rw [Bool.and_eq_true, Bool.not_eq_true', decide_eq_false_iff_not] at h
  obtain ⟨t, ht, hst⟩ := (Option.any_eq_true _ _).1 h.1
  exact h.2 (hall _ _ _ s hs 1 t ht (of_decide_eq_true hst))

end LibCSP
