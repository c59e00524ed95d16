/-
# Who owns a packet in transmission

`csp_can_tx` returns 1 when the interface has taken the packet, and 0 when it stays with
the caller.  Between the call and its end other calls of `csp_can_tx`, the driver's
callbacks and received frames take turns with the blocking wait for `tx_sem`; each
turn is a `CanAction`.  A turn of `csp_can_tx` goes up to its end or its wait.

An element knows its packet by the call of `csp_can_tx` that put it there, or by the
allocation of `csp_buffer_get`, both under one count; `pointer` says which packet of the
caller each call was given.  A caller that gets 0 may try again with the same packet, so
two calls can have one pointer, and two elements the same packet.  A pointer stands for a
buffer from one allocation to its release.

The two late failures, `can_send` and the wait, return 0 and leave the element as it is:
the caller frees a packet which the interface frees, too, or hands it to `csp_can_tx`
again.  So a call is right exactly if it does not fail late and the interface had not got
its packet before (`canTx_honours_iff`), as long as no BEGIN frame is received that carries
source, destination and number of a packet in transmission, for which `csp_rx_callback`
would take the element.
-/

import LibCSP.Basis.Run
import LibCSP.Can.Account
import LibCSP.Can.Bounds

namespace LibCSP

open Basis

/-! ### The interface -/

/-- How a call of `csp_can_tx` ended. -/
inductive TxEnd
  /-- `id_get` or `pbuf_new` failed. -/
  | refused
  /-- `can_send` failed on the first frame. -/
  | sendFailed
  /-- Without blocking. -/
  | accepted
  /-- After a successful wait. -/
  | sent
  | timedOut
  deriving DecidableEq

/-- What `csp_can_tx` returns. -/
def TxEnd.result : TxEnd → ℤ
  | .accepted | .sent => 1
  | .refused | .sendFailed | .timedOut => 0

inductive TxProgress
  /-- Waiting for `tx_sem` of this element. -/
  | waiting (i : Fin pbufElements)
  | returned (why : TxEnd)
  deriving DecidableEq

structure CanIface where
  pbuf : Pbuf
  /-- `tx_sem` of each element. -/
  txSem : Fin pbufElements → Bool
  /-- The number of the next call or allocation. -/
  next : ℕ
  /-- The calls of `csp_can_tx`, by their numbers. -/
  calls : ℕ → Option TxProgress
  /-- The packet that each call was given, as its caller knows it. -/
  pointer : ℕ → ℕ

/-- After `csp_can_init`. -/
def CanIface.init : CanIface := ⟨.init, fun _ => true, 0, fun _ => none, fun _ => 0⟩

namespace CanIface

def setCall (s : CanIface) (n : ℕ) (st : TxProgress) : CanIface :=
  { s with calls := Function.update s.calls n (some st) }

def setSem (s : CanIface) (i : Fin pbufElements) (b : Bool) : CanIface :=
  { s with txSem := Function.update s.txSem i b }

/-- The packet as its element knows it, by the call that put it there; the pointer that
the caller gave is kept in `pointer`. -/
def number (s : CanIface) (p : CspPacket) : CspPacket := { p with buf := s.next }

/-- `csp_buffer_get` returns a new packet. -/
def numberBuffer (s : CanIface) (c : RxCall) : RxCall := { c with buffer := c.buffer.map s.number }

end CanIface

/-- `csp_can_tx`, up to its end or its wait.  `blocking` is `timeout != 0`. -/
def txStart (c : TxCall) (packet : CspPacket) (blocking : Bool) (s : CanIface) : CanIface :=
  let r := cspCanTx c (s.number packet) s.pbuf
  let next := { s with
    pbuf := r.2
    next := s.next + 1
    pointer := Function.update s.pointer s.next packet.buf }
  match txElement c (s.number packet) s.pbuf with
  | none => next.setCall s.next (.returned .refused)
  | some i =>
    let next := next.setSem i false
    match r.1 with
    | none => next.setCall s.next (.returned .sendFailed)
    | some _ =>
      if blocking then next.setCall s.next (.waiting i)
      else next.setCall s.next (.returned .accepted)

/-- The semaphore that `csp_tx_callback` posts: that of its element, when the callback succeeds and
has no frame to send. -/
def txPosted (c : TxCall) (canid : U32) (ok : Bool) (s : Pbuf) : Option (Fin pbufElements) :=
  if (cspTxCallback c canid ok s).1 = 0 ∧ (cspTxCallback c canid ok s).2.1 = none then
    (pbufFind canid c.clock s).map Prod.fst
  else none

inductive CanAction
  /-- A task calls `csp_can_tx`. -/
  | tx (c : TxCall) (packet : CspPacket) (blocking : Bool)
  /-- The wait for packet `n` ends: `tx_sem` is taken and posted again. -/
  | wake (n : ℕ)
  | timeout (n : ℕ)
  /-- `csp_tx_callback`. -/
  | txCallback (c : TxCall) (canid : U32) (ok : Bool)
  /-- `csp_rx_callback`. -/
  | rxCallback (c : RxCall)

/-- One turn; `none` when it cannot be taken in this state. -/
def canIfaceStep (o : ByteOrder) (s : CanIface) : CanAction → Option CanIface
  | .tx c packet blocking => some (txStart c packet blocking s)
  | .wake n =>
    match s.calls n with
    | some (.waiting i) => if s.txSem i then some (s.setCall n (.returned .sent)) else none
    | _ => none
  | .timeout n =>
    match s.calls n with
    | some (.waiting i) =>
      if s.txSem i then none else some ((s.setSem i true).setCall n (.returned .timedOut))
    | _ => none
  | .txCallback c canid ok =>
    let s' := { s with pbuf := (cspTxCallback c canid ok s.pbuf).2.2 }
    some ((txPosted c canid ok s.pbuf).elim s' fun i => s'.setSem i true)
  | .rxCallback c =>
    some { s with
      pbuf := (cspRxCallback o (s.numberBuffer c) s.pbuf).2
      next := s.next + 1 }

/-- What a turn does. -/
inductive CanTurn (o : ByteOrder) (s : CanIface) : CanAction → CanIface → Prop
  | tx (c : TxCall) (packet : CspPacket) (blocking : Bool) :
      CanTurn o s (.tx c packet blocking) (txStart c packet blocking s)
  | wake (n : ℕ) (i : Fin pbufElements) (hn : s.calls n = some (.waiting i))
      (hsem : s.txSem i = true) :
      CanTurn o s (.wake n) (s.setCall n (.returned .sent))
  | timeout (n : ℕ) (i : Fin pbufElements) (hn : s.calls n = some (.waiting i))
      (hsem : s.txSem i = false) :
      CanTurn o s (.timeout n) ((s.setSem i true).setCall n (.returned .timedOut))
  | txCallback (c : TxCall) (canid : U32) (ok : Bool) (txSem : Fin pbufElements → Bool) :
      CanTurn o s (.txCallback c canid ok)
        { s with pbuf := (cspTxCallback c canid ok s.pbuf).2.2, txSem := txSem }
  | rxCallback (c : RxCall) : CanTurn o s (.rxCallback c)
      { s with
        pbuf := (cspRxCallback o (s.numberBuffer c) s.pbuf).2
        next := s.next + 1 }

/-- **Every step is one of the turns** that `CanTurn` names. -/
theorem canIfaceStep_turn {o : ByteOrder} {s s' : CanIface} {a : CanAction}
    (h : canIfaceStep o s a = some s') : CanTurn o s a s' := by
  cases a with
  | tx c packet blocking =>
    obtain rfl := Option.some.inj h
    exact .tx c packet blocking
  | wake n =>
    simp only [canIfaceStep] at h
    split at h
    · rename_i i hn
      split at h
      · rename_i hsem
        obtain rfl := Option.some.inj h
        exact .wake n i hn hsem
      · exact absurd h.symm (Option.some_ne_none s')
    · exact absurd h.symm (Option.some_ne_none s')
  | timeout n =>
    simp only [canIfaceStep] at h
    split at h
    · rename_i i hn
      split at h
      · exact absurd h.symm (Option.some_ne_none s')
      · rename_i hsem
        obtain rfl := Option.some.inj h
        exact .timeout n i hn (Bool.eq_false_of_not_eq_true hsem)
    · exact absurd h.symm (Option.some_ne_none s')
  | txCallback c canid ok =>
    obtain rfl := Option.some.inj h
    cases txPosted c canid ok s.pbuf with
    | none => exact .txCallback c canid ok s.txSem
    | some i => exact .txCallback c canid ok _
  | rxCallback c =>
    obtain rfl := Option.some.inj h
    exact .rxCallback c

/-- No BEGIN frame is received for an element with a packet of `csp_can_tx`. -/
def Separate (s : CanIface) : CanAction → Prop
  | .rxCallback c => cfpType c.frame.id = cfpBegin →
      ∀ i, (s.pbuf.elements i).isFor c.frame.id = true →
        ∀ p ∈ (s.pbuf.elements i).packet, s.calls p.buf = none
  | _ => True

instance (s : CanIface) (a : CanAction) : Decidable (Separate s a) :=
  match a with
  | .rxCallback c => inferInstanceAs (Decidable (cfpType c.frame.id = cfpBegin → _))
  | .tx _ _ _ | .wake _ | .timeout _ | .txCallback _ _ _ => isTrue trivial

namespace CanIface

/-- Call `n` was given the packet `b`. -/
def Passed (s : CanIface) (b n : ℕ) : Prop := s.calls n ≠ none ∧ s.pointer n = b

instance (s : CanIface) (b : ℕ) : DecidablePred (s.Passed b) := fun _ =>
  inferInstanceAs (Decidable (_ ≠ none ∧ _))

/-- How many elements point to the packet. -/
def heldOf (s : CanIface) (b : ℕ) : ℕ := s.pbuf.held.countP (s.Passed b)

/-- How often the interface has freed the packet. -/
def freedOf (s : CanIface) (b : ℕ) : ℕ := (frees s.pbuf.log : Multiset ℕ).countP (s.Passed b)

/-- How often it has handed the packet to `csp_new_packet`. -/
def passedOn (s : CanIface) (b : ℕ) : ℕ :=
  ((newPackets s.pbuf.log).map CspPacket.buf : Multiset ℕ).countP (s.Passed b)

/-- What `csp_can_tx` promises to the caller of a packet when it returns: with 0 no element
points to the packet, and the interface did not give it away; with 1 it has freed the packet
once and no element points to it, or has not freed it and one does. -/
def Honours (s : CanIface) (b : ℕ) (why : TxEnd) : Prop :=
  (why.result = 0 → s.heldOf b = 0 ∧ s.freedOf b = 0 ∧ s.passedOn b = 0) ∧
    (why.result = 1 → s.heldOf b + s.freedOf b = 1)

end CanIface

/-! ### The invariant -/

/-- Whether the interface has got the packet. -/
def TxProgress.due : TxProgress → ℕ
  | .returned .refused => 0
  | _ => 1

/-- The packets of `csp_can_tx` are accounted for. -/
structure CanIface.Accounted (s : CanIface) : Prop where
  ok : s.pbuf.Ok
  fresh : ∀ n, s.next ≤ n → s.calls n = none ∧ n ∉ Pbuf.books.placed s.pbuf
  calls : ∀ n st, s.calls n = some st → (Pbuf.books.placed s.pbuf).count n = st.due
  passed : ∀ p ∈ newPackets s.pbuf.log, s.calls p.buf = none
  quiet : ∀ i, ∀ p ∈ (s.pbuf.elements i).packet, s.calls p.buf ≠ none →
    (s.pbuf.elements i).remain = 0

/-- Books that balance, number by number. -/
theorem count_of_conserves {s s' : Pbuf} {hand hand' : Multiset ℕ}
    (h : Pbuf.books.Conserves s hand s' hand') (n : ℕ) :
    (Pbuf.books.placed s').count n + hand'.count n =
      (Pbuf.books.placed s).count n + hand.count n := by
  have e := congrArg (Multiset.count n) h
  simp only [Multiset.count_add] at e
  exact Nat.add_right_cancel e.symm

/-- A packet that was handed on has its place in the books. -/
theorem placed_of_newPackets {s : Pbuf} {p : CspPacket} (hp : p ∈ newPackets s.log) :
    p.buf ∈ Pbuf.books.placed s := by
  have hmem : p.buf ∈ (↑((newPackets s.log).map CspPacket.buf) : Multiset ℕ) :=
    Multiset.mem_coe.2 (List.mem_map_of_mem hp)
  exact Multiset.mem_add.2 (.inr (Multiset.mem_add.2 (.inr hmem)))

/-- So has a packet in an element. -/
theorem placed_of_packet {s : Pbuf} {i : Fin pbufElements} {p : CspPacket}
    (hp : (s.elements i).packet = some p) : p.buf ∈ Pbuf.books.placed s := by
  refine Multiset.mem_add.2 (.inl (Multiset.mem_sum.2 ⟨i, Finset.mem_univ i, ?_⟩))
  rw [hp]
  exact Multiset.mem_singleton_self _

namespace CanIface.Accounted

variable {s s' : CanIface} {n : ℕ}

/-- A packet in the pool has a number that was given. -/
theorem lt_next (h : s.Accounted) (hn : n ∈ Pbuf.books.placed s.pbuf) : n < s.next := by
  by_contra hlt
  exact (h.fresh n (Nat.le_of_not_lt hlt)).2 hn

/-- **A change of the pool** that brings in new packets only. -/
theorem pool {i : Fin pbufElements} {hand hand' : Multiset ℕ} (h : s.Accounted)
    (hcalls : s'.calls = s.calls) (hnext : s.next ≤ s'.next) (hok : s'.pbuf.Ok)
    (hmove : Moves i s.pbuf hand s'.pbuf hand') (hle : hand' ≤ hand)
    (hhand : ∀ b ∈ hand, s.next ≤ b ∧ b < s'.next)
    (hpassed : ∀ p ∈ newPackets s'.pbuf.log, p ∈ newPackets s.pbuf.log ∨ s.calls p.buf = none)
    (hquiet : ∀ p ∈ (s'.pbuf.elements i).packet, s.calls p.buf ≠ none →
      (s'.pbuf.elements i).remain = 0) : s'.Accounted := by
  have hcount := count_of_conserves hmove.conserves
  have hout : ∀ n, n ∉ hand → (Pbuf.books.placed s'.pbuf).count n =
      (Pbuf.books.placed s.pbuf).count n := fun n hn => by
    have e := hcount n
    rw [Multiset.count_eq_zero_of_notMem hn,
      Multiset.count_eq_zero_of_notMem fun h' => hn (Multiset.mem_of_le hle h')] at e
    exact e
  refine ⟨hok, fun n hn => ?_, fun n st hst => ?_, fun p hp => ?_, fun j p hp hne => ?_⟩
  · obtain ⟨hnone, hnot⟩ := h.fresh n (hnext.trans hn)
    refine ⟨by rw [hcalls, hnone], ?_⟩
    rw [← Multiset.count_eq_zero, hout n fun hmem => absurd (hhand n hmem).2 (Nat.not_lt.2 hn)]
    exact Multiset.count_eq_zero.2 hnot
  · rw [hcalls] at hst
    rw [hout n fun hmem => ?_]
    · exact h.calls n st hst
    · have hnone := (h.fresh n (hhand n hmem).1).1
      exact absurd (hst.symm.trans hnone) (Option.some_ne_none st)
  · rw [hcalls]
    exact (hpassed p hp).elim (h.passed p) id
  · rw [hcalls] at hne
    by_cases hji : j = i
    · subst hji
      exact hquiet p hp hne
    · rw [hmove.others j hji] at hp ⊢
      exact h.quiet j p hp hne

/-- A change of the semaphores only. -/
theorem sem (h : s.Accounted) (hp : s'.pbuf = s.pbuf) (hn : s'.next = s.next)
    (hc : s'.calls = s.calls) : s'.Accounted := by
  obtain ⟨hok, hfresh, hcalls, hpassed, hquiet⟩ := h
  constructor <;> simp only [hp, hn, hc] <;> assumption

/-- A number is not used. -/
theorem skip (h : s.Accounted) : CanIface.Accounted { s with next := s.next + 1 } :=
  h.pool (i := ⟨0, by decide⟩) rfl (Nat.le_succ _) h.ok (.refl _ s.pbuf 0) le_rfl (by simp)
    (fun _ hp => .inl hp) (h.quiet _)

/-- A call makes progress. -/
theorem setCall {st : TxProgress} (h : s.Accounted) (hlt : n < s.next)
    (hcount : (Pbuf.books.placed s.pbuf).count n = st.due)
    (hpassed : ∀ p ∈ newPackets s.pbuf.log, p.buf ≠ n)
    (hquiet : ∀ i, ∀ p ∈ (s.pbuf.elements i).packet, p.buf = n →
      (s.pbuf.elements i).remain = 0) : (s.setCall n st).Accounted := by
  have hother : ∀ m, m ≠ n → (s.setCall n st).calls m = s.calls m := fun m hm =>
    Function.update_of_ne hm ..
  have hself : (s.setCall n st).calls n = some st := Function.update_self ..
  refine ⟨h.ok, fun m hm => ?_, fun m st' hst => ?_, fun p hp => ?_, fun i p hp hne => ?_⟩
  · have hmn : m ≠ n := by
      rintro rfl
      exact absurd hlt (Nat.not_lt.2 hm)
    rw [hother m hmn]
    exact h.fresh m hm
  · by_cases hmn : m = n
    · subst hmn
      rw [← Option.some.inj (hself.symm.trans hst)]
      exact hcount
    · rw [hother m hmn] at hst
      exact h.calls m st' hst
  · rw [hother _ (hpassed p hp)]
    exact h.passed p hp
  · by_cases hpn : p.buf = n
    · exact hquiet i p hp hpn
    · rw [hother _ hpn] at hne
      exact h.quiet i p hp hne

/-- A call that the interface got the packet from goes on. -/
theorem progress {st st' : TxProgress} (h : s.Accounted) (hst : s.calls n = some st)
    (hdue : st'.due = st.due) : (s.setCall n st').Accounted := by
  have hsome : s.calls n ≠ none := by
    rw [hst]
    exact Option.some_ne_none st
  refine h.setCall ?_ ?_ (fun p hp => ?_) fun i p hp hpn => ?_
  · by_contra hlt
    exact hsome (h.fresh n (Nat.le_of_not_lt hlt)).1
  · rw [hdue]
    exact h.calls n st hst
  · rintro rfl
    exact hsome (h.passed p hp)
  · refine h.quiet i p hp ?_
    rw [hpn]
    exact hsome

/-! ### Steps -/

/-- A call of `csp_can_tx` keeps the account. -/
theorem txStart (h : s.Accounted) (c : TxCall) (packet : CspPacket) (blocking : Bool) :
    (txStart c packet blocking s).Accounted := by
  have hfresh := h.fresh s.next le_rfl
  have hold : ∀ {b : ℕ}, b ∈ Pbuf.books.placed s.pbuf → b ≠ s.next := fun hb =>
    Nat.ne_of_lt (h.lt_next hb)
  have hok := (cspCanTx_inBounds c.host c (s.number packet) h.ok).1.ok h.ok
  unfold LibCSP.txStart
  simp only
  rcases cspCanTx_moves c (s.number packet) h.ok with ⟨hi, hsame⟩ | ⟨i, hi, hmove, hremain, hlog⟩
  · rw [hi, hsame]
    have hskip : CanIface.Accounted { s with
        next := s.next + 1, pointer := Function.update s.pointer s.next packet.buf } :=
      h.skip.sem rfl rfl rfl
    exact hskip.setCall (Nat.lt_succ_self s.next) (Multiset.count_eq_zero.2 hfresh.2)
      (fun p hp => hold (placed_of_newPackets hp))
      fun j p hp hpn => absurd hpn (hold (placed_of_packet hp))
  · rw [hi]
    simp only
    generalize hr : cspCanTx c (s.number packet) s.pbuf = r at hok hmove hremain hlog ⊢
    have hcount := count_of_conserves hmove.conserves s.next
    rw [Multiset.count_eq_zero.2 hfresh.2, Multiset.count_zero, zero_add, add_zero,
      show (s.number packet).buf = s.next from rfl, Multiset.count_singleton_self] at hcount
    obtain ⟨s₁, hs₁⟩ : ∃ s₁ : CanIface, s₁ = { s with
      pbuf := r.2
      next := s.next + 1
      pointer := Function.update s.pointer s.next packet.buf } := ⟨_, rfl⟩
    have h₁ : s₁.Accounted := by
      rw [hs₁]
      refine h.pool (i := i) rfl (Nat.le_succ _) hok hmove (Multiset.zero_le _) (fun b hb => ?_)
        (fun p hp => .inl ?_) fun _ _ _ => hremain
      · rw [Multiset.mem_singleton.1 hb]
        exact ⟨le_rfl, Nat.lt_succ_self _⟩
      · rwa [hlog] at hp
    have hset : ∀ st : TxProgress, st.due = 1 →
        ((s₁.setSem i false).setCall s.next st).Accounted := fun st hdue => by
      have h₂ : (s₁.setSem i false).Accounted := h₁.sem rfl rfl rfl
      rw [hs₁] at h₂ ⊢
      refine h₂.setCall (Nat.lt_succ_self _) (hcount.trans hdue.symm) (fun p hp => ?_)
        fun j p hp hpn => ?_
      · refine hold (placed_of_newPackets ?_)
        rw [← hlog]
        exact hp
      · by_cases hji : j = i
        · rw [hji]
          exact hremain
        · refine absurd hpn (hold (placed_of_packet (i := j) ?_))
          rw [← hmove.others j hji]
          exact hp
    rw [← hs₁]
    cases r.1 with
    | none => exact hset (.returned .sendFailed) rfl
    | some frame =>
      cases blocking with
      | true => exact hset (.waiting i) rfl
      | false => exact hset (.returned .accepted) rfl

/-- A call of `csp_tx_callback` keeps the account. -/
theorem txCallback (h : s.Accounted) (c : TxCall) (canid : U32) (ok : Bool) :
    CanIface.Accounted { s with pbuf := (cspTxCallback c canid ok s.pbuf).2.2 } := by
  have hok := (cspTxCallback_inBounds c.host c canid ok s.pbuf).1.ok h.ok
  rcases cspTxCallback_moves c canid ok s.pbuf with hsame | ⟨i, hmove, hremain, hlog⟩
  · rw [hsame]
    exact h
  · refine h.pool (i := i) rfl le_rfl hok hmove le_rfl (fun _ hb => absurd hb (by simp))
      (fun p hp => .inl ?_) fun p hp hne => ?_
    · rwa [hlog] at hp
    · -- a packet that is still there was there before
      have hmem := hmove.mem_of_mem (mem_bufOf.2 ⟨p, hp, rfl⟩)
      rw [add_zero] at hmem
      obtain ⟨q, hq, hqp⟩ := mem_bufOf.1 hmem
      rcases hremain with hremain | hnone
      · refine hremain.trans (h.quiet i q hq ?_)
        rw [hqp]
        exact hne
      · rw [hnone] at hp
        exact absurd hp (Option.not_mem_none p)

/-- The buffer for a received frame has the next number. -/
theorem buf_of_numberBuffer {c : RxCall} {b : ℕ} (hb : b ∈ bufOf (s.numberBuffer c).buffer) :
    b = s.next := by
  obtain ⟨p, hp, rfl⟩ := mem_bufOf.1 hb
  obtain ⟨q, -, rfl⟩ := Option.map_eq_some_iff.1 hp
  rfl

/-- A frame goes to an element without a packet of `csp_can_tx`. -/
theorem rxFrame {i : Fin pbufElements} {s₁ : Pbuf} {c : RxCall} (h : s.Accounted) (o : ByteOrder)
    (hmove : Moves i s.pbuf 0 s₁ 0) (hlog : newPackets s₁.log = newPackets s.pbuf.log)
    (hbuf : ∀ b ∈ bufOf c.buffer, b = s.next)
    (hrx : ∀ p ∈ (s₁.elements i).packet, s.calls p.buf = none)
    (hok : (LibCSP.rxFrame o c i s₁).Ok) : CanIface.Accounted { s with
      pbuf := LibCSP.rxFrame o c i s₁
      next := s.next + 1 } := by
  obtain ⟨hand, hle, hframe⟩ := rxFrame_moves o c i s₁
  have hnone : ∀ b ∈ bufOf (s₁.elements i).packet + bufOf c.buffer, s.calls b = none := by
    intro b hb
    rcases Multiset.mem_add.1 hb with hb | hb
    · obtain ⟨p, hp, rfl⟩ := mem_bufOf.1 hb
      exact hrx p hp
    · rw [hbuf b hb]
      exact (h.fresh s.next le_rfl).1
  have hboth : Moves i s.pbuf (bufOf c.buffer) (LibCSP.rxFrame o c i s₁) hand :=
    (hmove.keep _).trans hframe
  refine h.pool rfl (Nat.le_succ _) hok hboth hle (fun b hb => ?_) (fun p hp => ?_)
    fun p hp hne => ?_
  · rw [hbuf b hb]
    exact ⟨le_rfl, Nat.lt_succ_self _⟩
  · rw [← hlog]
    exact (hframe.mem_of_newPackets hp).imp_right (hnone p.buf)
  · exact absurd (hnone _ (hframe.mem_of_mem (mem_bufOf.2 ⟨p, hp, rfl⟩))) hne

/-- A received frame keeps the account, where it is not taken for one in transmission. -/
theorem rxCallback (h : s.Accounted) (o : ByteOrder) {c : RxCall}
    (hsep : Separate s (.rxCallback c)) : CanIface.Accounted { s with
      pbuf := (cspRxCallback o (s.numberBuffer c) s.pbuf).2
      next := s.next + 1 } := by
  have hok := (cspRxCallback_inBounds o (s.numberBuffer c) h.ok).1.ok h.ok
  have hsep' : cfpType c.frame.id = cfpBegin → _ := hsep
  have hbuf : ∀ b ∈ bufOf (s.numberBuffer c).buffer, b = s.next := fun b hb =>
    buf_of_numberBuffer hb
  have hid : (s.numberBuffer c).frame = c.frame := rfl
  generalize s.numberBuffer c = c' at hok hbuf hid ⊢
  rw [← hid] at hsep'
  unfold cspRxCallback at hok ⊢
  cases hfind : pbufFind c'.frame.id c'.clock s.pbuf with
  | some r =>
    obtain ⟨i, s₁⟩ := r
    obtain ⟨hfor, hs₁⟩ := pbufFind_eq_some hfind
    have hself : s₁.elements i = { s.pbuf.elements i with lastUsed := c'.clock 0 } := by
      rw [hs₁, Pbuf.set_elements_self]
    have hlog : newPackets s₁.log = newPackets s.pbuf.log := by
      rw [hs₁]
      rfl
    rw [hfind] at hok
    simp only at hok ⊢
    by_cases htx : ∀ p ∈ (s.pbuf.elements i).packet, s.calls p.buf = none
    · refine h.rxFrame o (pbufFind_moves hfind) hlog hbuf (fun p hp => ?_) hok
      rw [hself] at hp
      exact htx p hp
    · -- a packet of `csp_can_tx`: a MORE frame frees it
      have htype : cfpType c'.frame.id ≠ cfpBegin := fun hbegin => htx (hsep' hbegin i hfor)
      push Not at htx
      obtain ⟨p, hp, hne⟩ := htx
      have hremain : (s₁.elements i).remain = 0 := by
        rw [hself]
        exact h.quiet i p hp hne
      rw [rxFrame_of_unexpected o htype hremain] at hok ⊢
      refine h.pool (i := i) rfl (Nat.le_succ _) hok
        ((pbufFind_moves hfind).trans (.pbufFree i s₁)) le_rfl (by simp) (fun q hq => .inl ?_)
        fun q hq _ => ?_
      · rwa [pbufFree_newPackets, hlog] at hq
      · rw [pbufFree_self] at hq
        exact absurd hq (Option.not_mem_none q)
  | none =>
    rw [hfind] at hok
    simp only at hok ⊢
    split
    · rename_i htype
      rw [if_pos htype] at hok
      cases hnew : pbufNew c'.frame.id c'.clock s.pbuf with
      | some r =>
        obtain ⟨i, s₁⟩ := r
        obtain ⟨-, ⟨k, hk⟩, -, evs, hl, hevs⟩ := pbufNew_eq_some h.ok hnew
        rw [hnew] at hok
        refine h.rxFrame o (pbufNew_moves hnew) ?_ hbuf (fun p hp => ?_) hok
        · rw [hl, newPackets_append, newPackets_free hevs, List.append_nil]
        · rw [hk] at hp
          exact absurd hp (Option.not_mem_none p)
      | none => exact h.skip
    · exact h.skip

/-- **A turn keeps the packets accounted for.** -/
theorem step {o : ByteOrder} {a : CanAction} (h : s.Accounted) (hsep : Separate s a)
    (hst : canIfaceStep o s a = some s') : s'.Accounted := by
  cases canIfaceStep_turn hst with
  | tx c packet blocking => exact h.txStart c packet blocking
  | wake n i hn _ => exact h.progress hn rfl
  | timeout n i hn _ =>
    have hsem : (s.setSem i true).Accounted := h.sem rfl rfl rfl
    exact hsem.progress hn rfl
  | txCallback c canid ok txSem => exact (h.txCallback c canid ok).sem rfl rfl rfl
  | rxCallback c => exact h.rxCallback o hsep

/-- After `csp_can_init` nothing is owed. -/
theorem init : CanIface.init.Accounted where
  ok := Pbuf.init_ok
  fresh _ _ := ⟨rfl, Multiset.notMem_zero _⟩
  calls _ _ h := absurd h nofun
  passed _ hp := absurd hp List.not_mem_nil
  quiet _ _ hp := absurd hp nofun

end CanIface.Accounted

/-! ### What the caller is told -/

/-- A call of `csp_can_tx` is the next one, with the caller's pointer. -/
theorem txStart_calls (c : TxCall) (packet : CspPacket) (blocking : Bool) (s : CanIface) :
    ∃ st, (txStart c packet blocking s).calls = Function.update s.calls s.next (some st) ∧
      (txStart c packet blocking s).pointer = Function.update s.pointer s.next packet.buf := by
  unfold txStart
  simp only
  split
  · exact ⟨_, rfl, rfl⟩
  · split
    · exact ⟨_, rfl, rfl⟩
    · split
      · exact ⟨_, rfl, rfl⟩
      · exact ⟨_, rfl, rfl⟩

namespace CanIface

/-- What the interface has got by call `n` of the packet `b`. -/
def dues (s : CanIface) (b n : ℕ) : ℕ := if s.pointer n = b then (s.calls n).elim 0 (·.due) else 0

/-- A call that has not been made owes nothing. -/
theorem dues_of_none {s : CanIface} {n : ℕ} (h : s.calls n = none) (b : ℕ) : s.dues b n = 0 := by
  rw [dues, h]
  exact ite_self 0

namespace Accounted

variable {s s' : CanIface} {n b : ℕ}

/-- **The packet is in elements or freed once for each call** that the interface has got it
from. -/
theorem count_passed (h : s.Accounted) (b n : ℕ) :
    ((Pbuf.books.placed s.pbuf).filter (s.Passed b)).count n = s.dues b n := by
  cases hn : s.calls n with
  | none =>
    have hnot : ¬ s.Passed b n := fun hp => hp.1 hn
    rw [Multiset.count_filter_of_neg hnot, dues_of_none hn]
  | some st =>
    by_cases hb : s.pointer n = b
    · have hp : s.Passed b n := ⟨by rw [hn]; exact Option.some_ne_none st, hb⟩
      rw [Multiset.count_filter_of_pos hp, h.calls n st hn, dues, if_pos hb, hn]
      rfl
    · rw [Multiset.count_filter_of_neg fun hp => hb hp.2, dues, if_neg hb]

/-- No packet of `csp_can_tx` is handed to `csp_new_packet`. -/
theorem passedOn_eq_zero (h : s.Accounted) (b : ℕ) : s.passedOn b = 0 := by
  refine Multiset.countP_eq_zero.2 fun n hn hpassed => hpassed.1 ?_
  obtain ⟨p, hp, rfl⟩ := List.mem_map.1 (Multiset.mem_coe.1 hn)
  exact h.passed p hp

/-- The packet is in an element or freed. -/
theorem heldOf_add_freedOf (h : s.Accounted) (b : ℕ) :
    s.heldOf b + s.freedOf b = ((Pbuf.books.placed s.pbuf).filter (s.Passed b)).card := by
  have hpassed := h.passedOn_eq_zero b
  show _ = ((s.pbuf.held + givenAway s.pbuf.log).filter (s.Passed b)).card
  rw [← Multiset.countP_eq_card_filter, givenAway, Multiset.countP_add, Multiset.countP_add]
  exact congrArg (s.heldOf b + ·) (Nat.add_eq_left.2 hpassed).symm

/-- **What the interface has got by a call stays**, from the call on. -/
theorem dues_step {o : ByteOrder} {a : CanAction} (h : s.Accounted)
    (hst : canIfaceStep o s a = some s')
    (hn : n = s.next → ∀ c packet blocking, a = .tx c packet blocking → packet.buf ≠ b) :
    s'.dues b n = s.dues b n := by
  have hset : ∀ (u : CanIface) (m : ℕ) (st st' : TxProgress), u.calls = s.calls →
      u.pointer = s.pointer → s.calls m = some st → st'.due = st.due →
        (u.setCall m st').dues b n = s.dues b n := by
    intro u m st st' hc hp hm hdue
    have hcalls : (u.setCall m st').calls = Function.update s.calls m (some st') := by
      rw [← hc]
      rfl
    rw [dues, hcalls, show (u.setCall m st').pointer = s.pointer from hp, dues]
    by_cases hnm : n = m
    · rw [hnm, Function.update_self, hm, Option.elim_some, Option.elim_some, hdue]
    · rw [Function.update_of_ne hnm]
  cases canIfaceStep_turn hst with
  | tx c packet blocking =>
    obtain ⟨st, hcalls, hpointer⟩ := txStart_calls c packet blocking s
    rw [dues, hcalls, hpointer]
    by_cases hnext : n = s.next
    · rw [hnext, Function.update_self, Function.update_self,
        if_neg (hn hnext c packet blocking rfl), dues_of_none (h.fresh s.next le_rfl).1]
    · rw [Function.update_of_ne hnext, Function.update_of_ne hnext]
      rfl
  | wake m i hm _ => exact hset _ m _ _ rfl rfl hm rfl
  | timeout m i hm _ => exact hset _ m _ _ rfl rfl hm rfl
  | txCallback c canid ok txSem => rfl
  | rxCallback c => rfl

/-- The pointer of a call is kept. -/
theorem pointer_step {o : ByteOrder} {a : CanAction} (hst : canIfaceStep o s a = some s')
    (hn : n < s.next) : s'.pointer n = s.pointer n ∧ n < s'.next := by
  cases canIfaceStep_turn hst with
  | tx c packet blocking =>
    obtain ⟨st, -, hpointer⟩ := txStart_calls c packet blocking s
    have hnext : (LibCSP.txStart c packet blocking s).next = s.next + 1 := by
      unfold LibCSP.txStart
      simp only
      split
      · rfl
      · split
        · rfl
        · split <;> rfl
    rw [hpointer, hnext, Function.update_of_ne (Nat.ne_of_lt hn)]
    exact ⟨rfl, Nat.lt_succ_of_lt hn⟩
  | wake m i hm _ => exact ⟨rfl, hn⟩
  | timeout m i hm _ => exact ⟨rfl, hn⟩
  | txCallback c canid ok txSem => exact ⟨rfl, hn⟩
  | rxCallback c => exact ⟨rfl, Nat.lt_succ_of_lt hn⟩

end Accounted
end CanIface

/-- **The account is right** in every run. -/
theorem run_accounted {o : ByteOrder} {is : List CanAction} {s : CanIface}
    (hrun : Run (canIfaceStep o) Separate .init is s) : s.Accounted :=
  hrun.invariant (P := CanIface.Accounted) (fun _ _ _ h hsep hst => h.step hsep hst) .init

/-- The caller does not pass the packet again. -/
def NotAgain (b : ℕ) : CanAction → Prop
  | .tx _ packet _ => packet.buf ≠ b
  | _ => True

instance (b : ℕ) (a : CanAction) : Decidable (NotAgain b a) :=
  match a with
  | .tx _ packet _ => inferInstanceAs (Decidable (packet.buf ≠ b))
  | .wake _ | .timeout _ | .txCallback _ _ _ | .rxCallback _ => isTrue trivial

section

variable {o : ByteOrder} {s s₁ t : CanIface} {c : TxCall} {packet : CspPacket} {blocking : Bool}
  {is' : List CanAction} {why : TxEnd}

/-- From a call on the packet is in elements or freed as often as before, and once more if
the interface got it by the call. -/
theorem later_heldOf_add_freedOf (h : s.Accounted)
    (hcall : canIfaceStep o s (.tx c packet blocking) = some s₁)
    (hlater : Run (canIfaceStep o) (fun s a => Separate s a ∧ NotAgain packet.buf a) s₁ is' t)
    (hn : t.calls s.next = some (.returned why)) : t.Accounted ∧
      t.heldOf packet.buf + t.freedOf packet.buf =
        s.heldOf packet.buf + s.freedOf packet.buf + TxProgress.due (.returned why) := by
  obtain ⟨st, -, hpointer⟩ := txStart_calls c packet blocking s
  have h₁ : s₁.Accounted := h.step (a := .tx c packet blocking) trivial hcall
  have hother : ∀ n, n ≠ s.next → s₁.dues packet.buf n = s.dues packet.buf n := fun n hne =>
    h.dues_step hcall fun heq => absurd heq hne
  have hfirst : s₁.pointer s.next = packet.buf ∧ s.next < s₁.next := by
    obtain rfl := Option.some.inj hcall
    refine ⟨by rw [hpointer, Function.update_self], ?_⟩
    by_contra hge
    have hnone := (h₁.fresh s.next (Nat.le_of_not_lt hge)).1
    obtain ⟨st, hcalls, -⟩ := txStart_calls c packet blocking s
    rw [hcalls, Function.update_self] at hnone
    exact Option.some_ne_none st hnone
  have hrun : t.Accounted ∧ (∀ n, t.dues packet.buf n = s₁.dues packet.buf n) ∧
      t.pointer s.next = packet.buf ∧ s.next < t.next :=
    hlater.invariant (P := fun t => t.Accounted ∧
        (∀ n, t.dues packet.buf n = s₁.dues packet.buf n) ∧
        t.pointer s.next = packet.buf ∧ s.next < t.next)
      (fun u a v ⟨hu, hdues, hp, hlt⟩ ⟨hsep, hnot⟩ hst => by
        obtain ⟨hp', hlt'⟩ := CanIface.Accounted.pointer_step hst hlt
        refine ⟨hu.step hsep hst, fun n => ?_, hp'.trans hp, hlt'⟩
        refine (hu.dues_step hst fun _ c' packet' blocking' ha => ?_).trans (hdues n)
        rw [ha] at hnot
        exact hnot)
      ⟨h₁, fun _ => rfl, hfirst⟩
  obtain ⟨ht, hdues, hp, -⟩ := hrun
  refine ⟨ht, ?_⟩
  have hsplit : (Pbuf.books.placed t.pbuf).filter (t.Passed packet.buf) =
      (Pbuf.books.placed s.pbuf).filter (s.Passed packet.buf) +
        Multiset.replicate (TxProgress.due (.returned why)) s.next := by
    refine Multiset.ext.2 fun n => ?_
    rw [Multiset.count_add, ht.count_passed, h.count_passed, Multiset.count_replicate]
    by_cases hnext : s.next = n
    · subst hnext
      rw [CanIface.dues_of_none (h.fresh s.next le_rfl).1, zero_add, if_pos rfl,
        CanIface.dues, if_pos hp, hn]
      rfl
    · rw [if_neg hnext, hdues, hother n (Ne.symm hnext)]
      rfl
  rw [ht.heldOf_add_freedOf, h.heldOf_add_freedOf, hsplit, Multiset.card_add,
    Multiset.card_replicate]

/-- **The result is right exactly if the call did not fail late**, and the interface had not
got the packet before. -/
theorem later_honours_iff (h : s.Accounted)
    (hcall : canIfaceStep o s (.tx c packet blocking) = some s₁)
    (hlater : Run (canIfaceStep o) (fun s a => Separate s a ∧ NotAgain packet.buf a) s₁ is' t)
    (hn : t.calls s.next = some (.returned why)) : t.Honours packet.buf why ↔
      (s.heldOf packet.buf = 0 ∧ s.freedOf packet.buf = 0) ∧
        why ≠ .sendFailed ∧ why ≠ .timedOut := by
  obtain ⟨ht, hsum⟩ := later_heldOf_add_freedOf h hcall hlater hn
  have hpassed := ht.passedOn_eq_zero packet.buf
  unfold CanIface.Honours
  rw [hpassed]
  cases why <;> simp only [TxEnd.result, TxProgress.due] at hsum ⊢ <;> simp <;> omega

end

/-- **The caller of `csp_can_tx` knows who owns the packet**, whatever happens until it
passes the packet again, exactly if no element pointed to the packet when it was passed and
the interface had not freed it, and the call did not fail after its element had got it. -/
theorem canTx_honours_iff {o : ByteOrder} {is is' : List CanAction} {s s₁ t : CanIface}
    {c : TxCall} {packet : CspPacket} {blocking : Bool} {why : TxEnd}
    (hrun : Run (canIfaceStep o) Separate .init is s)
    (hcall : canIfaceStep o s (.tx c packet blocking) = some s₁)
    (hlater : Run (canIfaceStep o) (fun s a => Separate s a ∧ NotAgain packet.buf a) s₁ is' t)
    (hn : t.calls s.next = some (.returned why)) :
    t.Honours packet.buf why ↔ (s.heldOf packet.buf = 0 ∧ s.freedOf packet.buf = 0) ∧
      why ≠ .sendFailed ∧ why ≠ .timedOut :=
  later_honours_iff (run_accounted hrun) hcall hlater hn

/-- A call with the number 5; `can_send` takes the frame or not. -/
def txCall (canSend : Bool) : TxCall := ⟨.little, fun _ => 0, some 5, canSend⟩

/-- A packet that fits into one frame. -/
def shortPacket : CspPacket := ⟨0, 0, 0, 2, 0x02100000, fun _ => 0⟩

/-- `id_get` fails for the packet. -/
def refusedOnce : CanIface := txStart ⟨.little, fun _ => 0, none, true⟩ shortPacket true .init

/-- The caller tries again. -/
def triedAgain : CanIface := txStart (txCall true) shortPacket true refusedOnce

/-- The packet is sent at the second attempt and freed, then the caller is told. -/
theorem canTx_honours_sent : ∃ t : CanIface,
    Run (canIfaceStep .little) (fun s a => Separate s a ∧ NotAgain shortPacket.buf a) triedAgain
      [.txCallback (txCall true) (beginFrame .little shortPacket 5).id true, .wake 1] t ∧
    t.Honours shortPacket.buf .sent := by
  have hfirst : Run (canIfaceStep .little) Separate .init
      [.tx ⟨.little, fun _ => 0, none, true⟩ shortPacket true] refusedOnce :=
    .cons trivial rfl .nil
  have hfree : (refusedOnce.heldOf shortPacket.buf = 0 ∧
      refusedOnce.freedOf shortPacket.buf = 0) ∧ refusedOnce.next = 1 := by
    decide +kernel
  have hlater : ∃ t : CanIface, Run (canIfaceStep .little)
      (fun s a => Separate s a ∧ NotAgain shortPacket.buf a) triedAgain
      [.txCallback (txCall true) (beginFrame .little shortPacket 5).id true, .wake 1] t ∧
      decide (t.calls 1 = some (.returned .sent)) = true := Run.of_any (by decide +kernel)
  obtain ⟨t, hlater, ht⟩ := hlater
  have hn : t.calls refusedOnce.next = some (.returned .sent) := by
    rw [hfree.2]
    exact of_decide_eq_true ht
  exact ⟨t, hlater, (canTx_honours_iff hfirst rfl hlater hn).2
    ⟨hfree.1, by decide, by decide⟩⟩

/-- **`can_send` fails, and the element keeps the packet** that the caller frees. -/
theorem send_failure_keeps_packet :
    ¬ ∀ (o : ByteOrder) (is is' : List CanAction) (s s₁ t : CanIface) (c : TxCall)
      (packet : CspPacket) (blocking : Bool) (why : TxEnd),
      Run (canIfaceStep o) Separate .init is s →
        canIfaceStep o s (.tx c packet blocking) = some s₁ →
          Run (canIfaceStep o) (fun s a => Separate s a ∧ NotAgain packet.buf a) s₁ is' t →
            t.calls s.next = some (.returned why) → t.Honours packet.buf why := by
  intro h
  have hn : (txStart (txCall false) shortPacket false .init).calls 0 =
      some (.returned .sendFailed) := by
    decide +kernel
  have hright := h .little [] [] .init _ _ (txCall false) shortPacket false .sendFailed .nil rfl
    .nil hn
  exact ((later_honours_iff (o := .little) .init rfl .nil hn).1 hright).2.1 rfl

end LibCSP
