/-
# Every frame has one outcome

Whatever the order of steps, a mailbox is free, is being filled in by the call of `can_send` that
claimed it, or holds the frame of a call that has returned 0 (`MboxAt`).  So each such frame is
written to the socket as it was given to `can_send`, or it is not written, and then `txcb` is called
once, with its identifier and with what became of it; nothing else is written and `txcb` is
not called for anything else (`mailboxes_outcome`).  The threads need at most 13 steps for each
mailbox to come to that, 65 in all, whatever `write` returns (`mailboxes_drain`).
-/

import Mathlib.Algebra.BigOperators.Fin
import Mathlib.Algebra.Order.BigOperators.Group.Finset
import LibCSP.Basis.Ledger
import LibCSP.Can.Mailbox

namespace LibCSP

open Basis

/-! ### What happened to a frame -/

def MboxEvent.call : MboxEvent → Option ℕ
  | .wrote call _ _ | .txcb call _ _ => call

/-- What happened to the frame of call `n`. -/
def Mailboxes.eventsOf (s : Mailboxes) (n : ℕ) : List MboxEvent :=
  s.log.filter fun ev => ev.call = some n

/-- What `write` did with the frame. -/
def CanSend.written (c : CanSend) (n : ℕ) (ok : Bool) : List MboxEvent :=
  if ok then [.wrote (some n) (c.id ||| canEffFlag) c.data] else []

/-- What `write` did, and the report of it. -/
def CanSend.outcome (c : CanSend) (n : ℕ) (ok : Bool) : List MboxEvent :=
  c.written n ok ++ [.txcb (some n) (c.id ||| canEffFlag) ok]

/-- The mailbox that a call of `can_send` fills in. -/
def SendStage.mailbox : SendStage → Option (Fin mboxNum)
  | .copyId i | .copyData i _ | .signal i => some i
  | .search | .returned _ => none

/-- A call that fills a mailbox has not returned. -/
theorem SendStage.ne_returned {st : SendStage} {i : Fin mboxNum} (h : st.mailbox = some i) (r : ℤ) :
    st ≠ .returned r := by
  rintro rfl
  cases h

/-- The frame in the mailbox is that of the call. -/
structure FrameOf (m : Mbox) (c : CanSend) : Prop where
  canId : m.canId = c.id ||| canEffFlag
  bytes : m.bytes = c.data

/-- As much of the frame as the call has copied. -/
def Filled (m : Mbox) (c : CanSend) : Prop :=
  match c.stage with
  | .copyData _ k => m.canId = c.id ||| canEffFlag ∧ k ≤ c.data.length ∧
      ∀ j, j < k → m.data j = c.data.getD j 0
  | .signal _ => FrameOf m c
  | _ => True

/-- The thread has come this far with the frame. -/
def Progress (m : Mbox) (n : ℕ) (c : CanSend) (evs : List MboxEvent) : Prop :=
  match m.thread with
  | .waiting => m.signalSem = 1 ∧ evs = []
  | .writing _ => m.signalSem = 0 ∧ evs = []
  | .callback ok => m.signalSem = 0 ∧ evs = c.written n ok
  | .freeing => m.signalSem = 0 ∧ ∃ ok, evs = c.outcome n ok

/-! ### The invariant -/

/-- What a mailbox is used for. -/
inductive MboxAt (s : Mailboxes) (i : Fin mboxNum) : Prop
  | free (howner : s.owner i = none) (hstate : (s.mbox i).state = .mboxFree)
      (hsem : (s.mbox i).signalSem = 0) (hthread : (s.mbox i).thread = .waiting)
  | filling {n : ℕ} {c : CanSend} (howner : s.owner i = some n) (hn : s.calls n = some c)
      (hstage : c.stage.mailbox = some i) (hstate : (s.mbox i).state = .mboxUsed)
      (hsem : (s.mbox i).signalSem = 0) (hthread : (s.mbox i).thread = .waiting)
      (hfilled : Filled (s.mbox i) c)
  | taken {n : ℕ} {c : CanSend} (howner : s.owner i = some n) (hn : s.calls n = some c)
      (hstage : c.stage = .returned 0) (hstate : (s.mbox i).state = .mboxUsed)
      (hcarries : FrameOf (s.mbox i) c) (hprogress : Progress (s.mbox i) n c (s.eventsOf n))

structure MailboxesOk (s : Mailboxes) : Prop where
  mbox : ∀ i, MboxAt s i
  unique : ∀ i j n, s.owner i = some n → s.owner j = some n → i = j
  filling : ∀ n c i, s.calls n = some c → c.stage.mailbox = some i → s.owner i = some n
  fresh : ∀ n, s.next ≤ n → s.calls n = none
  done : ∀ n c, s.calls n = some c → c.stage = .returned 0 →
    (∃ i, s.owner i = some n) ∨ ∃ ok, s.eventsOf n = c.outcome n ok
  quiet : ∀ n, (∀ c, s.calls n = some c → c.stage ≠ .returned 0) → s.eventsOf n = []
  named : ∀ ev ∈ s.log, ∃ n, ev.call = some n

/-- After `can_mbox_init` every mailbox is free. -/
theorem mailboxesOk_init (data : ℕ → U8) : MailboxesOk (canMboxInit data) where
  mbox _ := .free rfl rfl rfl rfl
  unique _ _ _ h := absurd h.symm (Option.some_ne_none _)
  filling _ _ _ h := absurd h.symm (Option.some_ne_none _)
  fresh _ _ := rfl
  done _ _ h := absurd h.symm (Option.some_ne_none _)
  quiet _ _ := rfl
  named _ h := absurd h List.not_mem_nil

/-- The owner of a mailbox is a call that fills it in or has returned 0. -/
theorem MboxAt.owner {s : Mailboxes} {i : Fin mboxNum} {n : ℕ} (h : MboxAt s i)
    (howner : s.owner i = some n) : ∃ c, s.calls n = some c ∧
      (c.stage.mailbox = some i ∨ c.stage = .returned 0) := by
  cases h with
  | free hnone => exact absurd (howner.symm.trans hnone) (Option.some_ne_none n)
  | filling hown hn hstage =>
    obtain rfl := Option.some.inj (howner.symm.trans hown)
    exact ⟨_, hn, .inl hstage⟩
  | taken hown hn hstage =>
    obtain rfl := Option.some.inj (howner.symm.trans hown)
    exact ⟨_, hn, .inr hstage⟩

/-- A mailbox that a step does not touch. -/
theorem MboxAt.congr {s s' : Mailboxes} {i : Fin mboxNum} (h : MboxAt s i)
    (hmbox : s'.mbox i = s.mbox i) (howner : s'.owner i = s.owner i)
    (hcall : ∀ n, s.owner i = some n → s'.calls n = s.calls n ∧ s'.eventsOf n = s.eventsOf n) :
    MboxAt s' i := by
  cases h with
  | free hnone hstate hsem hthread =>
    rw [← hmbox] at hstate hsem hthread
    exact .free (howner.trans hnone) hstate hsem hthread
  | filling hown hn hstage hstate hsem hthread hfilled =>
    rw [← hmbox] at hstate hsem hthread hfilled
    exact .filling (howner.trans hown) ((hcall _ hown).1.trans hn) hstage hstate hsem hthread
      hfilled
  | taken hown hn hstage hstate hcarries hprogress =>
    rw [← hmbox, ← (hcall _ hown).2] at hprogress
    rw [← hmbox] at hstate hcarries
    exact .taken (howner.trans hown) ((hcall _ hown).1.trans hn) hstage hstate hcarries hprogress

namespace MailboxesOk

variable {s : Mailboxes} {n : ℕ} {c c' : CanSend} {i : Fin mboxNum} {m : Mbox}

/-- A call that searches has no mailbox. -/
theorem not_owner (h : MailboxesOk s) (hn : s.calls n = some c) (hmail : c.stage.mailbox = none)
    (hret : c.stage ≠ .returned 0) (i : Fin mboxNum) : s.owner i ≠ some n := by
  intro howner
  obtain ⟨d, hd, hstage⟩ := (h.mbox i).owner howner
  obtain rfl := Option.some.inj (hn.symm.trans hd)
  rcases hstage with hstage | hstage
  · rw [hmail] at hstage
    cases hstage
  · exact hret hstage

/-- The mailbox that a call fills in. -/
theorem at_filling (h : MailboxesOk s) (hn : s.calls n = some c)
    (hstage : c.stage.mailbox = some i) : (s.mbox i).state = .mboxUsed ∧
      (s.mbox i).signalSem = 0 ∧ (s.mbox i).thread = .waiting ∧ Filled (s.mbox i) c := by
  have howner := h.filling n c i hn hstage
  cases h.mbox i with
  | free hnone => exact absurd (howner.symm.trans hnone) (Option.some_ne_none n)
  | filling hown hd hst hstate hsem hthread hfilled =>
    obtain rfl := Option.some.inj (howner.symm.trans hown)
    obtain rfl := Option.some.inj (hn.symm.trans hd)
    exact ⟨hstate, hsem, hthread, hfilled⟩
  | taken hown hd hst =>
    obtain rfl := Option.some.inj (howner.symm.trans hown)
    obtain rfl := Option.some.inj (hn.symm.trans hd)
    exact absurd hst (SendStage.ne_returned hstage 0)

/-- A mailbox whose thread is at work, or may be woken up. -/
theorem at_taken (h : MailboxesOk s)
    (hbusy : (s.mbox i).thread ≠ .waiting ∨ 0 < (s.mbox i).signalSem) :
    ∃ n c, s.owner i = some n ∧ s.calls n = some c ∧ c.stage = .returned 0 ∧
      (s.mbox i).state = .mboxUsed ∧ FrameOf (s.mbox i) c ∧
        Progress (s.mbox i) n c (s.eventsOf n) := by
  cases h.mbox i with
  | free _ _ hsem hthread =>
    rcases hbusy with hbusy | hbusy
    · exact absurd hthread hbusy
    · omega
  | filling _ _ _ _ hsem hthread =>
    rcases hbusy with hbusy | hbusy
    · exact absurd hthread hbusy
    · omega
  | taken howner hn hstage hstate hcarries hprogress =>
    exact ⟨_, _, howner, hn, hstage, hstate, hcarries, hprogress⟩

/-- **A call of `can_send` goes on** in its mailbox. -/
theorem sender (h : MailboxesOk s) (hn : s.calls n = some c) (hstage : c.stage.mailbox = some i)
    (hstage' : c'.stage.mailbox = some i ∨ c'.stage = .returned 0)
    (hat : MboxAt ((s.setMbox i m).setCall n c') i) :
    MailboxesOk ((s.setMbox i m).setCall n c') := by
  have howner := h.filling n c i hn hstage
  refine ⟨fun j => ?_, h.unique, fun k d j hk hd => ?_, fun k hk => ?_, fun k d hk hd => ?_,
    fun k hk => ?_, h.named⟩
  · by_cases hj : j = i
    · exact hj ▸ hat
    · refine (h.mbox j).congr (s.setMbox_ne hj m) rfl fun k hk => ⟨?_, rfl⟩
      refine Mailboxes.setCall_ne (s.setMbox i m) (fun hkn => hj ?_) c'
      exact h.unique j i n (hkn ▸ hk) howner
  · by_cases hkn : k = n
    · subst hkn
      obtain rfl := Option.some.inj ((Mailboxes.setCall_self (s.setMbox i m) c').symm.trans hk)
      rcases hstage' with hst | hst
      · obtain rfl := Option.some.inj (hst.symm.trans hd)
        exact howner
      · rw [hst] at hd
        cases hd
    · rw [Mailboxes.setCall_ne _ hkn] at hk
      exact h.filling k d j hk hd
  · have hkn : k ≠ n := by
      rintro rfl
      exact absurd (hn.symm.trans (h.fresh k hk)) (Option.some_ne_none c)
    rw [Mailboxes.setCall_ne _ hkn]
    exact h.fresh k hk
  · by_cases hkn : k = n
    · exact .inl ⟨i, hkn ▸ howner⟩
    · rw [Mailboxes.setCall_ne _ hkn] at hk
      exact h.done k d hk hd
  · by_cases hkn : k = n
    · subst hkn
      refine h.quiet k fun d hd => ?_
      obtain rfl := Option.some.inj (hn.symm.trans hd)
      exact SendStage.ne_returned hstage 0
    · rw [Mailboxes.setCall_ne _ hkn] at hk
      exact h.quiet k hk

/-- **A thread goes on** with its frame; what happens is about that frame. -/
theorem thread {evs : List MboxEvent} (h : MailboxesOk s) (howner : s.owner i = some n)
    (hn : s.calls n = some c) (hret : c.stage = .returned 0) (hevs : ∀ ev ∈ evs, ev.call = some n)
    (hat : MboxAt { s.setMbox i m with log := s.log ++ evs } i) :
    MailboxesOk { s.setMbox i m with log := s.log ++ evs } := by
  have hother : ∀ k, k ≠ n →
      { s.setMbox i m with log := s.log ++ evs }.eventsOf k = s.eventsOf k := by
    intro k hk
    have hnil : evs.filter (fun ev => ev.call = some k) = [] := by
      refine List.filter_eq_nil_iff.2 fun ev hev hcall => hk ?_
      rw [decide_eq_true_eq, hevs ev hev] at hcall
      exact (Option.some.inj hcall).symm
    show (s.log ++ evs).filter _ = _
    rw [List.filter_append, hnil, List.append_nil]
    rfl
  refine ⟨fun j => ?_, h.unique, h.filling, h.fresh, fun k d hk hd => ?_, fun k hk => ?_,
    fun ev hev => ?_⟩
  · by_cases hj : j = i
    · exact hj ▸ hat
    · refine (h.mbox j).congr (s.setMbox_ne hj m) rfl fun k hk => ⟨rfl, hother k fun hkn => hj ?_⟩
      exact h.unique j i n (hkn ▸ hk) howner
  · by_cases hkn : k = n
    · exact .inl ⟨i, hkn ▸ howner⟩
    · rw [hother k hkn]
      exact h.done k d hk hd
  · have hkn : k ≠ n := by
      rintro rfl
      exact hk c hn hret
    rw [hother k hkn]
    exact h.quiet k hk
  · rcases List.mem_append.1 hev with hev | hev
    · exact h.named ev hev
    · exact ⟨n, hevs ev hev⟩

/-- A call of `can_send` that has no mailbox begins or ends. -/
theorem aside {k : ℕ} (h : MailboxesOk s) (hk : n < k) (hnext : s.next ≤ k)
    (hfree : ∀ i, s.owner i ≠ some n) (hquiet : s.eventsOf n = [])
    (hmail : c.stage.mailbox = none) (hret : c.stage ≠ .returned 0) :
    MailboxesOk { s.setCall n c with next := k } := by
  refine ⟨fun j => ?_, h.unique, fun l d j hl hd => ?_, fun l hl => ?_, fun l d hl hd => ?_,
    fun l hl => ?_, h.named⟩
  · refine (h.mbox j).congr rfl rfl fun l hl => ⟨s.setCall_ne (fun hln => ?_) c, rfl⟩
    exact hfree j (hln ▸ hl)
  · by_cases hln : l = n
    · subst hln
      obtain rfl := Option.some.inj ((s.setCall_self c).symm.trans hl)
      rw [hmail] at hd
      cases hd
    · exact h.filling l d j ((s.setCall_ne hln c).symm.trans hl) hd
  · have hl : k ≤ l := hl
    exact (s.setCall_ne (by omega) c).trans (h.fresh l (hnext.trans hl))
  · by_cases hln : l = n
    · subst hln
      obtain rfl := Option.some.inj ((s.setCall_self c).symm.trans hl)
      exact absurd hd hret
    · exact h.done l d ((s.setCall_ne hln c).symm.trans hl) hd
  · by_cases hln : l = n
    · exact hln ▸ hquiet
    · exact h.quiet l fun d hd => hl d ((s.setCall_ne hln c).trans hd)

/-- **A call of `can_send` claims a mailbox.** -/
theorem claim (h : MailboxesOk s) (hn : s.calls n = some c) (hst : c.stage = .search)
    (hfree : (s.mbox i).state = .mboxFree) :
    MailboxesOk (((s.setMbox i { s.mbox i with state := .mboxUsed }).setOwner i (some n)).setCall n
      { c with stage := .copyId i }) := by
  have hnone : s.owner i = none ∧ (s.mbox i).signalSem = 0 ∧ (s.mbox i).thread = .waiting := by
    cases h.mbox i with
    | free howner _ hsem hthread => exact ⟨howner, hsem, hthread⟩
    | filling _ _ _ hstate => exact absurd (hfree.symm.trans hstate) nofun
    | taken _ _ _ hstate => exact absurd (hfree.symm.trans hstate) nofun
  have hno : ∀ j, s.owner j ≠ some n := h.not_owner hn (by rw [hst]; rfl) (by rw [hst]; nofun)
  refine ⟨fun j => ?_, fun j k l hj hk => ?_, fun l d j hl hd => ?_, fun l hl => ?_,
    fun l d hl hd => ?_, fun l hl => ?_, h.named⟩
  · by_cases hj : j = i
    · subst hj
      refine .filling (n := n) (c := { c with stage := .copyId j })
        (Mailboxes.setOwner_self ..) (Mailboxes.setCall_self ..) rfl ?_ ?_ ?_ trivial
      · exact congrArg Mbox.state (Mailboxes.setMbox_self ..)
      · exact (congrArg Mbox.signalSem (Mailboxes.setMbox_self ..)).trans hnone.2.1
      · exact (congrArg Mbox.thread (Mailboxes.setMbox_self ..)).trans hnone.2.2
    · refine (h.mbox j).congr (s.setMbox_ne hj _) (Mailboxes.setOwner_ne _ hj _)
        fun l hl => ⟨?_, rfl⟩
      refine Mailboxes.setCall_ne _ (fun hln => ?_) _
      exact hno j (hln ▸ hl)
  · -- nobody else has a mailbox for this call
    have howner : ∀ j, j ≠ i →
        (((s.setMbox i { s.mbox i with state := .mboxUsed }).setOwner i (some n)).setCall n
          { c with stage := .copyId i }).owner j = s.owner j := fun j hj =>
      Mailboxes.setOwner_ne _ hj _
    by_cases hji : j = i
    · by_cases hki : k = i
      · exact hji.trans hki.symm
      · rw [howner k hki] at hk
        rw [hji] at hj
        obtain rfl := Option.some.inj ((Mailboxes.setOwner_self ..).symm.trans hj)
        exact absurd hk (hno k)
    · rw [howner j hji] at hj
      by_cases hki : k = i
      · rw [hki] at hk
        obtain rfl := Option.some.inj ((Mailboxes.setOwner_self ..).symm.trans hk)
        exact absurd hj (hno j)
      · rw [howner k hki] at hk
        exact h.unique j k l hj hk
  · by_cases hln : l = n
    · subst hln
      obtain rfl := Option.some.inj ((Mailboxes.setCall_self ..).symm.trans hl)
      obtain rfl := Option.some.inj hd
      exact Mailboxes.setOwner_self ..
    · rw [Mailboxes.setCall_ne _ hln] at hl
      have howner := h.filling l d j hl hd
      have hj : j ≠ i := by
        rintro rfl
        rw [hnone.1] at howner
        cases howner
      exact (Mailboxes.setOwner_ne _ hj _).trans howner
  · have hln : l ≠ n := by
      rintro rfl
      exact absurd (hn.symm.trans (h.fresh l hl)) (Option.some_ne_none c)
    rw [Mailboxes.setCall_ne _ hln]
    exact h.fresh l hl
  · by_cases hln : l = n
    · subst hln
      obtain rfl := Option.some.inj ((Mailboxes.setCall_self ..).symm.trans hl)
      cases hd
    · rw [Mailboxes.setCall_ne _ hln] at hl
      refine (h.done l d hl hd).imp (fun ⟨j, hj⟩ => ⟨j, ?_⟩) id
      have hji : j ≠ i := by
        rintro rfl
        rw [hnone.1] at hj
        cases hj
      exact (Mailboxes.setOwner_ne _ hji _).trans hj
  · by_cases hln : l = n
    · subst hln
      refine h.quiet l fun d hd => ?_
      obtain rfl := Option.some.inj (hn.symm.trans hd)
      rw [hst]
      nofun
    · rw [Mailboxes.setCall_ne _ hln] at hl
      exact h.quiet l hl

/-- **A thread frees its mailbox.** -/
theorem freed (h : MailboxesOk s) (ht : (s.mbox i).thread = .freeing) :
    MailboxesOk ((s.setMbox i { s.mbox i with
      state := .mboxFree, thread := .waiting }).setOwner i none) := by
  obtain ⟨n, c, howner, hn, hret, -, -, hprogress⟩ := h.at_taken (.inl (by rw [ht]; nofun))
  rw [Progress, ht] at hprogress
  obtain ⟨hsem, hout⟩ := hprogress
  have hother : ∀ j, j ≠ i → ((s.setMbox i { s.mbox i with
      state := .mboxFree, thread := .waiting }).setOwner i none).owner j = s.owner j := fun j hj =>
    Mailboxes.setOwner_ne _ hj _
  have hnone : ∀ {k}, ((s.setMbox i { s.mbox i with
      state := .mboxFree, thread := .waiting }).setOwner i none).owner i ≠ some k := by
    intro k hk
    rw [Mailboxes.setOwner_self] at hk
    cases hk
  refine ⟨fun j => ?_, fun j k l hj hk => ?_, fun l d j hl hd => ?_, h.fresh, fun l d hl hd => ?_,
    h.quiet, h.named⟩
  · by_cases hj : j = i
    · subst hj
      refine .free (Mailboxes.setOwner_self ..) ?_ ?_ ?_
      · exact congrArg Mbox.state (Mailboxes.setMbox_self ..)
      · exact (congrArg Mbox.signalSem (Mailboxes.setMbox_self ..)).trans hsem
      · exact congrArg Mbox.thread (Mailboxes.setMbox_self ..)
    · exact (h.mbox j).congr (s.setMbox_ne hj _) (hother j hj) fun _ _ => ⟨rfl, rfl⟩
  · by_cases hji : j = i
    · exact absurd (hji ▸ hj) hnone
    · by_cases hki : k = i
      · exact absurd (hki ▸ hk) hnone
      · rw [hother j hji] at hj
        rw [hother k hki] at hk
        exact h.unique j k l hj hk
  · have hl' := h.filling l d j hl hd
    by_cases hj : j = i
    · rw [hj, howner] at hl'
      obtain rfl := Option.some.inj hl'
      obtain rfl := Option.some.inj (hn.symm.trans hl)
      exact absurd hret (SendStage.ne_returned hd 0)
    · exact (hother j hj).trans hl'
  · by_cases hln : l = n
    · subst hln
      obtain rfl := Option.some.inj (hn.symm.trans hl)
      exact .inr hout
    · refine (h.done l d hl hd).imp (fun ⟨j, hj⟩ => ⟨j, ?_⟩) id
      have hji : j ≠ i := by
        rintro rfl
        exact hln (Option.some.inj (hj.symm.trans howner))
      exact (hother j hji).trans hj

/-- The frame is copied byte by byte. -/
theorem filled_setData {k : ℕ} (hfilled : Filled (s.mbox i) c) (hst : c.stage = .copyData i k)
    (hk : k < c.data.length) : Filled ((s.mbox i).setData k (c.data.get ⟨k, hk⟩))
      { c with stage := .copyData i (k + 1) } := by
  unfold Filled at hfilled
  rw [hst] at hfilled
  obtain ⟨hid, -, hdata⟩ := hfilled
  refine ⟨hid, hk, fun j hj => ?_⟩
  by_cases hjk : j = k
  · subst hjk
    exact (Function.update_self ..).trans (List.getD_eq_getElem _ _ hk).symm
  · exact (Function.update_of_ne hjk ..).trans (hdata j (by omega))

/-- A mailbox whose bytes have all been copied has the frame of its call. -/
theorem carries_of_filled {k : ℕ} (hfilled : Filled (s.mbox i) c) (hst : c.stage = .copyData i k)
    (hk : c.data.length ≤ k) : FrameOf { s.mbox i with canDlc := c.data.length } c := by
  unfold Filled at hfilled
  rw [hst] at hfilled
  obtain ⟨hid, -, hdata⟩ := hfilled
  refine ⟨hid, List.ext_getElem ?_ fun j hj hj' => ?_⟩
  · simp [Mbox.bytes]
  · simp only [Mbox.bytes, List.getElem_map, List.getElem_range]
    exact (hdata j (by omega)).trans (List.getD_eq_getElem _ _ hj')

/-- The events of a call after a step that logs some of its own. -/
theorem eventsOf_append {evs : List MboxEvent} (hevs : ∀ ev ∈ evs, ev.call = some n)
    (m : Mbox) (i : Fin mboxNum) :
    { s.setMbox i m with log := s.log ++ evs }.eventsOf n = s.eventsOf n ++ evs := by
  show (s.log ++ evs).filter _ = _
  rw [List.filter_append, List.filter_eq_self.2 fun ev hev => decide_eq_true (hevs ev hev)]
  rfl

/-- **One step of a call** that fills its mailbox in. -/
theorem step_filling (h : MailboxesOk s) (hn : s.calls n = some c)
    (hstage : c.stage.mailbox = some i) (hstage' : c'.stage.mailbox = some i)
    (hm : m.state = (s.mbox i).state ∧ m.signalSem = (s.mbox i).signalSem ∧
      m.thread = (s.mbox i).thread) (hfilled : Filled m c') :
    MailboxesOk ((s.setMbox i m).setCall n c') := by
  obtain ⟨hstate, hsem, hthread, -⟩ := h.at_filling hn hstage
  refine h.sender hn hstage (.inl hstage') ?_
  refine .filling (n := n) (h.filling n c i hn hstage) (Mailboxes.setCall_self ..) hstage'
    ?_ ?_ ?_ ?_
  · rw [← hm.1] at hstate
    exact (congrArg Mbox.state (s.setMbox_self m)).trans hstate
  · rw [← hm.2.1] at hsem
    exact (congrArg Mbox.signalSem (s.setMbox_self m)).trans hsem
  · rw [← hm.2.2] at hthread
    exact (congrArg Mbox.thread (s.setMbox_self m)).trans hthread
  · have hself : ((s.setMbox i m).setCall n c').mbox i = m := s.setMbox_self m
    rwa [hself]

/-- **One step of a thread** that has a frame. -/
theorem step_thread {evs : List MboxEvent} (h : MailboxesOk s) (howner : s.owner i = some n)
    (hn : s.calls n = some c) (hret : c.stage = .returned 0) (hcarries : FrameOf (s.mbox i) c)
    (hstate : (s.mbox i).state = .mboxUsed)
    (hm : m.state = (s.mbox i).state ∧ m.canId = (s.mbox i).canId ∧ m.bytes = (s.mbox i).bytes)
    (hevs : ∀ ev ∈ evs, ev.call = some n) (hprogress : Progress m n c (s.eventsOf n ++ evs)) :
    MailboxesOk { s.setMbox i m with log := s.log ++ evs } := by
  have hself : { s.setMbox i m with log := s.log ++ evs }.mbox i = m := s.setMbox_self m
  refine h.thread howner hn hret hevs ?_
  refine .taken (n := n) (c := c) howner hn hret ?_ ?_ ?_
  · rw [hself, hm.1, hstate]
  · rw [hself]
    exact ⟨hm.2.1.trans hcarries.canId, hm.2.2.trans hcarries.bytes⟩
  · rw [hself, eventsOf_append hevs]
    exact hprogress

/-- The same where the thread leaves nothing to see. -/
theorem step_quiet (h : MailboxesOk s) (howner : s.owner i = some n) (hn : s.calls n = some c)
    (hret : c.stage = .returned 0) (hcarries : FrameOf (s.mbox i) c)
    (hstate : (s.mbox i).state = .mboxUsed)
    (hm : m.state = (s.mbox i).state ∧ m.canId = (s.mbox i).canId ∧ m.bytes = (s.mbox i).bytes)
    (hprogress : Progress m n c (s.eventsOf n)) : MailboxesOk (s.setMbox i m) := by
  have hafter := h.step_thread howner hn hret hcarries hstate hm
    (fun ev (hev : ev ∈ []) => absurd hev List.not_mem_nil) (by rwa [List.append_nil])
  rwa [List.append_nil] at hafter

/-- **One step.** -/
theorem step {s' : Mailboxes} (h : MailboxesOk s) (hturn : MboxTurn s s') : MailboxesOk s' := by
  cases hturn with
  | call id data =>
    have hnone := h.fresh s.next (Nat.le_refl _)
    refine h.aside (Nat.lt_succ_self _) (Nat.le_succ _) (fun i howner => ?_) ?_ ?_ ?_
    · obtain ⟨c, hc, -⟩ := (h.mbox i).owner howner
      exact absurd (hc.symm.trans hnone) (Option.some_ne_none c)
    · refine h.quiet _ fun c hc => ?_
      exact absurd (hc.symm.trans hnone) (Option.some_ne_none c)
    · simp only
      split <;> rfl
    · simp only
      split <;> nofun
  | @refused n c hn hst _ =>
    have hlt : n < s.next := by
      by_contra hle
      exact absurd (hn.symm.trans (h.fresh n (Nat.le_of_not_lt hle))) (Option.some_ne_none c)
    refine h.aside (k := s.next) hlt (Nat.le_refl _) ?_ ?_ rfl nofun
    · exact h.not_owner hn (by rw [hst]; rfl) (by rw [hst]; nofun)
    · refine h.quiet n fun d hd => ?_
      obtain rfl := Option.some.inj (hn.symm.trans hd)
      rw [hst]
      nofun
  | claim hn hst hfree => exact h.claim hn hst hfree
  | @copyId n c i hn hst =>
    refine h.step_filling hn (i := i) (by rw [hst]; rfl) rfl ⟨rfl, rfl, rfl⟩
      ⟨rfl, Nat.zero_le _, ?_⟩
    exact fun j hj => absurd hj (Nat.not_lt_zero j)
  | @copyByte n k c i hn hst hk =>
    have hstage : c.stage.mailbox = some i := by rw [hst]; rfl
    exact h.step_filling hn hstage rfl ⟨rfl, rfl, rfl⟩
      (filled_setData (h.at_filling hn hstage).2.2.2 hst hk)
  | @copied n k c i hn hst hk =>
    have hstage : c.stage.mailbox = some i := by rw [hst]; rfl
    have hcarries := carries_of_filled (h.at_filling hn hstage).2.2.2 hst hk
    exact h.step_filling hn hstage rfl ⟨rfl, rfl, rfl⟩ ⟨hcarries.canId, hcarries.bytes⟩
  | @signal n c i hn hst =>
    have hstage : c.stage.mailbox = some i := by rw [hst]; rfl
    obtain ⟨hstate, hsem, hthread, hfilled⟩ := h.at_filling hn hstage
    have hquiet : s.eventsOf n = [] := by
      refine h.quiet n fun d hd => ?_
      obtain rfl := Option.some.inj (hn.symm.trans hd)
      exact SendStage.ne_returned hstage 0
    rw [Filled, hst] at hfilled
    refine h.sender hn hstage (.inr rfl) ?_
    refine .taken (n := n) (h.filling n c i hn hstage) (Mailboxes.setCall_self ..) rfl ?_ ?_ ?_
    · exact (congrArg Mbox.state (s.setMbox_self _)).trans hstate
    · show FrameOf ((s.setMbox i _).mbox i) _
      rw [s.setMbox_self]
      exact ⟨hfilled.canId, hfilled.bytes⟩
    · show Progress ((s.setMbox i _).mbox i) _ _ _
      rw [s.setMbox_self, Progress]
      simp only [hthread, hsem]
      exact ⟨trivial, hquiet⟩
  | @wake i ht hsem =>
    obtain ⟨n, c, howner, hn, hret, hstate, hcarries, hprogress⟩ := h.at_taken (.inr hsem)
    rw [Progress, ht] at hprogress
    exact h.step_quiet howner hn hret hcarries hstate ⟨rfl, rfl, rfl⟩
      ⟨by simp only [hprogress.1], hprogress.2⟩
  | @wrote i tries ht =>
    obtain ⟨n, c, howner, hn, hret, hstate, hcarries, hprogress⟩ :=
      h.at_taken (.inl (by rw [ht]; nofun))
    rw [Progress, ht] at hprogress
    rw [howner, hcarries.canId, hcarries.bytes]
    refine h.step_thread howner hn hret hcarries hstate ⟨rfl, rfl, rfl⟩ ?_ ?_
    · intro ev hev
      rw [List.mem_singleton.1 hev]
      rfl
    · rw [hprogress.2]
      exact ⟨hprogress.1, rfl⟩
  | @retry i tries ht _ =>
    obtain ⟨n, c, howner, hn, hret, hstate, hcarries, hprogress⟩ :=
      h.at_taken (.inl (by rw [ht]; nofun))
    rw [Progress, ht] at hprogress
    exact h.step_quiet howner hn hret hcarries hstate ⟨rfl, rfl, rfl⟩ hprogress
  | @failed i tries ht =>
    obtain ⟨n, c, howner, hn, hret, hstate, hcarries, hprogress⟩ :=
      h.at_taken (.inl (by rw [ht]; nofun))
    rw [Progress, ht] at hprogress
    exact h.step_quiet howner hn hret hcarries hstate ⟨rfl, rfl, rfl⟩ hprogress
  | @txcb i ok ht =>
    obtain ⟨n, c, howner, hn, hret, hstate, hcarries, hprogress⟩ :=
      h.at_taken (.inl (by rw [ht]; nofun))
    rw [Progress, ht] at hprogress
    rw [howner, hcarries.canId]
    refine h.step_thread howner hn hret hcarries hstate ⟨rfl, rfl, rfl⟩ ?_ ?_
    · intro ev hev
      rw [List.mem_singleton.1 hev]
      rfl
    · rw [hprogress.2]
      exact ⟨hprogress.1, ok, rfl⟩
  | free ht => exact h.freed ht

end MailboxesOk

/-- **The mailboxes agree with the calls**, in every run. -/
theorem mailboxesOk_run {data : ℕ → U8} {is : List MboxInput} {s : Mailboxes}
    (h : Run mboxStep (fun _ _ => True) (canMboxInit data) is s) : MailboxesOk s :=
  h.invariant (fun _ _ _ hs _ hstep => hs.step (mboxStep_turn hstep)) (mailboxesOk_init data)

/-! ### The outcome -/

/-- What happens to the frame of call `n`: it is reported once, or on its way through one mailbox,
if `can_send` took it, and there is nothing to be seen of it else. -/
structure OneOutcome (s : Mailboxes) (n : ℕ) (c : CanSend) : Prop where
  single : ∀ i j, s.owner i = some n → s.owner j = some n → i = j
  taken : c.stage = .returned 0 → (∃ ok, s.eventsOf n = c.outcome n ok) ∨
    ∃ i, s.owner i = some n ∧ (s.mbox i).state = .mboxUsed ∧ ∃ ok, s.eventsOf n <+: c.written n ok
  other : c.stage ≠ .returned 0 → s.eventsOf n = []

/-- **Every frame has one outcome**, and all that is written or reported is a frame of some call. -/
theorem mailboxes_outcome {data : ℕ → U8} {is : List MboxInput} {s : Mailboxes}
    (h : Run mboxStep (fun _ _ => True) (canMboxInit data) is s) :
    (∀ n c, s.calls n = some c → OneOutcome s n c) ∧
      ∀ ev ∈ s.log, ∃ n c, ev.call = some n ∧ s.calls n = some c ∧ c.stage = .returned 0 := by
  have hok := mailboxesOk_run h
  refine ⟨fun n c hn => ⟨fun i j => hok.unique i j n, fun hret => ?_, fun hret => ?_⟩,
    fun ev hev => ?_⟩
  · rcases hok.done n c hn hret with ⟨i, howner⟩ | hout
    · cases hok.mbox i with
      | free hnone => exact absurd (howner.symm.trans hnone) (Option.some_ne_none n)
      | filling hown hd hst =>
        obtain rfl := Option.some.inj (howner.symm.trans hown)
        obtain rfl := Option.some.inj (hn.symm.trans hd)
        exact absurd hret (SendStage.ne_returned hst 0)
      | taken hown hd hst hstate _ hprogress =>
        obtain rfl := Option.some.inj (howner.symm.trans hown)
        obtain rfl := Option.some.inj (hn.symm.trans hd)
        unfold Progress at hprogress
        split at hprogress
        · exact .inr ⟨i, howner, hstate, true, hprogress.2 ▸ List.nil_prefix⟩
        · exact .inr ⟨i, howner, hstate, true, hprogress.2 ▸ List.nil_prefix⟩
        · rename_i ok _
          exact .inr ⟨i, howner, hstate, ok, hprogress.2 ▸ List.prefix_rfl⟩
        · exact .inl hprogress.2
    · exact .inl hout
  · refine hok.quiet n fun d hd => ?_
    obtain rfl := Option.some.inj (hn.symm.trans hd)
    exact hret
  · obtain ⟨n, hcall⟩ := hok.named ev hev
    have hmem : ev ∈ s.eventsOf n := List.mem_filter.2 ⟨hev, decide_eq_true hcall⟩
    by_contra hno
    refine absurd hmem (List.eq_nil_iff_forall_not_mem.1 (hok.quiet n fun c hc hret => ?_) ev)
    exact hno ⟨n, c, hcall, hc, hret⟩

/-- A frame of one byte, written at the second try while a longer one is refused. -/
def oneFrame : List MboxInput :=
  [.call 5 [7], .send 0, .call 6 (List.replicate 9 0), .send 0, .send 0, .send 0, .send 0,
    .thread 0 .written, .thread 0 .nobufs, .thread 0 .written, .thread 0 .written,
    .thread 0 .written]

/-- It has its outcome. -/
theorem mailboxes_outcome_oneFrame : ∃ s, Run mboxStep (fun _ _ => True) (canMboxInit fun _ => 0)
    oneFrame s ∧ s.log = [.wrote (some 0) 0x80000005 [7], .txcb (some 0) 0x80000005 true] ∧
      (∀ n c, s.calls n = some c → OneOutcome s n c) ∧
        ∀ ev ∈ s.log, ∃ n c, ev.call = some n ∧ s.calls n = some c ∧ c.stage = .returned 0 := by
  have hrun : ∃ s, Run mboxStep (fun _ _ => True) (canMboxInit fun _ => 0) oneFrame s ∧
      decide (s.log = [.wrote (some 0) 0x80000005 [7], .txcb (some 0) 0x80000005 true]) = true :=
    Run.of_any (by decide)
  obtain ⟨s, hrun, hlog⟩ := hrun
  exact ⟨s, hrun, of_decide_eq_true hlog, mailboxes_outcome hrun⟩

/-! ### The threads come to an end -/

/-- A bound on the steps a thread still takes. -/
def Mbox.work (m : Mbox) : ℕ :=
  13 * m.signalSem +
    match m.thread with
    | .waiting => 0
    | .writing tries => 3 + (9 - tries)
    | .callback _ => 2
    | .freeing => 1

def Mailboxes.work (s : Mailboxes) : ℕ := ∑ i, (s.mbox i).work

/-- A thread that goes on leaves less to do. -/
theorem work_setMbox (s : Mailboxes) {i : Fin mboxNum} {m : Mbox} (h : m.work < (s.mbox i).work) :
    (s.setMbox i m).work < s.work := by
  have hsum := sum_update_add Mbox.work s.mbox i m
  show ∑ j, (Function.update s.mbox i m j).work < ∑ j, (s.mbox j).work
  omega

/-- A step of a thread. -/
def MboxInput.isThread : MboxInput → Bool
  | .thread _ _ => true
  | .call _ _ | .send _ => false

/-- Every step of a thread lowers its bound. -/
theorem mboxTxThread_work {s s' : Mailboxes} {i : Fin mboxNum} {r : WriteResult}
    (h : mboxTxThread s i r = some s') : s'.work < s.work := by
  simp only [mboxTxThread] at h
  cases ht : (s.mbox i).thread with
  | waiting =>
    simp only [ht] at h
    split at h
    · obtain rfl := Option.some.inj h
      refine work_setMbox s ?_
      simp only [Mbox.work, ht]
      omega
    · cases h
  | writing tries =>
    have hcallback : ∀ ok, { s.mbox i with thread := .callback ok }.work < (s.mbox i).work := by
      intro ok
      simp only [Mbox.work, ht]
      omega
    cases r with
    | written =>
      simp only [ht] at h
      obtain rfl := Option.some.inj h
      exact work_setMbox s (hcallback true)
    | nobufs =>
      simp only [ht] at h
      split at h
      · obtain rfl := Option.some.inj h
        refine work_setMbox s ?_
        simp only [Mbox.work, ht]
        omega
      · obtain rfl := Option.some.inj h
        exact work_setMbox s (hcallback false)
    | failed =>
      simp only [ht] at h
      obtain rfl := Option.some.inj h
      exact work_setMbox s (hcallback false)
  | callback ok =>
    simp only [ht] at h
    obtain rfl := Option.some.inj h
    refine work_setMbox s ?_
    simp only [Mbox.work, ht]
    omega
  | freeing =>
    simp only [ht] at h
    obtain rfl := Option.some.inj h
    refine work_setMbox s ?_
    simp only [Mbox.work, ht]
    omega

/-- Thirteen steps for each of the five mailboxes are the most that is left to do. -/
theorem MailboxesOk.work_le {s : Mailboxes} (h : MailboxesOk s) : s.work ≤ 65 := by
  have hone : ∀ i, (s.mbox i).work ≤ 13 := by
    intro i
    cases h.mbox i with
    | free _ _ hsem hthread => simp [Mbox.work, hsem, hthread]
    | filling _ _ _ _ hsem hthread => simp [Mbox.work, hsem, hthread]
    | taken _ _ _ _ _ hprogress =>
      unfold Progress at hprogress
      unfold Mbox.work
      split at hprogress <;> simp only [*] <;> omega
  have hsum := Finset.sum_le_card_nsmul Finset.univ (fun i => (s.mbox i).work) 13 fun i _ => hone i
  rwa [Finset.card_univ, Fintype.card_fin, smul_eq_mul] at hsum

/-- Where no thread can go on, every frame has been reported. -/
theorem MailboxesOk.reported {s : Mailboxes} (h : MailboxesOk s)
    (hend : ∀ i, mboxStep s (.thread i .written) = none) {n : ℕ} {c : CanSend}
    (hn : s.calls n = some c) (hret : c.stage = .returned 0) :
    ∃ ok, s.eventsOf n = c.outcome n ok := by
  rcases h.done n c hn hret with ⟨i, howner⟩ | hout
  · obtain ⟨d, hd, hstage⟩ := (h.mbox i).owner howner
    obtain rfl := Option.some.inj (hn.symm.trans hd)
    have hstuck : mboxTxThread s i .written = none := hend i
    cases h.mbox i with
    | free hnone => exact absurd (howner.symm.trans hnone) (Option.some_ne_none n)
    | filling hown hd' hst =>
      obtain rfl := Option.some.inj (howner.symm.trans hown)
      obtain rfl := Option.some.inj (hn.symm.trans hd')
      exact absurd hret (SendStage.ne_returned hst 0)
    | taken _ _ _ _ _ hprogress =>
      -- the thread of this mailbox can go on
      unfold Progress at hprogress
      split at hprogress <;> simp_all [mboxTxThread]
  · exact hout

/-- **The threads need at most 65 steps**, whatever `write` returns, and when they can do no more,
every frame that `can_send` has taken is reported. -/
theorem mailboxes_drain {data : ℕ → U8} {is is' : List MboxInput} {s t : Mailboxes}
    (h : Run mboxStep (fun _ _ => True) (canMboxInit data) is s)
    (h' : Run mboxStep (fun _ a => a.isThread = true) s is' t) :
    is'.length ≤ 65 ∧ ((∀ i, mboxStep t (.thread i .written) = none) →
      ∀ n c, t.calls n = some c → c.stage = .returned 0 →
        ∃ ok, t.eventsOf n = c.outcome n ok) := by
  have hs := mailboxesOk_run h
  have ht : MailboxesOk t :=
    h'.invariant (fun _ _ _ hs _ hstep => hs.step (mboxStep_turn hstep)) hs
  constructor
  · have hlen := h'.length_le Mailboxes.work fun u a v hthread hstep => by
      cases a with
      | call _ _ => cases hthread
      | send _ => cases hthread
      | thread i r => exact mboxTxThread_work hstep
    have := hs.work_le
    omega
  · exact fun hend n c hn hret => ht.reported hend hn hret

/-- A frame that nobody has written yet: four steps of its thread. -/
theorem mailboxes_drain_oneFrame : ∃ s t, Run mboxStep (fun _ _ => True) (canMboxInit fun _ => 0)
    (oneFrame.take 7) s ∧ Run mboxStep (fun _ a => a.isThread = true) s
      [.thread 0 .written, .thread 0 .failed, .thread 0 .written, .thread 0 .written] t ∧
        ∃ ok, t.eventsOf 0 = (CanSend.mk 5 [7] (.returned 0)).outcome 0 ok := by
  have hrun : ∃ s, Run mboxStep (fun _ _ => True) (canMboxInit fun _ => 0) (oneFrame.take 7) s ∧
      ((exec mboxStep (fun _ a => a.isThread = true) s [.thread 0 .written,
        .thread 0 .failed, .thread 0 .written, .thread 0 .written]).any fun t =>
          (List.finRange mboxNum).all (fun i => (mboxStep t (.thread i .written)).isNone) &&
            (t.calls 0).any fun c => c.id = 5 ∧ c.data = [7] ∧ c.stage = .returned 0) = true :=
    Run.of_any (by decide)
  obtain ⟨s, hrun, hs⟩ := hrun
  obtain ⟨t, hrun', ht⟩ := Run.of_any hs
  rw [Bool.and_eq_true, List.all_eq_true] at ht
  obtain ⟨c, hc, hcall⟩ := (Option.any_eq_true _ _).1 ht.2
  rw [decide_eq_true_eq] at hcall
  have hend := (mailboxes_drain hrun hrun').2
    (fun i => Option.isNone_iff_eq_none.1 (ht.1 i (List.mem_finRange i))) 0 c hc hcall.2.2
  obtain ⟨id, data, stage⟩ := c
  obtain ⟨rfl, rfl, rfl⟩ := hcall
  exact ⟨s, t, hrun, hrun', hend⟩

end LibCSP
