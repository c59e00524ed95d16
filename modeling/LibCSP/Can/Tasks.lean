/-
# Calls of `csp_can_tx` and of `csp_tx_callback` at the same time

`csp_can_tx` empties `tx_sem` of its element, sends the first frame and waits for the
semaphore; `csp_tx_callback` posts it when the last frame has left, and `csp_can_tx` posts it
again when its wait is over.  Here every critical section of the packet buffers and every
operation on a semaphore is a step of its own, with any number of calls and callbacks at work.

A frame knows which call's packet it is part of and how far it brings it.  The code does not: it
finds the element by the identifier.  What a step can do is said once (`canTaskStep_turn`).
-/

import LibCSP.Basis.Run
import LibCSP.Can.Elements

namespace LibCSP

open Basis

/-! ### Tasks and frames -/

/-- Where a call of `csp_can_tx` is: the step it takes next. -/
inductive TxStage
  /-- `pbuf_new`. -/
  | new
  /-- `buf->packet = packet`. -/
  | store (i : Fin pbufElements)
  /-- `csp_bin_sem_wait(&buf->tx_sem, 0)`. -/
  | arm (i : Fin pbufElements)
  /-- `can_send`. -/
  | send (i : Fin pbufElements)
  /-- `csp_bin_sem_wait(&buf->tx_sem, timeout)`. -/
  | wait (i : Fin pbufElements)
  /-- `csp_bin_sem_post(&buf->tx_sem)`. -/
  | post (i : Fin pbufElements) (ret : ℤ)
  | returned (ret : ℤ)
  deriving DecidableEq

/-- A call of `csp_can_tx` with its number. -/
structure TxTask where
  packet : CspPacket
  ident : BitVec 10
  stage : TxStage

/-- Where the driver is with a frame: on the bus, or in the call of `csp_tx_callback` for it. -/
inductive FrameStage
  /-- `pbuf_find`. -/
  | onBus
  /-- The element was found. -/
  | found (i : Fin pbufElements)
  /-- `pbuf_free`, and whether `tx_sem` is posted after it. -/
  | freeing (i : Fin pbufElements) (post : Bool)
  /-- `csp_bin_sem_post(&buf->tx_sem)`. -/
  | posting (i : Fin pbufElements)
  | returned
  deriving DecidableEq

/-- A frame that `can_send` has taken: it brings the bytes sent for the packet of `call` to `upTo`
of `total`. -/
structure BusFrame where
  canid : U32
  call : ℕ
  upTo : ℕ
  total : ℕ
  /-- `CAN_NO_ERROR`. -/
  ok : Bool
  stage : FrameStage

structure CanTasks where
  pbuf : Pbuf
  /-- `tx_sem` of each element. -/
  txSem : Fin pbufElements → Bool
  /-- `cfp_id`. -/
  cfpIdent : BitVec 10
  /-- The calls of `csp_can_tx`, numbered; the packet of call `n` is buffer `n`. -/
  calls : ℕ → Option TxTask
  next : ℕ
  /-- The frames given to the driver, numbered. -/
  frames : ℕ → Option BusFrame
  nextFrame : ℕ

/-- After `csp_can_init`. -/
def CanTasks.init (cfpIdent : BitVec 10) : CanTasks :=
  { pbuf := .init, txSem := fun _ => true, cfpIdent := cfpIdent, calls := fun _ => none, next := 0,
    frames := fun _ => none, nextFrame := 0 }

namespace CanTasks

def setCall (s : CanTasks) (n : ℕ) (t : TxTask) : CanTasks :=
  { s with calls := Function.update s.calls n (some t) }

def setSem (s : CanTasks) (i : Fin pbufElements) (b : Bool) : CanTasks :=
  { s with txSem := Function.update s.txSem i b }

def setFrame (s : CanTasks) (k : ℕ) (f : BusFrame) : CanTasks :=
  { s with frames := Function.update s.frames k (some f) }

/-- `can_send` takes a frame. -/
def addFrame (s : CanTasks) (f : BusFrame) : CanTasks :=
  { s.setFrame s.nextFrame f with nextFrame := s.nextFrame + 1 }

/-- A new call. -/
def addCall (s : CanTasks) (t : TxTask) : CanTasks :=
  { s.setCall s.next t with next := s.next + 1 }

def setPbuf (s : CanTasks) (pbuf : Pbuf) : CanTasks := { s with pbuf := pbuf }

variable (s : CanTasks) {n m k l : ℕ} {i j : Fin pbufElements} {b : Bool}

/-- The call that goes on. -/
@[simp] theorem setCall_self (t : TxTask) : (s.setCall n t).calls n = some t :=
  Function.update_self ..

/-- The other calls stay. -/
theorem setCall_ne (h : m ≠ n) (t : TxTask) : (s.setCall n t).calls m = s.calls m :=
  Function.update_of_ne h ..

/-- The semaphore that changes. -/
@[simp] theorem setSem_self : (s.setSem i b).txSem i = b := Function.update_self ..

/-- The other semaphores stay. -/
theorem setSem_ne (h : j ≠ i) : (s.setSem i b).txSem j = s.txSem j := Function.update_of_ne h ..

/-- The frame that goes on. -/
@[simp] theorem setFrame_self (f : BusFrame) : (s.setFrame k f).frames k = some f :=
  Function.update_self ..

/-- The other frames stay. -/
theorem setFrame_ne (h : l ≠ k) (f : BusFrame) : (s.setFrame k f).frames l = s.frames l :=
  Function.update_of_ne h ..

end CanTasks

/-! ### Steps -/

inductive CanTaskAction
  /-- `csp_can_tx` is called with a timeout, and gets its number if `id_sem` is free in time. -/
  | call (packet : CspPacket) (idFree : Bool)
  /-- `pbuf_new`. -/
  | new (n : ℕ) (clock : ℕ → U32)
  | store (n : ℕ)
  | arm (n : ℕ)
  /-- `can_send`, and whether it takes the frame. -/
  | send (n : ℕ) (taken : Bool)
  /-- The wait ends with `tx_sem`. -/
  | wake (n : ℕ)
  | timeout (n : ℕ)
  | post (n : ℕ)
  /-- The driver calls `csp_tx_callback` for frame `k`; `pbuf_find`. -/
  | callback (k : ℕ) (ok : Bool) (clock : ℕ → U32)
  /-- The callback looks at the element, and sends the next frame if there is one. -/
  | look (k : ℕ) (taken : Bool)
  | free (k : ℕ)
  | finish (k : ℕ)

/-- The identifier of the packet's first frame. -/
def TxTask.canid (o : ByteOrder) (t : TxTask) : U32 := (beginFrame o t.packet t.ident).id

/-- `csp_tx_callback` after `pbuf_find`, up to the next critical section. -/
def canTaskLook (s : CanTasks) (k : ℕ) (f : BusFrame) (i : Fin pbufElements) (taken : Bool) :
    CanTasks :=
  let buf := s.pbuf.elements i
  match buf.packet with
  | none => s.setFrame k { f with stage := .freeing i false }
  | some p =>
    if !f.ok then s.setFrame k { f with stage := .freeing i false }
    else if buf.txCount < p.length then
      let frame := moreFrame p f.canid buf.txCount.toNat
      let s := s.setPbuf (s.pbuf.set i { buf with
        txCount := buf.txCount + BitVec.ofNat 16 frame.dlc })
      if taken then
        (s.setFrame k { f with stage := .returned }).addFrame
          { canid := frame.id, call := p.buf, upTo := buf.txCount.toNat + frame.dlc,
            total := p.length.toNat, ok := false, stage := .onBus }
      else s.setFrame k { f with stage := .freeing i false }
    else s.setFrame k { f with stage := .freeing i true }

/-- The packet is not through. -/
theorem canTaskLook_more {s : CanTasks} {f : BusFrame} {i : Fin pbufElements} {p : CspPacket}
    (k : ℕ) (taken : Bool) (hp : (s.pbuf.elements i).packet = some p) (hok : f.ok = true)
    (hlt : (s.pbuf.elements i).txCount < p.length) :
    canTaskLook s k f i taken =
      let frame := moreFrame p f.canid (s.pbuf.elements i).txCount.toNat
      let s' := s.setPbuf (s.pbuf.set i { s.pbuf.elements i with
        txCount := (s.pbuf.elements i).txCount + BitVec.ofNat 16 frame.dlc })
      if taken then
        (s'.setFrame k { f with stage := .returned }).addFrame
          { canid := frame.id, call := p.buf,
            upTo := (s.pbuf.elements i).txCount.toNat + frame.dlc, total := p.length.toNat,
            ok := false, stage := .onBus }
      else s'.setFrame k { f with stage := .freeing i false } := by
  simp only [canTaskLook, hp, hok, Bool.not_true, Bool.false_eq_true, if_false, if_pos hlt]

/-- The packet is through. -/
theorem canTaskLook_through {s : CanTasks} {f : BusFrame} {i : Fin pbufElements} {p : CspPacket}
    (k : ℕ) (taken : Bool) (hp : (s.pbuf.elements i).packet = some p) (hok : f.ok = true)
    (hlt : ¬ (s.pbuf.elements i).txCount < p.length) :
    canTaskLook s k f i taken = s.setFrame k { f with stage := .freeing i true } := by
  simp only [canTaskLook, hp, hok, Bool.not_true, Bool.false_eq_true, if_false, if_neg hlt]

/-- There is no packet, or the frame was not sent. -/
theorem canTaskLook_failed {s : CanTasks} {f : BusFrame} {i : Fin pbufElements} (k : ℕ)
    (taken : Bool) (h : (s.pbuf.elements i).packet = none ∨ f.ok = false) :
    canTaskLook s k f i taken = s.setFrame k { f with stage := .freeing i false } := by
  cases hp : (s.pbuf.elements i).packet with
  | none => simp only [canTaskLook, hp]
  | some p =>
    have hok : f.ok = false := h.resolve_left (hp ▸ Option.some_ne_none p)
    simp only [canTaskLook, hp, hok, Bool.not_false, if_true]

/-- One step; `none` when the call or the frame is not where the step is taken. -/
def canTaskStep (o : ByteOrder) (s : CanTasks) : CanTaskAction → Option CanTasks
  | .call packet idFree =>
    let t : TxTask := ⟨{ packet with buf := s.next }, s.cfpIdent, .new⟩
    if idFree then some { s.addCall t with cfpIdent := s.cfpIdent + 1 }
    else some (s.addCall { t with stage := .returned 0 })
  | .new n clock =>
    match s.calls n with
    | some ⟨p, ident, .new⟩ =>
      match pbufNew (TxTask.canid o ⟨p, ident, .new⟩) clock s.pbuf with
      | none => some (s.setCall n ⟨p, ident, .returned 0⟩)
      | some (i, pbuf) => some ((s.setPbuf pbuf).setCall n ⟨p, ident, .store i⟩)
    | _ => none
  | .store n =>
    match s.calls n with
    | some ⟨p, ident, .store i⟩ =>
      let buf := s.pbuf.elements i
      some ((s.setPbuf (s.pbuf.set i { buf with
        packet := some p
        txCount := buf.txCount + BitVec.ofNat 16 (min p.length.toNat 2) })).setCall n
          ⟨p, ident, .arm i⟩)
    | _ => none
  | .arm n =>
    match s.calls n with
    | some ⟨p, ident, .arm i⟩ => some ((s.setSem i false).setCall n ⟨p, ident, .send i⟩)
    | _ => none
  | .send n taken =>
    match s.calls n with
    | some ⟨p, ident, .send i⟩ =>
      if taken then
        some ((s.setCall n ⟨p, ident, .wait i⟩).addFrame
          { canid := TxTask.canid o ⟨p, ident, .wait i⟩, call := n, upTo := min p.length.toNat 2,
            total := p.length.toNat, ok := false, stage := .onBus })
      else some (s.setCall n ⟨p, ident, .returned 0⟩)
    | _ => none
  | .wake n =>
    match s.calls n with
    | some ⟨p, ident, .wait i⟩ =>
      if s.txSem i then some ((s.setSem i false).setCall n ⟨p, ident, .post i 1⟩) else none
    | _ => none
  | .timeout n =>
    match s.calls n with
    | some ⟨p, ident, .wait i⟩ =>
      if s.txSem i then none else some (s.setCall n ⟨p, ident, .post i 0⟩)
    | _ => none
  | .post n =>
    match s.calls n with
    | some ⟨p, ident, .post i ret⟩ =>
      some ((s.setSem i true).setCall n ⟨p, ident, .returned ret⟩)
    | _ => none
  | .callback k ok clock =>
    match s.frames k with
    | some ⟨canid, call, upTo, total, _, .onBus⟩ =>
      match pbufFind canid clock s.pbuf with
      | none => some (s.setFrame k ⟨canid, call, upTo, total, ok, .returned⟩)
      | some (i, pbuf) =>
        some ((s.setPbuf pbuf).setFrame k ⟨canid, call, upTo, total, ok, .found i⟩)
    | _ => none
  | .look k taken =>
    match s.frames k with
    | some ⟨canid, call, upTo, total, ok, .found i⟩ =>
      some (canTaskLook s k ⟨canid, call, upTo, total, ok, .found i⟩ i taken)
    | _ => none
  | .free k =>
    match s.frames k with
    | some ⟨canid, call, upTo, total, ok, .freeing i post⟩ =>
      some ((s.setPbuf (pbufFree i s.pbuf)).setFrame k
        ⟨canid, call, upTo, total, ok, if post then .posting i else .returned⟩)
    | _ => none
  | .finish k =>
    match s.frames k with
    | some ⟨canid, call, upTo, total, ok, .posting i⟩ =>
      some ((s.setSem i true).setFrame k ⟨canid, call, upTo, total, ok, .returned⟩)
    | _ => none

/-- What a step does. -/
inductive CanTaskTurn (o : ByteOrder) (s : CanTasks) : CanTaskAction → CanTasks → Prop
  | call (packet : CspPacket) (idFree : Bool) (cfpIdent : BitVec 10) (st : TxStage)
      (hst : st = .new ∨ st = .returned 0) :
      CanTaskTurn o s (.call packet idFree)
        { s.addCall ⟨{ packet with buf := s.next }, s.cfpIdent, st⟩ with cfpIdent := cfpIdent }
  | refused {n : ℕ} {p : CspPacket} {ident : BitVec 10} (clock : ℕ → U32)
      (hn : s.calls n = some ⟨p, ident, .new⟩) :
      CanTaskTurn o s (.new n clock) (s.setCall n ⟨p, ident, .returned 0⟩)
  | new {n : ℕ} {p : CspPacket} {ident : BitVec 10} {i : Fin pbufElements} {pbuf : Pbuf}
      (clock : ℕ → U32) (hn : s.calls n = some ⟨p, ident, .new⟩)
      (hnew : pbufNew (TxTask.canid o ⟨p, ident, .new⟩) clock s.pbuf = some (i, pbuf)) :
      CanTaskTurn o s (.new n clock) ((s.setPbuf pbuf).setCall n ⟨p, ident, .store i⟩)
  | store {n : ℕ} {p : CspPacket} {ident : BitVec 10} {i : Fin pbufElements}
      (hn : s.calls n = some ⟨p, ident, .store i⟩) :
      CanTaskTurn o s (.store n)
        ((s.setPbuf (s.pbuf.set i { s.pbuf.elements i with
          packet := some p
          txCount := (s.pbuf.elements i).txCount +
            BitVec.ofNat 16 (min p.length.toNat 2) })).setCall n ⟨p, ident, .arm i⟩)
  | arm {n : ℕ} {p : CspPacket} {ident : BitVec 10} {i : Fin pbufElements}
      (hn : s.calls n = some ⟨p, ident, .arm i⟩) :
      CanTaskTurn o s (.arm n) ((s.setSem i false).setCall n ⟨p, ident, .send i⟩)
  | send {n : ℕ} {p : CspPacket} {ident : BitVec 10} {i : Fin pbufElements}
      (hn : s.calls n = some ⟨p, ident, .send i⟩) :
      CanTaskTurn o s (.send n true) ((s.setCall n ⟨p, ident, .wait i⟩).addFrame
        { canid := TxTask.canid o ⟨p, ident, .wait i⟩, call := n, upTo := min p.length.toNat 2,
          total := p.length.toNat, ok := false, stage := .onBus })
  | sendFailed {n : ℕ} {p : CspPacket} {ident : BitVec 10} {i : Fin pbufElements}
      (hn : s.calls n = some ⟨p, ident, .send i⟩) :
      CanTaskTurn o s (.send n false) (s.setCall n ⟨p, ident, .returned 0⟩)
  | wake {n : ℕ} {p : CspPacket} {ident : BitVec 10} {i : Fin pbufElements}
      (hn : s.calls n = some ⟨p, ident, .wait i⟩) (hsem : s.txSem i = true) :
      CanTaskTurn o s (.wake n) ((s.setSem i false).setCall n ⟨p, ident, .post i 1⟩)
  | timeout {n : ℕ} {p : CspPacket} {ident : BitVec 10} {i : Fin pbufElements}
      (hn : s.calls n = some ⟨p, ident, .wait i⟩) :
      CanTaskTurn o s (.timeout n) (s.setCall n ⟨p, ident, .post i 0⟩)
  | post {n : ℕ} {p : CspPacket} {ident : BitVec 10} {i : Fin pbufElements} {ret : ℤ}
      (hn : s.calls n = some ⟨p, ident, .post i ret⟩) :
      CanTaskTurn o s (.post n) ((s.setSem i true).setCall n ⟨p, ident, .returned ret⟩)
  | missed {k : ℕ} {f : BusFrame} (ok : Bool) (clock : ℕ → U32) (hk : s.frames k = some f)
      (hst : f.stage = .onBus) :
      CanTaskTurn o s (.callback k ok clock) (s.setFrame k { f with ok := ok, stage := .returned })
  | callback {k : ℕ} {f : BusFrame} {i : Fin pbufElements} {pbuf : Pbuf} (ok : Bool)
      (clock : ℕ → U32) (hk : s.frames k = some f) (hst : f.stage = .onBus)
      (hfind : pbufFind f.canid clock s.pbuf = some (i, pbuf)) :
      CanTaskTurn o s (.callback k ok clock)
        ((s.setPbuf pbuf).setFrame k { f with ok := ok, stage := .found i })
  | look {k : ℕ} {f : BusFrame} {i : Fin pbufElements} (taken : Bool) (hk : s.frames k = some f)
      (hst : f.stage = .found i) : CanTaskTurn o s (.look k taken) (canTaskLook s k f i taken)
  | free {k : ℕ} {f : BusFrame} {i : Fin pbufElements} {post : Bool} (hk : s.frames k = some f)
      (hst : f.stage = .freeing i post) :
      CanTaskTurn o s (.free k) ((s.setPbuf (pbufFree i s.pbuf)).setFrame k
        { f with stage := if post then .posting i else .returned })
  | finish {k : ℕ} {f : BusFrame} {i : Fin pbufElements} (hk : s.frames k = some f)
      (hst : f.stage = .posting i) :
      CanTaskTurn o s (.finish k) ((s.setSem i true).setFrame k { f with stage := .returned })

/-- **Every step is one of the turns** that `CanTaskTurn` names. -/
theorem canTaskStep_turn {o : ByteOrder} {s s' : CanTasks} {a : CanTaskAction}
    (h : canTaskStep o s a = some s') : CanTaskTurn o s a s' := by
  have hnone : ∀ {r : CanTasks}, none = some r → CanTaskTurn o s a s' := fun h =>
    absurd h.symm (Option.some_ne_none _)
  cases a with
  | call packet idFree =>
    simp only [canTaskStep] at h
    split at h
    · obtain rfl := Option.some.inj h
      exact .call packet idFree _ .new (.inl rfl)
    · obtain rfl := Option.some.inj h
      exact .call packet idFree s.cfpIdent (.returned 0) (.inr rfl)
  | new n clock =>
    simp only [canTaskStep] at h
    split at h
    · rename_i p ident hn
      split at h
      · obtain rfl := Option.some.inj h
        exact .refused clock hn
      · rename_i i pbuf hnew
        obtain rfl := Option.some.inj h
        exact .new clock hn hnew
    · exact hnone h
  | store n =>
    simp only [canTaskStep] at h
    split at h
    · obtain rfl := Option.some.inj h
      exact .store ‹_›
    · exact hnone h
  | arm n =>
    simp only [canTaskStep] at h
    split at h
    · obtain rfl := Option.some.inj h
      exact .arm ‹_›
    · exact hnone h
  | send n taken =>
    simp only [canTaskStep] at h
    split at h
    · rename_i hn
      cases taken with
      | true =>
        obtain rfl := Option.some.inj h
        exact .send hn
      | false =>
        obtain rfl := Option.some.inj h
        exact .sendFailed hn
    · exact hnone h
  | wake n =>
    simp only [canTaskStep] at h
    split at h
    · rename_i hn
      split at h
      · obtain rfl := Option.some.inj h
        exact .wake hn ‹_›
      · exact hnone h
    · exact hnone h
  | timeout n =>
    simp only [canTaskStep] at h
    split at h
    · rename_i hn
      split at h
      · exact hnone h
      · obtain rfl := Option.some.inj h
        exact .timeout hn
    · exact hnone h
  | post n =>
    simp only [canTaskStep] at h
    split at h
    · obtain rfl := Option.some.inj h
      exact .post ‹_›
    · exact hnone h
  | callback k ok clock =>
    simp only [canTaskStep] at h
    split at h
    · rename_i hk
      split at h
      · obtain rfl := Option.some.inj h
        exact .missed ok clock hk rfl
      · rename_i hfind
        obtain rfl := Option.some.inj h
        exact .callback ok clock hk rfl hfind
    · exact hnone h
  | look k taken =>
    simp only [canTaskStep] at h
    split at h
    · rename_i hk
      obtain rfl := Option.some.inj h
      exact .look taken hk rfl
    · exact hnone h
  | free k =>
    simp only [canTaskStep] at h
    split at h
    · rename_i hk
      obtain rfl := Option.some.inj h
      exact .free hk rfl
    · exact hnone h
  | finish k =>
    simp only [canTaskStep] at h
    split at h
    · rename_i hk
      obtain rfl := Option.some.inj h
      exact .finish hk rfl
    · exact hnone h

end LibCSP
