/-
# The send window

`snd_una` is the oldest unacknowledged number and `snd_nxt` the next to be
sent, so the distance from the one to the other is what is outstanding.
`csp_rdp_send` keeps it small: without waiting it sends below `window_size`, and
after a wait below `2 * window_size`, because the router posts the semaphore
under that condition only and nobody but the waiting task can spend the room.

What can break the window is the acknowledgement: `snd_una` is assigned from the
packet.  The check in front of the assignment lets through numbers from
`2 * window_size` below `snd_una`, and for a RST|ACK there is no check.  A stale
acknowledgement therefore moves `snd_una` backwards (`stale_ack_moves_back`),
and when no packet's stored number lies outside `[snd_una, snd_nxt]` the window
is kept in every run (`run_window`).
-/

import LibCSP.Rdp.Incoming
import LibCSP.Rdp.Send

namespace LibCSP

open Basis

/-- How many numbers are sent and not acknowledged. -/
def Control.outstanding (c : Control) : ℕ := (c.sndNxt - c.sndUna).toNat

/-- A connection within its window, with one task that may be waiting to send:
a posted semaphore means room for one more. -/
structure InWindow (s : Endpoint) : Prop where
  window_pos : 1 ≤ s.rdp.windowSize.toNat
  window_le : s.rdp.windowSize.toNat ≤ cspRdpMaxWindow
  outstanding : s.world.control.outstanding ≤ 2 * s.rdp.windowSize.toNat
  posted : ∀ p, s.task = .sendWait p → s.rdp.txWait = true →
    s.world.control.outstanding < 2 * s.rdp.windowSize.toNat

/-- `snd_una` did not move backwards, and did not pass `snd_nxt`. -/
structure Forward (s t : Endpoint) : Prop where
  notBack : cspRdpSeqBefore t.rdp.sndUna s.rdp.sndUna = false
  notPast : cspRdpSeqBetween t.rdp.sndUna s.rdp.sndUna t.rdp.sndNxt = true

/-- The connection has its sequence numbers, and the input is no new `csp_rdp_connect`. -/
def Connected (s : Endpoint) (i : Input) : Prop :=
  (s.rdp.state = .rdpOpen ∨ s.rdp.state = .rdpCloseWait) ∧ i.isConnect = false

/-- An ACK number that will be stored acknowledges what is outstanding. -/
def AckInWindow (e : Env) (s : Endpoint) : Input → Prop
  | .packet p => s.rdp.storesAck (rxHeader e.host p) = true →
      ((rxHeader e.host p).ackNr + 1 - s.rdp.sndUna).toNat ≤ s.world.control.outstanding
  | _ => True

instance (s : Endpoint) (i : Input) : Decidable (Connected s i) :=
  inferInstanceAs (Decidable (_ ∧ _))

instance (e : Env) (s : Endpoint) (i : Input) : Decidable (AckInWindow e s i) :=
  match i with
  | .packet _ => inferInstanceAs (Decidable (_ → _))
  | .checkTimeouts | .checkAck | .read | .send _ | .sendWake | .sendTimeout | .connect
  | .connectWake | .connectTimeout | .close => isTrue trivial

/-! ### One step -/

/-- Two worlds with one window: `snd_nxt` and `window_size` stay, `snd_una` may
move forward within it. -/
structure Advances (c c' : Control) : Prop where
  windowSize : c'.windowSize = c.windowSize
  sndNxt : c'.sndNxt = c.sndNxt
  sndUna : (c'.sndUna - c.sndUna).toNat ≤ c.outstanding

/-- A step may leave the send variables as they are. -/
theorem Advances.refl (c : Control) : Advances c c :=
  ⟨rfl, rfl, by rw [BitVec.sub_self]; exact Nat.zero_le _⟩

/-- What is acknowledged is no longer outstanding. -/
theorem Advances.outstanding {c c' : Control} (h : Advances c c') :
    c'.outstanding + (c'.sndUna - c.sndUna).toNat = c.outstanding := by
  obtain ⟨-, h₂, h₃⟩ := h
  unfold Control.outstanding at h₃ ⊢
  rw [h₂]
  bv_omega

/-- **The window is kept when `snd_una` advances** and the semaphore is not
posted without room. -/
theorem InWindow.advance {s t : Endpoint} (h : InWindow s)
    (hc : Advances s.world.control t.world.control)
    (hp : ∀ p, t.task = .sendWait p → t.rdp.txWait = true → (s.task = .sendWait p ∧
      s.rdp.txWait = true) ∨ t.world.control.outstanding < 2 * t.rdp.windowSize.toNat) :
    InWindow t ∧ Forward s t := by
  have hw : t.rdp.windowSize = s.rdp.windowSize := hc.windowSize
  have ho := hc.outstanding
  have hs := h.outstanding
  have hu := hc.sndUna
  have hm := h.window_le
  unfold cspRdpMaxWindow at hm
  refine ⟨⟨hw ▸ h.window_pos, hw ▸ h.window_le, by rw [hw]; omega, fun p ht hx => ?_⟩, ?_, ?_⟩
  · rcases hp p ht hx with ⟨hst, hsx⟩ | hlt
    · have := h.posted p hst hsx
      rw [hw]
      omega
    · exact hlt
  · rw [Serial.before_eq_false_iff]
    show 2 * (t.world.control.sndUna - s.world.control.sndUna).toNat < _
    omega
  · rw [Serial.between_iff]
    show (t.world.control.sndUna - s.world.control.sndUna).toNat ≤
      (t.world.control.sndNxt - s.world.control.sndUna).toNat
    rw [hc.sndNxt]
    exact hu

/-- **The window is kept when a message is sent with room for one more.** -/
theorem InWindow.commit {s : Endpoint} (h : InWindow s)
    (hroom : s.world.control.outstanding < 2 * s.rdp.windowSize.toNat) (e : Env) (p : CspPacket)
    {w : World} {x : Bool} (hw : w.control = { s.world.control with txWait := x }) :
    InWindow ⟨cspSendCommit e p w, .idle⟩ ∧ Forward s ⟨cspSendCommit e p w, .idle⟩ := by
  have hm := h.window_le
  unfold cspRdpMaxWindow at hm
  have hnext : (s.rdp.sndNxt + 1 - s.rdp.sndUna).toNat = s.world.control.outstanding + 1 := by
    have : s.world.control.outstanding = (s.rdp.sndNxt - s.rdp.sndUna).toNat := rfl
    bv_omega
  obtain ⟨y, hy, hc⟩ : ∃ y, (y = s.rdp.sndNxt ∨ y = s.rdp.sndNxt + 1) ∧
      (cspSendCommit e p w).control = { s.world.control with sndNxt := y, txWait := x } := by
    rcases cspSendCommit_control e p w with hc | hc
    · exact ⟨_, .inl rfl, hc.trans hw⟩
    · refine ⟨_, .inr rfl, ?_⟩
      rw [hc, hw]
      rw [show w.conn.rdp.sndNxt = s.rdp.sndNxt from congrArg Control.sndNxt hw]
  have hwin : (cspSendCommit e p w).conn.rdp.windowSize = s.rdp.windowSize :=
    congrArg Control.windowSize hc
  have hout : (cspSendCommit e p w).control.outstanding ≤ 2 * s.rdp.windowSize.toNat := by
    rw [hc]
    show (y - s.rdp.sndUna).toNat ≤ _
    rcases hy with rfl | rfl
    · exact Nat.le_of_lt hroom
    · omega
  refine ⟨⟨?_, ?_, ?_, fun p ht => absurd ht (by simp)⟩, ?_, ?_⟩
  · exact hwin ▸ h.window_pos
  · exact hwin ▸ h.window_le
  · exact hwin ▸ hout
  · rw [Endpoint.rdp, show (cspSendCommit e p w).conn.rdp.sndUna = s.rdp.sndUna from
      congrArg Control.sndUna hc]
    exact Serial.before_self _
  · rw [Endpoint.rdp, show (cspSendCommit e p w).conn.rdp.sndUna = s.rdp.sndUna from
      congrArg Control.sndUna hc, Serial.between_iff, BitVec.sub_self]
    exact Nat.zero_le _

/-- **A packet keeps the window** if the ACK number it stores lies in it. -/
theorem InWindow.packet {e : Env} {s : Endpoint} (h : InWindow s) {p : CspPacket}
    (hst : s.rdp.state = .rdpOpen ∨ s.rdp.state = .rdpCloseWait)
    (hack : AckInWindow e s (.packet p)) :
    InWindow ⟨cspRdpNewPacket e p s.world, s.task⟩ ∧
      Forward s ⟨cspRdpNewPacket e p s.world, s.task⟩ := by
  have hstate : s.world.control.state = .rdpOpen ∨ s.world.control.state = .rdpCloseWait := hst
  have hstep := cspRdpNewPacket_step e p s.world
  generalize hc : (cspRdpNewPacket e p s.world).control = c at hstep
  have hadv : Advances s.world.control c ∧ c.txWait = s.rdp.txWait := by
    cases hstep with
    | close _ => exact ⟨⟨rfl, rfl, (Advances.refl s.world.control).sndUna⟩, rfl⟩
    | ack hs _ => exact ⟨⟨rfl, rfl, hack hs⟩, rfl⟩
    | accepted hst' _ _ _ => rw [hst'] at hstate; simp at hstate
    | opened hst' _ _ _ => rw [hst'] at hstate; simp at hstate
    | halfOpen hst' => rw [hst'] at hstate; simp at hstate
    | passive hst' _ _ _ => rw [hst'] at hstate; simp at hstate
  subst hc
  exact h.advance hadv.1 fun q ht hx => .inl ⟨ht, hadv.2 ▸ hx⟩

/-- A call that closes at most keeps the window. -/
theorem InWindow.closing {s t : Endpoint} (h : InWindow s) (st : RdpState) (x : Bool)
    (hc : t.world.control = { s.world.control with state := st, txWait := x })
    (hx : ∀ p, t.task = .sendWait p → x = true → s.task = .sendWait p ∧ s.rdp.txWait = true) :
    InWindow t ∧ Forward s t := by
  refine h.advance ?_ fun p ht htx => .inl (hx p ht ?_)
  · rw [hc]
    exact ⟨rfl, rfl, (Advances.refl s.world.control).sndUna⟩
  · rw [← htx]
    exact (congrArg Control.txWait hc).symm

/-- **The router posts the semaphore only when there is room for one more.** -/
theorem InWindow.checkTimeouts {e : Env} {s : Endpoint} (h : InWindow s) :
    InWindow ⟨cspRdpCheckTimeouts e s.world, s.task⟩ ∧
      Forward s ⟨cspRdpCheckTimeouts e s.world, s.task⟩ := by
  rcases cspRdpCheckTimeouts_control e s.world with ⟨st, -, hc⟩ | ⟨hpost, hc⟩
  · exact h.closing st s.rdp.txWait hc fun p ht hx => ⟨ht, hx⟩
  · refine h.advance ?_ fun p _ _ => .inr ?_
    · rw [hc]
      exact ⟨rfl, rfl, (Advances.refl s.world.control).sndUna⟩
    · have hroom := Serial.before_iff.1 hpost.2
      have hm := h.window_le
      have ho := h.outstanding
      unfold cspRdpMaxWindow at hm
      have hw : (cspRdpCheckTimeouts e s.world).conn.rdp.windowSize = s.rdp.windowSize :=
        congrArg Control.windowSize hc
      rw [Endpoint.rdp, hw, hc]
      show (s.rdp.sndNxt - s.rdp.sndUna).toNat < _
      change (s.rdp.sndNxt - s.rdp.sndUna).toNat ≤ _ at ho
      change 2 ^ 16 ≤ 2 * ((s.rdp.sndNxt - s.rdp.sndUna) -
        (s.rdp.windowSize * 2).setWidth 16).toNat at hroom
      generalize s.rdp.sndNxt - s.rdp.sndUna = d at ho hroom ⊢
      generalize s.rdp.windowSize = win at hm ho hroom ⊢
      bv_omega

/-- `csp_rdp_send` sends without waiting only below `window_size`. -/
theorem room_of_not_windowFull {s : Endpoint} (h : InWindow s) (hw : s.rdp.windowFull = false) :
    s.world.control.outstanding < 2 * s.rdp.windowSize.toNat := by
  have hm := h.window_le
  have hp := h.window_pos
  have ho := h.outstanding
  unfold cspRdpMaxWindow at hm
  unfold Rdp.windowFull at hw
  rw [decide_eq_false_iff_not] at hw
  change (s.rdp.sndNxt - s.rdp.sndUna).toNat ≤ _ at ho
  show (s.rdp.sndNxt - s.rdp.sndUna).toNat < _
  generalize s.rdp.sndNxt - s.rdp.sndUna = d at ho hw ⊢
  generalize s.rdp.windowSize = win at hm hp ho hw ⊢
  bv_omega

/-- When the connection is open or closing, a woken `csp_rdp_connect` is done. -/
theorem connectWoken_done (e : Env) (retry : Bool) {w : World}
    (h : w.conn.rdp.state = .rdpOpen ∨ w.conn.rdp.state = .rdpCloseWait) :
    ∃ (r : CspErr × World) (st : RdpState),
      cspRdpConnectWoken e retry (txWaitTake w) = (some r.1, r.2) ∧
        r.2.control = { w.control with state := st, txWait := false } := by
  rcases h with h | h
  · refine ⟨(.none, txWaitTake w), w.control.state, ?_, rfl⟩
    have : (txWaitTake w).conn.rdp.state = .rdpOpen := h
    simp only [cspRdpConnectWoken, this]
  · refine ⟨connectError (txWaitTake w), .rdpCloseWait, ?_, rfl⟩
    have : (txWaitTake w).conn.rdp.state = .rdpCloseWait := h
    simp only [cspRdpConnectWoken, this]

/-- **A step keeps the window** when the ACK number it stores, if any, lies in it. -/
theorem InWindow.step {e : Env} {s t : Endpoint} {i : Input} (h : InWindow s)
    (hi : Connected s i) (hack : AckInWindow e s i) (hst : step e s i = some t) :
    InWindow t ∧ Forward s t := by
  obtain ⟨w, task⟩ := s
  have hsame : ∀ {t : Endpoint}, t.world.control = w.control → t.task = task →
      InWindow t ∧ Forward ⟨w, task⟩ t := fun hc ht =>
    h.closing w.control.state w.control.txWait hc fun p hp hx => ⟨ht ▸ hp, hx⟩
  cases step_stepped hst with
  | packet _ p => exact h.packet hi.1 hack
  | checkTimeouts => exact h.checkTimeouts
  | checkAck => exact hsame (cspRdpCheckAck_quiet e w).control rfl
  | read => exact hsame (cspRead_calm e w).2 rfl
  | close =>
    obtain ⟨st, -, hc⟩ := (cspClose_closes e w).control
    exact h.closing st w.control.txWait hc fun p hp hx => ⟨hp, hx⟩
  | connect => exact absurd hi.2.symm Bool.false_ne_true
  | send p =>
    unfold sendEnter
    split
    · exact hsame rfl rfl
    · split
      · exact h.closing w.control.state false rfl fun _ _ hx => absurd hx Bool.false_ne_true
      · rename_i hfull
        rw [Bool.not_eq_true] at hfull
        exact h.commit (room_of_not_windowFull h hfull) e p (x := w.control.txWait) rfl
  | sendWake p hpost => exact h.commit (h.posted p rfl hpost) e p (x := false) rfl
  | sendTimeout p =>
    exact h.closing w.control.state w.control.txWait rfl fun _ hp => absurd hp (by simp)
  | connectWake retry _ =>
    obtain ⟨r, st, hr, hc⟩ := connectWoken_done e retry (w := w) hi.1
    rw [hr]
    exact h.closing st false hc fun _ hp => absurd hp (by simp [connectEnter])
  | connectTimeout retry =>
    exact h.closing .rdpCloseWait w.control.txWait rfl fun _ hp => absurd hp (by simp)

/-! ### Runs -/

/-- **The send window, in every run.**  In a run in which every stored ACK number
lies in the window, the window is kept in every state, and every step moves
`snd_una` forward only. -/
theorem run_window {e : Env} {s t : Endpoint} {is : List Input} (h : InWindow s)
    (hrun : Run (step e) (fun s i => Connected s i ∧ AckInWindow e s i) s is t) :
    InWindow t ∧ ∀ i u, Connected t i → AckInWindow e t i → step e t i = some u →
      InWindow u ∧ Forward t u := by
  have ht : InWindow t := by
    refine hrun.invariant (fun s i u hs hi hst => ?_) h
    exact (hs.step hi.1 hi.2 hst).1
  exact ⟨ht, fun i u hi hack hst => ht.step hi hack hst⟩

/-- A connection of the tests is in its window. -/
theorem inWindow_opened : InWindow (.opened 100 200 4) :=
  ⟨by decide, by decide, by decide, fun _ h => nomatch h⟩

/-- Two messages are sent and the first is acknowledged. -/
theorem run_window_opened : ∃ t, Run (step (.favourable .little))
    (fun s i => Connected s i ∧ AckInWindow (.favourable .little) s i) (.opened 100 200 4)
    [.send (.blank 3), .send (.blank 3), .packet (segment .ackOnly 201 101 [])] t ∧
      t.rdp.sndUna = 102 ∧ InWindow t := by
  refine (Run.of_any (p := fun t : Endpoint => decide (t.rdp.sndUna = 102)) ?_).imp fun t ht =>
    ⟨ht.1, of_decide_eq_true ht.2, (run_window inWindow_opened ht.1).1⟩
  decide +kernel

/-- **A stale acknowledgement moves `snd_una` backwards**: with 100 acknowledged,
a packet that acknowledges 98 passes the check. -/
theorem stale_ack_moves_back :
    ¬ ∀ (e : Env) (s t u : Endpoint) (is : List Input) (i : Input), s.rdp.state = .rdpOpen →
      InWindow s → Run (step e) Connected s is t → Connected t i → step e t i = some u →
        InWindow u ∧ Forward t u := by
  intro h
  have hst : step (.favourable .little) (.opened 100 200 4)
      (.packet (segment .ackOnly 201 98 [])) = some _ := rfl
  have hu := h (.favourable .little) _ _ _ [] _ rfl inWindow_opened .nil ⟨.inl rfl, rfl⟩ hst
  have hb := hu.2.notBack
  revert hb
  decide +kernel

end LibCSP
