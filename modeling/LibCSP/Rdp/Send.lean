/-
# Taking a message from the user

`csp_rdp_send` accepts a message when it gets a buffer for the copy and the
retransmit queue has room.  Then, and only then, `snd_nxt` moves: the copy goes
to the end of the queue under the number `snd_nxt` had, and the packet itself
to the interface, which may refuse it.  `Sending` states both outcomes.
-/

import LibCSP.Rdp.Close

namespace LibCSP

open Basis

/-- The outcomes of `csp_send` after the wait in `csp_rdp_send`. -/
inductive Sending (e : Env) (p : CspPacket) (w : World) : World → Prop
  | refused {w' : World} (h : Quiet w w') : Sending e p w w'
  | sent {w' : World} {c : CspPacket} {evs : List Event}
      (hq : w'.conn.rdp.txQueue.items = w.conn.rdp.txQueue.items ++ [c])
      (hl : c.length = (txPacket e p w).length) (hd : c.data = (txPacket e p w).data)
      (hevs : evs = [] ∨ evs = [.transmit { txPacket e p w with id := w.conn.idout }])
      (hlog : w'.log = w.log ++ .alloc c.buf :: .sent p.bytes :: evs)
      (hcontrol : w'.control = { w.control with sndNxt := w.conn.rdp.sndNxt + 1 })
      (hinbound : w'.inbound = w.inbound) : Sending e p w w'

/-- **A message is refused without a trace, or queued under `snd_nxt`.** -/
theorem cspSendCommit_sending (e : Env) (p : CspPacket) (w : World) :
    Sending e p w (cspSendCommit e p w) := by
  unfold cspSendCommit cspRdpSendCommit
  rcases cspBufferClone_cases e (txPacket e p w) w with hb | ⟨buf, hb⟩
  · rw [hb]
    exact .refused (.next w)
  · rw [hb]
    simp only
    cases hq : Queue.enqueue _ _ with
    | none => exact .refused ((Quiet.alloc w buf).trans ((Quiet.next _).trans (.free _ _)))
    | some q =>
      obtain ⟨-, hitems⟩ := Queue.enqueue_eq_some.1 hq
      simp only [if_true]
      unfold cspSendDirect
      simp only
      split
      · exact .sent hitems rfl rfl (.inr rfl) (by simp [cspGetMs, World.next, World.emit]) rfl rfl
      · exact .sent hitems rfl rfl (.inl rfl) (by simp [cspGetMs, World.next, World.emit]) rfl rfl

/-- **`csp_send` moves `snd_nxt` by at most one** and no other control field. -/
theorem cspSendCommit_control (e : Env) (p : CspPacket) (w : World) :
    (cspSendCommit e p w).control = w.control ∨
      (cspSendCommit e p w).control = { w.control with sndNxt := w.conn.rdp.sndNxt + 1 } := by
  cases cspSendCommit_sending e p w with
  | refused h => exact .inl h.control
  | sent _ _ _ _ _ h _ => exact .inr h

end LibCSP
