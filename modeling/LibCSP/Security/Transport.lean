/-
# Under the transport layer

The transport layer sees of `csp_send_direct` its result and the packet it was given
(`Event.transmit`), and of the network that copies of such packets arrive (`Admitted`).
Both hold of the layers below: the result is that of the node's `csp_send_direct`
(`Node.cspSendDirect_result`), and what it makes of the packet, cut into CAN frames, put
together again and checked, is a copy (`admitted_of_can`).
-/

import LibCSP.Can.Receive
import LibCSP.Rdp.Safety
import LibCSP.Security.RoundTrip

namespace LibCSP

open Basis CspPacket

namespace Node

/-- `csp_send_direct` fails with `CSP_ERR_TX`, or the packet is on the wire. -/
theorem cspSendDirect_tx_or_sent (node : Node) (routes : Routes) (idout : CspId) (nonce : U32)
    (p : CspPacket) : (node.cspSendDirect routes idout nonce p).1 = .tx ∨
      (node.cspSendDirect routes idout nonce p).1 = .none ∧
        ∃ q, (node.cspSendDirect routes idout nonce p).2 = some q := by
  unfold Node.cspSendDirect
  split
  · exact .inl rfl
  · split
    · exact .inl rfl
    · generalize (if idout.src = node.myAddress then node.secure idout nonce p else p) = q
      dsimp only
      split
      · exact .inl rfl
      · split
        · exact .inr ⟨rfl, _, rfl⟩
        · exact .inl rfl

/-- **The transport layer's `csp_send_direct`** returns what the node's does, and when that
succeeds the log has the packet. -/
theorem cspSendDirect_result (node : Node) (routes : Routes) (idout : CspId) (nonce : U32)
    (p : CspPacket) {e : Env} {w : World}
    (he : e.sendDirect w.tick = decide ((node.cspSendDirect routes idout nonce p).1 = .none)) :
    (LibCSP.cspSendDirect e idout (some p) w).1 = (node.cspSendDirect routes idout nonce p).1 ∧
      ((node.cspSendDirect routes idout nonce p).1 = .none →
        Event.transmit { p with id := idout } ∈ (LibCSP.cspSendDirect e idout (some p) w).2.log ∧
          ∃ q, (node.cspSendDirect routes idout nonce p).2 = some q) := by
  rw [LibCSP.cspSendDirect, he]
  rcases node.cspSendDirect_tx_or_sent routes idout nonce p with htx | ⟨hnone, hq⟩
  · rw [htx]
    exact ⟨rfl, fun h => nomatch h⟩
  · rw [hnone]
    exact ⟨rfl, fun _ => ⟨List.mem_append_right _ (List.mem_singleton.2 rfl), hq⟩⟩

end Node

/-- A packet that is assembled has the bytes of the one sent. -/
theorem TxSession.Is.sameBytes {x : TxSession} {p : CspPacket} (h : x.Is p) :
    SameBytes x.packet p :=
  .of_bytes h.length h.bytes

/-- The same bytes are a copy. -/
theorem CspPacket.SameBytes.copy {p q : CspPacket} (h : SameBytes p q) : Copy q p :=
  ⟨h.length, h.data⟩

/-- **A packet of the transport layer** that was secured, carried by the CAN bus and
checked is one that the network may bring. -/
theorem admitted_of_can {n : Net} {a : Side} {sender receiver : Node} {routes : Routes}
    {nonce securityOpts : U32} {x : TxSession} {p q r : CspPacket}
    (hopen : ∀ y, (n.ends y).rdp.state = .rdpOpen)
    (hq : Event.transmit q ∈ (n.ends a.other).world.log)
    (horder : receiver.order = sender.order) (hhmac : receiver.hmacKey = sender.hmacKey)
    (hxtea : receiver.xteaKey = sender.xteaKey) (hsrc : q.id.src = sender.myAddress)
    (hroom : q.length.toNat + trailerBytes q.id < 2 ^ 16) (hopts : Covers q.id securityOpts)
    (hsent : (sender.cspSendDirect routes q.id nonce q).2 = some x.packet) (hr : x.Is r)
    (hp : receiver.cspRouteSecurityCheck securityOpts r = .ok p) : Admitted n (a, .packet p) := by
  have hx := Node.cspSendDirect_some hsrc hsent
  have hid : r.id = q.id := by
    rw [hr.id, hx]
  have hcarry : SameBytes (receiver.secure q.id nonce q) r := by
    have hsame := hr.sameBytes
    rw [hx] at hsame
    rw [Node.secure_congr horder hhmac hxtea]
    exact ⟨hsame.length, hsame.data⟩
  obtain ⟨p', hcheck, hp'⟩ := receiver.cspRouteSecurityCheck_secure nonce hroom
    (congrArg CspId.flags hid) hopts hcarry
  obtain rfl : p' = p := Except.ok.inj (hcheck.symm.trans hp)
  refine ⟨hopen, fun p hpacket => .inr ⟨q, hq, ?_⟩⟩
  rw [← Input.packet.inj hpacket]
  exact hp'.copy

end LibCSP
