/-
# Transit

A packet for another node is passed to `csp_send_direct` under its own identifier.
That function secures packets whose source is this node, and it takes the source from
the identifier, so it is the sender of the packet who decides whether the router appends
trailers to it (`transit_transparent_iff`).
-/

import LibCSP.Router.Route
import LibCSP.Security.Send

namespace LibCSP

open Basis

/-! ### What `csp_send_direct` appends -/

/-- The identifier asks for HMAC, CRC32 or XTEA. -/
def CspId.secured (id : CspId) : Bool := id.has cspFhmac || id.has cspFcrc32 || id.has cspFxtea

namespace Node

/-- The length with its trailers. -/
theorem secure_length_eq (node : Node) (id : CspId) (nonce : U32) (p : CspPacket) :
    (node.secure id nonce p).length = p.length + (if id.has cspFhmac then 4 else 0) +
      (if id.has cspFcrc32 then 4 else 0) + (if id.has cspFxtea then 4 else 0) := by
  have hzero : ∀ n : U16, n + 0 = n := BitVec.add_zero
  unfold secure
  cases id.has cspFhmac <;> cases id.has cspFcrc32 <;> cases id.has cspFxtea <;>
    simp only [Bool.false_eq_true, if_false, if_true, hzero] <;> rfl

/-- Trailers are seen in the length, modulo 2¹⁶. -/
theorem secure_length_eq_iff (node : Node) (id : CspId) (nonce : U32) (p : CspPacket) :
    (node.secure id nonce p).length = p.length ↔ id.secured = false := by
  have hself : ∀ n a : U16, n + a = n ↔ a = 0 := by
    intro n a
    constructor
    · intro h
      bv_omega
    · intro h
      rw [h]
      exact BitVec.add_zero n
  rw [secure_length_eq, BitVec.add_assoc, BitVec.add_assoc, hself]
  unfold CspId.secured
  cases id.has cspFhmac <;> cases id.has cspFcrc32 <;> cases id.has cspFxtea <;> decide

/-- A packet without flags is sent as it is. -/
theorem secure_of_plain (node : Node) {id : CspId} (nonce : U32) (p : CspPacket)
    (h : id.secured = false) : node.secure id nonce p = p := by
  unfold CspId.secured at h
  simp only [Bool.or_eq_false_iff] at h
  unfold secure
  rw [h.1.1, h.1.2, h.2]
  rfl

end Node

/-! ### Forwarding -/

/-- The packet `q` is `p` on its way. -/
structure Transparent (p q : CspPacket) : Prop where
  id : q.id = p.id
  length : q.length = p.length
  bytes : q.bytes = p.bytes

variable {N : ℕ}

/-- What the interface gets of a forwarded packet is unchanged exactly under that condition. -/
theorem directPacket_transparent_iff (node : Node) {routes : Routes} {nonce : U32}
    {p q : CspPacket} {err : CspErr}
    (h : node.cspSendDirect routes p.id nonce p = (err, some q)) :
    Transparent p q ↔ p.id.src ≠ node.myAddress ∨ p.id.secured = false := by
  have hq := Node.cspSendDirect_wire (congrArg Prod.snd h)
  by_cases hsrc : p.id.src = node.myAddress
  · rw [if_pos hsrc] at hq
    constructor
    · intro ht
      refine .inr ((node.secure_length_eq_iff p.id nonce p).1 ?_)
      rw [← ht.length, hq]
    · rintro (hne | hplain)
      · exact absurd hsrc hne
      · rw [hq, node.secure_of_plain nonce p hplain]
        exact ⟨rfl, rfl, rfl⟩
  · rw [if_neg hsrc] at hq
    exact iff_of_true (hq ▸ ⟨rfl, rfl, rfl⟩) (.inl hsrc)

variable [NeZero N]

/-- **A forwarded packet is unchanged exactly if its source is another node or it asks for
no security.** -/
theorem transit_transparent_iff {e : StackEnv} {s s₁ : Stack N} {input : CspRouteQueue}
    {evs : List (StackEvent N)} {q : CspPacket}
    (hnext : cspRouteNextPacket s = (some input, s₁)) (htransit : e.IsTransit input.packet.id)
    (hlog : (vTaskCSPRouter e s).log = s.log ++ evs) (hq : StackEvent.nexthop q ∈ evs) :
    Transparent input.packet q ↔
      input.packet.id.src ≠ e.myAddress ∨ input.packet.id.secured = false := by
  have hintake : StackEvent.nexthop q ∉ intake e s input := by
    unfold intake
    split <;> simp
  rcases vTaskCSPRouter_cases (e := e) hnext with ⟨-, -, hend⟩ | ⟨-, s₂, hs₂, hroute⟩
  · -- the hook has dropped the packet
    have hevs : evs = intake e s input ++ [.discarded .hook s.packet] :=
      List.append_cancel_left (hlog.symm.trans hend.log)
    rw [hevs, List.mem_append, List.mem_singleton] at hq
    rcases hq with hq | hq
    · exact absurd hq hintake
    · exact absurd hq nofun
  · obtain ⟨s₃, hs₃⟩ : ∃ s₃ : Stack N, s₃ = { s₂ with packet := some input.packet.buf } := ⟨_, rfl⟩
    have haside : Aside s s₃ (intake e s input) := by
      rw [hs₃]
      exact hs₂.setPacket _
    rw [hroute, routePacket, if_pos htransit, ← hs₃] at hlog
    rcases routeForward_cases e input s₃ with hend | ⟨nonce, err, wire, hdirect, hend⟩
    · have hevs : evs = intake e s input ++ [.discarded .noRoute (some input.packet.buf)] :=
        List.append_cancel_left (hlog.symm.trans (haside.trans hend).log)
      rw [hevs, List.mem_append, List.mem_singleton] at hq
      rcases hq with hq | hq
      · exact absurd hq hintake
      · exact absurd hq nofun
    · have hevs := List.append_cancel_left (hlog.symm.trans (haside.trans hend).log)
      rw [hevs, List.mem_append, List.mem_append, List.mem_singleton] at hq
      rcases hq with hq | hq | hq
      · exact absurd hq hintake
      · obtain ⟨q', hq', heq⟩ := List.mem_map.1 hq
        rw [StackEvent.nexthop.inj heq, Option.mem_toList] at hq'
        exact directPacket_transparent_iff e.node (hdirect.trans (by rw [Option.mem_def.1 hq']))
      · split at hq <;> exact absurd hq nofun

/-- Three bytes under this identifier. -/
def packetWith (id : CspId) : CspPacket := { CspPacket.blank 3 with buf := 7, id := id }

/-- The hypotheses are met by a packet with HMAC from node 3 to node 2. -/
theorem transit_transparent_other :
    Transparent (packetWith 0x86200008) (packetWith 0x86200008) := by
  have hlog : (vTaskCSPRouter .favourable
      ((Stack.init cspConnMax).receive (packetWith 0x86200008))).log = [] ++
        [.dequeued (packetWith 0x86200008), .nexthop (packetWith 0x86200008), .forwarded 7] := rfl
  exact (transit_transparent_iff rfl (by decide) hlog
    (List.mem_cons_of_mem _ List.mem_cons_self)).2 (.inl (by decide))

/-- **A packet that claims to come from the router gets a trailer** on its way from interface
1 to node 2. -/
theorem transit_changes_own :
    ¬ ∀ (e : StackEnv) (s s₁ : Stack cspConnMax) (input : CspRouteQueue)
      (evs : List (StackEvent cspConnMax)) (q : CspPacket),
        cspRouteNextPacket s = (some input, s₁) → e.IsTransit input.packet.id →
          (vTaskCSPRouter e s).log = s.log ++ evs → StackEvent.nexthop q ∈ evs →
            Transparent input.packet q := by
  intro h
  have hlen := (h .favourable ((Stack.init cspConnMax).receive (packetWith 0x82200008)) _ _
    [.dequeued (packetWith 0x82200008), .nexthop (StackEnv.favourable.node.secure 0x82200008 42
      (packetWith 0x82200008)), .forwarded 7] _ rfl (by decide) rfl
    (List.mem_cons_of_mem _ List.mem_cons_self)).length
  rw [Node.secure_length_eq] at hlen
  revert hlen
  decide

end LibCSP
