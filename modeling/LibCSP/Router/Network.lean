/-
# A network of nodes

Nodes that run libcsp send packets to each other, over other nodes.  What a node gives an
interface may come out at any of the ends that the interface reaches, never, once or many times,
at any time and in any order.  Meanwhile the nodes do whatever they do: each is the machine
of `LibCSP.Router.Step`, and its routing table and hook may change all the time.

The links do not change packets, but a router could: it secures the packets that carry its
own address as their source (`directPacket_transparent_iff`).  Such packets do not come
back to it as long as there are no routing loops.  Then whatever user space gets, at any
node, was sent to it by the node that its source address names, with these bytes
(`network_authentic`).
-/

import Mathlib.Logic.Relation
import LibCSP.Router.Local
import LibCSP.Router.Passage
import LibCSP.Router.Transit

namespace LibCSP

open Basis CspPacket

/-! ### The nodes and the links -/

/-- The nodes, and the ends (a node and one of its interfaces) at which a packet for a
destination can come out that a node has given to the interface of its route. -/
structure Wiring (ν : Type*) where
  env : ν → StackEnv
  ends : ν → BitVec 5 → List (ν × ℕ)

/-- A packet that an interface of a node was given. -/
structure Transfer (ν : Type*) where
  node : ν
  packet : CspPacket

/-- A call of `csp_send_direct` for a packet of the node itself. -/
structure Origin (ν : Type*) where
  node : ν
  idout : CspId
  nonce : U32
  packet : CspPacket

/-- The nodes, all that was ever put on a link, and all that was ever sent. -/
structure Network (ν : Type*) (N : ℕ) where
  nodes : ν → Stack N
  air : List (Transfer ν)
  sent : List (Origin ν)

inductive NetworkInput (ν : Type*) (N : ℕ)
  /-- `csp_send_direct`, called by `csp_send`, `csp_sendto` or RDP. -/
  | own (n : ν) (idout : CspId) (packet : CspPacket)
  /-- Anything else that happens in a node. -/
  | node (n : ν) (a : Action N)
  /-- Transfer `k` comes out at this end, in this buffer. -/
  | arrive (k : ℕ) (gate : ν × ℕ) (packet : CspPacket)

def Passage.given : Passage → Option CspPacket
  | .took _ => none
  | .gave p => some p

instance (p q : CspPacket) : Decidable (Transparent p q) :=
  decidable_of_iff (q.id = p.id ∧ q.length = p.length ∧ q.bytes = p.bytes)
    ⟨fun h => ⟨h.1, h.2.1, h.2.2⟩, fun h => ⟨h.id, h.length, h.bytes⟩⟩

section Step

variable {ν : Type*} [DecidableEq ν] {N : ℕ} [NeZero N] (x : Wiring ν)

namespace Network

def setNode (s : Network ν N) (n : ν) (t : Stack N) : Network ν N :=
  { s with nodes := Function.update s.nodes n t }

/-- The packets that a node has given to its interfaces are on the links. -/
def put (s : Network ν N) (n : ν) (ps : List CspPacket) : Network ν N :=
  { s with air := s.air ++ ps.map fun p => ⟨n, p⟩ }

end Network

/-- The node makes a step.  What comes in from the interfaces is not its own doing. -/
def nodeStep (s : Network ν N) (n : ν) : Action N → Option (Network ν N)
  | .newPacket _ => none
  | a => (stackStep (x.env n) (s.nodes n) a).map fun t =>
    (s.setNode n t).put n
      ((t.passages.drop (s.nodes n).passages.length).filterMap Passage.given)

def networkStep (s : Network ν N) : NetworkInput ν N → Option (Network ν N)
  | .own n idout packet =>
    if idout.src = (x.env n).myAddress then
      let nonce := (x.env n).nonce (s.nodes n).tick
      let r := (x.env n).node.cspSendDirect ((x.env n).routes (s.nodes n).tick) idout nonce packet
      let s := s.setNode n (s.nodes n).next
      some { s.put n r.2.toList with sent := s.sent ++ [⟨n, idout, nonce, packet⟩] }
    else none
  | .node n a => nodeStep x s n a
  | .arrive k gate packet =>
    match s.air[k]? with
    | none => none
    | some f =>
      if gate ∈ x.ends f.node f.packet.id.dst ∧ Transparent f.packet packet then
        some (s.setNode gate.1 (cspNewPacket ⟨gate.2, packet⟩ (s.nodes gate.1)))
      else none

end Step

/-! ### Where packets come to -/

section Ways

variable {ν : Type*} (x : Wiring ν)

/-- A packet with this identifier can come to node `m` because node `n` forwards it. -/
def Wiring.Hop (id : CspId) (n m : ν) : Prop :=
  (x.env n).IsTransit id ∧ ∃ i, (m, i) ∈ x.ends n id.dst

/-- No packet comes back to a node that has forwarded it, or would have. -/
def Wiring.LoopFree : Prop := ∀ id n, ¬ Relation.TransGen (x.Hop id) n n

/-- The nodes have different addresses. -/
def Wiring.Distinct : Prop := ∀ n m, (x.env n).myAddress = (x.env m).myAddress → n = m

/-- What the nodes agree on: byte order, keys, and that they have different addresses. -/
structure Wiring.Agrees : Prop where
  order : ∀ n m, (x.env n).env.host = (x.env m).env.host
  hmacKey : ∀ n m, (x.env n).hmacKey = (x.env m).hmacKey
  xteaKey : ∀ n m, (x.env n).xteaKey = (x.env m).xteaKey
  address : x.Distinct

/-- What is on the links of this packet. -/
def Origin.wire (g : Origin ν) : CspPacket :=
  { (x.env g.node).node.secure g.idout g.nonce g.packet with id := g.idout }

/-- There is room for the trailers. -/
def Origin.HasRoom (g : Origin ν) : Prop :=
  g.packet.length.toNat + trailerBytes g.idout < 2 ^ 16

/-- The packet can have come to node `m`. -/
def Origin.Comes (g : Origin ν) (m : ν) : Prop :=
  Relation.TransGen (x.Hop g.idout) g.node m ∨ ¬ (x.env g.node).IsTransit g.idout

/-- Node `n` can have given the packet to an interface. -/
def Origin.Leaves (g : Origin ν) (n : ν) : Prop :=
  n = g.node ∨ (x.env n).IsTransit g.idout ∧ g.Comes x n

variable {x} {g : Origin ν} {n m : ν}

/-- What leaves a node comes to where its link ends. -/
theorem Origin.Leaves.comes {i : ℕ} (h : g.Leaves x n) (hm : (m, i) ∈ x.ends n g.idout.dst) :
    g.Comes x m := by
  rcases h with rfl | ⟨htransit, hcomes⟩
  · by_cases htransit : (x.env g.node).IsTransit g.idout
    · exact .inl (.single ⟨htransit, i, hm⟩)
    · exact .inr htransit
  · exact hcomes.imp_left fun hway => hway.tail ⟨htransit, i, hm⟩

/-- **A packet does not come back to its source** to be forwarded there. -/
theorem Origin.Comes.ne_node (h : g.Comes x m) (hloop : x.LoopFree)
    (htransit : (x.env m).IsTransit g.idout) : m ≠ g.node := by
  rintro rfl
  rcases h with hway | hown
  · exact hloop _ _ hway
  · exact hown htransit

end Ways

/-! ### Packets on their way -/

section Way

variable {ν : Type*} {x : Wiring ν} {g : Origin ν} {n m : ν} {p q raw : CspPacket}

/-- Transparent twice. -/
theorem Transparent.trans {r : CspPacket} (h : Transparent p q) (h' : Transparent q r) :
    Transparent p r :=
  ⟨h'.id.trans h.id, h'.length.trans h.length, h'.bytes.trans h.bytes⟩

/-- Where a packet is as it was, its bytes are. -/
theorem Transparent.sameBytes (h : Transparent p q) : SameBytes p q :=
  .of_bytes h.length h.bytes

/-- A node that forwards the packet has another address than its source. -/
theorem Origin.Comes.foreign (h : g.Comes x m) (hloop : x.LoopFree) (hdistinct : x.Distinct)
    (hsrc : g.idout.src = (x.env g.node).myAddress) (htransit : (x.env m).IsTransit g.idout) :
    g.idout.src ≠ (x.env m).myAddress := by
  rw [hsrc]
  exact fun haddress => h.ne_node hloop htransit (hdistinct _ _ haddress).symm

/-- **A router passes the packet on as it is.** -/
theorem transparent_forwarded {routes : Routes} {nonce : U32} (hloop : x.LoopFree)
    (hdistinct : x.Distinct) (hsrc : g.idout.src = (x.env g.node).myAddress) (hcomes : g.Comes x m)
    (htransit : (x.env m).IsTransit g.idout) (hraw : Transparent (g.wire x) raw)
    (hq : ((x.env m).node.cspSendDirect routes raw.id nonce raw).2 = some q) :
    Transparent (g.wire x) q := by
  refine hraw.trans ((directPacket_transparent_iff (x.env m).node (Prod.ext rfl hq)).2 (.inl ?_))
  rw [show raw.id = g.idout from hraw.id]
  exact hcomes.foreign hloop hdistinct hsrc htransit

/-- **What gets past the security check anywhere** is what was sent. -/
theorem checked_sameBytes {opts : U32} (hagree : x.Agrees) (hroom : g.HasRoom)
    (hraw : Transparent (g.wire x) raw)
    (hp : (x.env m).node.cspRouteSecurityCheck opts raw = .ok p) :
    SameBytes g.packet p ∧ p.id = g.idout := by
  have hid : raw.id = g.idout := hraw.id
  have henforced := cspRouteSecurityCheck_enforced hp
  have hrequired := henforced.hasRequired
  have hsame : SameBytes ((x.env m).node.secure g.idout g.nonce g.packet) raw := by
    have hsecure : (x.env m).node.secure g.idout g.nonce g.packet =
        (x.env g.node).node.secure g.idout g.nonce g.packet :=
      Node.secure_congr (hagree.order m g.node) (hagree.hmacKey m g.node)
        (hagree.xteaKey m g.node) g.idout g.nonce g.packet
    rw [hsecure]
    obtain ⟨hlength, hdata⟩ := hraw.sameBytes
    exact ⟨hlength, hdata⟩
  obtain ⟨p', hp', hbytes⟩ := (x.env m).node.cspRouteSecurityCheck_secure g.nonce hroom
    (by rw [hid]) ⟨hid ▸ hrequired.hmac, hid ▸ hrequired.crc32, hid ▸ hrequired.xtea⟩ hsame
  obtain rfl := Except.ok.inj (hp.symm.trans hp')
  exact ⟨hbytes, henforced.identity.id.trans hid⟩

end Way

/-! ### What user space gets -/

/-- The data of the packet: what lies in front of the RDP header, if it has one. -/
def Origin.payload {ν : Type*} (g : Origin ν) : List U8 :=
  if g.idout.has cspFrdp then rdpPayload g.packet else g.packet.bytes

section Userland

variable {ν : Type*} (x : Wiring ν) (sent : List (Origin ν)) (m : ν)

/-- The packet has the identifier of one that its source has sent to node `m`, and is related to
it. -/
def Authentic (R : Origin ν → CspPacket → Prop) (p : CspPacket) : Prop :=
  ∃ g ∈ sent, g.idout.src = (x.env g.node).myAddress ∧ ¬ (x.env m).IsTransit g.idout ∧
    p.id = g.idout ∧ R g p

/-- In a reorder queue. -/
def AuthenticRdp : CspPacket → Prop := Authentic x sent m fun g p =>
  g.idout.has cspFrdp = true ∧ 5 ≤ p.length.toNat ∧ rdpPayload p = rdpPayload g.packet

/-- From a connection. -/
def AuthenticData : CspPacket → Prop := Authentic x sent m fun g p => p.bytes = g.payload

/-- From a connection-less socket. -/
def AuthenticDatagram : CspPacket → Prop := Authentic x sent m fun g p => p.bytes = g.packet.bytes

variable {x sent m} {sent' : List (Origin ν)} {g : Origin ν} {p raw : CspPacket}

/-- What is authentic stays so when more has been sent. -/
theorem Authentic.mono {R : Origin ν → CspPacket → Prop} (h : Authentic x sent m R p)
    (hl : sent ⊆ sent') : Authentic x sent' m R p := by
  obtain ⟨g, hg, h⟩ := h
  exact ⟨g, hl hg, h⟩

/-- Data that is stored with its header is authentic without it. -/
theorem AuthenticRdp.data (h : AuthenticRdp x sent m p) :
    AuthenticData x sent m (cspRdpHeaderRemove p) := by
  obtain ⟨g, hg, hsrc, hlocal, hid, hrdp, hlen, hpayload⟩ := h
  refine ⟨g, hg, hsrc, hlocal, hid, ?_⟩
  simp only [Origin.payload, hrdp, if_true]
  rw [bytes_headerRemove hlen, hpayload]

/-- **A packet that has come to its destination becomes authentic data.** -/
theorem becomes_authentic (hagree : x.Agrees) (hg : g ∈ sent)
    (hsrc : g.idout.src = (x.env g.node).myAddress) (hroom : g.HasRoom)
    (hraw : Transparent (g.wire x) raw) (hlocal : ¬ (x.env m).IsTransit raw.id) :
    Becomes (x.env m) (AuthenticRdp x sent m) (AuthenticData x sent m) (AuthenticDatagram x sent m)
      raw := by
  have hlocal' : ¬ (x.env m).IsTransit g.idout := by
    rwa [show raw.id = g.idout from hraw.id] at hlocal
  constructor
  · intro opts p hp hrdp hlen
    obtain ⟨hsame, hid⟩ := checked_sameBytes hagree hroom hraw hp
    have hfive : 5 ≤ p.length.toNat := Nat.le_of_lt hlen
    refine ⟨g, hg, hsrc, hlocal', (rxPacket_id hlen).trans hid, hid ▸ hrdp, ?_, ?_⟩
    · rw [rxPacket, length_headerStore hfive]
      exact hfive
    · rw [rxPacket, rdpPayload_store hfive]
      refine rdpPayload_congr hsame.length fun i hi => hsame.data i ?_
      omega
  · intro opts p hp hudp
    obtain ⟨hsame, hid⟩ := checked_sameBytes hagree hroom hraw hp
    refine ⟨g, hg, hsrc, hlocal', hid, ?_⟩
    rw [hid] at hudp
    simp only [Origin.payload, hudp, Bool.false_eq_true, if_false]
    exact hsame.bytes_eq
  · intro opts p hp
    obtain ⟨hsame, hid⟩ := checked_sameBytes hagree hroom hraw hp
    exact ⟨g, hg, hsrc, hlocal', hid, hsame.bytes_eq⟩

end Userland

/-! ### Steps and runs -/

section Runs

variable {ν : Type*} {N : ℕ} {x : Wiring ν} {s t : Network ν N}

/-- What is on the links and in the input queues was sent and is as it was sent. -/
structure Carried (x : Wiring ν) (s : Network ν N) : Prop where
  sent : ∀ g ∈ s.sent, g.idout.src = (x.env g.node).myAddress
  air : ∀ f ∈ s.air, ∃ g ∈ s.sent, Transparent (g.wire x) f.packet ∧ g.Leaves x f.node
  waits : ∀ m input, (s.nodes m).Waits input →
    ∃ g ∈ s.sent, Transparent (g.wire x) input.packet ∧ g.Comes x m

/-- It has room for its trailers, and what the reorder queues hold and user space was handed is
authentic. -/
structure NetworkOk (x : Wiring ν) (s : Network ν N) : Prop extends Carried x s where
  room : ∀ g ∈ s.sent, g.HasRoom
  stored : ∀ m i, AllStored (AuthenticRdp x s.sent m) ((s.nodes m).conns i)
  log : ∀ m, ∀ ev ∈ (s.nodes m).log,
    ev.Hands (AuthenticData x s.sent m) (AuthenticDatagram x s.sent m)

/-- The nodes after `csp_init`, and nothing on the links. -/
structure Network.Started (s : Network ν N) : Prop where
  nodes : ∀ n, (s.nodes n).Started
  air : s.air = []
  sent : s.sent = []

/-- Nothing waits at a node after `csp_init`. -/
theorem Stack.Started.not_waits {s : Stack N} (h : s.Started) (input : CspRouteQueue) :
    ¬ s.Waits input := by
  rintro ⟨prio, hmem⟩
  rw [h.fifos prio] at hmem
  exact List.not_mem_nil hmem

/-- In the beginning the links carry nothing. -/
theorem Network.Started.carried (h : s.Started) : Carried x s := by
  refine ⟨fun g hg => ?_, fun f hf => ?_, fun m input hw => ?_⟩
  · rw [h.sent] at hg
    exact absurd hg List.not_mem_nil
  · rw [h.air] at hf
    exact absurd hf List.not_mem_nil
  · exact absurd hw ((h.nodes m).not_waits input)

/-- And nobody was handed anything. -/
theorem Network.Started.networkOk (h : s.Started) : NetworkOk x s := by
  refine ⟨h.carried, fun g hg => ?_, fun m => (h.nodes m).stored, fun m => (h.nodes m).hands⟩
  rw [h.sent] at hg
  exact absurd hg List.not_mem_nil

/-! ### What the links carry -/

namespace Carried

variable [DecidableEq ν]

/-- One node changes, keeps the rest, and gives these packets to its interfaces. -/
theorem setNode {n : ν} {u : Stack N} {ps : List CspPacket} (h : Carried x s)
    (hwaits : ∀ input, u.Waits input →
      ∃ g ∈ s.sent, Transparent (g.wire x) input.packet ∧ g.Comes x n)
    (hps : ∀ p ∈ ps, ∃ g ∈ s.sent, Transparent (g.wire x) p ∧ g.Leaves x n) :
    Carried x ((s.setNode n u).put n ps) := by
  refine ⟨h.sent, ?_, fun m => ?_⟩
  · refine List.forall_mem_append.2 ⟨h.air, fun f hf => ?_⟩
    obtain ⟨p, hp, rfl⟩ := List.mem_map.1 hf
    exact hps p hp
  · show ∀ input, (Function.update s.nodes n u m).Waits input → _
    by_cases hm : m = n
    · subst hm
      rw [Function.update_self]
      exact hwaits
    · rw [Function.update_of_ne hm]
      exact h.waits m

omit [DecidableEq ν] in
/-- A node sends a packet of its own. -/
theorem own {n : ν} {idout : CspId} (nonce : U32) {packet : CspPacket} (h : Carried x s)
    (hsrc : idout.src = (x.env n).myAddress) :
    Carried x { s with sent := s.sent ++ [⟨n, idout, nonce, packet⟩] } := by
  have hsub : s.sent ⊆ s.sent ++ [⟨n, idout, nonce, packet⟩] := List.subset_append_left ..
  refine ⟨List.forall_mem_append.2 ⟨h.sent, List.forall_mem_singleton.2 hsrc⟩,
    fun f hf => ?_, fun m input hw => ?_⟩
  · obtain ⟨g, hg, hrest⟩ := h.air f hf
    exact ⟨g, hsub hg, hrest⟩
  · obtain ⟨g, hg, hrest⟩ := h.waits m input hw
    exact ⟨g, hsub hg, hrest⟩

variable [NeZero N]

omit [DecidableEq ν] in
/-- What an iteration of the router gives to an interface. -/
theorem forwarded {n : ν} (h : Carried x s) (hloop : x.LoopFree) (hdistinct : x.Distinct) :
    ∃ ps, (vTaskCSPRouter (x.env n) (s.nodes n)).passages = (s.nodes n).passages ++ ps ∧
      (∀ p ∈ ps.filterMap Passage.given, ∃ g ∈ s.sent, Transparent (g.wire x) p ∧
        g.Leaves x n) ∧
      ∀ input, (vTaskCSPRouter (x.env n) (s.nodes n)).Waits input → (s.nodes n).Waits input := by
  cases hnext : cspRouteNextPacket (s.nodes n) with
  | mk input s₁ =>
  obtain ⟨htaken, hleft⟩ := cspRouteNextPacket_waits hnext
  have hpassages : s₁.passages = (s.nodes n).passages := by
    have haside := (cspRouteNextPacket_aside (s.nodes n)).log
    rw [hnext, List.append_nil] at haside
    rw [Stack.passages, haside]
    rfl
  cases input with
  | none =>
    rw [vTaskCSPRouter_none hnext]
    refine ⟨[], ?_, fun p hp => absurd hp List.not_mem_nil, hleft⟩
    rw [hpassages, List.append_nil]
  | some input =>
    obtain ⟨wire, hthrough, hwire, -⟩ := vTaskCSPRouter_passes (e := x.env n) hnext
    refine ⟨.took input.packet :: wire.toList.map .gave, ?_, fun p hp => ?_,
      fun input' hw => hleft input' (hthrough.waits.1 hw)⟩
    · rw [hthrough.passages, hpassages]
    · obtain ⟨g, hg, hraw, hcomes⟩ := h.waits n input (htaken input rfl)
      cases wire with
      | none => exact absurd hp List.not_mem_nil
      | some q =>
        obtain ⟨htransit, routes, nonce, hq⟩ := hwire q rfl
        obtain rfl : p = q := List.mem_singleton.1 hp
        have htransit' : (x.env n).IsTransit g.idout := by
          have hid : input.packet.id = g.idout := hraw.id
          rwa [hid] at htransit
        exact ⟨g, hg, transparent_forwarded hloop hdistinct (h.sent g hg) hcomes htransit' hraw hq,
          .inr ⟨htransit', hcomes⟩⟩

omit [DecidableEq ν] in
/-- What any step of a node gives to an interface, and leaves waiting. -/
theorem through {n : ν} {a : Action N} {u : Stack N} (h : Carried x s) (hloop : x.LoopFree)
    (hdistinct : x.Distinct) (hinput : ∀ input, a ≠ .newPacket input)
    (hu : stackStep (x.env n) (s.nodes n) a = some u) :
    (∀ input, u.Waits input → (s.nodes n).Waits input) ∧
      ∀ p ∈ (u.passages.drop (s.nodes n).passages.length).filterMap Passage.given,
        ∃ g ∈ s.sent, Transparent (g.wire x) p ∧ g.Leaves x n := by
  by_cases hroute : a = .route
  · subst hroute
    obtain rfl := Option.some.inj hu
    obtain ⟨ps, hps, hgiven, hwaits⟩ := h.forwarded (n := n) hloop hdistinct
    rw [hps, List.drop_left]
    exact ⟨hwaits, hgiven⟩
  · have hthrough := stackStep_through hu hroute hinput
    rw [hthrough.passages, List.append_nil, List.drop_length]
    exact ⟨fun input hw => hthrough.waits.1 hw, fun p hp => absurd hp List.not_mem_nil⟩

omit [NeZero N] in
/-- A packet comes out of a link. -/
theorem arrive {k : ℕ} {f : Transfer ν} {gate : ν × ℕ} {packet : CspPacket} (h : Carried x s)
    (hf : s.air[k]? = some f) (hgate : gate ∈ x.ends f.node f.packet.id.dst)
    (hpacket : Transparent f.packet packet) :
    Carried x (s.setNode gate.1 (cspNewPacket ⟨gate.2, packet⟩ (s.nodes gate.1))) := by
  obtain ⟨g, hg, hwire, hleaves⟩ := h.air f (List.mem_of_getElem? hf)
  have hid : f.packet.id = g.idout := hwire.id
  rw [hid] at hgate
  have hwaits := (cspNewPacket_waits ⟨gate.2, packet⟩ (s.nodes gate.1)).2
  have hnext : Carried x ((s.setNode gate.1
      (cspNewPacket ⟨gate.2, packet⟩ (s.nodes gate.1))).put gate.1 []) := by
    refine h.setNode (fun input hw => ?_) fun p hp => absurd hp List.not_mem_nil
    rcases hwaits input hw with hw | rfl
    · exact h.waits gate.1 input hw
    · exact ⟨g, hg, hwire.trans hpacket, hleaves.comes hgate⟩
  unfold Network.put at hnext
  rwa [List.map_nil, List.append_nil] at hnext

end Carried

section NodeStep

variable [DecidableEq ν] [NeZero N]

/-- A step of a node, and what it puts on the links. -/
theorem nodeStep_eq_some {n : ν} {a : Action N} (h : nodeStep x s n a = some t) :
    (∀ input, a ≠ .newPacket input) ∧ ∃ u, stackStep (x.env n) (s.nodes n) a = some u ∧
      t = (s.setNode n u).put n
        ((u.passages.drop (s.nodes n).passages.length).filterMap Passage.given) := by
  unfold nodeStep at h
  split at h
  · cases h
  · rename_i hinput
    obtain ⟨u, hu, rfl⟩ := Option.map_eq_some_iff.1 h
    exact ⟨hinput, u, hu, rfl⟩

/-- What a node sends of its own, on the way to its interface. -/
theorem networkStep_own {n : ν} {idout : CspId} {packet : CspPacket}
    (h : networkStep x s (.own n idout packet) = some t) :
    idout.src = (x.env n).myAddress ∧ ∃ nonce ps,
      (∀ p ∈ ps, p = (Origin.mk n idout nonce packet).wire x) ∧
      t = { (s.setNode n (s.nodes n).next).put n ps with
        sent := s.sent ++ [⟨n, idout, nonce, packet⟩] } := by
  simp only [networkStep] at h
  split at h
  · rename_i hsrc
    obtain rfl := Option.some.inj h
    refine ⟨hsrc, _, _, fun p hp => ?_, rfl⟩
    exact Node.cspSendDirect_some hsrc (Option.mem_toList.1 hp)
  · cases h

/-- **The links and the input queues** carry what was sent, as it was sent. -/
theorem Carried.step {i : NetworkInput ν N} (h : Carried x s) (hloop : x.LoopFree)
    (hdistinct : x.Distinct) (hst : networkStep x s i = some t) : Carried x t := by
  cases i with
  | own n idout packet =>
    obtain ⟨hsrc, nonce, ps, hps, rfl⟩ := networkStep_own hst
    have hsent : Carried x { s with sent := s.sent ++ [⟨n, idout, nonce, packet⟩] } :=
      h.own nonce hsrc
    refine hsent.setNode (fun input hw => hsent.waits n input hw) fun p hp => ?_
    obtain rfl := hps p hp
    exact ⟨⟨n, idout, nonce, packet⟩, List.mem_append_right _ List.mem_cons_self,
      ⟨rfl, rfl, rfl⟩, .inl rfl⟩
  | node n a =>
    obtain ⟨hinput, u, hu, rfl⟩ := nodeStep_eq_some hst
    obtain ⟨hwaits, hgiven⟩ := h.through hloop hdistinct hinput hu
    exact h.setNode (fun input hw => h.waits n input (hwaits input hw)) hgiven
  | arrive k gate packet =>
    simp only [networkStep] at hst
    split at hst
    · cases hst
    · rename_i f hf
      split at hst
      · rename_i hgate
        obtain rfl := Option.some.inj hst
        exact h.arrive hf hgate.1 hgate.2
      · cases hst

/-! ### What user space gets -/

/-- A node sends what has room for its trailers. -/
def OwnFits (_ : Network ν N) : NetworkInput ν N → Prop
  | .own _ idout packet => packet.length.toNat + trailerBytes idout < 2 ^ 16
  | _ => True

instance (s : Network ν N) : ∀ i, Decidable (OwnFits s i)
  | .own _ _ _ => inferInstanceAs (Decidable (_ < _))
  | .node _ _ | .arrive _ _ _ => isTrue trivial

omit [NeZero N] in
/-- One node changes, and what it brings is authentic. -/
theorem NetworkOk.changed {n : ν} {u : Stack N} (h : NetworkOk x s) (hcarried : Carried x t)
    (hnodes : t.nodes = Function.update s.nodes n u) (hsent : t.sent = s.sent)
    (hbrings : Brings (AuthenticRdp x s.sent n) (AuthenticData x s.sent n)
      (AuthenticDatagram x s.sent n) (s.nodes n) u) : NetworkOk x t := by
  refine ⟨hcarried, hsent ▸ h.room, fun m => ?_, fun m => ?_⟩
  · rw [hsent, hnodes]
    by_cases hm : m = n
    · subst hm
      rw [Function.update_self]
      exact hbrings.stored
    · rw [Function.update_of_ne hm]
      exact h.stored m
  · rw [hsent, hnodes]
    by_cases hm : m = n
    · subst hm
      obtain ⟨evs, hl, hevs⟩ := hbrings.log
      rw [Function.update_self, hl]
      exact List.forall_mem_append.2 ⟨h.log m, hevs⟩
    · rw [Function.update_of_ne hm]
      exact h.log m

/-- **What user space gets stays authentic.** -/
theorem NetworkOk.step {i : NetworkInput ν N} (h : NetworkOk x s) (hloop : x.LoopFree)
    (hagree : x.Agrees) (hok : OwnFits s i) (hst : networkStep x s i = some t) :
    NetworkOk x t := by
  have hcarried := h.toCarried.step hloop hagree.address hst
  cases i with
  | own n idout packet =>
    obtain ⟨-, nonce, ps, -, rfl⟩ := networkStep_own hst
    have hsub : s.sent ⊆ s.sent ++ [⟨n, idout, nonce, packet⟩] := List.subset_append_left ..
    have hnode : ∀ m, (Function.update s.nodes n (s.nodes n).next m).conns = (s.nodes m).conns ∧
        (Function.update s.nodes n (s.nodes n).next m).log = (s.nodes m).log := by
      intro m
      by_cases hm : m = n
      · subst hm
        rw [Function.update_self]
        exact ⟨rfl, rfl⟩
      · rw [Function.update_of_ne hm]
        exact ⟨rfl, rfl⟩
    refine ⟨hcarried, List.forall_mem_append.2 ⟨h.room, List.forall_mem_singleton.2 hok⟩,
      fun m i y hy => ?_, fun m ev hev => ?_⟩
    · have hconns := (hnode m).1
      exact (h.stored m i y (congrFun hconns i ▸ hy)).mono hsub
    · have hlog := (hnode m).2
      exact (h.log m ev (hlog ▸ hev)).mono (fun _ hp => hp.mono hsub) fun _ hp => hp.mono hsub
  | node n a =>
    obtain ⟨-, u, hu, rfl⟩ := nodeStep_eq_some hst
    refine h.changed hcarried rfl rfl (Brings.step (fun _ hp => hp.data) (h.stored n)
      (fun input hmem hlocal => ?_) hu)
    obtain ⟨g, hg, hraw, -⟩ := h.waits n input ((cspRouteNextPacket_waits rfl).1 input hmem)
    exact becomes_authentic hagree hg (h.sent g hg) (h.room g hg) hraw hlocal
  | arrive k gate packet =>
    simp only [networkStep] at hst
    split at hst
    · cases hst
    · split at hst
      · obtain rfl := Option.some.inj hst
        refine h.changed hcarried rfl rfl ?_
        rcases cspNewPacket_cases ⟨gate.2, packet⟩ (s.nodes gate.1) with hstill | hdropped
        · exact .of_eq (h.stored gate.1) hstill.conns hstill.log
        · rw [hdropped]
          exact .emit (h.stored gate.1) trivial
      · cases hst

end NodeStep

variable [DecidableEq ν] [NeZero N]

/-- **User space gets what was sent to it**, at every node and in every run of a network without
routing loops: what a connection or a connection-less socket is handed has the identifier of a
packet that the node with its source address has sent, it is for this node, and its data is
the data that was sent. -/
theorem network_authentic {is : List (NetworkInput ν N)} (hloop : x.LoopFree)
    (hagree : x.Agrees) (hs : s.Started) (hrun : Run (networkStep x) OwnFits s is t) (m : ν) :
    ∀ ev ∈ (t.nodes m).log, ev.Hands (AuthenticData x t.sent m) (AuthenticDatagram x t.sent m) :=
  (hrun.invariant (P := NetworkOk x) (fun _ _ _ hs hok hst => hs.step hloop hagree hok hst)
    hs.networkOk).log m

/-- Every node with the first ephemeral port drawn. -/
def Network.init : Network ν N := ⟨fun _ => Stack.init N, [], []⟩

omit [DecidableEq ν] in
/-- Nodes after `csp_init` are a beginning. -/
theorem Network.init_started : (Network.init : Network ν N).Started :=
  ⟨fun _ => Stack.init_started, rfl, rfl⟩

end Runs

/-! ### Three nodes in a row -/

/-- Nodes 1, 2 and 3.  Each gives what is not for itself to the next one. -/
def row : Wiring (Fin 3) where
  env n := { StackEnv.favourable with myAddress := BitVec.ofNat 5 (n.val + 1) }
  ends n dst :=
    if dst = BitVec.ofNat 5 (n.val + 1) then [(n, 0)]
    else if h : n.val + 1 < 3 then [(⟨n.val + 1, h⟩, 1)]
    else []

/-- A packet that is not for the node goes to the next one. -/
theorem row_ends {id : CspId} {a b : Fin 3} {i : ℕ} (h : (b, i) ∈ row.ends a id.dst) :
    (b = a ∧ ¬ (row.env a).IsTransit id) ∨ (b.val = a.val + 1 ∧ i = 1) := by
  simp only [row] at h
  split at h
  · rename_i hdst
    have hb := congrArg Prod.fst (List.mem_singleton.1 h)
    exact .inl ⟨hb, fun htransit => htransit.1 hdst⟩
  · split at h
    · obtain ⟨hb, hi⟩ := Prod.mk.inj (List.mem_singleton.1 h)
      exact .inr ⟨congrArg Fin.val hb, hi⟩
    · exact absurd h List.not_mem_nil

/-- The row has no loop. -/
theorem row_loopFree : row.LoopFree := by
  intro id n hloop
  have hlt : ∀ a b, row.Hop id a b → a < b := by
    rintro a b ⟨htransit, i, hmem⟩
    rcases row_ends hmem with ⟨-, hlocal⟩ | ⟨hb, -⟩
    · exact absurd htransit hlocal
    · rw [Fin.lt_def, hb]
      exact Nat.lt_succ_self _
  have hself : Relation.TransGen (· < ·) n n := Relation.TransGen.mono hlt n n hloop
  rw [Relation.transGen_eq_self] at hself
  exact lt_irrefl n hself

/-- Its nodes agree. -/
theorem row_agrees : row.Agrees := by
  have haddress : ∀ n m, (row.env n).myAddress = (row.env m).myAddress → n = m := by decide
  exact ⟨fun _ _ => rfl, fun _ _ => rfl, fun _ _ => rfl, haddress⟩

/-- From node 1 to port 10 of node 3, with CRC32. -/
def rowId : CspId := .ofFields 2 1 3 10 20 cspFcrc32

/-- What is on the links when node 1 sends three bytes to node 3. -/
def rowWire : CspPacket := { cspCrc32Append .little Node.threeBytes with id := rowId }

/-- The packet goes over node 2. -/
def rowInputs : List (NetworkInput (Fin 3) cspConnMax) :=
  [.node 2 (.bind ⟨some 0, cspSoCrc32req⟩ 10), .own 0 rowId Node.threeBytes,
    .arrive 0 (1, 1) rowWire, .node 1 .route, .arrive 1 (2, 1) rowWire, .node 2 .route]

/-- **Three bytes go over a router** to a socket that requires CRC32. -/
theorem network_authentic_row : ∃ t, Run (networkStep row) OwnFits .init rowInputs t ∧
    (t.nodes 2).log.any (StackEvent.delivers cspSoCrc32req 0) = true ∧
      ∀ ev ∈ (t.nodes 2).log,
        ev.Hands (AuthenticData row t.sent 2) (AuthenticDatagram row t.sent 2) := by
  have hrun : ∃ t, Run (networkStep row) OwnFits .init rowInputs t ∧
      (t.nodes 2).log.any (StackEvent.delivers cspSoCrc32req 0) = true :=
    Run.of_any (by decide +kernel)
  obtain ⟨t, hrun, hdelivered⟩ := hrun
  exact ⟨t, hrun, hdelivered, network_authentic row_loopFree row_agrees
    Network.init_started hrun 2⟩

end LibCSP
