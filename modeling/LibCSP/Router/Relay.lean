/-
# Packets reach their destination

`LibCSP.Router.Network` says what user space can get.  This module says that a packet can get
there: in a network without routing loops, whose nodes have different addresses, let the
packet pass and have a route for it that works, a packet on a link comes to a node that it is for,
when the links and the routers take turns and no other packet is in the way.  It takes each
of them at most once for each node (`network_delivers`).  Byte orders and keys do not matter,
since a router leaves the packet as it is (`Carried`).
-/

import Mathlib.Data.Fintype.Card
import LibCSP.Router.Network

namespace LibCSP

open Basis

/-! ### A node with nothing to do -/

section Node

variable {N : ℕ} {e : StackEnv} {s s₁ : Stack N} {input : CspRouteQueue}

/-- No packet and no event waits. -/
structure Stack.Quiet (s : Stack N) : Prop where
  fifo : ∀ prio, s.routerInputFifo prio = Queue.empty
  event : s.routerInputEvent = Queue.empty

/-- A step through which nothing goes leaves a router quiet. -/
theorem Through.quiet_iff {s' : Stack N} {ps : List Passage} (h : Through s s' ps) :
    s'.Quiet ↔ s.Quiet :=
  ⟨fun hq => ⟨h.fifo ▸ hq.fifo, h.event ▸ hq.event⟩,
    fun hq => ⟨h.fifo.symm ▸ hq.fifo, h.event.symm ▸ hq.event⟩⟩

/-- The input queues hold this packet and its event. -/
structure Stack.HasOnly (s : Stack N) (input : CspRouteQueue) : Prop where
  fifo : (s.routerInputFifo (cspConnGetRxq input.packet.id.pri)).items = [input]
  others : ∀ prio, prio ≠ cspConnGetRxq input.packet.id.pri →
    (s.routerInputFifo prio).items = []
  event : s.routerInputEvent.items = [()]

/-- A quiet router that gets a packet has only this one. -/
theorem Stack.Quiet.newPacket (h : s.Quiet) (input : CspRouteQueue) :
    (cspNewPacket input s).HasOnly input ∧ (cspNewPacket input s).passages = s.passages := by
  refine ⟨?_, (cspNewPacket_waits input s).1⟩
  have hlt : ([] : List CspRouteQueue).length < cspFifoInput := Nat.le_of_ble_eq_true rfl
  have hlt' : ([] : List Unit).length < cspFifoInput := Nat.le_of_ble_eq_true rfl
  obtain ⟨q, hq, hitems⟩ : ∃ q, (s.routerInputFifo (cspConnGetRxq input.packet.id.pri)).enqueue
      input = some q ∧ q.items = [input] := by
    rw [h.fifo]
    exact ⟨⟨[input], hlt⟩, Queue.enqueue_eq_some.2 ⟨hlt, rfl⟩, rfl⟩
  obtain ⟨ev, hev, hevents⟩ : ∃ ev, s.routerInputEvent.enqueue () = some ev ∧
      ev.items = [()] := by
    rw [h.event]
    exact ⟨⟨[()], hlt'⟩, Queue.enqueue_eq_some.2 ⟨hlt', rfl⟩, rfl⟩
  unfold cspNewPacket
  simp only [hq, hev]
  constructor
  · show (Function.update s.routerInputFifo _ q _).items = [input]
    rw [Function.update_self, hitems]
  · intro prio hprio
    show (Function.update s.routerInputFifo _ q prio).items = []
    rw [Function.update_of_ne hprio, h.fifo]
    rfl
  · exact hevents

/-- **The router takes the only packet**, and nothing waits any more. -/
theorem Stack.HasOnly.nextPacket (h : s.HasOnly input) :
    ∃ s₁, cspRouteNextPacket s = (some input, s₁) ∧ s₁.Quiet ∧ s₁.passages = s.passages := by
  generalize hk : cspConnGetRxq input.packet.id.pri = k at h
  have hfind : (List.finRange cspPriorities).find?
      (fun prio => (s.routerInputFifo prio).size ≠ 0) = some k := by
    cases hfind : (List.finRange cspPriorities).find?
        (fun prio => (s.routerInputFifo prio).size ≠ 0) with
    | none =>
      have hzero := List.find?_eq_none.1 hfind k (List.mem_finRange k)
      rw [decide_eq_true_iff, not_not, Queue.size, ← hk, h.fifo] at hzero
      cases hzero
    | some j =>
      have hfound := List.find?_some hfind
      have hsize : (s.routerInputFifo j).size ≠ 0 := of_decide_eq_true hfound
      by_contra hne
      refine hsize ?_
      rw [Queue.size, h.others j fun hj => hne (congrArg some (hj.trans hk))]
      rfl
  obtain ⟨q, hd, hq, -⟩ := Queue.dequeue_of_items [] (hk ▸ h.fifo)
  obtain ⟨ev, hdev, hev, -⟩ := Queue.dequeue_of_items [] h.event
  refine ⟨{ s with
    routerInputEvent := ev
    routerInputFifo := Function.update s.routerInputFifo k q }, ?_, ⟨fun j => ?_, ?_⟩, rfl⟩
  · unfold cspRouteNextPacket
    simp only [hdev, hfind, hd]
  · refine Queue.ext_items ?_
    show (Function.update s.routerInputFifo k q j).items = []
    by_cases hj : j = k
    · subst hj
      rw [Function.update_self, hq]
    · rw [Function.update_of_ne hj]
      exact h.others j fun heq => hj (heq.trans hk)
  · exact Queue.ext_items hev

end Node

/-! ### From link to link -/

section Relay

variable {ν : Type*} [DecidableEq ν] {N : ℕ} [NeZero N] {x : Wiring ν} {s : Network ν N}

def Network.Quiet (s : Network ν N) : Prop := ∀ n, (s.nodes n).Quiet

omit [DecidableEq ν] [NeZero N] in
/-- A packet comes out of a link, or the router of a node goes round once. -/
def NetworkInput.Carries : NetworkInput ν N → Prop
  | .arrive _ _ _ => True
  | .node _ .route => True
  | _ => False

/-- Every link comes out somewhere for this packet, and where it comes out at a node that it is
not for, the node passes it on. -/
structure Wiring.Conveys (x : Wiring ν) (p : CspPacket) : Prop where
  ends : ∀ n, x.ends n p.id.dst ≠ []
  relays : ∀ n m i, (m, i) ∈ x.ends n p.id.dst → (x.env m).IsTransit p.id →
    (x.env m).Relays ⟨i, p⟩

/-- Between these states the packet has come to a node that it is for, and the router has taken
it there. -/
def Network.Reaches (x : Wiring ν) (p : CspPacket) (s u : Network ν N) : Prop :=
  ∃ n, ¬ (x.env n).IsTransit p.id ∧ (u.nodes n).passages = (s.nodes n).passages ++ [.took p]

omit [DecidableEq ν] [NeZero N] in
/-- The nodes that the packet is not for do not count. -/
theorem Network.Reaches.after {p : CspPacket} {t u : Network ν N} {m : ν} (h : u.Reaches x p t)
    (htransit : (x.env m).IsTransit p.id) (hother : ∀ j, j ≠ m → u.nodes j = s.nodes j) :
    s.Reaches x p t := by
  obtain ⟨n, hlocal, hn⟩ := h
  refine ⟨n, hlocal, ?_⟩
  rw [hn, hother n fun heq => hlocal (heq ▸ htransit)]

/-- **A packet goes over a link** and, if it is not for the node there, to the next link. -/
theorem conveyed_link {k : ℕ} {n m : ν} {i : ℕ} {p : CspPacket} (hquiet : s.Quiet)
    (hf : s.air[k]? = some ⟨n, p⟩) (hgate : (m, i) ∈ x.ends n p.id.dst)
    (hrelay : (x.env m).IsTransit p.id →
      (x.env m).Relays ⟨i, p⟩ ∧ p.id.src ≠ (x.env m).myAddress) :
    ∃ u : Network ν N, Run (networkStep x) (fun _ i => i.Carries) s
      [.arrive k (m, i) p, .node m .route] u ∧
      u.Quiet ∧ (∀ j, j ≠ m → u.nodes j = s.nodes j) ∧
      (¬ (x.env m).IsTransit p.id → s.Reaches x p u) ∧
      ((x.env m).IsTransit p.id → ∃ k' : ℕ, u.air[k']? = some ⟨m, p⟩) := by
  obtain ⟨s₁, hs₁⟩ : ∃ s₁, s₁ = s.setNode m (cspNewPacket ⟨i, p⟩ (s.nodes m)) := ⟨_, rfl⟩
  have hself : s₁.nodes m = cspNewPacket ⟨i, p⟩ (s.nodes m) := by
    rw [hs₁]
    exact Function.update_self ..
  obtain ⟨honly, hpassages⟩ := (hquiet m).newPacket ⟨i, p⟩
  obtain ⟨t, hnext, htquiet, htpassages⟩ := honly.nextPacket
  obtain ⟨wire, hthrough, hlocal, hwire⟩ := vTaskCSPRouter_passes (e := x.env m) hnext
  have harrive : networkStep x s (.arrive k (m, i) p) = some s₁ := by
    simp only [networkStep, hf]
    rw [if_pos ⟨hgate, rfl, rfl, rfl⟩, hs₁]
  rw [← hself] at hthrough
  have hps : (vTaskCSPRouter (x.env m) (s₁.nodes m)).passages =
      (s₁.nodes m).passages ++ .took p :: wire.toList.map .gave := by
    rw [hthrough.passages, htpassages, hself]
  obtain ⟨u, hu⟩ : ∃ u, u = (s₁.setNode m (vTaskCSPRouter (x.env m) (s₁.nodes m))).put m
      wire.toList := ⟨_, rfl⟩
  have hroute : networkStep x s₁ (.node m .route) = some u := by
    have hgiven : (wire.toList.map Passage.gave).filterMap Passage.given = wire.toList := by
      cases wire <;> rfl
    simp only [networkStep, nodeStep, stackStep, Option.map_some]
    rw [hps, List.drop_left, List.filterMap_cons, Passage.given, hgiven, hu]
  have hnode : u.nodes m = vTaskCSPRouter (x.env m) (s₁.nodes m) := by
    rw [hu]
    exact Function.update_self ..
  have hother : ∀ j, j ≠ m → u.nodes j = s.nodes j := by
    intro j hj
    rw [hu, hs₁]
    exact (Function.update_of_ne hj ..).trans (Function.update_of_ne hj ..)
  refine ⟨u, .cons trivial harrive (.cons trivial hroute .nil), fun j => ?_, hother,
    fun hnot => ?_, fun htransit => ?_⟩
  · by_cases hj : j = m
    · subst hj
      rw [hnode]
      exact hthrough.quiet_iff.2 htquiet
    · rw [hother j hj]
      exact hquiet j
  · refine ⟨m, hnot, ?_⟩
    rw [hnode, hps, hself, hpassages]
    cases wire with
    | none => rfl
    | some q => exact absurd (hlocal q rfl).1 hnot
  · obtain ⟨hrelays, hforeign⟩ := hrelay htransit
    obtain rfl := hwire hrelays hforeign
    refine ⟨s.air.length, ?_⟩
    rw [hu, hs₁]
    exact List.getElem?_concat_length

/-- A packet that other nodes have forwarded up to here goes on until it is there. -/
theorem conveyed_from [Fintype ν] {g : Origin ν} {p : CspPacket} (hloop : x.LoopFree)
    (hdistinct : x.Distinct) (hsrc : g.idout.src = (x.env g.node).myAddress) (hid : p.id = g.idout)
    (hconveys : x.Conveys p) (d : ℕ) {visited : Finset ν} {k : ℕ} {n : ν}
    (hd : Fintype.card ν ≤ visited.card + d)
    (hvisited : ∀ v ∈ visited, Relation.TransGen (x.Hop p.id) v n)
    (htransit : (x.env n).IsTransit p.id) (hcomes : g.Comes x n) (hquiet : s.Quiet)
    (hf : s.air[k]? = some ⟨n, p⟩) :
    ∃ is u, Run (networkStep x) (fun _ i => i.Carries) s is u ∧ is.length ≤ 2 * d ∧
      s.Reaches x p u := by
  induction d generalizing s visited k n with
  | zero =>
    -- the node itself is not among those that were visited
    have hall : visited = Finset.univ := by
      refine Finset.eq_univ_of_card visited (Nat.le_antisymm (Finset.card_le_univ _) ?_)
      omega
    exact absurd (hvisited n (hall ▸ Finset.mem_univ n)) (hloop _ _)
  | succ d ih =>
    obtain ⟨⟨m, i⟩, hgate⟩ := List.exists_mem_of_ne_nil _ (hconveys.ends n)
    have hhop : x.Hop p.id n m := ⟨htransit, i, hgate⟩
    have hleaves : g.Leaves x n := .inr ⟨hid ▸ htransit, hcomes⟩
    have hcomes' : g.Comes x m := hleaves.comes (hid ▸ hgate)
    obtain ⟨u, hrun, huquiet, hother, hreached, hair⟩ := conveyed_link hquiet hf hgate
      fun htransit' =>
      ⟨hconveys.relays n m i hgate htransit', by
        rw [hid]
        exact hcomes'.foreign hloop hdistinct hsrc (hid ▸ htransit')⟩
    by_cases htransit' : (x.env m).IsTransit p.id
    · obtain ⟨k', hk'⟩ := hair htransit'
      have hnew : n ∉ visited := fun hmem => hloop _ _ (hvisited n hmem)
      have hd' : Fintype.card ν ≤ (insert n visited).card + d := by
        rw [Finset.card_insert_of_notMem hnew]
        omega
      obtain ⟨is, t, hrun', hlen, ht⟩ := ih hd' (fun v hv => by
        rcases Finset.mem_insert.1 hv with rfl | hv
        · exact .single hhop
        · exact (hvisited v hv).tail hhop) htransit' hcomes' huquiet hk'
      refine ⟨_, t, hrun.trans hrun', ?_, ht.after htransit' hother⟩
      rw [List.length_append, List.length_cons, List.length_singleton]
      omega
    · refine ⟨_, u, hrun, ?_, hreached htransit'⟩
      rw [List.length_cons, List.length_singleton]
      omega

/-- **A packet on a link can reach its destination**, from every state that a network without
routing loops can come to: if no other packet waits at a router, and the nodes convey this
one, some `2 * (n + 1)` steps of links and routers are enough, where `n` is the number of
nodes.  What arrives is what was sent. -/
theorem network_delivers [Fintype ν] {is : List (NetworkInput ν N)} {s t : Network ν N}
    {f : Transfer ν} (hloop : x.LoopFree) (hdistinct : x.Distinct) (hs : s.Started)
    (hrun : Run (networkStep x) (fun _ _ => True) s is t) (hquiet : t.Quiet) (hf : f ∈ t.air)
    (hconveys : x.Conveys f.packet) : ∃ is' u, Run (networkStep x) (fun _ i => i.Carries) t is' u ∧
      is'.length ≤ 2 * (Fintype.card ν + 1) ∧ t.Reaches x f.packet u ∧
        ∃ g ∈ t.sent, Transparent (g.wire x) f.packet := by
  obtain ⟨k, hk⟩ := List.mem_iff_getElem?.1 hf
  have hok : Carried x t := hrun.invariant (P := Carried x)
    (fun _ _ _ hs _ hst => hs.step hloop hdistinct hst) hs.carried
  obtain ⟨g, hg, hwire, hleaves⟩ := hok.air f hf
  have hsrc := hok.sent g hg
  have hid : f.packet.id = g.idout := hwire.id
  obtain ⟨⟨m, i⟩, hgate⟩ := List.exists_mem_of_ne_nil _ (hconveys.ends f.node)
  have hcomes : g.Comes x m := hleaves.comes (hid ▸ hgate)
  obtain ⟨u, hrun₁, huquiet, hother, hreached, hair⟩ := conveyed_link hquiet hk hgate
    fun htransit =>
    ⟨hconveys.relays f.node m i hgate htransit, by
      rw [hid]
      exact hcomes.foreign hloop hdistinct hsrc (hid ▸ htransit)⟩
  by_cases htransit : (x.env m).IsTransit f.packet.id
  · obtain ⟨k', hk'⟩ := hair htransit
    obtain ⟨is', v, hrun₂, hlen, hv⟩ := conveyed_from hloop hdistinct hsrc hid hconveys
      (Fintype.card ν) (Nat.le_add_left _ (∅ : Finset ν).card)
      (fun v hv => absurd hv (Finset.notMem_empty v)) htransit hcomes huquiet hk'
    refine ⟨_, v, hrun₁.trans hrun₂, ?_, hv.after htransit hother, g, hg, hwire⟩
    rw [List.length_append, List.length_cons, List.length_singleton]
    omega
  · refine ⟨_, u, hrun₁, ?_, hreached htransit, g, hg, hwire⟩
    rw [List.length_cons, List.length_singleton]
    omega

end Relay

/-- The three nodes in a row convey the packet from the first to the last one. -/
theorem row_conveys : row.Conveys rowWire := by
  refine ⟨by decide, fun n m i hmem htransit => ?_⟩
  rcases row_ends hmem with ⟨rfl, hlocal⟩ | ⟨-, rfl⟩
  · exact absurd htransit hlocal
  · refine ⟨htransit, nofun, fun tick => ⟨_, _, rfl, rfl, rfl, ?_⟩, fun tick => .inl ?_⟩
    · exact fun hmtu => absurd hmtu.1 (by decide)
    · exact Nat.zero_ne_one

/-- What a node sends of its own goes past its router. -/
theorem Network.Quiet.own {ν : Type*} [DecidableEq ν] {N : ℕ} [NeZero N] {x : Wiring ν}
    {s t : Network ν N} {n : ν} {idout : CspId} {packet : CspPacket} (h : s.Quiet)
    (hstep : networkStep x s (.own n idout packet) = some t) : t.Quiet := by
  rw [networkStep] at hstep
  split at hstep
  · obtain rfl := Option.some.inj hstep
    intro m
    show (Function.update s.nodes n (s.nodes n).next m).Quiet
    by_cases hm : m = n
    · rw [hm, Function.update_self]
      exact ⟨(h n).fifo, (h n).event⟩
    · rw [Function.update_of_ne hm]
      exact h m
  · cases hstep

/-- Node 1 has sent three bytes to node 3, and they can get there. -/
theorem network_delivers_row : ∃ t : Network (Fin 3) cspConnMax,
    Run (networkStep row) (fun _ _ => True) .init [.own 0 rowId Node.threeBytes] t ∧
      ∃ is' u, Run (networkStep row) (fun _ i => i.Carries) t is' u ∧
        is'.length ≤ 2 * (Fintype.card (Fin 3) + 1) ∧ t.Reaches row rowWire u ∧
          ∃ g ∈ t.sent, Transparent (g.wire row) rowWire := by
  have hinit : (Network.init : Network (Fin 3) cspConnMax).Quiet := fun _ => ⟨fun _ => rfl, rfl⟩
  obtain ⟨t, ht, hair⟩ : ∃ t, networkStep row (Network.init : Network (Fin 3) cspConnMax)
      (.own 0 rowId Node.threeBytes) = some t ∧ ⟨0, rowWire⟩ ∈ t.air :=
    ⟨_, rfl, List.mem_cons_self⟩
  have hrun : Run (networkStep row) (fun _ _ => True) .init [.own 0 rowId Node.threeBytes] t :=
    .cons trivial ht .nil
  exact ⟨t, hrun, network_delivers (f := ⟨0, rowWire⟩) row_loopFree row_agrees.address
    Network.init_started hrun (hinit.own ht) hair row_conveys⟩

end LibCSP
