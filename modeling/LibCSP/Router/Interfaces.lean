/-
# Interfaces and routes

`csp_route_set` of `src/csp_route.c` adds an interface to the pool, a linked list through the
field `next` of the interfaces themselves, and enters it in `routes[]`.  It is called with whatever
the field holds, again and again with the same interface, and with `NULL` to take a route away.

Whatever the calls, the loop in `csp_route_set` ends, the pool has each interface once, in the order
of their first calls, and `csp_route_if` finds the interface of the last call for the node, or
else that of the last call for `CSP_DEFAULT_ROUTE` (`cspRouteSets_spec`).
-/

import Mathlib.Data.List.Dedup
import Mathlib.Data.List.Induction
import LibCSP.Basis.Chain
import LibCSP.Security.Wire

namespace LibCSP

open Basis

/-- `CSP_DEFAULT_ROUTE`. -/
def cspDefaultRoute : ℕ := 32

/-- `csp_route_t`; interfaces are named by numbers, and `none` is `NULL`. -/
structure CspRoute where
  interface : Option ℕ
  nexthopMacAddr : U8
  deriving DecidableEq

/-- `interfaces`, the fields `next`, and `routes[]`. -/
structure RouteTable where
  interfaces : Option ℕ
  next : ℕ → Option ℕ
  routes : ℕ → CspRoute

namespace RouteTable

/-- After `csp_route_table_init`, before there is an interface. -/
def init (next : ℕ → Option ℕ) : RouteTable := ⟨none, next, fun _ => ⟨none, 0⟩⟩

/-- The first part of `csp_route_set`: the interface is added to the pool. -/
def addInterface (fuel : ℕ) (t : RouteTable) (ifc : ℕ) : Option RouteTable :=
  match t.interfaces with
  | none => some { t with interfaces := some ifc, next := Function.update t.next ifc none }
  | some head =>
    (walk t.next ifc fuel head).map fun i =>
      if i ≠ ifc ∧ t.next i = none then
        { t with next := Function.update (Function.update t.next i (some ifc)) ifc none }
      else t

/-- A call of `csp_route_set`. -/
structure Call where
  node : U8
  ifc : Option ℕ
  nexthopMacAddr : U8

/-- The second part: the route is set. -/
def setRoute (t : RouteTable) (c : Call) : RouteTable :=
  if c.node.toNat ≤ cspDefaultRoute then
    { t with routes := Function.update t.routes c.node.toNat ⟨c.ifc, c.nexthopMacAddr⟩ }
  else t

/-- `csp_route_set`; `none` when its loop has not ended after `fuel` interfaces. -/
def cspRouteSet (fuel : ℕ) (t : RouteTable) (c : Call) : Option RouteTable :=
  match c.ifc with
  | none => some (t.setRoute c)
  | some ifc => (t.addInterface fuel ifc).map (·.setRoute c)

/-- Calls of `csp_route_set` one after another. -/
def cspRouteSets (fuel : ℕ) (t : RouteTable) (calls : List Call) : Option RouteTable :=
  calls.foldlM (cspRouteSet fuel) t

/-- `csp_route_if`. -/
def cspRouteIf (t : RouteTable) (id : ℕ) : Option CspRoute :=
  if (t.routes id).interface ≠ none then some (t.routes id)
  else if (t.routes cspDefaultRoute).interface ≠ none then some (t.routes cspDefaultRoute)
  else none

/-- The interfaces that `csp_route_print_interfaces` goes through. -/
def cspRoutePrintInterfaces (fuel : ℕ) (t : RouteTable) : Option (List ℕ) :=
  cells t.next fuel t.interfaces

/-! ### What the calls say -/

/-- The interfaces of the calls, each where it comes first. -/
def registered (calls : List Call) : List ℕ := (calls.filterMap Call.ifc).reverse.dedup.reverse

/-- The last call for a node. -/
def lastCall (calls : List Call) (node : ℕ) : Option Call :=
  calls.reverse.find? fun c => c.node.toNat = node

/-- What the last call for a node has entered. -/
def entry (calls : List Call) (node : ℕ) : CspRoute :=
  ((lastCall calls node).map fun c => ⟨c.ifc, c.nexthopMacAddr⟩).getD ⟨none, 0⟩

/-- A call registers its interface, unless it is there. -/
theorem registered_snoc (calls : List Call) (c : Call) : registered (calls ++ [c]) =
    match c.ifc with
    | none => registered calls
    | some ifc => if ifc ∈ registered calls then registered calls
      else registered calls ++ [ifc] := by
  unfold registered
  cases hc : c.ifc with
  | none => simp [List.filterMap_append, hc]
  | some ifc =>
    have hmem : ifc ∈ (calls.filterMap Call.ifc).reverse.dedup.reverse ↔
        ifc ∈ (calls.filterMap Call.ifc).reverse := by
      rw [List.mem_reverse, List.mem_dedup]
    simp only [List.filterMap_append, List.filterMap_cons, hc, List.filterMap_nil,
      List.reverse_append, List.reverse_cons, List.reverse_nil, List.nil_append,
      List.singleton_append, hmem]
    split
    · rw [List.dedup_cons_of_mem ‹_›]
    · rw [List.dedup_cons_of_notMem ‹_›, List.reverse_cons]

/-- The last call for a node. -/
theorem lastCall_snoc (calls : List Call) (c : Call) (node : ℕ) : lastCall (calls ++ [c]) node =
    if c.node.toNat = node then some c else lastCall calls node := by
  unfold lastCall
  rw [List.reverse_append, List.reverse_singleton, List.singleton_append, List.find?_cons]
  by_cases h : c.node.toNat = node
  · rw [if_pos h, decide_eq_true h]
  · rw [if_neg h, decide_eq_false h]

/-- The entry of a node. -/
theorem entry_snoc (calls : List Call) (c : Call) (node : ℕ) : entry (calls ++ [c]) node =
    if c.node.toNat = node then ⟨c.ifc, c.nexthopMacAddr⟩ else entry calls node := by
  unfold entry
  rw [lastCall_snoc]
  split <;> rfl

/-! ### The pool -/

variable {t : RouteTable} {l : List ℕ}

/-- **An interface is added once**, at the end. -/
theorem addInterface_spec (h : Chain t.next t.interfaces l) (ifc : ℕ) :
    ∃ t', (∀ fuel, l.length ≤ fuel → t.addInterface fuel ifc = some t') ∧
      Chain t'.next t'.interfaces (if ifc ∈ l then l else l ++ [ifc]) ∧ t'.routes = t.routes := by
  cases hhead : t.interfaces with
  | none =>
    rw [hhead] at h
    cases h
    refine ⟨{ t with interfaces := some ifc, next := Function.update t.next ifc none },
      fun fuel _ => ?_, ?_, rfl⟩
    · simp only [addInterface, hhead]
    · rw [if_neg List.not_mem_nil]
      refine .cons ?_
      show Chain _ (Function.update t.next ifc none ifc) []
      rw [Function.update_self]
      exact .nil
  | some head =>
    rw [hhead] at h
    have hwalk : ∀ fuel, l.length ≤ fuel → walk t.next ifc fuel head =
        if ifc ∈ l then some ifc else l.getLast? := fun fuel hfuel => h.walk_eq hfuel
    by_cases hmem : ifc ∈ l
    · refine ⟨t, fun fuel hfuel => ?_, ?_, rfl⟩
      · simp only [addInterface, hhead, hwalk fuel hfuel, if_pos hmem, Option.map_some, ne_eq,
          not_true_eq_false, false_and, if_false]
      · rw [if_pos hmem, hhead]
        exact h
    · obtain ⟨front, q, rfl⟩ : ∃ front q, l = front ++ [q] := by
        cases h with
        | @cons _ l _ =>
          exact ⟨_, _, (List.dropLast_concat_getLast (List.cons_ne_nil head l)).symm⟩
      have hlast : t.next q = none := h.next_last
      have hq : q ≠ ifc := fun heq => hmem (heq ▸ List.mem_append_right _ List.mem_cons_self)
      refine ⟨{ t with
        next := Function.update (Function.update t.next q (some ifc)) ifc none },
        fun fuel hfuel => ?_, ?_, rfl⟩
      · simp only [addInterface, hhead, hwalk fuel hfuel, if_neg hmem, List.getLast?_concat,
          Option.map_some, ne_eq, hq, not_false_eq_true, hlast, and_self, if_true]
      · rw [if_neg hmem, hhead, List.append_assoc]
        exact h.append hmem

/-- The table after calls: the pool, and the routes. -/
structure Holds (t : RouteTable) (calls : List Call) : Prop where
  pool : Chain t.next t.interfaces (registered calls)
  routes : ∀ node ≤ cspDefaultRoute, t.routes node = entry calls node

/-- `csp_route_set` writes one entry. -/
theorem setRoute_routes (t : RouteTable) (c : Call) {node : ℕ} (hnode : node ≤ cspDefaultRoute) :
    (t.setRoute c).routes node =
      if c.node.toNat = node then ⟨c.ifc, c.nexthopMacAddr⟩ else t.routes node := by
  unfold setRoute
  split
  · by_cases h : c.node.toNat = node
    · rw [if_pos h, h]
      exact Function.update_self ..
    · rw [if_neg h]
      exact Function.update_of_ne (Ne.symm h) ..
  · rw [if_neg (by omega)]

/-- **One call.** -/
theorem Holds.step {calls : List Call} (h : Holds t calls) (c : Call) :
    ∃ t', (∀ fuel, (registered calls).length ≤ fuel → t.cspRouteSet fuel c = some t') ∧
      Holds t' (calls ++ [c]) := by
  have hroutes : ∀ t₁ : RouteTable, t₁.routes = t.routes → ∀ node ≤ cspDefaultRoute,
      (t₁.setRoute c).routes node = entry (calls ++ [c]) node := by
    intro t₁ ht₁ node hnode
    rw [setRoute_routes t₁ c hnode, entry_snoc, ht₁, h.routes node hnode]
  have hpool : ∀ t₁ : RouteTable, (t₁.setRoute c).next = t₁.next ∧
      (t₁.setRoute c).interfaces = t₁.interfaces := by
    intro t₁
    unfold setRoute
    split <;> exact ⟨rfl, rfl⟩
  cases hc : c.ifc with
  | none =>
    refine ⟨t.setRoute c, fun fuel _ => ?_, ?_, hroutes t rfl⟩
    · simp only [cspRouteSet, hc]
    · rw [(hpool t).1, (hpool t).2, registered_snoc, hc]
      exact h.pool
  | some ifc =>
    obtain ⟨t₁, hadd, hchain, hsame⟩ := addInterface_spec h.pool ifc
    refine ⟨t₁.setRoute c, fun fuel hfuel => ?_, ?_, hroutes t₁ hsame⟩
    · simp only [cspRouteSet, hc, hadd fuel hfuel, Option.map_some]
    · rw [(hpool t₁).1, (hpool t₁).2, registered_snoc, hc]
      exact hchain

/-- The pool only grows. -/
theorem registered_length_snoc (calls : List Call) (c : Call) :
    (registered calls).length ≤ (registered (calls ++ [c])).length := by
  rw [registered_snoc]
  split
  · exact Nat.le_refl _
  · split
    · exact Nat.le_refl _
    · rw [List.length_append]
      exact Nat.le_add_right _ _

/-- **Calls one after another.** -/
theorem cspRouteSets_holds (next : ℕ → Option ℕ) (calls : List Call) :
    ∃ t, (∀ fuel, (registered calls).length ≤ fuel →
      cspRouteSets fuel (init next) calls = some t) ∧ Holds t calls := by
  induction calls using List.reverseRecOn with
  | nil => exact ⟨init next, fun _ _ => rfl, .nil, fun _ _ => rfl⟩
  | append_singleton calls c ih =>
    obtain ⟨t, hset, hholds⟩ := ih
    obtain ⟨t', hstep, hholds'⟩ := hholds.step c
    refine ⟨t', fun fuel hfuel => ?_, hholds'⟩
    have hfuel := (registered_length_snoc calls c).trans hfuel
    unfold cspRouteSets at hset ⊢
    rw [List.foldlM_append, hset fuel hfuel]
    show ([c].foldlM (cspRouteSet fuel) t) = some t'
    rw [List.foldlM_cons, hstep fuel hfuel]
    rfl

/-- The route of the last call for a node, if it has an interface. -/
def routeOf (calls : List Call) (node : ℕ) : Option CspRoute :=
  if (entry calls node).interface ≠ none then some (entry calls node) else none

/-- **The routing table after any calls of `csp_route_set`**, on interfaces with any fields `next`:
the calls end, the pool has each interface once in the order of first calls, and a node's route is
that of the last call for it, or else the default route. -/
theorem cspRouteSets_spec (next : ℕ → Option ℕ) (calls : List Call) :
    ∃ t, (∀ fuel, (registered calls).length ≤ fuel →
        cspRouteSets fuel (init next) calls = some t ∧
          t.cspRoutePrintInterfaces fuel = some (registered calls)) ∧
      ∀ id : BitVec 5, t.cspRouteIf id.toNat =
        (routeOf calls id.toNat).or (routeOf calls cspDefaultRoute) := by
  obtain ⟨t, hset, hholds⟩ := cspRouteSets_holds next calls
  refine ⟨t, fun fuel hfuel => ⟨hset fuel hfuel, hholds.pool.cells_eq hfuel⟩, fun id => ?_⟩
  have hid : id.toNat ≤ cspDefaultRoute := by
    have := id.isLt
    unfold cspDefaultRoute
    omega
  unfold cspRouteIf routeOf
  rw [hholds.routes _ hid, hholds.routes _ (Nat.le_refl _)]
  split <;> rfl

/-- Two interfaces, one of them entered twice and then taken away from a node. -/
example : (cspRouteSets 2 (init fun _ => some 9) [⟨3, some 7, 1⟩, ⟨32, some 8, 2⟩, ⟨4, some 7, 3⟩,
    ⟨3, none, 0⟩]).map (fun t => (t.cspRoutePrintInterfaces 2, t.cspRouteIf 3, t.cspRouteIf 4)) =
      some (some [7, 8], some ⟨some 8, 2⟩, some ⟨some 7, 3⟩) := by decide

/-! ### The table as the other modules see it -/

/-- `routes[]` with what `csp_send_direct` reads of the interfaces. -/
def toRoutes (t : RouteTable) (iface : ℕ → CspIface) : Routes :=
  ⟨fun id => (t.routes id.toNat).interface.map iface,
    (t.routes cspDefaultRoute).interface.map iface⟩

/-- The table as the routes that a node of the other modules has. -/
theorem cspRouteIf_toRoutes (t : RouteTable) (iface : ℕ → CspIface) (id : BitVec 5) :
    LibCSP.cspRouteIf (t.toRoutes iface) id =
      (t.cspRouteIf id.toNat).bind fun route => route.interface.map iface := by
  unfold LibCSP.cspRouteIf toRoutes cspRouteIf
  cases hid : (t.routes id.toNat).interface with
  | some i => simp [hid]
  | none =>
    cases hdefault : (t.routes cspDefaultRoute).interface with
    | some i => simp [hid, hdefault]
    | none => simp [hid]

end RouteTable

end LibCSP
