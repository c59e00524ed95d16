/-
# The search for an ephemeral port

`csp_connect` counts `sport` up from the port last used, back to `CSP_MAX_BIND_PORT + 1` behind
`CSP_ID_PORT_MAX`, until it finds a port that no open connection has, or comes back to where it
began.  The rounds are numbered: round `k` looks at `portAt start (k + 1)` (`sportSearch_round`),
and the test for the end is met in round 47 only (`portAt_add_one`).

There `sport` is counted up before it is set back, so the test is never met by a search that began
at `CSP_MAX_BIND_PORT + 1` and goes on for ever if all ports are taken.  The port it began with
is looked at only by such a search, and is then mistaken for the end.  So the search is right
exactly if another port is free, or none is and it began elsewhere (`connectPort_right_iff`).
-/

import LibCSP.Router.Traced

namespace LibCSP

open Basis

/-! ### Rounds -/

/-- The port that is looked at in round `k`, counted from one, of a search from `start`. -/
def portAt (start : U8) (k : ℕ) : U8 := BitVec.ofNat 8 (16 + (start.toNat - 16 + k) % 48)

/-- The port after `k` rounds. -/
theorem portAt_toNat (start : U8) (k : ℕ) :
    (portAt start k).toNat = 16 + (start.toNat - 16 + k) % 48 := by
  have hlt := Nat.mod_lt (start.toNat - 16 + k) (show 0 < 48 by decide)
  rw [portAt, BitVec.toNat_ofNat]
  exact Nat.mod_eq_of_lt (by omega)

/-- It is an ephemeral one. -/
theorem portAt_ephemeral (start : U8) (k : ℕ) : EphemeralPort (portAt start k) := by
  have hlt := Nat.mod_lt (start.toNat - 16 + k) (show 0 < 48 by decide)
  rw [EphemeralPort, portAt_toNat]
  exact ⟨Nat.le_add_right 16 _, by rw [cspIdPortMax]; omega⟩

/-- The first round takes the next port. -/
theorem portAt_zero {start : U8} (h : EphemeralPort start) : portAt start 0 = start := by
  have hlo : 16 ≤ start.toNat := h.1
  have hhi : start.toNat ≤ 63 := h.2
  apply BitVec.eq_of_toNat_eq
  rw [portAt_toNat]
  omega

/-- In its 48 rounds the search meets every ephemeral port. -/
theorem exists_portAt {start p : U8} (hstart : EphemeralPort start) (hp : EphemeralPort p) :
    ∃ k, k < 48 ∧ portAt start k = p := by
  have hlo : 16 ≤ p.toNat := hp.1
  have hhi : p.toNat ≤ 63 := hp.2
  have hlo' : 16 ≤ start.toNat := hstart.1
  have hhi' : start.toNat ≤ 63 := hstart.2
  refine ⟨(p.toNat + 48 - start.toNat) % 48, Nat.mod_lt _ (by decide), ?_⟩
  apply BitVec.eq_of_toNat_eq
  rw [portAt_toNat]
  omega

/-- Other rounds than the first look at other ports. -/
theorem portAt_ne_start {start : U8} (hstart : EphemeralPort start) {k : ℕ} (hpos : 0 < k)
    (hk : k < 48) : portAt start k ≠ start := by
  have hlo : 16 ≤ start.toNat := hstart.1
  have hhi : start.toNat ≤ 63 := hstart.2
  intro h
  have htoNat := congrArg BitVec.toNat h
  rw [portAt_toNat] at htoNat
  omega

/-- `sport` is set back behind the last port. -/
theorem portAt_succ (start : U8) (k : ℕ) :
    (if cspIdPortMax < (portAt start k + 1).toNat then BitVec.ofNat 8 (cspMaxBindPort + 1)
      else portAt start k + 1) = portAt start (k + 1) := by
  have hlt := Nat.mod_lt (start.toNat - 16 + k) (show 0 < 48 by decide)
  have hsucc : (portAt start k + 1).toNat = 16 + (start.toNat - 16 + k) % 48 + 1 := by
    rw [BitVec.toNat_add, portAt_toNat]
    exact Nat.mod_eq_of_lt (show 16 + (start.toNat - 16 + k) % 48 + 1 < 2 ^ 8 by omega)
  apply BitVec.eq_of_toNat_eq
  rw [portAt_toNat, apply_ite BitVec.toNat, hsucc, cspIdPortMax]
  split
  · show 16 = _
    omega
  · omega

/-- **The test for the end** is met before round 48 is, and never by a search that began at the
lowest port. -/
theorem portAt_add_one {start : U8} (hstart : EphemeralPort start) (k : ℕ) :
    portAt start k + 1 = start ↔ k % 48 = 47 ∧ start ≠ 16 := by
  have hlo : 16 ≤ start.toNat := hstart.1
  have hhi : start.toNat ≤ 63 := hstart.2
  have hlt := Nat.mod_lt (start.toNat - 16 + k) (show 0 < 48 by decide)
  have hsixteen : start = 16 ↔ start.toNat = 16 := (BitVec.toNat_inj (y := 16)).symm
  rw [← BitVec.toNat_inj, BitVec.toNat_add, portAt_toNat, ne_eq, hsixteen]
  show (16 + (start.toNat - 16 + k) % 48 + 1) % 2 ^ 8 = _ ↔ _
  omega

variable (isFree : U8 → Bool) (start : U8)

/-- A round of the loop. -/
theorem sportSearch_round (n k : ℕ) :
    sportSearch isFree start (n + 1) (portAt start k) =
      if portAt start k + 1 = start then some start
      else if isFree (portAt start (k + 1)) then some (portAt start (k + 1))
      else sportSearch isFree start n (portAt start (k + 1)) := by
  rw [sportSearch]
  simp only [portAt_succ]
  split
  · rename_i h
    rw [h]
  · rfl

/-- Rounds that find nothing. -/
theorem sportSearch_skip (n k m : ℕ)
    (hend : ∀ j, k ≤ j → j < k + m → portAt start j + 1 ≠ start)
    (hfree : ∀ j, k < j → j ≤ k + m → isFree (portAt start j) = false) :
    sportSearch isFree start (n + m) (portAt start k) =
      sportSearch isFree start n (portAt start (k + m)) := by
  induction m generalizing k with
  | zero => rfl
  | succ m ih =>
    rw [← Nat.add_assoc, sportSearch_round, if_neg (hend k (Nat.le_refl k) (by omega)),
      if_neg (by rw [hfree (k + 1) (by omega) (by omega)]; exact Bool.false_ne_true),
      ih (k + 1) (fun j hj hj' => hend j (by omega) (by omega))
        (fun j hj hj' => hfree j (by omega) (by omega)),
      show k + 1 + m = k + (m + 1) by omega]

variable {isFree} {start : U8}

/-- **Another free port is found**, and it is not the one that the search began with. -/
theorem sportSearch_finds (hstart : EphemeralPort start)
    (h : ∃ p, EphemeralPort p ∧ isFree p = true ∧ p ≠ start) {n : ℕ} (hn : 48 ≤ n) :
    ∃ p, sportSearch isFree start n start = some p ∧ EphemeralPort p ∧ isFree p = true ∧
      p ≠ start := by
  obtain ⟨p, hp, hfree, hne⟩ := h
  obtain ⟨k, hk, rfl⟩ := exists_portAt hstart hp
  have hex : ∃ j, 0 < j ∧ isFree (portAt start j) = true := by
    refine ⟨k, Nat.pos_of_ne_zero ?_, hfree⟩
    rintro rfl
    exact hne (portAt_zero hstart)
  -- the first round that looks at a free port
  obtain ⟨hpos, hfirst⟩ := Nat.find_spec hex
  have hle : Nat.find hex ≤ k := by
    refine Nat.find_min' hex ⟨Nat.pos_of_ne_zero ?_, hfree⟩
    rintro rfl
    exact hne (portAt_zero hstart)
  obtain ⟨m, hm⟩ : ∃ m, Nat.find hex = m + 1 := ⟨Nat.find hex - 1, by omega⟩
  refine ⟨portAt start (m + 1), ?_, portAt_ephemeral _ _, hm ▸ hfirst,
    portAt_ne_start hstart (Nat.succ_pos m) (by omega)⟩
  have hskip := sportSearch_skip isFree start (n - m) 0 m
    (fun j _ hj => by rw [ne_eq, portAt_add_one hstart]; omega)
    (fun j hj hj' => by
      have hmin := Nat.find_min hex (show j < Nat.find hex by omega)
      exact Bool.eq_false_of_not_eq_true fun hj'' => hmin ⟨hj, hj''⟩)
  rw [Nat.sub_add_cancel (by omega), portAt_zero hstart, Nat.zero_add] at hskip
  rw [hskip, show n - m = n - m - 1 + 1 by omega, sportSearch_round,
    if_neg (by rw [portAt_add_one hstart]; omega), ← hm, if_pos hfirst]

/-- Where no other port is free the first 47 rounds find nothing. -/
theorem sportSearch_others (hstart : EphemeralPort start)
    (h : ∀ p, EphemeralPort p → isFree p = true → p = start) (n : ℕ) :
    sportSearch isFree start (n + 47) start = sportSearch isFree start n (portAt start 47) := by
  have hskip := sportSearch_skip isFree start n 0 47
    (fun j _ hj => by rw [ne_eq, portAt_add_one hstart]; omega)
    (fun j hj hj' => Bool.eq_false_of_not_eq_true fun hfree =>
      portAt_ne_start hstart hj (by omega) (h _ (portAt_ephemeral _ _) hfree))
  rwa [portAt_zero hstart] at hskip

/-- **The search comes back to where it began**, unless it began at the lowest port. -/
theorem sportSearch_back (hstart : EphemeralPort start) (hlow : start ≠ 16)
    (h : ∀ p, EphemeralPort p → isFree p = true → p = start) {n : ℕ} (hn : 48 ≤ n) :
    sportSearch isFree start n start = some start := by
  have hothers := sportSearch_others hstart h (n - 47)
  rw [Nat.sub_add_cancel (by omega)] at hothers
  rw [hothers, show n - 47 = n - 48 + 1 by omega, sportSearch_round,
    if_pos ((portAt_add_one hstart 47).2 ⟨rfl, hlow⟩)]

/-- A search that began at the lowest port looks at it last. -/
theorem sportSearch_lowest (h : ∀ p, EphemeralPort p → isFree p = true → p = 16)
    (hfree : isFree 16 = true) {n : ℕ} (hn : 48 ≤ n) : sportSearch isFree 16 n 16 = some 16 := by
  have hothers := sportSearch_others (by decide) h (n - 47)
  rw [Nat.sub_add_cancel (by omega)] at hothers
  rw [hothers, show n - 47 = n - 48 + 1 by omega, sportSearch_round,
    if_neg (by rw [portAt_add_one (by decide)]; exact fun hend => hend.2 rfl)]
  exact if_pos hfree

/-- **And it does not end** if that port is taken as well. -/
theorem sportSearch_endless (isFree : U8 → Bool) (h : ∀ p, EphemeralPort p → isFree p = false)
    (n : ℕ) : sportSearch isFree 16 n 16 = none := by
  have hskip := sportSearch_skip isFree 16 0 0 n
    (fun j _ _ => by rw [ne_eq, portAt_add_one (by decide)]; exact fun hend => hend.2 rfl)
    (fun j _ _ => h _ (portAt_ephemeral _ _))
  rw [Nat.zero_add, portAt_zero (by decide)] at hskip
  exact hskip

/-! ### `csp_connect` -/

variable {N : ℕ}

/-- No open connection has this port. -/
def Stack.PortFree (s : Stack N) (p : U8) : Prop :=
  ∀ i, (s.conns i).state = .connOpen → (s.conns i).idin.dport ≠ p.setWidth 6

instance (s : Stack N) (p : U8) : Decidable (s.PortFree p) :=
  inferInstanceAs (Decidable
    (∀ i, (s.conns i).state = .connOpen → (s.conns i).idin.dport ≠ p.setWidth 6))

/-- The port is free in the sense of the loop of `csp_connect`. -/
def Stack.portIsFree (s : Stack N) (e : StackEnv) (prio dest dport : U8) (opts : U32) (p : U8) :
    Bool :=
  (cspConnFind s.conns (incomingId e.myAddress prio dest dport p opts) cspIdDportMask).isNone

/-- The loop over `arr_conn` decides whether a port is free. -/
theorem Stack.portIsFree_iff (s : Stack N) (e : StackEnv) (prio dest dport : U8) (opts : U32)
    (p : U8) : s.portIsFree e prio dest dport opts p = true ↔ s.PortFree p := by
  have hport : (incomingId e.myAddress prio dest dport p opts).dport = p.setWidth 6 :=
    dport_ofFields ..
  rw [portIsFree, cspConnFind, Option.isNone_iff_eq_none, List.find?_eq_none]
  refine ⟨fun h i hi heq => h i (List.mem_finRange i) ?_, fun h i _ hi => ?_⟩
  · rw [Bool.and_eq_true, decide_eq_true_iff, hi, beq_iff_eq, and_dportMask, and_dportMask, hport,
      heq]
    exact ⟨by decide, rfl⟩
  · rw [Bool.and_eq_true, decide_eq_true_iff, beq_iff_eq, and_dportMask, and_dportMask, hport] at hi
    refine h i ?_ ?_
    · cases hst : (s.conns i).state
      · exact absurd hst hi.1
      · rfl
    · have hsame := congrArg CspId.dport hi.2
      rwa [dport_ofFields, dport_ofFields] at hsame

/-- `csp_connect` goes on with this port. -/
def Stack.selected (s : Stack N) (e : StackEnv) (t : ℕ) (prio dest dport : U8) (opts : U32)
    (p : U8) : Stack N :=
  { s.next with sport := p }.setTask t
    (.allocating (incomingId e.myAddress prio dest dport p opts)
      (outgoingId e.myAddress prio dest dport p opts) opts)

/-- The search of `csp_connect` ends; it selects a free port if there is one; and it fails for lack
of ports only if there is none. -/
structure PortSearchRight (e : StackEnv) (t : ℕ) (prio dest dport : U8) (opts : U32)
    (s : Stack N) : Prop where
  terminates : ∃ n p, sportSearch (s.portIsFree e prio dest dport opts) s.sport n s.sport = some p
  selects : (∃ p, EphemeralPort p ∧ s.PortFree p) → ∃ p, EphemeralPort p ∧ s.PortFree p ∧
    connectPort e t prio dest dport opts s = some (s.selected e t prio dest dport opts p)
  failure : connectPort e t prio dest dport opts s = some s.next →
    ∀ p, EphemeralPort p → ¬ s.PortFree p

/-- With the lock `csp_connect` goes its rounds until a port is free or it has seen 256. -/
theorem connectPort_eq {e : StackEnv} {t : ℕ} {prio dest dport : U8} {opts : U32} {s : Stack N}
    (hlock : e.sportLock s.tick = true) :
    connectPort e t prio dest dport opts s =
      (sportSearch (s.portIsFree e prio dest dport opts) s.sport 256 s.sport).map fun p =>
        if p = s.sport then s.next else s.selected e t prio dest dport opts p := by
  rw [connectPort, if_pos hlock]
  rfl

/-- A search that selects a port has changed `sport`. -/
theorem selected_ne_next {e : StackEnv} {t : ℕ} {prio dest dport : U8} {opts : U32} {s : Stack N}
    {p : U8} (h : p ≠ s.sport) : s.selected e t prio dest dport opts p ≠ s.next :=
  fun heq => h (congrArg Stack.sport heq)

/-- A free port that the search began with is not used. -/
theorem not_portSearchRight_start {e : StackEnv} {t : ℕ} {prio dest dport : U8} {opts : U32}
    {s : Stack N} (hlock : e.sportLock s.tick = true) (hsport : EphemeralPort s.sport)
    (hfree : s.PortFree s.sport)
    (hothers : ∀ p, EphemeralPort p → s.PortFree p → p = s.sport) :
    ¬ PortSearchRight e t prio dest dport opts s := by
  intro h
  have hback : sportSearch (s.portIsFree e prio dest dport opts) s.sport 256 s.sport =
      some s.sport := by
    have honly : ∀ p, EphemeralPort p → s.portIsFree e prio dest dport opts p = true →
        p = s.sport := fun p hp hfree => hothers p hp ((s.portIsFree_iff ..).1 hfree)
    by_cases hlow : s.sport = 16
    · have hisFree := (s.portIsFree_iff e prio dest dport opts s.sport).2 hfree
      rw [hlow] at honly hisFree ⊢
      exact sportSearch_lowest honly hisFree (by decide)
    · exact sportSearch_back hsport hlow honly (by decide)
  refine h.failure ?_ s.sport hsport hfree
  rw [connectPort_eq hlock, hback, Option.map_some, if_pos rfl]

/-- A search from the lowest port does not end when all are taken. -/
theorem not_portSearchRight_lowest {e : StackEnv} {t : ℕ} {prio dest dport : U8} {opts : U32}
    {s : Stack N} (hlow : s.sport = 16) (hnone : ∀ p, EphemeralPort p → ¬ s.PortFree p) :
    ¬ PortSearchRight e t prio dest dport opts s := by
  intro h
  obtain ⟨n, p, hp⟩ := h.terminates
  have hendless := sportSearch_endless (s.portIsFree e prio dest dport opts)
    (fun p hp => Bool.eq_false_of_not_eq_true fun hfree =>
      hnone p hp ((s.portIsFree_iff ..).1 hfree)) n
  rw [hlow, hendless] at hp
  cases hp

/-- **When the search for a port is right**: in a table of any size, from any ephemeral port,
exactly if another port is free, or none is and the search does not begin at the lowest. -/
theorem connectPort_right_iff (e : StackEnv) (t : ℕ) (prio dest dport : U8) (opts : U32)
    (s : Stack N) (hlock : e.sportLock s.tick = true) (hsport : EphemeralPort s.sport) :
    PortSearchRight e t prio dest dport opts s ↔
      (∃ p, EphemeralPort p ∧ s.PortFree p ∧ p ≠ s.sport) ∨
        ((∀ p, EphemeralPort p → ¬ s.PortFree p) ∧
          s.sport ≠ BitVec.ofNat 8 (cspMaxBindPort + 1)) := by
  constructor
  · intro h
    by_contra hno
    obtain ⟨hothers, hnone⟩ := not_or.1 hno
    have honly : ∀ p, EphemeralPort p → s.PortFree p → p = s.sport := fun p hp hfree => by
      by_contra hne
      exact hothers ⟨p, hp, hfree, hne⟩
    by_cases hfree : s.PortFree s.sport
    · exact not_portSearchRight_start hlock hsport hfree honly h
    · have hall : ∀ p, EphemeralPort p → ¬ s.PortFree p := fun p hp hp' =>
        hfree (honly p hp hp' ▸ hp')
      exact not_portSearchRight_lowest (not_not.1 fun hlow => hnone ⟨hall, hlow⟩) hall h
  · rintro (⟨p, hp, hfree, hne⟩ | ⟨hnone, hlow⟩)
    · have hisFree := (s.portIsFree_iff e prio dest dport opts p).2 hfree
      obtain ⟨q, hq, hephemeral, hqfree, hqne⟩ := sportSearch_finds hsport ⟨p, hp, hisFree, hne⟩
        (show 48 ≤ 256 by decide)
      have hconnect : connectPort e t prio dest dport opts s =
          some (s.selected e t prio dest dport opts q) := by
        rw [connectPort_eq hlock, hq, Option.map_some, if_neg hqne]
      refine ⟨⟨256, q, hq⟩, fun _ => ⟨q, hephemeral, (s.portIsFree_iff ..).1 hqfree, hconnect⟩,
        fun hfail => ?_⟩
      rw [hconnect] at hfail
      exact absurd (Option.some.inj hfail) (selected_ne_next hqne)
    · have honly : ∀ p, EphemeralPort p → s.portIsFree e prio dest dport opts p = true →
          p = s.sport := fun p hp hfree => absurd ((s.portIsFree_iff ..).1 hfree) (hnone p hp)
      have hback := sportSearch_back hsport hlow honly (Nat.le_refl 48)
      exact ⟨⟨48, s.sport, hback⟩, fun ⟨p, hp, hfree⟩ => absurd hfree (hnone p hp),
        fun _ => hnone⟩

/-- A node that has just started finds a port. -/
theorem connectPort_right_init :
    PortSearchRight .favourable 0 2 5 10 0 (Stack.init cspConnMax) :=
  (connectPort_right_iff _ _ _ _ _ _ _ rfl (by decide)).2
    (.inl ⟨17, by decide, by decide, by decide⟩)

/-- A table in which all connections are open, with successive ports. -/
def Stack.crowded (N : ℕ) [NeZero N] (first : ℕ) : Stack N :=
  { Stack.init N with
    conns := fun i => { Conn.unused with
      state := .connOpen
      idin := .ofFields 0 0 0 (BitVec.ofNat 6 (first + i.val)) 0 0 } }

/-- The crowded table has its ports in use. -/
theorem not_portFree_crowded [NeZero N] {first : ℕ} {p : U8} (hlo : first ≤ p.toNat)
    (hhi : p.toNat < first + N) : ¬ (Stack.crowded N first).PortFree p := by
  intro h
  refine h ⟨p.toNat - first, by omega⟩ rfl ?_
  have hdport : ((Stack.crowded N first).conns ⟨p.toNat - first, by omega⟩).idin.dport =
      BitVec.ofNat 6 (first + (p.toNat - first)) := dport_ofFields ..
  rw [hdport, Nat.add_sub_cancel' hlo, BitVec.ofNat_toNat]

/-- All 48 ports taken: from the lowest, the search does not end.  All but the lowest taken: it is
not used, and `csp_connect` fails. -/
theorem connectPort_crowded :
    ¬ PortSearchRight .favourable 0 2 5 10 0 (Stack.crowded 48 16) ∧
      ¬ PortSearchRight .favourable 0 2 5 10 0 (Stack.crowded 47 17) := by
  constructor
  · exact not_portSearchRight_lowest rfl fun p hp =>
      not_portFree_crowded hp.1 (Nat.lt_succ_of_le hp.2)
  · refine not_portSearchRight_start rfl (by decide) (by decide) fun p hp hfree => ?_
    by_contra hne
    have hlo : 16 ≤ p.toNat := hp.1
    have hne' : p.toNat ≠ 16 := fun heq => hne (BitVec.eq_of_toNat_eq heq)
    exact not_portFree_crowded (show 17 ≤ p.toNat by omega) (Nat.lt_succ_of_le hp.2) hfree

end LibCSP
