/-
# CFP identification numbers

`id_get` of `src/interfaces/csp_if_can.c` takes the number of a packet from the counter
`cfp_id`, which it holds `id_sem` for; the counter has `CFP_ID_SIZE` bits.  The calls of any number
of tasks interleave, one access to the counter at a time, and each gets a number of its own:
1024 calls one after another have 1024 numbers (`idGet_nodup`).
-/

import Mathlib.Data.List.Nodup
import LibCSP.Can.Frame
import LibCSP.Core.Semaphore

namespace LibCSP

open Basis

/-- The variable `id` of `id_get`, and the register in which `cfp_id` is changed. -/
structure IdVars where
  id : U32
  reg : U32
  deriving DecidableEq

/-- `(1 << CFP_ID_SIZE) - 1`. -/
def cfpIdMask : U32 := BitVec.ofNat 32 (2 ^ cfpIdSize - 1)

/-- `id_init`, given what `rand` returns: the counter. -/
def idInit (rand : U32) : U32 := rand &&& cfpIdMask

/-- `id_get` between `csp_bin_sem_wait` and `csp_bin_sem_post`: `id = cfp_id++`, and then
`cfp_id = cfp_id & ((1 << CFP_ID_SIZE) - 1)`. -/
def idGet : Section U32 IdVars where
  start := ⟨0, 0⟩
  body := [fun p => (p.1, ⟨p.1, p.1⟩), fun p => (p.2.reg + 1, p.2),
    fun p => (p.1, { p.2 with reg := p.1 }), fun p => (p.2.reg &&& cfpIdMask, p.2)]

/-- `id_get` undisturbed: the number, and the next one. -/
theorem idGet_atomic (cfpId : U32) :
    idGet.atomic cfpId = ((cfpId + 1) &&& cfpIdMask, ⟨cfpId, cfpId + 1⟩) := rfl

/-- The counter after `k` calls. -/
def idAfter (cfpId : U32) (k : ℕ) : U32 := (cfpId + BitVec.ofNat 32 k) &&& cfpIdMask

/-- The mask is a remainder. -/
theorem toNat_and_cfpIdMask (x : U32) : (x &&& cfpIdMask).toNat = x.toNat % 1024 := by
  have hmask : cfpIdMask.toNat = 2 ^ 10 - 1 := by decide
  rw [BitVec.toNat_and, hmask, Nat.and_two_pow_sub_one_eq_mod]

/-- The number that is handed out after `k` others. -/
theorem idAfter_toNat (cfpId : U32) (k : ℕ) :
    (idAfter cfpId k).toNat = (cfpId.toNat + k) % 1024 := by
  rw [idAfter, toNat_and_cfpIdMask, BitVec.toNat_add, BitVec.toNat_ofNat]
  omega

/-- It is what the next state hands out one call earlier. -/
theorem idAfter_succ (cfpId : U32) (k : ℕ) :
    idAfter ((cfpId + 1) &&& cfpIdMask) k = idAfter cfpId (k + 1) := by
  refine BitVec.eq_of_toNat_eq ?_
  rw [idAfter_toNat, idAfter_toNat, toNat_and_cfpIdMask, BitVec.toNat_add]
  show ((cfpId.toNat + 1) % 2 ^ 32 % 1024 + k) % 1024 = _
  omega

/-- The first number is the one of `id_init`. -/
theorem idAfter_zero (rand : U32) : idAfter (idInit rand) 0 = idInit rand := by
  refine BitVec.eq_of_toNat_eq ?_
  rw [idAfter_toNat, idInit, toNat_and_cfpIdMask]
  omega

/-- **The numbers are consecutive** modulo 2¹⁰. -/
theorem replay_idGet {κ : Type*} (cs : List κ) {cfpId : U32} (h : idAfter cfpId 0 = cfpId) :
    (Section.replay (fun _ => idGet) cfpId cs).2.map IdVars.id =
      (List.range cs.length).map (idAfter cfpId) := by
  induction cs generalizing cfpId with
  | nil => rfl
  | cons c cs ih =>
    have hnext : idAfter ((cfpId + 1) &&& cfpIdMask) 0 = (cfpId + 1) &&& cfpIdMask := by
      rw [idAfter_succ]
      rfl
    rw [Section.replay, idGet_atomic, List.map_cons, ih hnext, List.length_cons,
      List.range_succ_eq_map, List.map_cons, h, List.map_map]
    refine congrArg _ (List.map_congr_left fun k _ => ?_)
    exact idAfter_succ cfpId k

/-- The numbers that calls of `id_get` have returned, in order. -/
def idsGiven {κ : Type*} (l : Lock U32 κ IdVars) : List U32 := l.left.map fun x => x.vars.id

/-- Call `k` has returned the number `cfp_id + k`. -/
theorem idsGiven_eq {κ : Type*} {rand : U32} {is : List (LockInput κ)} {l : Lock U32 κ IdVars}
    (h : Run (Lock.step fun _ => idGet) (fun _ _ => True) (.init (idInit rand)) is l) :
    idsGiven l = (List.range l.left.length).map (idAfter (idInit rand)) := by
  obtain ⟨g, hr, hs⟩ := Lock.run_represents h
  have hids := congrArg (List.map IdVars.id) (hr.lockSerial hs).vars
  rw [replay_idGet _ (idAfter_zero rand), List.length_map, List.map_map] at hids
  exact hids

/-- **No number comes twice in 1024 calls**, whatever the interleaving of the tasks that call
`id_get`, and every number fits its field. -/
theorem idGet_nodup {κ : Type*} {rand : U32} {is : List (LockInput κ)} {l : Lock U32 κ IdVars}
    (h : Run (Lock.step fun _ => idGet) (fun _ _ => True) (.init (idInit rand)) is l) (p : ℕ) :
    (((idsGiven l).drop p).take 1024).Nodup ∧ ∀ id ∈ idsGiven l, id.toNat < 1024 := by
  rw [idsGiven_eq h]
  constructor
  · refine List.nodup_iff_getElem?_ne_getElem?.2 fun i j hij hj => ?_
    simp only [List.length_take, List.length_drop, List.length_map, List.length_range] at hj
    have hget : ∀ k, k < 1024 → p + k < l.left.length →
        ((((List.range l.left.length).map (idAfter (idInit rand))).drop p).take 1024)[k]? =
          some (idAfter (idInit rand) (p + k)) := by
      intro k hk hlen
      rw [List.getElem?_take, if_pos hk, List.getElem?_drop, List.getElem?_map,
        List.getElem?_range hlen, Option.map_some]
    rw [hget i (by omega) (by omega), hget j (by omega) (by omega)]
    intro heq
    have hnat := congrArg BitVec.toNat (Option.some.inj heq)
    rw [idAfter_toNat, idAfter_toNat] at hnat
    omega
  · intro id hid
    obtain ⟨k, -, rfl⟩ := List.mem_map.1 hid
    rw [idAfter_toNat]
    exact Nat.mod_lt _ (by decide)

/-- Two tasks call `id_get`, the second one twice, when the counter is about to wrap. -/
theorem idGet_nodup_wrap : ∃ l : Lock U32 Unit IdVars,
    Run (Lock.step fun _ => idGet) (fun _ _ => True) (.init (idInit 0x7ff))
      [.wait 1 (), .access 1, .access 1, .timeout 2, .access 1, .access 1, .getvalue 1, .post 1,
        .wait 2 (), .access 2, .access 2, .access 2, .access 2, .getvalue 2, .post 2] l ∧
      idsGiven l = [0x3ff, 0] ∧
        (((idsGiven l).drop 0).take 1024).Nodup ∧ ∀ id ∈ idsGiven l, id.toNat < 1024 := by
  have hrun : ∃ l : Lock U32 Unit IdVars,
      Run (Lock.step fun _ => idGet) (fun _ _ => True) (.init (idInit 0x7ff))
        [.wait 1 (), .access 1, .access 1, .timeout 2, .access 1, .access 1, .getvalue 1, .post 1,
          .wait 2 (), .access 2, .access 2, .access 2, .access 2, .getvalue 2, .post 2] l ∧
        decide (idsGiven l = [0x3ff, 0]) = true := Run.of_any (by decide)
  obtain ⟨l, hrun, hids⟩ := hrun
  exact ⟨l, hrun, of_decide_eq_true hids, idGet_nodup hrun 0⟩

end LibCSP
