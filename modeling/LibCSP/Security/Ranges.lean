/-
# What the security check reads of a packet

`csp_route_security_check` takes the nonce, the CRC32 and the HMAC off the end of a packet, each
with a subtraction of four from its length and no look at it first.  `securityRun` is the check
with the ranges of `data` it reads, hashes and decrypts, each with `packet->length` at that
moment, and with the packet as it is left also where the check fails.  It is the check of
`LibCSP.Security.Wire` (`securityRun_check`).

A trailer is inside the data if four bytes are left.  What is left depends on the flags, and on
whether the check comes so far: a part that fails ends it (`securityRun_safe_iff`).
-/

import LibCSP.Security.Check

namespace LibCSP

open Basis

/-- A range of `packet->data`, and `packet->length` when it is read. -/
structure DataRange where
  length : ℕ
  start : ℤ
  count : ℕ
  deriving DecidableEq

/-- The range lies within `data[0, length)`. -/
def DataRange.Inside (r : DataRange) : Prop := 0 ≤ r.start ∧ r.start + r.count ≤ r.length

instance (r : DataRange) : Decidable r.Inside := inferInstanceAs (Decidable (_ ∧ _))

/-- How a part of the check ran. -/
structure CheckRun where
  ranges : List DataRange
  packet : CspPacket
  result : CspErr

/-- The check goes on if this part returned no error. -/
def CheckRun.andThen (r : CheckRun) (f : CspPacket → CheckRun) : CheckRun :=
  if r.result = .none then
    ⟨r.ranges ++ (f r.packet).ranges, (f r.packet).packet, (f r.packet).result⟩
  else r

/-- What the check returns. -/
def CheckRun.toExcept (r : CheckRun) : Except CspErr CspPacket :=
  if r.result = .none then .ok r.packet else .error r.result

/-- The check of `p` stays inside the data, and does not make the packet longer. -/
structure CheckRun.Safe (r : CheckRun) (p : CspPacket) : Prop where
  inside : ∀ a ∈ r.ranges, a.Inside
  length : r.packet.length.toNat ≤ p.length.toNat

/-- The last four bytes of the packet. -/
def lastFourRange (p : CspPacket) : DataRange := ⟨p.length.toNat, p.length.toNat - 4, 4⟩

/-- The nonce is read, cut off, and what is left decrypted. -/
def xteaRanges (p : CspPacket) : List DataRange :=
  [lastFourRange p, ⟨(p.length - 4).toNat, 0, (p.length - 4).toNat⟩]

/-- What is in front of the trailer is hashed, and the trailer compared with the hash. -/
def trailerRanges (p : CspPacket) : List DataRange :=
  [⟨p.length.toNat, 0, (p.length.setWidth 32 - 4 : U32).toNat⟩, lastFourRange p]

/-- The part of the check that looks at one flag; a failed `verify` leaves the packet as it
was. -/
def featureRun (flag : U8) (req : U32) (err : CspErr) (ranges : CspPacket → List DataRange)
    (verify : CspPacket → Option CspPacket) (opts : U32) (p : CspPacket) : CheckRun :=
  if p.id.has flag then
    match verify p with
    | some q => ⟨ranges p, q, .none⟩
    | none => ⟨ranges p, p, err⟩
  else if opts &&& req ≠ 0 then ⟨[], p, err⟩
  else ⟨[], p, .none⟩

/-- Four bytes, if the packet has the flag. -/
def CspId.trailer (id : CspId) (flag : U8) : ℕ := if id.has flag then 4 else 0

/-! ### One part -/

section Feature

variable {flag : U8} {req : U32} {err : CspErr} {ranges : CspPacket → List DataRange}
  {verify : CspPacket → Option CspPacket} {opts : U32} {p : CspPacket}

/-- This part lets the packet pass. -/
def Passes (flag : U8) (req : U32) (verify : CspPacket → Option CspPacket) (opts : U32)
    (p : CspPacket) : Prop :=
  if p.id.has flag then (verify p).isSome = true else opts &&& req = 0

/-- **The part is the one of the model.** -/
theorem featureRun_check (herr : err ≠ .none) :
    (featureRun flag req err ranges verify opts p).toExcept =
      Node.checkFeature flag req err verify opts p := by
  unfold Node.checkFeature featureRun CheckRun.toExcept
  by_cases hflag : p.id.has flag = true
  · simp only [if_pos hflag]
    cases verify p with
    | none => exact if_neg herr
    | some q => rfl
  · simp only [if_neg hflag]
    by_cases hreq : opts &&& req ≠ 0
    · simp only [if_pos hreq, if_neg herr]
    · simp only [if_neg hreq, if_true]

/-- A feature passes, and says so. -/
theorem featureRun_result (ranges : CspPacket → List DataRange) (herr : err ≠ .none) :
    (featureRun flag req err ranges verify opts p).result = .none ↔
      Passes flag req verify opts p := by
  unfold featureRun Passes
  split
  · cases verify p with
    | none => exact iff_of_false herr Bool.false_ne_true
    | some q => exact iff_of_true rfl rfl
  · split
    · rename_i hreq
      exact iff_of_false herr hreq
    · rename_i hreq
      exact iff_of_true rfl (not_not.1 hreq)

/-- What is read lies in the data if the packet has room for the trailer its flag announces. -/
theorem featureRun_inside
    (hranges : (∀ r ∈ ranges p, r.Inside) ↔ 4 ≤ p.length.toNat) :
    (∀ r ∈ (featureRun flag req err ranges verify opts p).ranges, r.Inside) ↔
      (p.id.has flag = true → 4 ≤ p.length.toNat) := by
  unfold featureRun
  split
  · rename_i hflag
    rw [← hranges]
    cases verify p <;> exact ⟨fun h _ => h, fun h => h hflag⟩
  · rename_i hflag
    split <;> exact iff_of_true (fun r hr => absurd hr List.not_mem_nil) fun h => absurd h hflag

/-- After it the packet is no longer, and four bytes shorter if it was checked. -/
theorem featureRun_packet (hverify : ∀ q, verify p = some q → q.length = p.length - 4)
    (hlong : p.id.has flag = true → 4 ≤ p.length.toNat) :
    (featureRun flag req err ranges verify opts p).packet.length.toNat ≤ p.length.toNat ∧
      (Passes flag req verify opts p →
        (featureRun flag req err ranges verify opts p).packet.length.toNat + p.id.trailer flag =
          p.length.toNat) := by
  unfold featureRun Passes CspId.trailer
  split
  · rename_i hflag
    have hlen := hlong hflag
    cases hv : verify p with
    | none => exact ⟨le_rfl, fun h => absurd h Bool.false_ne_true⟩
    | some q =>
      have hq : q.length.toNat = p.length.toNat - 4 := by
        rw [hverify q hv]
        exact BitVec.toNat_sub_of_le (show (4 : U16).toNat ≤ _ from hlen)
      exact ⟨by simp only [hq]; omega, fun _ => by simp only [hq]; omega⟩
  · split <;> exact ⟨le_rfl, fun _ => rfl⟩

/-- It has its identifier. -/
theorem featureRun_id (hverify : ∀ q, verify p = some q → q.id = p.id) :
    (featureRun flag req err ranges verify opts p).packet.id = p.id := by
  unfold featureRun
  split
  · cases hv : verify p with
    | none => rfl
    | some q => exact hverify q hv
  · split <;> rfl

end Feature

/-! ### The ranges -/

/-- The last four bytes are there when the packet is that long. -/
theorem lastFourRange_inside {p : CspPacket} :
    (lastFourRange p).Inside ↔ 4 ≤ p.length.toNat := by
  unfold DataRange.Inside lastFourRange
  simp only
  omega

/-- The ranges of the decryption. -/
theorem xteaRanges_inside (p : CspPacket) :
    (∀ r ∈ xteaRanges p, r.Inside) ↔ 4 ≤ p.length.toNat := by
  have hdecrypted : (⟨(p.length - 4).toNat, 0, (p.length - 4).toNat⟩ : DataRange).Inside := by
    unfold DataRange.Inside
    simp only
    omega
  unfold xteaRanges
  rw [List.forall_mem_cons, List.forall_mem_singleton, lastFourRange_inside]
  exact and_iff_left hdecrypted

/-- The length that is hashed wraps to 32 bits in a packet shorter than the trailer. -/
theorem hashed_length (p : CspPacket) : (p.length.setWidth 32 - 4 : U32).toNat =
    if 4 ≤ p.length.toNat then p.length.toNat - 4 else 2 ^ 32 - 4 + p.length.toNat := by
  have hlt := p.length.isLt
  rw [BitVec.toNat_sub, BitVec.toNat_setWidth, show (4 : U32).toNat = 4 from rfl]
  split <;> omega

/-- The ranges of a trailer. -/
theorem trailerRanges_inside (p : CspPacket) :
    (∀ r ∈ trailerRanges p, r.Inside) ↔ 4 ≤ p.length.toNat := by
  unfold trailerRanges
  rw [List.forall_mem_cons, List.forall_mem_singleton, lastFourRange_inside, hashed_length]
  refine and_iff_right_of_imp fun hlen => ?_
  unfold DataRange.Inside
  rw [if_pos hlen]
  simp only
  omega

/-- A checked packet is four bytes shorter. -/
theorem length_verifyTrailer {o : ByteOrder} {f : Trailer} {p q : CspPacket}
    (h : p.verifyTrailer o f = some q) : q.length = p.length - 4 := by
  unfold CspPacket.verifyTrailer at h
  split at h
  · obtain rfl := Option.some.inj h
    rfl
  · exact absurd h.symm (Option.some_ne_none q)

/-! ### The whole check -/

namespace Node

variable (node : Node)

/-- The first part: `CSP_FXTEA`. -/
def xteaRun : U32 → CspPacket → CheckRun :=
  featureRun cspFxtea cspSoXteareq .xtea xteaRanges fun p => some (node.xteaOpen p)

/-- The second part: `CSP_FCRC32`. -/
def crc32Run : U32 → CspPacket → CheckRun :=
  featureRun cspFcrc32 cspSoCrc32req .crc32 trailerRanges (cspCrc32Verify node.order)

/-- The third part: `CSP_FHMAC`. -/
def hmacRun : U32 → CspPacket → CheckRun :=
  featureRun cspFhmac cspSoHmacreq .hmac trailerRanges (cspHmacVerify node.order node.hmacKey)

/-- `csp_route_security_check`, with what it reads. -/
def securityRun (opts : U32) (packet : CspPacket) : CheckRun :=
  ((node.xteaRun opts packet).andThen (node.crc32Run opts)).andThen (node.hmacRun opts)

end Node

/-- Both parts have to succeed. -/
theorem CheckRun.andThen_result (r : CheckRun) (f : CspPacket → CheckRun) :
    (r.andThen f).result = .none ↔ r.result = .none ∧ (f r.packet).result = .none := by
  unfold CheckRun.andThen
  split
  · rename_i h
    exact (and_iff_right h).symm
  · rename_i h
    exact iff_of_false h fun h' => h h'.1

/-- Both parts have to stay inside, the second one if it is reached. -/
theorem CheckRun.andThen_inside (r : CheckRun) (f : CspPacket → CheckRun) :
    (∀ a ∈ (r.andThen f).ranges, a.Inside) ↔
      (∀ a ∈ r.ranges, a.Inside) ∧
        (r.result = .none → ∀ a ∈ (f r.packet).ranges, a.Inside) := by
  unfold CheckRun.andThen
  split
  · rename_i h
    rw [List.forall_mem_append]
    exact and_congr_right fun _ => ⟨fun hf _ => hf, fun hf => hf h⟩
  · rename_i h
    exact (and_iff_left fun h' => absurd h' h).symm

/-- The second part, where it is reached. -/
theorem CheckRun.andThen_of_none {r : CheckRun} {f : CspPacket → CheckRun}
    (h : r.result = .none) : (r.andThen f).packet = (f r.packet).packet ∧
      (r.andThen f).result = (f r.packet).result := by
  unfold CheckRun.andThen
  rw [if_pos h]
  exact ⟨rfl, rfl⟩

/-- Where it is not. -/
theorem CheckRun.andThen_of_ne {r : CheckRun} {f : CspPacket → CheckRun}
    (h : r.result ≠ .none) : r.andThen f = r := if_neg h

/-- Two parts in a row, as the code has them. -/
theorem CheckRun.toExcept_andThen (r : CheckRun) (f : CspPacket → CheckRun) :
    (r.andThen f).toExcept = r.toExcept >>= fun p => (f p).toExcept := by
  unfold toExcept
  by_cases h : r.result = .none
  · rw [(andThen_of_none h).1, (andThen_of_none h).2, if_pos h]
    rfl
  · rw [andThen_of_ne h, if_neg h]
    rfl

namespace Node

variable (node : Node)

/-- **The run is the check of the model.** -/
theorem securityRun_check (opts : U32) (packet : CspPacket) :
    (node.securityRun opts packet).toExcept = node.cspRouteSecurityCheck opts packet := by
  unfold securityRun xteaRun crc32Run hmacRun
  rw [CheckRun.toExcept_andThen, CheckRun.toExcept_andThen, bind_assoc]
  simp only [featureRun_check (CspErr.noConfusion : CspErr.xtea ≠ .none),
    featureRun_check (CspErr.noConfusion : CspErr.crc32 ≠ .none),
    featureRun_check (CspErr.noConfusion : CspErr.hmac ≠ .none)]
  rfl

/-- The packet as the second part of the check gets it. -/
def decrypted (p : CspPacket) : CspPacket := if p.id.has cspFxtea then node.xteaOpen p else p

/-- **Each part of the check that is reached finds its four bytes.** -/
structure LongEnough (opts : U32) (p : CspPacket) : Prop where
  xtea : p.id.has cspFxtea = true → 4 ≤ p.length.toNat
  crc32 : Passes cspFxtea cspSoXteareq (fun p => some (node.xteaOpen p)) opts p →
    p.id.has cspFcrc32 = true → p.id.trailer cspFxtea + 4 ≤ p.length.toNat
  hmac : Passes cspFxtea cspSoXteareq (fun p => some (node.xteaOpen p)) opts p →
    Passes cspFcrc32 cspSoCrc32req (cspCrc32Verify node.order) opts (node.decrypted p) →
      p.id.has cspFhmac = true →
        p.id.trailer cspFxtea + p.id.trailer cspFcrc32 + 4 ≤ p.length.toNat

variable {node} {opts : U32} {p : CspPacket}

/-- The packet after the decryption. -/
theorem xteaRun_packet : (node.xteaRun opts p).packet = node.decrypted p := by
  unfold xteaRun featureRun decrypted
  split
  · rfl
  · split <;> rfl

/-- It has its identifier. -/
theorem decrypted_id (node : Node) (p : CspPacket) : (node.decrypted p).id = p.id := by
  unfold decrypted
  split <;> rfl

/-- So it has after the checksum. -/
theorem crc32Run_id (node : Node) (opts : U32) (p : CspPacket) :
    (node.crc32Run opts p).packet.id = p.id :=
  featureRun_id fun _ h => (verifyTrailer_identity h).id

/-- The three parts, and when each is reached. -/
theorem securityRun_inside : (∀ a ∈ (node.securityRun opts p).ranges, a.Inside) ↔
    (p.id.has cspFxtea = true → 4 ≤ p.length.toNat) ∧
      (Passes cspFxtea cspSoXteareq (fun p => some (node.xteaOpen p)) opts p →
        (p.id.has cspFcrc32 = true → 4 ≤ (node.decrypted p).length.toNat) ∧
          (Passes cspFcrc32 cspSoCrc32req (cspCrc32Verify node.order) opts (node.decrypted p) →
            p.id.has cspFhmac = true →
              4 ≤ (node.crc32Run opts (node.decrypted p)).packet.length.toNat)) := by
  have hx : (∀ a ∈ (node.xteaRun opts p).ranges, a.Inside) ↔
      (p.id.has cspFxtea = true → 4 ≤ p.length.toNat) := featureRun_inside (xteaRanges_inside p)
  have hc : (∀ a ∈ (node.crc32Run opts (node.decrypted p)).ranges, a.Inside) ↔
      (p.id.has cspFcrc32 = true → 4 ≤ (node.decrypted p).length.toNat) := by
    rw [← decrypted_id node p]
    exact featureRun_inside (trailerRanges_inside _)
  have hh : (∀ a ∈ (node.hmacRun opts
        (node.crc32Run opts (node.decrypted p)).packet).ranges, a.Inside) ↔
      (p.id.has cspFhmac = true →
        4 ≤ (node.crc32Run opts (node.decrypted p)).packet.length.toNat) := by
    rw [← decrypted_id node p,
      ← crc32Run_id node opts (node.decrypted p)]
    exact featureRun_inside (trailerRanges_inside _)
  have hxres : (node.xteaRun opts p).result = .none ↔ _ :=
    featureRun_result xteaRanges CspErr.noConfusion
  have hcres : (node.crc32Run opts (node.decrypted p)).result = .none ↔ _ :=
    featureRun_result trailerRanges CspErr.noConfusion
  unfold securityRun
  rw [CheckRun.andThen_inside, CheckRun.andThen_inside, CheckRun.andThen_result, xteaRun_packet, hx,
    hc, hxres, hcres, and_assoc]
  refine and_congr_right fun _ => ?_
  by_cases hpass : Passes cspFxtea cspSoXteareq (fun p => some (node.xteaOpen p)) opts p
  · rw [(CheckRun.andThen_of_none (hxres.2 hpass)).1, xteaRun_packet, hh]
    exact ⟨fun h _ => ⟨h.1 hpass, fun hc => h.2 ⟨hpass, hc⟩⟩,
      fun h => ⟨fun _ => (h hpass).1, fun hc => (h hpass).2 hc.2⟩⟩
  · exact iff_of_true ⟨fun h => absurd h hpass, fun h => absurd h.1 hpass⟩
      fun h => absurd h hpass

/-- Its length, with its trailer. -/
theorem decrypted_length (node : Node) (hlong : p.id.has cspFxtea = true → 4 ≤ p.length.toNat) :
    (node.decrypted p).length.toNat + p.id.trailer cspFxtea = p.length.toNat := by
  unfold decrypted CspId.trailer
  split
  · rename_i hflag
    have hlen := hlong hflag
    have hcut : (node.xteaOpen p).length.toNat = p.length.toNat - 4 :=
      BitVec.toNat_sub_of_le (show (4 : U16).toNat ≤ _ from hlen)
    omega
  · rfl

/-- What the second part leaves, when the first one had its four bytes. -/
theorem crc32Run_length (opts : U32)
    (hlong : p.id.has cspFcrc32 = true → 4 ≤ (node.decrypted p).length.toNat) :
    (node.crc32Run opts (node.decrypted p)).packet.length.toNat ≤
        (node.decrypted p).length.toNat ∧
      (Passes cspFcrc32 cspSoCrc32req (cspCrc32Verify node.order) opts (node.decrypted p) →
        (node.crc32Run opts (node.decrypted p)).packet.length.toNat + p.id.trailer cspFcrc32 =
          (node.decrypted p).length.toNat) := by
  rw [← decrypted_id node p] at hlong ⊢
  exact featureRun_packet (fun _ h => length_verifyTrailer h) hlong

/-- After the HMAC it is no longer. -/
theorem hmacRun_length (node : Node) (opts : U32)
    (hlong : p.id.has cspFhmac = true → 4 ≤ p.length.toNat) :
    (node.hmacRun opts p).packet.length.toNat ≤ p.length.toNat :=
  (featureRun_packet (fun _ h => length_verifyTrailer h) hlong).1

/-- A run that stayed inside has not made the packet longer. -/
theorem securityRun_length (h : ∀ a ∈ (node.securityRun opts p).ranges, a.Inside) :
    (node.securityRun opts p).packet.length.toNat ≤ p.length.toNat := by
  obtain ⟨hx, hrest⟩ := securityRun_inside.1 h
  have hdec := decrypted_length node hx
  unfold securityRun
  by_cases hxres : (node.xteaRun opts p).result = .none
  · have hpass := (featureRun_result xteaRanges CspErr.noConfusion).1 hxres
    have hcrc := crc32Run_length opts (hrest hpass).1
    have hfirst := (CheckRun.andThen_of_none (f := node.crc32Run opts) hxres).1
    rw [xteaRun_packet] at hfirst
    by_cases hcres : ((node.xteaRun opts p).andThen (node.crc32Run opts)).result = .none
    · rw [(CheckRun.andThen_of_none hcres).1, hfirst]
      have hpass' : Passes cspFcrc32 cspSoCrc32req (cspCrc32Verify node.order) opts
          (node.decrypted p) := by
        rw [(CheckRun.andThen_result _ _), xteaRun_packet] at hcres
        exact (featureRun_result trailerRanges CspErr.noConfusion).1 hcres.2
      have hhmac := hmacRun_length node opts
        (p := (node.crc32Run opts (node.decrypted p)).packet) (by
          rw [crc32Run_id, decrypted_id]
          exact (hrest hpass).2 hpass')
      omega
    · rw [CheckRun.andThen_of_ne hcres, hfirst]
      omega
  · have hend : (node.xteaRun opts p).andThen (node.crc32Run opts) = node.xteaRun opts p :=
      CheckRun.andThen_of_ne hxres
    rw [hend, CheckRun.andThen_of_ne hxres, xteaRun_packet]
    omega

/-- **The check stays inside the packet** if and only if each part that is reached finds the
four bytes it takes off. -/
theorem securityRun_safe_iff (node : Node) (opts : U32) (p : CspPacket) :
    (node.securityRun opts p).Safe p ↔ node.LongEnough opts p := by
  have hsafe : (node.securityRun opts p).Safe p ↔
      ∀ a ∈ (node.securityRun opts p).ranges, a.Inside :=
    ⟨fun h => h.inside, fun h => ⟨h, securityRun_length h⟩⟩
  rw [hsafe, securityRun_inside]
  constructor
  · rintro ⟨hx, hrest⟩
    have hdec := decrypted_length node hx
    refine ⟨hx, fun hpass hflag => ?_, fun hpass hpass' hflag => ?_⟩
    · have := (hrest hpass).1 hflag
      omega
    · have hcrc := (crc32Run_length opts (hrest hpass).1).2 hpass'
      have := (hrest hpass).2 hpass' hflag
      omega
  · rintro ⟨hx, hc, hh⟩
    have hdec := decrypted_length node hx
    have hclong : Passes cspFxtea cspSoXteareq (fun p => some (node.xteaOpen p)) opts p →
        p.id.has cspFcrc32 = true → 4 ≤ (node.decrypted p).length.toNat := fun hpass hflag => by
      have := hc hpass hflag
      omega
    refine ⟨hx, fun hpass => ⟨hclong hpass, fun hpass' hflag => ?_⟩⟩
    have hcrc := (crc32Run_length opts (hclong hpass)).2 hpass'
    have := hh hpass hpass' hflag
    omega

/-- An encrypted packet of two bytes: the nonce is read from in front of the data. -/
theorem securityRun_underflows : ¬∀ (node : Node) (opts : U32) (p : CspPacket),
    (node.securityRun opts p).Safe p := by
  intro hall
  have h := securityRun_inside.1
    (hall ⟨.little, 1, cspHmacSetKey [], cspXteaSetKey []⟩ 0 ⟨0, 0, 0, 2, 0x04, fun _ => 0⟩).inside
  exact absurd (h.1 (by decide)) (by decide)

end Node

end LibCSP
