/-
# What passed the security check

`csp_route_security_check` takes off XTEA, CRC32 and HMAC, in that order, each where the
packet's flag says so.  A packet that passes under some options has the flags of what
these options require, and what the flags announce was verified (`Enforced`).  Its
identifier and its buffer are those it came with, so the flags that decide are the ones
of the received packet.
-/

import LibCSP.Security.Wire

namespace LibCSP

open Basis

/-- `p` came out of one part of the check as `q`. -/
structure Checked (flag : U8) (req : U32) (verify : CspPacket → Option CspPacket) (opts : U32)
    (p q : CspPacket) : Prop where
  required : opts &&& req ≠ 0 → p.id.has flag = true
  verified : p.id.has flag = true → verify p = some q
  plain : p.id.has flag = false → q = p

/-- **`raw` came out of the check as `p`**: it was decrypted if it has `CSP_FXTEA`, then
passed `csp_crc32_verify` if it has `CSP_FCRC32`, then `csp_hmac_verify` if it has `CSP_FHMAC`,
and it has what `opts` require. -/
def Enforced (node : Node) (opts : U32) (raw p : CspPacket) : Prop :=
  ∃ p₁ p₂, Checked cspFxtea cspSoXteareq (fun p => some (node.xteaOpen p)) opts raw p₁ ∧
    Checked cspFcrc32 cspSoCrc32req (cspCrc32Verify node.order) opts p₁ p₂ ∧
    Checked cspFhmac cspSoHmacreq (cspHmacVerify node.order node.hmacKey) opts p₂ p

/-- A packet that fits in the place of another. -/
structure SameIdentity (p q : CspPacket) : Prop where
  buf : q.buf = p.buf
  id : q.id = p.id

/-- The same identity as a third packet. -/
theorem SameIdentity.trans {p q r : CspPacket} (h : SameIdentity p q) (h' : SameIdentity q r) :
    SameIdentity p r := ⟨h'.buf.trans h.buf, h'.id.trans h.id⟩

/-- A trailer is no part of the identity. -/
theorem verifyTrailer_identity {o : ByteOrder} {f : Trailer} {p q : CspPacket}
    (h : p.verifyTrailer o f = some q) : SameIdentity p q := by
  unfold CspPacket.verifyTrailer at h
  split at h
  · obtain rfl := Option.some.inj h
    exact ⟨rfl, rfl⟩
  · exact absurd h.symm (Option.some_ne_none q)

section Checked

variable {flag : U8} {req : U32} {verify : CspPacket → Option CspPacket} {opts : U32}
  {p q : CspPacket}

/-- Nor is one that is checked because of a flag. -/
theorem Checked.identity (h : Checked flag req verify opts p q)
    (hv : ∀ p q, verify p = some q → SameIdentity p q) : SameIdentity p q := by
  cases hf : p.id.has flag with
  | true => exact hv p q (h.verified hf)
  | false =>
    rw [h.plain hf]
    exact ⟨rfl, rfl⟩

/-- What a check that succeeds says. -/
theorem checkFeature_checked {err : CspErr}
    (h : Node.checkFeature flag req err verify opts p = .ok q) :
    Checked flag req verify opts p q := by
  unfold Node.checkFeature at h
  cases hf : p.id.has flag with
  | true =>
    rw [if_pos hf] at h
    cases hv : verify p with
    | none =>
      rw [hv] at h
      exact absurd h nofun
    | some r =>
      rw [hv] at h
      refine ⟨fun _ => hf, fun _ => ?_, fun hn => absurd (hf.symm.trans hn) (by decide)⟩
      rw [Except.ok.inj h] at hv
      exact hv
  | false =>
    rw [if_neg (by rw [hf]; exact Bool.false_ne_true)] at h
    by_cases hreq : opts &&& req ≠ 0
    · rw [if_pos hreq] at h
      exact absurd h nofun
    · rw [if_neg hreq] at h
      exact ⟨fun h' => absurd h' hreq, fun ht => absurd (hf.symm.trans ht) (by decide),
        fun _ => (Except.ok.inj h).symm⟩

end Checked

variable {node : Node} {opts : U32} {raw p : CspPacket}

/-- **What the check lets pass is enforced.** -/
theorem cspRouteSecurityCheck_enforced (h : node.cspRouteSecurityCheck opts raw = .ok p) :
    Enforced node opts raw p := by
  unfold Node.cspRouteSecurityCheck at h
  cases hx : Node.checkFeature cspFxtea cspSoXteareq .xtea (fun p => some (node.xteaOpen p))
      opts raw with
  | error err =>
    rw [hx] at h
    exact absurd h nofun
  | ok p₁ =>
    rw [hx] at h
    simp only [bind, Except.bind] at h
    cases hc : Node.checkFeature cspFcrc32 cspSoCrc32req .crc32 (cspCrc32Verify node.order)
        opts p₁ with
    | error err =>
      rw [hc] at h
      exact absurd h nofun
    | ok p₂ =>
      rw [hc] at h
      exact ⟨p₁, p₂, checkFeature_checked hx, checkFeature_checked hc, checkFeature_checked h⟩

/-- An identifier with the flags of what `opts` require. -/
structure HasRequired (opts : U32) (id : CspId) : Prop where
  xtea : opts &&& cspSoXteareq ≠ 0 → id.has cspFxtea = true
  crc32 : opts &&& cspSoCrc32req ≠ 0 → id.has cspFcrc32 = true
  hmac : opts &&& cspSoHmacreq ≠ 0 → id.has cspFhmac = true

/-- The steps of the check keep the identifier. -/
theorem Enforced.stages (h : Enforced node opts raw p) :
    ∃ p₁ p₂, Checked cspFxtea cspSoXteareq (fun p => some (node.xteaOpen p)) opts raw p₁ ∧
      Checked cspFcrc32 cspSoCrc32req (cspCrc32Verify node.order) opts p₁ p₂ ∧
      Checked cspFhmac cspSoHmacreq (cspHmacVerify node.order node.hmacKey) opts p₂ p ∧
      SameIdentity raw p₁ ∧ SameIdentity p₁ p₂ ∧ SameIdentity p₂ p := by
  obtain ⟨p₁, p₂, hx, hc, hh⟩ := h
  refine ⟨p₁, p₂, hx, hc, hh, hx.identity fun p q hpq => ?_, hc.identity fun p q hpq => ?_,
    hh.identity fun p q hpq => ?_⟩
  · rw [← Option.some.inj hpq]
    exact ⟨rfl, rfl⟩
  · exact verifyTrailer_identity hpq
  · exact verifyTrailer_identity hpq

/-- The security check keeps the identity. -/
theorem Enforced.identity (h : Enforced node opts raw p) : SameIdentity raw p := by
  obtain ⟨_, _, -, -, -, h₁, h₂, h₃⟩ := h.stages
  exact (h₁.trans h₂).trans h₃

/-- The flags of the received packet decide. -/
theorem Enforced.hasRequired (h : Enforced node opts raw p) : HasRequired opts raw.id := by
  obtain ⟨p₁, p₂, hx, hc, hh, h₁, h₂, -⟩ := h.stages
  refine ⟨hx.required, fun hr => ?_, fun hr => ?_⟩
  · rw [← h₁.id]
    exact hc.required hr
  · rw [← h₁.id, ← h₂.id]
    exact hh.required hr

/-- **What was enforced once is enforced under all options whose flags it carries.** -/
theorem Enforced.reopen {opts' : U32} (h : Enforced node opts raw p)
    (hc : HasRequired opts' raw.id) :
    Enforced node opts' raw p := by
  obtain ⟨p₁, p₂, h₁, h₂, h₃, hid₁, hid₂, -⟩ := h.stages
  refine ⟨p₁, p₂, ⟨hc.xtea, h₁.verified, h₁.plain⟩, ⟨?_, h₂.verified, h₂.plain⟩,
    ⟨?_, h₃.verified, h₃.plain⟩⟩
  · rw [hid₁.id]
    exact hc.crc32
  · rw [hid₂.id, hid₁.id]
    exact hc.hmac

end LibCSP
