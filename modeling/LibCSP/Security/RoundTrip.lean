/-
# Security trailers round trip

A packet carries the payload through each stage of `csp_send_direct` and back through
the stage of `csp_route_security_check` that undoes it: the trailers
(`CspPacket.verifyTrailer_appendTrailer`) and the encryption (`xteaOpen_xteaSeal`).  So
the check takes off what was put on, for every choice of flags
(`cspRouteSecurityCheck_sendDirect`).
-/

import LibCSP.Security.Wire

namespace LibCSP

open Basis CspPacket

/-- The bytes that the flags add to a packet. -/
def trailerBytes (id : CspId) : ℕ :=
  (if id.has cspFhmac then 4 else 0) + (if id.has cspFcrc32 then 4 else 0) +
    (if id.has cspFxtea then 4 else 0)

/-- Every feature that the options require is among the flags. -/
structure Covers (id : CspId) (securityOpts : U32) : Prop where
  hmac : securityOpts &&& cspSoHmacreq ≠ 0 → id.has cspFhmac = true
  crc32 : securityOpts &&& cspSoCrc32req ≠ 0 → id.has cspFcrc32 = true
  xtea : securityOpts &&& cspSoXteareq ≠ 0 → id.has cspFxtea = true

/-- Identifiers with the same flags ask for the same. -/
theorem CspId.has_congr {id id' : CspId} (h : id.flags = id'.flags) (f : U8) :
    id.has f = id'.has f := by
  rw [has, has, h]

namespace Node

/-! ### Encryption -/

/-- Encryption adds four bytes. -/
theorem xteaSeal_length (node : Node) (nonce : U32) (p : CspPacket) :
    (node.xteaSeal nonce p).length = p.length + 4 := rfl

/-- In front of the nonce lies the ciphertext. -/
theorem xteaSeal_data_lt (node : Node) (nonce : U32) {p : CspPacket} {k : ℕ}
    (hk : k < p.length.toNat) : (node.xteaSeal nonce p).data k =
      p.data k ^^^ xteaStream node.order node.xteaKey (nonce, 1) k := by
  show cspXteaEncrypt _ _ (p.write _ _).data _ _ k = _
  rw [cspXteaEncrypt_apply, if_pos hk]
  congr 1
  exact if_neg (by omega)

/-- Behind it lies the nonce in network order. -/
theorem xteaSeal_data_add (node : Node) (nonce : U32) (p : CspPacket) {k : ℕ} (hk : k < 4) :
    (node.xteaSeal nonce p).data (p.length.toNat + k) =
      byte32 node.order (hton32 node.order nonce) k := by
  show cspXteaEncrypt _ _ (p.write _ _).data _ _ _ = _
  rw [cspXteaEncrypt_apply, if_neg (by omega)]
  show (if _ ∧ _ < _ + ((List.range 4).map _).length then _ else _) = _
  rw [List.length_map, List.length_range, if_pos (by omega), Nat.add_sub_cancel_left,
    List.getD_eq_getElem _ _ (by rwa [List.length_map, List.length_range]), List.getElem_map,
    List.getElem_range]

/-- **What was encrypted is decrypted**, in any packet that carries it. -/
theorem xteaOpen_xteaSeal (node : Node) (nonce : U32) {p q : CspPacket}
    (hroom : p.length.toNat + 4 < 2 ^ 16) (h : SameBytes (node.xteaSeal nonce p) q) :
    SameBytes p (node.xteaOpen q) ∧ (node.xteaOpen q).id = q.id := by
  have hlen : (node.xteaSeal nonce p).length.toNat = p.length.toNat + 4 := by
    rw [xteaSeal_length, BitVec.toNat_add]
    exact Nat.mod_eq_of_lt hroom
  have hqlen : q.length.toNat = p.length.toNat + 4 := (congrArg BitVec.toNat h.length).trans hlen
  have hcut : q.length - 4 = p.length := by
    rw [h.length]
    exact BitVec.add_sub_cancel _ _
  have hb : ∀ k : Fin 4, q.lastFour node.order k =
      byte32 node.order (hton32 node.order nonce) k := by
    intro k
    have hk := k.isLt
    rw [lastFour, hqlen, show p.length.toNat + 4 + 2 + k = p.length.toNat + k + 6 by omega,
      mem_add_six, h.data _ (by omega), xteaSeal_data_add node nonce p hk]
  have hnonce : hton32 node.order (load32 node.order (q.lastFour node.order 0)
      (q.lastFour node.order 1) (q.lastFour node.order 2) (q.lastFour node.order 3)) = nonce := by
    rw [hb, hb, hb, hb]
    exact (congrArg (hton32 node.order) (load32_byte32 ..)).trans (hton32_hton32 ..)
  refine ⟨⟨hcut, fun k hk => ?_⟩, rfl⟩
  show cspXteaEncrypt _ _ q.data (q.length - 4).toNat (hton32 _ _, 1) k = p.data k
  have hplain : (p.write p.length.toNat ((List.range 4).map
      (byte32 node.order (hton32 node.order nonce)))).data k = p.data k := if_neg (by omega)
  rw [hnonce, hcut, ← hplain]
  exact cspXteaEncrypt_twice _ _ _ (fun j hj => h.data j (by omega)) hk

/-! ### The check -/

/-- A stage of the check hands on what its stage of the sender was given. -/
theorem checkFeature_ok {flag : U8} {req securityOpts : U32} {err : CspErr}
    {verify : CspPacket → Option CspPacket} {p q : CspPacket}
    (hreq : securityOpts &&& req ≠ 0 → q.id.has flag = true)
    (hset : q.id.has flag = true → ∃ q', verify q = some q' ∧ SameBytes p q' ∧ q'.id = q.id)
    (hclear : q.id.has flag = false → SameBytes p q) :
    ∃ q', checkFeature flag req err verify securityOpts q = .ok q' ∧ SameBytes p q' ∧
      q'.id = q.id := by
  unfold checkFeature
  rcases hflag : q.id.has flag with _ | _
  · have hopt : ¬ securityOpts &&& req ≠ 0 := fun h => by
      rw [hreq h] at hflag
      exact Bool.false_ne_true hflag.symm
    rw [if_neg Bool.false_ne_true, if_neg hopt]
    exact ⟨q, rfl, hclear hflag, rfl⟩
  · obtain ⟨q', hq', hsame, hid⟩ := hset hflag
    rw [if_pos rfl, hq']
    exact ⟨q', rfl, hsame, hid⟩

/-- **The check takes off what was put on.** -/
theorem cspRouteSecurityCheck_secure (node : Node) {idout : CspId} (nonce : U32)
    {securityOpts : U32} {p q : CspPacket} (hroom : p.length.toNat + trailerBytes idout < 2 ^ 16)
    (hflags : q.id.flags = idout.flags) (hopts : Covers idout securityOpts)
    (h : SameBytes (node.secure idout nonce p) q) :
    ∃ q', node.cspRouteSecurityCheck securityOpts q = .ok q' ∧ SameBytes p q' := by
  have hhas : ∀ f, q.id.has f = idout.has f := CspId.has_congr hflags
  obtain ⟨p₁, p₂, hp₁, hp₂, hp₃⟩ := node.secure_stages idout nonce p
  rw [hp₃] at h
  have hlen₁ : p₁.length.toNat = p.length.toNat + if idout.has cspFhmac then 4 else 0 := by
    rw [hp₁]
    split
    · rename_i hf
      rw [trailerBytes, if_pos hf] at hroom
      exact appendTrailer_length _ (by omega)
    · rfl
  have hlen₂ : p₂.length.toNat = p₁.length.toNat + if idout.has cspFcrc32 then 4 else 0 := by
    rw [hp₂]
    split
    · rename_i hf
      rw [trailerBytes, if_pos hf] at hroom
      exact appendTrailer_length _ (by omega)
    · rfl
  rw [trailerBytes] at hroom
  obtain ⟨q₂, hq₂, hsame₂, hid₂⟩ : ∃ q₂, checkFeature cspFxtea cspSoXteareq .xtea
      (fun p => some (node.xteaOpen p)) securityOpts q = .ok q₂ ∧ SameBytes p₂ q₂ ∧
        q₂.id = q.id := by
    refine checkFeature_ok (fun hr => (hhas _).trans (hopts.xtea hr)) (fun hf => ?_) fun hf => ?_
    · rw [hhas] at hf
      rw [if_pos hf] at h
      rw [if_pos hf] at hroom
      exact ⟨_, rfl, node.xteaOpen_xteaSeal nonce (by omega) h⟩
    · rw [hhas] at hf
      rwa [hf, if_neg Bool.false_ne_true] at h
  obtain ⟨q₁, hq₁, hsame₁, hid₁⟩ : ∃ q₁, checkFeature cspFcrc32 cspSoCrc32req .crc32
      (cspCrc32Verify node.order) securityOpts q₂ = .ok q₁ ∧ SameBytes p₁ q₁ ∧ q₁.id = q₂.id := by
    rw [← hid₂] at hhas
    refine checkFeature_ok (fun hr => (hhas _).trans (hopts.crc32 hr)) (fun hf => ?_) fun hf => ?_
    · rw [hhas] at hf
      rw [hp₂, if_pos hf] at hsame₂
      rw [if_pos hf] at hroom
      exact verifyTrailer_appendTrailer _ _ (by omega) hsame₂
    · rw [hhas] at hf
      rwa [hp₂, hf, if_neg Bool.false_ne_true] at hsame₂
  obtain ⟨q₀, hq₀, hsame₀, -⟩ : ∃ q₀, checkFeature cspFhmac cspSoHmacreq .hmac
      (cspHmacVerify node.order node.hmacKey) securityOpts q₁ = .ok q₀ ∧ SameBytes p q₀ ∧
        q₀.id = q₁.id := by
    rw [← hid₂, ← hid₁] at hhas
    refine checkFeature_ok (fun hr => (hhas _).trans (hopts.hmac hr)) (fun hf => ?_) fun hf => ?_
    · rw [hhas] at hf
      rw [hp₁, if_pos hf] at hsame₁
      rw [if_pos hf] at hroom
      exact verifyTrailer_appendTrailer _ _ (by omega) hsame₁
    · rw [hhas] at hf
      rwa [hp₁, hf, if_neg Bool.false_ne_true] at hsame₁
  refine ⟨q₀, ?_, hsame₀⟩
  rw [cspRouteSecurityCheck, hq₂]
  show (checkFeature _ _ _ _ _ q₂ >>= _) = _
  rw [hq₁]
  exact hq₀

/-- Nodes of one byte order that share keys secure packets alike. -/
theorem secure_congr {sender receiver : Node} (horder : receiver.order = sender.order)
    (hhmac : receiver.hmacKey = sender.hmacKey) (hxtea : receiver.xteaKey = sender.xteaKey)
    (idout : CspId) (nonce : U32) (p : CspPacket) :
    receiver.secure idout nonce p = sender.secure idout nonce p := by
  simp only [secure, xteaSeal, horder, hhmac, hxtea]

/-- What an interface is given, if it is given a packet. -/
theorem cspSendDirect_wire {node : Node} {routes : Routes} {idout : CspId} {nonce : U32}
    {p w : CspPacket} (h : (node.cspSendDirect routes idout nonce p).2 = some w) :
    w = { (if idout.src = node.myAddress then node.secure idout nonce p else p) with
      id := idout } := by
  unfold cspSendDirect at h
  generalize (if idout.src = node.myAddress then node.secure idout nonce p else p) = p' at h ⊢
  split at h
  · exact absurd h.symm (Option.some_ne_none w)
  · split at h
    · exact absurd h.symm (Option.some_ne_none w)
    · dsimp only at h
      split at h
      · exact absurd h.symm (Option.some_ne_none w)
      · exact (Option.some.inj h).symm

/-- A packet of this node goes out secured. -/
theorem cspSendDirect_some {node : Node} {routes : Routes} {idout : CspId} {nonce : U32}
    {p w : CspPacket} (hsrc : idout.src = node.myAddress)
    (h : (node.cspSendDirect routes idout nonce p).2 = some w) :
    w = { node.secure idout nonce p with id := idout } := by
  have hw := cspSendDirect_wire h
  rwa [if_pos hsrc] at hw

/-- **Security trailers round trip.**  What `csp_send_direct` makes of a packet of its own
node passes the security check of a node of the same byte order and keys, which hands on
the payload. -/
theorem cspRouteSecurityCheck_sendDirect {sender receiver : Node} {routes : Routes}
    {idout : CspId} {nonce securityOpts : U32} {p w q : CspPacket}
    (horder : receiver.order = sender.order) (hhmac : receiver.hmacKey = sender.hmacKey)
    (hxtea : receiver.xteaKey = sender.xteaKey) (hsrc : idout.src = sender.myAddress)
    (hroom : p.length.toNat + trailerBytes idout < 2 ^ 16)
    (hsent : (sender.cspSendDirect routes idout nonce p).2 = some w)
    (hlength : q.length = w.length) (hbytes : q.bytes = w.bytes)
    (hflags : q.id.flags = idout.flags) (hopts : Covers idout securityOpts) :
    ∃ q', receiver.cspRouteSecurityCheck securityOpts q = .ok q' ∧ q'.length = p.length ∧
      q'.bytes = p.bytes := by
  have hw := cspSendDirect_some hsrc hsent
  have hsame : SameBytes w q := .of_bytes hlength hbytes
  have hcarry : SameBytes (receiver.secure idout nonce p) q := by
    rw [secure_congr horder hhmac hxtea]
    rw [hw] at hsame
    exact ⟨hsame.length, hsame.data⟩
  obtain ⟨q', hcheck, hq'⟩ :=
    receiver.cspRouteSecurityCheck_secure nonce hroom hflags hopts hcarry
  exact ⟨q', hcheck, hq'.length, hq'.bytes_eq⟩

/-- Node 1, with all routes on one interface that takes everything. -/
def nodeOne (o : ByteOrder) : Node := ⟨o, 1, cspHmacSetKey [1, 2, 3], cspXteaSetKey [4, 5, 6]⟩

def openRoutes : Routes := ⟨fun _ => none, some ⟨some fun _ => 1, 0⟩⟩

/-- Priority 2, from node 1 to node 2, with HMAC, XTEA and CRC32. -/
def securedId : CspId := 0x8220000d

def threeBytes : CspPacket := ⟨0, 0, 0, 3, 0, fun _ => 7⟩

/-- Three bytes with all trailers, checked by options that require all of them. -/
theorem cspRouteSecurityCheck_sendDirect_all :
    ∃ w, ((nodeOne .big).cspSendDirect openRoutes securedId 42 threeBytes).2 = some w ∧
      ∃ q', (nodeOne .big).cspRouteSecurityCheck 0x54 w = .ok q' ∧
        q'.length = threeBytes.length ∧ q'.bytes = threeBytes.bytes := by
  have hsent : ((nodeOne .big).cspSendDirect openRoutes securedId 42 threeBytes).2 =
      some { (nodeOne .big).secure securedId 42 threeBytes with id := securedId } := rfl
  have hsrc : securedId.src = (nodeOne .big).myAddress := by decide
  have hroom : threeBytes.length.toNat + trailerBytes securedId < 2 ^ 16 := by decide
  have hopts : Covers securedId 0x54 := ⟨by decide, by decide, by decide⟩
  exact ⟨_, hsent, cspRouteSecurityCheck_sendDirect rfl rfl rfl hsrc hroom hsent rfl rfl rfl hopts⟩

end Node
end LibCSP
