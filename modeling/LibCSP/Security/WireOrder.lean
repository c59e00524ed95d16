/-
# Wire bytes and the byte order of the sender

The HMAC is computed from bytes, and the nonce is converted to network order, so
neither depends on the host.  The CRC32 is copied from a word and the key stream read
out of words as the host stores them.  Two nodes that differ in nothing but their byte
order therefore send the same bytes exactly if the two differences cancel at every
byte (`OrderFree`, `wireBytes_eq_iff`): without CRC32 and XTEA always, and with CRC32
alone if the checksum reads the same from both ends (`orderFree_crc32_iff`), which it
rarely does (`crc32_depends_on_order`).
-/

import LibCSP.Security.RoundTrip

namespace LibCSP

open Basis CspPacket

namespace Node

variable (node : Node) (idout : CspId) (nonce : U32) (p : CspPacket)

/-- The same node on a host of byte order `o`. -/
def withOrder (o : ByteOrder) : Node := { node with order := o }

/-- The packet with its HMAC. -/
def hmacked : CspPacket := if idout.has cspFhmac then cspHmacAppend node.hmacKey p else p

/-- The checksum that goes behind it. -/
def checksum : U32 := cspCrc32Memory (node.hmacked idout p).bytes

/-- The length of what is encrypted. -/
def plainLength : U16 :=
  (node.hmacked idout p).length + if idout.has cspFcrc32 then 4 else 0

/-- The length on the wire. -/
def wireLength : U16 := node.plainLength idout p + if idout.has cspFxtea then 4 else 0

/-- What the CRC32 trailers of the two byte orders differ in at byte `k`. -/
def crcDiff (k : ℕ) : U8 :=
  let n := (node.hmacked idout p).length.toNat
  if idout.has cspFcrc32 ∧ n ≤ k ∧ k < n + 4 then
    byte32 .little (node.checksum idout p) (k - n) ^^^ byte32 .big (node.checksum idout p) (k - n)
  else 0

/-- What the key streams of the two byte orders differ in at byte `k`. -/
def streamDiff (k : ℕ) : U8 :=
  if idout.has cspFxtea then
    xteaStream .little node.xteaKey (nonce, 1) k ^^^ xteaStream .big node.xteaKey (nonce, 1) k
  else 0

/-- The differences cancel at every byte in front of the nonce. -/
def OrderFree : Prop :=
  ∀ k, k < (node.plainLength idout p).toNat → k < (node.wireLength idout p).toNat →
    node.crcDiff idout p k = node.streamDiff idout nonce k

/-- A packet of this length finds an interface that it fits. -/
def Leaves (routes : Routes) (idout : CspId) (length : U16) : Prop :=
  ∃ ifout, cspRouteIf routes idout.dst = some ifout ∧ ifout.nexthop ≠ none ∧
    ¬ (0 < ifout.mtu ∧ ifout.mtu < length)

/-- The bytes on the wire; `none` if the packet does not get there. -/
def wireBytes (routes : Routes) : Option (List U8) :=
  (node.cspSendDirect routes idout nonce p).2.map CspPacket.bytes

/-! ### Each stage on both hosts -/

/-- What is encrypted, on a host of order `o`. -/
def plain (o : ByteOrder) : CspPacket :=
  if idout.has cspFcrc32 then cspCrc32Append o (node.hmacked idout p) else node.hmacked idout p

/-- The packet on the wire, encrypted or not. -/
theorem secure_withOrder (o : ByteOrder) : (node.withOrder o).secure idout nonce p =
    if idout.has cspFxtea then (node.withOrder o).xteaSeal nonce (node.plain idout p o)
    else node.plain idout p o := rfl

/-- Its length before the encryption. -/
theorem plain_length (o : ByteOrder) :
    (node.plain idout p o).length = node.plainLength idout p := by
  unfold plain plainLength
  split
  · rfl
  · exact (BitVec.add_zero _).symm

/-- Its bytes before the encryption: the checksum alone depends on the byte order. -/
theorem plain_data (o : ByteOrder) (k : ℕ) : (node.plain idout p o).data k =
    if idout.has cspFcrc32 ∧ (node.hmacked idout p).length.toNat ≤ k ∧
        k < (node.hmacked idout p).length.toNat + 4 then
      byte32 o (node.checksum idout p) (k - (node.hmacked idout p).length.toNat)
    else (node.hmacked idout p).data k := by
  unfold plain
  split
  · rename_i hf
    rw [cspCrc32Append, appendTrailer_data]
    split
    · rename_i hk
      rw [if_pos ⟨hf, hk⟩]
      rfl
    · rename_i hk
      rw [if_neg (fun h => hk h.2)]
  · rename_i hf
    rw [if_neg (fun h => hf h.1)]

/-- What the byte order changes in it. -/
theorem crcDiff_eq (k : ℕ) : node.crcDiff idout p k =
    (node.plain idout p .little).data k ^^^ (node.plain idout p .big).data k := by
  rw [plain_data, plain_data, crcDiff]
  split
  · rfl
  · exact BitVec.xor_self.symm

/-- Its length does not depend on the byte order. -/
theorem secure_length (o : ByteOrder) :
    ((node.withOrder o).secure idout nonce p).length = node.wireLength idout p := by
  rw [secure_withOrder, wireLength, ← plain_length node idout p o]
  split
  · rfl
  · exact (BitVec.add_zero _).symm

/-- In front of the nonce: the plaintext, and the key stream if there is one. -/
theorem secure_data_lt (o : ByteOrder) {k : ℕ} (hk : k < (node.plainLength idout p).toNat) :
    ((node.withOrder o).secure idout nonce p).data k = (node.plain idout p o).data k ^^^
      if idout.has cspFxtea then xteaStream o node.xteaKey (nonce, 1) k else 0 := by
  rw [← plain_length node idout p o] at hk
  rw [secure_withOrder]
  split
  · exact xteaSeal_data_lt (node.withOrder o) nonce hk
  · exact BitVec.xor_zero.symm

/-- The nonce is the same on both hosts. -/
theorem secure_data_ge {k : ℕ} (hk : (node.plainLength idout p).toNat ≤ k)
    (hwire : k < (node.wireLength idout p).toNat) :
    ((node.withOrder .little).secure idout nonce p).data k =
      ((node.withOrder .big).secure idout nonce p).data k := by
  have hbyte : ∀ o, ((node.withOrder o).secure idout nonce p).data k =
      byteOf nonce (3 - (k - (node.plainLength idout p).toNat)) := by
    intro o
    unfold wireLength at hwire
    rw [secure_withOrder]
    split
    · rename_i hf
      rw [if_pos hf, BitVec.toNat_add] at hwire
      have hlt : k - (node.plainLength idout p).toNat < 4 := by
        have hmod := Nat.mod_le ((node.plainLength idout p).toNat + (4 : U16).toNat) (2 ^ 16)
        have hfour : (4 : U16).toNat = 4 := rfl
        omega
      have hnonce := xteaSeal_data_add (node.withOrder o) nonce (node.plain idout p o) hlt
      rw [plain_length, Nat.add_sub_cancel' hk] at hnonce
      rw [hnonce]
      exact byte32_hton32 o nonce hlt
    · rename_i hf
      have hzero : node.plainLength idout p + 0 = node.plainLength idout p := BitVec.add_zero _
      rw [if_neg hf, hzero] at hwire
      exact absurd hwire (Nat.not_lt.2 hk)
  rw [hbyte, hbyte]

/-! ### Both wires -/

/-- Two differences are equal when the bytes differ by as much. -/
theorem xor_eq_xor_iff (a b s t : U8) : a ^^^ s = b ^^^ t ↔ a ^^^ b = s ^^^ t := by
  have hxor : (a ^^^ s) ^^^ (b ^^^ t) = (a ^^^ b) ^^^ (s ^^^ t) := by
    rw [BitVec.xor_assoc, ← BitVec.xor_assoc s b t, BitVec.xor_comm s b, BitVec.xor_assoc b s t,
      ← BitVec.xor_assoc]
  rw [← BitVec.xor_eq_zero_iff, hxor, BitVec.xor_eq_zero_iff]

/-- Both hosts make the same bytes of a packet exactly if the differences cancel. -/
theorem secure_bytes_eq_iff : ((node.withOrder .little).secure idout nonce p).bytes =
    ((node.withOrder .big).secure idout nonce p).bytes ↔ node.OrderFree idout nonce p := by
  have hlen : ∀ o, ((node.withOrder o).secure idout nonce p).length = node.wireLength idout p :=
    node.secure_length idout nonce p
  have hlt : ∀ k, k < (node.plainLength idout p).toNat →
      (((node.withOrder .little).secure idout nonce p).data k =
          ((node.withOrder .big).secure idout nonce p).data k ↔
        node.crcDiff idout p k = node.streamDiff idout nonce k) := by
    intro k hk
    rw [secure_data_lt node idout nonce p .little hk, secure_data_lt node idout nonce p .big hk,
      xor_eq_xor_iff, crcDiff_eq, streamDiff]
    split
    · exact Iff.rfl
    · rw [BitVec.xor_self]
      rfl
  constructor
  · intro h k hk hwire
    have hsame := SameBytes.of_bytes ((hlen .little).trans (hlen .big).symm) h
    exact (hlt k hk).1 (hsame.data k (by rwa [hlen]))
  · intro h
    refine SameBytes.bytes_eq ⟨(hlen .little).trans (hlen .big).symm, fun k hwire => ?_⟩
    rw [hlen] at hwire
    rcases Nat.lt_or_ge k (node.plainLength idout p).toNat with hk | hk
    · exact (hlt k hk).2 (h k hk hwire)
    · exact node.secure_data_ge idout nonce p hk hwire

variable {node idout p} in

/-- A packet that has a route and fits is on the wire. -/
theorem wireBytes_of_leaves {routes : Routes} (hsrc : idout.src = node.myAddress)
    (h : Leaves routes idout (node.wireLength idout p)) (o : ByteOrder) :
    (node.withOrder o).wireBytes idout nonce p routes =
      some ((node.withOrder o).secure idout nonce p).bytes := by
  obtain ⟨ifout, hroute, hnexthop, hmtu⟩ := h
  obtain ⟨nexthop, hnexthop⟩ := Option.ne_none_iff_exists'.1 hnexthop
  have hown : idout.src = (node.withOrder o).myAddress := hsrc
  rw [← node.secure_length idout nonce p o] at hmtu
  simp only [wireBytes, cspSendDirect, hroute, hnexthop, if_pos hown, if_neg hmtu, Option.map_some]
  rfl

variable {node idout p} in

/-- Another one is not. -/
theorem wireBytes_of_not_leaves {routes : Routes} (hsrc : idout.src = node.myAddress)
    (h : ¬ Leaves routes idout (node.wireLength idout p)) (o : ByteOrder) :
    (node.withOrder o).wireBytes idout nonce p routes = none := by
  have hown : idout.src = (node.withOrder o).myAddress := hsrc
  unfold wireBytes cspSendDirect
  split
  · rfl
  · rename_i ifout hroute
    split
    · rfl
    · rename_i nexthop hnexthop
      have hmtu : 0 < ifout.mtu ∧ ifout.mtu < node.wireLength idout p := by
        by_contra hmtu
        exact h ⟨ifout, hroute, hnexthop ▸ Option.some_ne_none nexthop, hmtu⟩
      rw [← node.secure_length idout nonce p o] at hmtu
      simp only [if_pos hown, if_pos hmtu, Option.map_none]

variable {node idout} in
/-- A packet of another node is passed on as it is. -/
theorem wireBytes_forwarded (hsrc : idout.src ≠ node.myAddress) (routes : Routes) (o : ByteOrder) :
    (node.withOrder o).wireBytes idout nonce p routes = node.wireBytes idout nonce p routes := by
  have hother : ¬ idout.src = (node.withOrder o).myAddress := hsrc
  simp only [wireBytes, cspSendDirect, if_neg hother, if_neg hsrc]

/-- **Wire format and host byte order.**  The bytes on the wire are the same on both hosts
exactly if the packet is not one of this node, does not leave, or its CRC32 trailer and its
key stream depend on the byte order in the same way. -/
theorem wireBytes_eq_iff (routes : Routes) :
    (node.withOrder .little).wireBytes idout nonce p routes =
        (node.withOrder .big).wireBytes idout nonce p routes ↔
      (idout.src = node.myAddress → Leaves routes idout (node.wireLength idout p) →
        node.OrderFree idout nonce p) := by
  by_cases hsrc : idout.src = node.myAddress
  · by_cases hleaves : Leaves routes idout (node.wireLength idout p)
    · rw [wireBytes_of_leaves nonce hsrc hleaves, wireBytes_of_leaves nonce hsrc hleaves,
        Option.some_inj, secure_bytes_eq_iff]
      exact ⟨fun h _ _ => h, fun h => h hsrc hleaves⟩
    · rw [wireBytes_of_not_leaves nonce hsrc hleaves, wireBytes_of_not_leaves nonce hsrc hleaves]
      exact iff_of_true rfl fun _ h => absurd h hleaves
  · rw [wireBytes_forwarded nonce p hsrc, wireBytes_forwarded nonce p hsrc]
    exact iff_of_true rfl fun h => absurd h hsrc

/-! ### Which packets do -/

/-- Without CRC32 and XTEA nothing depends on the byte order. -/
theorem orderFree_of_plain (hcrc : idout.has cspFcrc32 = false)
    (hxtea : idout.has cspFxtea = false) : node.OrderFree idout nonce p := by
  intro k _ _
  rw [crcDiff, streamDiff, hcrc, hxtea, if_neg Bool.false_ne_true,
    if_neg (fun h => Bool.false_ne_true h.1)]

/-- With CRC32 alone the checksum has to read the same from both ends. -/
theorem orderFree_crc32_iff (hcrc : idout.has cspFcrc32 = true)
    (hxtea : idout.has cspFxtea = false)
    (hroom : (node.hmacked idout p).length.toNat + 4 < 2 ^ 16) :
    node.OrderFree idout nonce p ↔ swap32 (node.checksum idout p) = node.checksum idout p := by
  obtain ⟨n, hn⟩ : ∃ n, n = (node.hmacked idout p).length.toNat := ⟨_, rfl⟩
  rw [← hn] at hroom
  have hplain : (node.plainLength idout p).toNat = n + 4 := by
    rw [plainLength, if_pos hcrc, BitVec.toNat_add, ← hn]
    exact Nat.mod_eq_of_lt hroom
  have hwire : (node.wireLength idout p).toNat = n + 4 := by
    rw [wireLength, hxtea, if_neg Bool.false_ne_true, ← hplain]
    exact congrArg BitVec.toNat (BitVec.add_zero _)
  have hstream : ∀ k, node.streamDiff idout nonce k = 0 := fun k => by
    rw [streamDiff, hxtea, if_neg Bool.false_ne_true]
  have hdiff : ∀ j, j < 4 → (node.crcDiff idout p (n + j) = 0 ↔
      byteOf (node.checksum idout p) j = byteOf (node.checksum idout p) (3 - j)) := by
    intro j hj
    rw [crcDiff, ← hn, if_pos ⟨hcrc, by omega, by omega⟩, Nat.add_sub_cancel_left]
    exact BitVec.xor_eq_zero_iff
  rw [swap32_eq_self_iff]
  constructor
  · intro h
    have hbyte : ∀ j, j < 4 →
        byteOf (node.checksum idout p) j = byteOf (node.checksum idout p) (3 - j) := fun j hj =>
      (hdiff j hj).1 ((h (n + j) (by omega) (by omega)).trans (hstream _))
    exact ⟨hbyte 0 (by decide), hbyte 1 (by decide)⟩
  · rintro ⟨h₀, h₁⟩ k hk -
    rw [hstream]
    rcases Nat.lt_or_ge k n with hlt | hge
    · rw [crcDiff, ← hn, if_neg (by omega)]
    · obtain ⟨j, rfl⟩ := Nat.exists_eq_add_of_le hge
      have hj : j < 4 := by omega
      rw [hdiff j hj]
      interval_cases j
      exacts [h₀, h₁, h₁.symm, h₀.symm]

/-- One byte with CRC32, from node 1 to node 2. -/
def checkedId : CspId := 0x82200001

/-- **The CRC32 trailer of one zero byte** is not the same on both hosts. -/
theorem crc32_depends_on_order :
    ((nodeOne .big).withOrder .little).wireBytes checkedId 42 ⟨0, 0, 0, 1, 0, fun _ => 0⟩
        openRoutes ≠
      ((nodeOne .big).withOrder .big).wireBytes checkedId 42 ⟨0, 0, 0, 1, 0, fun _ => 0⟩
        openRoutes := by
  decide +kernel

end Node
end LibCSP
