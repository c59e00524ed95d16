/-
# Sending and receiving secured packets

`csp_send_direct` of `src/csp_io.c` secures the packets of this node: HMAC, CRC32,
then encryption with the nonce behind the ciphertext, each where the identifier's
flags ask for it.  `csp_route_security_check` of `src/csp_route.c` takes this off again
in the opposite order.

The packet on the wire is the one `nexthop` is called with.
-/

import LibCSP.Security.Crc32
import LibCSP.Security.Xtea

namespace LibCSP

open Basis

/-- What both functions read of the node they run on. -/
structure Node where
  order : ByteOrder
  /-- `my_address`. -/
  myAddress : BitVec 5
  hmacKey : StoredKey
  xteaKey : StoredKey

/-- `csp_iface_t`. -/
structure CspIface where
  /-- `none` for `NULL`. -/
  nexthop : Option (CspPacket → ℤ)
  mtu : U16

/-- `routes[]`, the entry `CSP_DEFAULT_ROUTE` apart. -/
structure Routes where
  host : BitVec 5 → Option CspIface
  default : Option CspIface

/-- `csp_route_if`. -/
def cspRouteIf (routes : Routes) (id : BitVec 5) : Option CspIface :=
  (routes.host id).or routes.default

/-- `CSP_SO_HMACREQ`. -/
def cspSoHmacreq : U32 := 0x0004
/-- `CSP_SO_XTEAREQ`. -/
def cspSoXteareq : U32 := 0x0010
/-- `CSP_SO_CRC32REQ`. -/
def cspSoCrc32req : U32 := 0x0040

namespace Node

variable (node : Node)

/-! ### Sending -/

/-- The nonce behind the data, which is encrypted. -/
def xteaSeal (nonce : U32) (p : CspPacket) : CspPacket :=
  let nonceN := hton32 node.order nonce
  let p' := p.write p.length.toNat ((List.range 4).map (byte32 node.order nonceN))
  { p' with
    data := cspXteaEncrypt node.order node.xteaKey p'.data p.length.toNat (nonce, 1)
    length := p.length + 4 }

/-- What `csp_send_direct` makes of a packet of this node. -/
def secure (idout : CspId) (nonce : U32) (p : CspPacket) : CspPacket :=
  let p := if idout.has cspFhmac then cspHmacAppend node.hmacKey p else p
  let p := if idout.has cspFcrc32 then cspCrc32Append node.order p else p
  if idout.has cspFxtea then node.xteaSeal nonce p else p

/-- The packet after each of the two trailers. -/
theorem secure_stages (idout : CspId) (nonce : U32) (p : CspPacket) : ∃ p₁ p₂,
    p₁ = (if idout.has cspFhmac then cspHmacAppend node.hmacKey p else p) ∧
      p₂ = (if idout.has cspFcrc32 then cspCrc32Append node.order p₁ else p₁) ∧
        node.secure idout nonce p =
          if idout.has cspFxtea then node.xteaSeal nonce p₂ else p₂ :=
  ⟨_, _, rfl, rfl, rfl⟩

/-- `csp_send_direct`, given what `rand` returns: its result, and the packet on the
wire, if it comes to that. -/
def cspSendDirect (routes : Routes) (idout : CspId) (nonce : U32)
    (packet : CspPacket) : CspErr × Option CspPacket :=
  match cspRouteIf routes idout.dst with
  | none => (.tx, none)
  | some ifout =>
    match ifout.nexthop with
    | none => (.tx, none)
    | some nexthop =>
      let packet := if idout.src = node.myAddress then node.secure idout nonce packet else packet
      let packet := { packet with id := idout }
      if 0 < ifout.mtu ∧ ifout.mtu < packet.length then (.tx, none)
      else (if nexthop packet = 1 then .none else .tx, some packet)

/-! ### Receiving -/

/-- The nonce is read and cut off, and the data decrypted. -/
def xteaOpen (p : CspPacket) : CspPacket :=
  let b (k : Fin 4) : U8 := p.lastFour node.order k
  let nonce := hton32 node.order (load32 node.order (b 0) (b 1) (b 2) (b 3))
  let length := p.length - 4
  { p with
    length := length
    data := cspXteaEncrypt node.order node.xteaKey p.data length.toNat (nonce, 1) }

/-- The part of the security check that looks at one flag: what takes the feature off
where the flag is set, and an error where it is required and missing. -/
def checkFeature (flag : U8) (req : U32) (err : CspErr) (verify : CspPacket → Option CspPacket)
    (securityOpts : U32) (p : CspPacket) : Except CspErr CspPacket :=
  if p.id.has flag then
    match verify p with
    | some p => .ok p
    | none => .error err
  else if securityOpts &&& req ≠ 0 then .error err
  else .ok p

/-- `csp_route_security_check`; `.ok` for `CSP_ERR_NONE`. -/
def cspRouteSecurityCheck (securityOpts : U32) (packet : CspPacket) :
    Except CspErr CspPacket := do
  let packet ← checkFeature cspFxtea cspSoXteareq .xtea (fun p => some (node.xteaOpen p))
    securityOpts packet
  let packet ← checkFeature cspFcrc32 cspSoCrc32req .crc32 (cspCrc32Verify node.order)
    securityOpts packet
  checkFeature cspFhmac cspSoHmacreq .hmac (cspHmacVerify node.order node.hmacKey)
    securityOpts packet

end Node
end LibCSP
