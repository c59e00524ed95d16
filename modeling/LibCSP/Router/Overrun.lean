/-
# Where sending writes

`csp_send` and `csp_sendto` extend the packet of the caller in place: the RDP header, the HMAC,
the CRC32 and the nonce each go behind `data[length]`, and no length is compared with anything
before the interface is called.  `csp_buffer_get` made room for the payload only.

`sendWrites` and `sendtoWrites` are the offsets into `packet->data` that are written on the way
through the source; the others keep their bytes (`cspSend_keeps`, `cspSendto_keeps`).  What is
appended is a list of sizes, put one behind the other at a 16-bit length (`appendWrites`), so the
writes stay below a bound exactly if the last of them ends there, or the one with which the length
wraps (`appendWrites_lt_iff`).
-/

import LibCSP.Core.Search
import LibCSP.Router.Stack
import LibCSP.Security.Send

namespace LibCSP

open Basis

/-! ### Appending at a 16-bit length -/

/-- The offsets written when blocks of these sizes are appended. -/
def appendWrites : U16 → List ℕ → List ℕ
  | _, [] => []
  | length, n :: sizes =>
    List.range' length.toNat n ++ appendWrites (length + BitVec.ofNat 16 n) sizes

/-- How far the blocks reach: to the end of the last one, or of the one with which the length
wraps. -/
def appendReach : ℕ → List ℕ → ℕ
  | length, [] => length
  | length, n :: sizes =>
    if length + n < 2 ^ 16 then appendReach (length + n) sizes else length + n

/-- Appending makes a packet no shorter. -/
theorem le_appendReach (length : ℕ) (sizes : List ℕ) : length ≤ appendReach length sizes := by
  induction sizes generalizing length with
  | nil => exact le_rfl
  | cons n sizes ih =>
    unfold appendReach
    split
    · exact (Nat.le_add_right _ n).trans (ih _)
    · exact Nat.le_add_right _ n

/-- The length after appending, with its wrap. -/
theorem toNat_append (length : U16) (n : ℕ) :
    (length + BitVec.ofNat 16 n).toNat = (length.toNat + n) % 2 ^ 16 := by
  rw [BitVec.toNat_add, BitVec.toNat_ofNat, Nat.add_mod_mod]

/-- What is appended lies behind the packet and in front of its new end. -/
theorem appendWrites_lt (length : U16) (sizes : List ℕ) :
    ∀ k ∈ appendWrites length sizes, k < length.toNat + sizes.sum := by
  induction sizes generalizing length with
  | nil => exact fun k hk => absurd hk List.not_mem_nil
  | cons n sizes ih =>
    intro k hk
    rw [List.sum_cons]
    rcases List.mem_append.1 hk with hk | hk
    · have := (List.mem_range'_1.1 hk).2
      omega
    · have hlt := ih _ k hk
      have hle := Nat.mod_le (length.toNat + n) (2 ^ 16)
      rw [toNat_append] at hlt
      omega

/-- **What is appended stays below a bound** exactly if it reaches no further. -/
theorem appendWrites_lt_iff {length : U16} {sizes : List ℕ} {room : ℕ}
    (hpos : ∀ n ∈ sizes, 0 < n) (hsum : sizes.sum ≤ 2 ^ 16) :
    (∀ k ∈ appendWrites length sizes, k < room) ↔
      (sizes ≠ [] → appendReach length.toNat sizes ≤ room) := by
  induction sizes generalizing length with
  | nil => exact iff_of_true (fun k hk => absurd hk List.not_mem_nil) fun h => absurd rfl h
  | cons n sizes ih =>
    have hn := hpos n List.mem_cons_self
    rw [List.sum_cons] at hsum
    have hlt := length.isLt
    have hblock : (∀ k ∈ List.range' length.toNat n, k < room) ↔ length.toNat + n ≤ room := by
      constructor
      · intro h
        have := h (length.toNat + n - 1) (List.mem_range'_1.2 (by omega))
        omega
      · intro h k hk
        have := (List.mem_range'_1.1 hk).2
        omega
    have hrest := @ih (length + BitVec.ofNat 16 n) (fun m hm => hpos m (List.mem_cons_of_mem _ hm))
      (by omega)
    rw [toNat_append] at hrest
    unfold appendWrites appendReach
    rw [List.forall_mem_append, hblock, hrest]
    simp only [ne_eq, reduceCtorEq, not_false_eq_true, forall_const]
    split
    · rename_i hwrap
      rw [Nat.mod_eq_of_lt hwrap]
      constructor
      · rintro ⟨hfirst, hmore⟩
        cases sizes with
        | nil => exact hfirst
        | cons m sizes => exact hmore (List.cons_ne_nil m sizes)
      · exact fun h => ⟨(le_appendReach _ _).trans h, fun _ => h⟩
    · rename_i hwrap
      refine and_iff_left_of_imp fun hfirst hne => ?_
      -- the length has wrapped: what follows lies at the beginning of the data
      have hrange := appendWrites_lt (length + BitVec.ofNat 16 n) sizes
      rw [toNat_append] at hrange
      have := (hrest.1 fun k hk => (hrange k hk).trans_le (by omega)) hne
      exact this

/-! ### What the calls write -/

/-- The HMAC, the CRC32 and the nonce of a packet with these flags. -/
def CspId.trailers (idout : CspId) : List ℕ :=
  (if idout.has cspFhmac then [4] else []) ++
    ((if idout.has cspFcrc32 then [4] else []) ++ if idout.has cspFxtea then [4] else [])

/-- The header, if the RDP half of `csp_send` gets to it: it is written before the copy is
allocated. -/
def rdpSendWrites (wait : World → Bool × World) (packet : CspPacket) (w : World) : List ℕ :=
  if w.conn.rdp.state ≠ .rdpOpen then []
  else
    let r := if w.conn.rdp.windowFull then wait (txWaitTake w) else (true, w)
    if r.1 then List.range' packet.length.toNat sizeofRdpHeader else []

/-- The options of `csp_sendto` as flags. -/
def sendtoFlags (opts : U32) : U8 :=
  (if opts &&& cspSoHmacreq ≠ 0 then cspFhmac else 0) |||
    (if opts &&& cspSoXteareq ≠ 0 then cspFxtea else 0) |||
    (if opts &&& cspSoCrc32req ≠ 0 then cspFcrc32 else 0)

namespace Node

variable (node : Node)

/-- HMAC, CRC32 and nonce go behind the data, each at the length the one before left; then the
data is encrypted. -/
def secureWrites (idout : CspId) (p : CspPacket) : List ℕ :=
  let p₁ := if idout.has cspFhmac then cspHmacAppend node.hmacKey p else p
  let p₂ := if idout.has cspFcrc32 then cspCrc32Append node.order p₁ else p₁
  (if idout.has cspFhmac then List.range' p.length.toNat 4 else []) ++
    ((if idout.has cspFcrc32 then List.range' p₁.length.toNat 4 else []) ++
      if idout.has cspFxtea then
        List.range' p₂.length.toNat 4 ++ List.range p₂.length.toNat
      else [])

/-- `csp_send_direct`: only packets of this node are secured. -/
def directWrites (routes : Routes) (idout : CspId) (packet : CspPacket) : List ℕ :=
  match cspRouteIf routes idout.dst with
  | none => []
  | some ifout =>
    match ifout.nexthop with
    | none => []
    | some _ => if idout.src = node.myAddress then node.secureWrites idout packet else []

/-- `csp_send`. -/
def sendWrites (routes : Routes) (e : Env) (wait : World → Bool × World) (packet : CspPacket)
    (w : World) : List ℕ :=
  if w.conn.state ≠ .connOpen then []
  else if w.conn.idout.has cspFrdp then
    let r := cspRdpSend e wait packet w
    rdpSendWrites wait packet w ++
      if r.1 ≠ .none then [] else node.directWrites routes r.2.2.conn.idout r.2.1
  else node.directWrites routes w.conn.idout packet

/-- `packet->id`, as `csp_sendto` sets it. -/
def sendtoId (prio dest dport srcPort : U8) (opts : U32) : CspId :=
  .ofFields (prio.setWidth 2) node.myAddress (dest.setWidth 5) (dport.setWidth 6)
    (srcPort.setWidth 6) (sendtoFlags opts)

/-- `csp_sendto`, given what `rand` returns: its result, and what it leaves of the packet. -/
def cspSendto (routes : Routes) (nonce : U32) (prio dest dport srcPort : U8) (opts : U32)
    (packet : CspPacket) : ℤ × CspPacket :=
  if opts &&& cspSoRdpreq ≠ 0 then
    -- the flags are cleared first
    let id := packet.id
    (-1, { packet with id := .ofFields id.pri id.src id.dst id.dport id.sport 0 })
  else
    let id := node.sendtoId prio dest dport srcPort opts
    let packet := { packet with id := id }
    (if (node.cspSendDirect routes id nonce packet).1 = .none then 0 else -1,
      node.directPacket routes id nonce packet)

/-- The writes of `csp_sendto`. -/
def sendtoWrites (routes : Routes) (prio dest dport srcPort : U8) (opts : U32)
    (packet : CspPacket) : List ℕ :=
  if opts &&& cspSoRdpreq ≠ 0 then []
  else
    let id := node.sendtoId prio dest dport srcPort opts
    node.directWrites routes id { packet with id := id }

/-! ### Nothing else is written -/

/-- A trailer writes its four bytes only. -/
theorem appendTrailer_keeps (f : Trailer) (p : CspPacket) {k : ℕ}
    (hk : k ∉ List.range' p.length.toNat 4) : (p.appendTrailer f).data k = p.data k := by
  rw [CspPacket.appendTrailer_data, dif_neg fun h => hk (List.mem_range'_1.2 h)]

/-- Encryption writes the packet and its trailer only. -/
theorem xteaSeal_keeps (nonce : U32) (p : CspPacket) {k : ℕ}
    (hk : k ∉ List.range' p.length.toNat 4) (hk' : k ∉ List.range p.length.toNat) :
    (node.xteaSeal nonce p).data k = p.data k := by
  show cspXteaEncrypt _ _ _ _ _ k = _
  rw [cspXteaEncrypt_apply, if_neg fun h => hk' (List.mem_range.2 h)]
  show (if _ ∧ k < _ + ((List.range 4).map _).length then _ else _) = _
  rw [List.length_map, List.length_range, if_neg fun h => hk (List.mem_range'_1.2 h)]

/-- `secure` writes where `secureWrites` says. -/
theorem secure_keeps (idout : CspId) (nonce : U32) (p : CspPacket) {k : ℕ}
    (hk : k ∉ node.secureWrites idout p) : (node.secure idout nonce p).data k = p.data k := by
  obtain ⟨p₁, p₂, hp₁, hp₂, hsecure⟩ := node.secure_stages idout nonce p
  unfold secureWrites at hk
  simp only [← hp₁, ← hp₂, List.mem_append, not_or] at hk
  obtain ⟨hh, hc, hx⟩ := hk
  have h₁ : p₁.data k = p.data k := by
    rw [hp₁]
    split
    · rename_i hf
      rw [if_pos hf] at hh
      exact appendTrailer_keeps _ p hh
    · rfl
  have h₂ : p₂.data k = p₁.data k := by
    rw [hp₂]
    split
    · rename_i hf
      rw [if_pos hf] at hc
      exact appendTrailer_keeps _ p₁ hc
    · rfl
  rw [hsecure, ← h₁, ← h₂]
  split
  · rename_i hf
    rw [if_pos hf, List.mem_append, not_or] at hx
    exact node.xteaSeal_keeps nonce p₂ hx.1 hx.2
  · rfl

/-- `csp_send_direct` writes where `directWrites` says. -/
theorem directPacket_keeps (routes : Routes) (idout : CspId) (nonce : U32) (p : CspPacket) {k : ℕ}
    (hk : k ∉ node.directWrites routes idout p) :
    (node.directPacket routes idout nonce p).data k = p.data k := by
  unfold directWrites at hk
  unfold directPacket
  cases hroute : cspRouteIf routes idout.dst with
  | none => rfl
  | some ifout =>
    simp only [hroute] at hk ⊢
    cases hhop : ifout.nexthop with
    | none => rfl
    | some _ =>
      simp only [hhop] at hk ⊢
      split
      · rename_i hsrc
        rw [if_pos hsrc] at hk
        exact node.secure_keeps idout nonce p hk
      · rfl

end Node

/-- `csp_rdp_send` writes where `rdpSendWrites` says. -/
theorem cspRdpSend_keeps (e : Env) (wait : World → Bool × World) (p : CspPacket) (w : World) {k : ℕ}
    (hk : k ∉ rdpSendWrites wait p w) : (cspRdpSend e wait p w).2.1.data k = p.data k := by
  unfold rdpSendWrites at hk
  unfold cspRdpSend
  split
  · rfl
  · rename_i hst
    rw [if_neg hst] at hk
    simp only at hk ⊢
    generalize (if w.conn.rdp.windowFull then wait (txWaitTake w) else (true, w)) = r at hk ⊢
    split
    · rename_i hwait
      rw [if_pos hwait] at hk
      exact if_neg fun h => hk (List.mem_range'_1.2 h)
    · rfl

/-- **`csp_send` leaves every other byte of the packet alone.** -/
theorem Node.cspSend_keeps (node : Node) (routes : Routes) (nonce : U32) (e : Env)
    (wait : World → Bool × World) (p : CspPacket) (w : World) {k : ℕ}
    (hk : k ∉ node.sendWrites routes e wait p w) :
    (node.cspSend routes nonce e wait p w).packet.data k = p.data k := by
  have hdirect : ∀ q v, (node.cspSendPacket routes nonce q v).packet =
      node.directPacket routes v.conn.idout nonce q := fun q v => by
    unfold Node.cspSendPacket
    simp only
    split <;> rfl
  unfold Node.sendWrites at hk
  unfold Node.cspSend
  split
  · rfl
  · rename_i hopen
    rw [if_neg hopen] at hk
    split
    · rename_i hrdp
      rw [if_pos hrdp] at hk
      simp only [List.mem_append, not_or] at hk
      obtain ⟨hheader, htrailers⟩ := hk
      have hrdpSend := cspRdpSend_keeps e wait p w hheader
      simp only
      split
      · exact hrdpSend
      · rename_i hok
        rw [if_neg hok] at htrailers
        rw [hdirect, node.directPacket_keeps routes _ nonce _ htrailers, hrdpSend]
    · rename_i hrdp
      rw [if_neg hrdp] at hk
      rw [hdirect, node.directPacket_keeps routes _ nonce _ hk]

/-- **So does `csp_sendto`.** -/
theorem Node.cspSendto_keeps (node : Node) (routes : Routes) (nonce : U32)
    (prio dest dport srcPort : U8) (opts : U32) (p : CspPacket) {k : ℕ}
    (hk : k ∉ node.sendtoWrites routes prio dest dport srcPort opts p) :
    (node.cspSendto routes nonce prio dest dport srcPort opts p).2.data k = p.data k := by
  unfold Node.sendtoWrites at hk
  unfold Node.cspSendto
  split
  · rfl
  · rename_i hrdp
    rw [if_neg hrdp] at hk
    exact node.directPacket_keeps routes _ nonce _ hk

/-! ### What is appended -/

instance (wait : World → Bool × World) (w : World) : Decidable (Refused wait w) :=
  inferInstanceAs (Decidable (_ ∨ _))

/-- `csp_rdp_send` gets a buffer for the copy, and the retransmit queue has room for it. -/
def Retains (e : Env) (w : World) : Prop :=
  (e.bufferGet w.tick).isSome = true ∧ w.conn.rdp.txQueue.size < cspRdpMaxWindow

instance (e : Env) (w : World) : Decidable (Retains e w) := inferInstanceAs (Decidable (_ ∧ _))

/-- **A message is taken** exactly if its copy is. -/
theorem cspRdpSendCommit_none_iff {e : Env} {p : CspPacket} {w : World} :
    (cspRdpSendCommit e p w).1 = .none ↔ Retains e w := by
  unfold cspRdpSendCommit Retains cspBufferClone cspBufferGet
  cases e.bufferGet w.tick with
  | none => exact iff_of_false CspErr.noConfusion fun h => Bool.false_ne_true h.1
  | some b =>
    simp only [Option.isSome_some, true_and]
    cases hq : Queue.enqueue _ _ with
    | none => exact iff_of_false CspErr.noConfusion (Nat.not_lt.2 (Queue.enqueue_eq_none.1 hq))
    | some q => exact iff_of_true rfl (Queue.enqueue_eq_some.1 hq).1

/-- It changes no identifier of the connection. -/
theorem cspRdpSendCommit_idout (e : Env) (p : CspPacket) (w : World) :
    (cspRdpSendCommit e p w).2.conn.idout = w.conn.idout := by
  unfold cspRdpSendCommit
  rcases cspBufferClone_cases e (txPacket e p w) w with hb | ⟨buf, hb⟩
  · rw [hb]
    rfl
  · rw [hb]
    simp only
    split <;> rfl

namespace Node

variable (node : Node)

/-- What `csp_send_direct` appends: the trailers of a packet of this node that has a route. -/
def directSizes (routes : Routes) (idout : CspId) : List ℕ :=
  match cspRouteIf routes idout.dst with
  | none => []
  | some ifout =>
    match ifout.nexthop with
    | none => []
    | some _ => if idout.src = node.myAddress then idout.trailers else []

/-- What `csp_send` appends: on an RDP connection the header, and the trailers if the message is
taken. -/
def sendSizes (routes : Routes) (e : Env) (wait : World → Bool × World) (w : World) : List ℕ :=
  if w.conn.idout.has cspFrdp then
    if Refused wait w then []
    else
      sizeofRdpHeader ::
        if Retains e (afterWait wait w) then
          node.directSizes routes (afterWait wait w).conn.idout
        else []
  else if w.conn.state ≠ .connOpen then []
  else node.directSizes routes w.conn.idout

/-- What `csp_sendto` appends. -/
def sendtoSizes (routes : Routes) (prio dest dport srcPort : U8) (opts : U32) : List ℕ :=
  if opts &&& cspSoRdpreq ≠ 0 then []
  else node.directSizes routes (node.sendtoId prio dest dport srcPort opts)

end Node

/-- No trailer is empty. -/
theorem trailers_pos (idout : CspId) : ∀ n ∈ idout.trailers, 0 < n := by
  unfold CspId.trailers
  split <;> split <;> split <;> decide

/-- The trailers of a packet, in bytes. -/
theorem sum_trailers (idout : CspId) : idout.trailers.sum = trailerBytes idout := by
  unfold CspId.trailers trailerBytes
  split <;> split <;> split <;> rfl

namespace Node

variable {node : Node} {room : ℕ}

/-- The encryption writes nothing behind the nonce. -/
theorem secureWrites_lt_iff {idout : CspId} {p : CspPacket} :
    (∀ k ∈ node.secureWrites idout p, k < room) ↔
      ∀ k ∈ appendWrites p.length idout.trailers, k < room := by
  have hnonce : ∀ length : U16,
      (∀ k ∈ List.range' length.toNat 4 ++ List.range length.toNat, k < room) ↔
        ∀ k ∈ appendWrites length [4], k < room := by
    intro length
    unfold appendWrites appendWrites
    rw [List.forall_mem_append, List.append_nil]
    refine and_iff_left_of_imp fun h k hk => ?_
    have := h length.toNat (List.mem_range'_1.2 (by omega))
    have := List.mem_range.1 hk
    omega
  have hempty : ∀ length : U16,
      (∀ k ∈ ([] : List ℕ), k < room) ↔ ∀ k ∈ appendWrites length [], k < room := fun _ => Iff.rfl
  have hstep : ∀ {length : U16} {l sizes : List ℕ}, ((∀ k ∈ l, k < room) ↔
      ∀ k ∈ appendWrites (length + 4) sizes, k < room) →
        ((∀ k ∈ List.range' length.toNat 4 ++ l, k < room) ↔
          ∀ k ∈ appendWrites length (4 :: sizes), k < room) := by
    intro length l sizes h
    rw [appendWrites, List.forall_mem_append, List.forall_mem_append, h]
    rfl
  unfold secureWrites CspId.trailers
  simp only
  cases idout.has cspFhmac <;> cases idout.has cspFcrc32 <;> cases idout.has cspFxtea <;>
    simp only [Bool.false_eq_true, if_false, if_true, List.nil_append, List.cons_append]
  · exact hempty _
  · exact hnonce _
  · exact hstep (hempty _)
  · exact hstep (hnonce _)
  · exact hstep (hempty _)
  · exact hstep (hnonce _)
  · exact hstep (hstep (hempty _))
  · exact hstep (hstep (hnonce _))

/-- For the end of the room only what is appended counts. -/
theorem directWrites_lt_iff {routes : Routes} {idout : CspId} {p : CspPacket} :
    (∀ k ∈ node.directWrites routes idout p, k < room) ↔
      ∀ k ∈ appendWrites p.length (node.directSizes routes idout), k < room := by
  have hnone : (∀ k ∈ ([] : List ℕ), k < room) ↔ ∀ k ∈ appendWrites p.length [], k < room := Iff.rfl
  unfold directWrites directSizes
  cases cspRouteIf routes idout.dst with
  | none => exact hnone
  | some ifout =>
    simp only
    cases ifout.nexthop with
    | none => exact hnone
    | some _ =>
      simp only
      split
      · exact secureWrites_lt_iff
      · exact hnone

/-- What `csp_send_direct` appends is not empty. -/
theorem directSizes_pos (routes : Routes) (idout : CspId) :
    ∀ n ∈ node.directSizes routes idout, 0 < n := by
  unfold directSizes
  split
  · exact fun n hn => absurd hn List.not_mem_nil
  · split
    · exact fun n hn => absurd hn List.not_mem_nil
    · split
      · exact trailers_pos idout
      · exact fun n hn => absurd hn List.not_mem_nil

/-- And at most twelve bytes. -/
theorem sum_directSizes (node : Node) (routes : Routes) (idout : CspId) :
    (node.directSizes routes idout).sum ≤ 12 := by
  have hsum : idout.trailers.sum ≤ 12 := by
    rw [sum_trailers, trailerBytes]
    split <;> split <;> split <;> decide
  unfold directSizes
  split
  · exact Nat.zero_le _
  · split
    · exact Nat.zero_le _
    · split
      · exact hsum
      · exact Nat.zero_le _

end Node

/-- The header is written unless the message is refused. -/
theorem rdpSendWrites_eq {wait : World → Bool × World} {p : CspPacket} {w : World}
    (hopen : w.conn.state = .connOpen) : rdpSendWrites wait p w =
      if Refused wait w then [] else List.range' p.length.toNat sizeofRdpHeader := by
  by_cases hr : Refused wait w
  · rw [if_pos hr]
    unfold rdpSendWrites
    rcases hr with h | h | ⟨hfull, hwait⟩
    · exact absurd hopen h
    · rw [if_pos h]
    · split
      · rfl
      · simp only [hwait, Bool.false_eq_true, if_false]
  · rw [if_neg hr]
    unfold Refused at hr
    simp only [not_or, not_not, not_and, Bool.not_eq_false] at hr
    obtain ⟨-, hst, hwait⟩ := hr
    unfold rdpSendWrites
    rw [if_neg (not_not.2 hst)]
    cases hfull : w.conn.rdp.windowFull with
    | true => simp only [if_true, hwait hfull]
    | false => rfl

namespace Node

variable {node : Node} {room : ℕ}

/-- The same for `csp_send`, with its RDP header. -/
theorem sendWrites_lt_iff {routes : Routes} {e : Env} {wait : World → Bool × World} {p : CspPacket}
    {w : World} : (∀ k ∈ node.sendWrites routes e wait p w, k < room) ↔
      ∀ k ∈ appendWrites p.length (node.sendSizes routes e wait w), k < room := by
  unfold sendWrites sendSizes
  by_cases hopen : w.conn.state = .connOpen
  · rw [if_neg (not_not.2 hopen), if_neg (not_not.2 hopen)]
    split
    · simp only [rdpSendWrites_eq hopen]
      by_cases hr : Refused wait w
      · simp only [if_pos hr, if_pos (cspRdpSend_refused (e := e) (p := p) hopen hr).1,
          List.append_nil, appendWrites]
      · have hcall := cspRdpSend_commit (e := e) (p := p) hr
        simp only [if_neg hr, hcall, appendWrites]
        rw [List.forall_mem_append, List.forall_mem_append]
        refine and_congr_right fun _ => ?_
        by_cases htaken : Retains e (afterWait wait w)
        · have hok := (cspRdpSendCommit_none_iff (p := p)).2 htaken
          rw [if_neg (not_not.2 hok), if_pos htaken, cspRdpSendCommit_idout]
          exact directWrites_lt_iff
        · have hfail := fun h => htaken ((cspRdpSendCommit_none_iff (p := p)).1 h)
          rw [if_pos hfail, if_neg htaken]
          exact Iff.rfl
    · exact directWrites_lt_iff
  · have hr : Refused wait w := .inl hopen
    rw [if_pos hopen, if_pos hopen, if_pos hr, ite_self]
    exact Iff.rfl

/-- What it appends is not empty, and fits a length. -/
theorem sendSizes_ok (node : Node) (routes : Routes) (e : Env) (wait : World → Bool × World)
    (w : World) :
    (∀ n ∈ node.sendSizes routes e wait w, 0 < n) ∧
      (node.sendSizes routes e wait w).sum ≤ 2 ^ 16 := by
  have hdirect : ∀ idout, (∀ n ∈ node.directSizes routes idout, 0 < n) ∧
      (node.directSizes routes idout).sum ≤ 12 := fun idout =>
    ⟨directSizes_pos routes idout, sum_directSizes node routes idout⟩
  have hnil : (∀ n ∈ ([] : List ℕ), 0 < n) ∧ ([] : List ℕ).sum ≤ 12 :=
    ⟨fun n hn => absurd hn List.not_mem_nil, Nat.zero_le _⟩
  have hwide : ∀ {l : List ℕ}, (∀ n ∈ l, 0 < n) ∧ l.sum ≤ 12 →
      (∀ n ∈ l, 0 < n) ∧ l.sum ≤ 2 ^ 16 := fun h => ⟨h.1, by omega⟩
  have hheader : ∀ {l : List ℕ}, (∀ n ∈ l, 0 < n) ∧ l.sum ≤ 12 →
      (∀ n ∈ sizeofRdpHeader :: l, 0 < n) ∧ (sizeofRdpHeader :: l).sum ≤ 2 ^ 16 := fun h => by
    rw [List.forall_mem_cons, List.sum_cons, sizeofRdpHeader]
    exact ⟨⟨by decide, h.1⟩, by omega⟩
  unfold sendSizes
  split
  · split
    · exact hwide hnil
    · split
      · exact hheader (hdirect _)
      · exact hheader hnil
  · split
    · exact hwide hnil
    · exact hwide (hdirect _)

/-- **Sending stays inside the element** of the packet if and only if what it appends does. -/
theorem sending_inside_iff (node : Node) (routes : Routes) (e : Env) (wait : World → Bool × World)
    (w : World) (prio dest dport srcPort : U8) (opts : U32) (p : CspPacket) (size : ℕ) :
    ((∀ k ∈ node.sendWrites routes e wait p w, k < size - cspBufferPacketOverhead) ↔
        (node.sendSizes routes e wait w ≠ [] →
          appendReach p.length.toNat (node.sendSizes routes e wait w) ≤
            size - cspBufferPacketOverhead)) ∧
      ((∀ k ∈ node.sendtoWrites routes prio dest dport srcPort opts p,
          k < size - cspBufferPacketOverhead) ↔
        (node.sendtoSizes routes prio dest dport srcPort opts ≠ [] →
          appendReach p.length.toNat (node.sendtoSizes routes prio dest dport srcPort opts) ≤
            size - cspBufferPacketOverhead)) := by
  constructor
  · obtain ⟨hpos, hsum⟩ := sendSizes_ok node routes e wait w
    rw [sendWrites_lt_iff, appendWrites_lt_iff hpos hsum]
  · unfold sendtoWrites sendtoSizes
    split
    · exact iff_of_true (fun k hk => absurd hk List.not_mem_nil) fun h => absurd rfl h
    · have hsum := sum_directSizes node routes
        (node.sendtoId prio dest dport srcPort opts)
      simp only
      rw [directWrites_lt_iff, appendWrites_lt_iff (directSizes_pos routes _) (by omega)]

/-- A message of 306 bytes in a buffer that was allocated for it, with HMAC: there is no room for
the HMAC. -/
theorem sending_overruns : ¬∀ (c : BufferPool 64) (fuel : ℕ) (s t : Buffers) (n : BitVec 64)
    (q : ℕ), c.cspBufferGet fuel n s = some (some q, t) →
      ∀ (node : Node) (routes : Routes) (e : Env) (wait : World → Bool × World) (w : World)
        (p : CspPacket), p.length.toNat ≤ n.toNat →
          ∀ k ∈ node.sendWrites routes e wait p w, k < c.size - cspBufferPacketOverhead := by
  intro hall
  obtain ⟨q, t, hget⟩ := (@BufferPool.cspBufferGet_some_iff 64 BufferPool.smallPool
    (.init fun _ => 0) (by decide) _ le_rfl 306 (by decide)).2 ⟨1, by decide, by decide, rfl⟩
  have h := hall _ _ _ t 306 q hget (nodeOne .little) openRoutes (.favourable .little) noPost
    ⟨{ Conn.opened 100 200 4 with idout := 0x02200008 }, 0, []⟩ (.blank 306) (by decide) 306
    (by decide +kernel)
  exact absurd h (by decide)

end Node

end LibCSP
