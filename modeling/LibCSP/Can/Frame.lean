/-
# CAN frames and the CFP header

`src/interfaces/can/can.h` and the header macros of `src/interfaces/csp_if_can.c`.

The CAN Fragmentation Protocol lies in the 29-bit identifier of an extended
frame: source and destination host, the frame type, the number of frames that
remain, and an identification number.  Source, destination and number together
tell the packets in flight apart; they are the bits of `CFP_ID_CONN_MASK`.

| field | bits | shift |
| --- | ---: | ---: |
| source | 5 | 24 |
| destination | 5 | 19 |
| type | 1 | 18 |
| remain | 8 | 10 |
| id | 10 | 0 |
-/

import LibCSP.Core.Packet

namespace LibCSP

open Basis

/-- `can_frame_t`: the data bytes in use, so that `dlc` is their number. -/
@[ext]
structure CanFrame where
  id : U32
  data : List U8
  le : data.length ≤ 8

/-- Data length code. -/
def CanFrame.dlc (frame : CanFrame) : ℕ := frame.data.length

/-! ### Header macros -/

/-- `CFP_HOST_SIZE`. -/
abbrev cfpHostSize : ℕ := 5
/-- `CFP_TYPE_SIZE`. -/
abbrev cfpTypeSize : ℕ := 1
/-- `CFP_REMAIN_SIZE`. -/
abbrev cfpRemainSize : ℕ := 8
/-- `CFP_ID_SIZE`. -/
abbrev cfpIdSize : ℕ := 10

/-- `CFP_FIELD`. -/
def cfpField (id : U32) (rsiz fsiz : ℕ) : U32 := id >>> rsiz &&& BitVec.ofNat 32 (2 ^ fsiz - 1)

/-- `CFP_TYPE`. -/
def cfpType (id : U32) : U32 := cfpField id (cfpRemainSize + cfpIdSize) cfpTypeSize
/-- `CFP_REMAIN`. -/
def cfpRemain (id : U32) : U32 := cfpField id cfpIdSize cfpRemainSize
/-- `CFP_ID`. -/
def cfpId (id : U32) : U32 := cfpField id 0 cfpIdSize

/-- `CFP_MAKE_FIELD`. -/
def cfpMakeField (x : U32) (fsiz rsiz : ℕ) : U32 := (x &&& BitVec.ofNat 32 (2 ^ fsiz - 1)) <<< rsiz

/-- `CFP_MAKE_SRC`. -/
def cfpMakeSrc (x : U32) : U32 :=
  cfpMakeField x cfpHostSize (cfpHostSize + cfpTypeSize + cfpRemainSize + cfpIdSize)
/-- `CFP_MAKE_DST`. -/
def cfpMakeDst (x : U32) : U32 :=
  cfpMakeField x cfpHostSize (cfpTypeSize + cfpRemainSize + cfpIdSize)
/-- `CFP_MAKE_TYPE`. -/
def cfpMakeType (x : U32) : U32 := cfpMakeField x cfpTypeSize (cfpRemainSize + cfpIdSize)
/-- `CFP_MAKE_REMAIN`. -/
def cfpMakeRemain (x : U32) : U32 := cfpMakeField x cfpRemainSize cfpIdSize
/-- `CFP_MAKE_ID`. -/
def cfpMakeId (x : U32) : U32 := cfpMakeField x cfpIdSize 0

/-- `CFP_ID_CONN_MASK`. -/
def cfpIdConnMask : U32 :=
  cfpMakeSrc (BitVec.ofNat 32 (2 ^ cfpHostSize - 1)) |||
    cfpMakeDst (BitVec.ofNat 32 (2 ^ cfpHostSize - 1)) |||
    cfpMakeId (BitVec.ofNat 32 (2 ^ cfpIdSize - 1))

/-- The mask keeps source, destination and number. -/
theorem cfpIdConnMask_eq : cfpIdConnMask = 0x1ff803ff := by decide

/-- `CFP_BEGIN`. -/
def cfpBegin : U32 := 0
/-- `CFP_MORE`. -/
def cfpMore : U32 := 1

/-- What two frames of one packet have in common. -/
def cfpConn (id : U32) : U32 := id &&& cfpIdConnMask

/-- The identifier `csp_can_tx` and `csp_tx_callback` build. -/
def cfpHeader (src dst ident type remain : U32) : U32 :=
  cfpMakeSrc src ||| cfpMakeDst dst ||| cfpMakeId ident ||| cfpMakeType type |||
    cfpMakeRemain remain

/-! ### Fields of a header -/

/-- The bits of a field that is read. -/
theorem getLsbD_cfpField (id : U32) (rsiz fsiz i : ℕ) :
    (cfpField id rsiz fsiz).getLsbD i =
      (decide (i < 32) && decide (i < fsiz) && id.getLsbD (rsiz + i)) := by
  simp only [cfpField, BitVec.getLsbD_and, BitVec.getLsbD_ushiftRight, BitVec.getLsbD_ofNat,
    Nat.testBit_two_pow_sub_one]
  exact Bool.and_comm _ _

/-- The bits of a field that is made. -/
theorem getLsbD_cfpMakeField (x : U32) (fsiz rsiz i : ℕ) :
    (cfpMakeField x fsiz rsiz).getLsbD i =
      (decide (i < 32) && !decide (i < rsiz) && (x.getLsbD (i - rsiz) &&
        (decide (i - rsiz < 32) && decide (i - rsiz < fsiz)))) := by
  simp only [cfpMakeField, BitVec.getLsbD_shiftLeft, BitVec.getLsbD_and, BitVec.getLsbD_ofNat,
    Nat.testBit_two_pow_sub_one]

section
variable (src dst ident type remain x : U32) (i : ℕ)

/-- The source is in bits 24 to 28. -/
theorem getLsbD_cfpMakeSrc : (cfpMakeSrc x).getLsbD i = (decide (i < 32) && !decide (i < 24) &&
    (x.getLsbD (i - 24) && (decide (i - 24 < 32) && decide (i - 24 < 5)))) :=
  getLsbD_cfpMakeField x 5 24 i

/-- The destination is in bits 19 to 23. -/
theorem getLsbD_cfpMakeDst : (cfpMakeDst x).getLsbD i = (decide (i < 32) && !decide (i < 19) &&
    (x.getLsbD (i - 19) && (decide (i - 19 < 32) && decide (i - 19 < 5)))) :=
  getLsbD_cfpMakeField x 5 19 i

/-- The type is bit 18. -/
theorem getLsbD_cfpMakeType : (cfpMakeType x).getLsbD i = (decide (i < 32) && !decide (i < 18) &&
    (x.getLsbD (i - 18) && (decide (i - 18 < 32) && decide (i - 18 < 1)))) :=
  getLsbD_cfpMakeField x 1 18 i

/-- The remain field is in bits 10 to 17. -/
theorem getLsbD_cfpMakeRemain : (cfpMakeRemain x).getLsbD i =
    (decide (i < 32) && !decide (i < 10) &&
      (x.getLsbD (i - 10) && (decide (i - 10 < 32) && decide (i - 10 < 8)))) :=
  getLsbD_cfpMakeField x 8 10 i

/-- The number is in bits 0 to 9. -/
theorem getLsbD_cfpMakeId : (cfpMakeId x).getLsbD i =
    (decide (i < 32) && !decide (i < 0) &&
      (x.getLsbD (i - 0) && (decide (i - 0 < 32) && decide (i - 0 < 10)))) :=
  getLsbD_cfpMakeField x 10 0 i

/-- The type is read from bit 18. -/
theorem getLsbD_cfpType : (cfpType x).getLsbD i =
    (decide (i < 32) && decide (i < 1) && x.getLsbD (18 + i)) := getLsbD_cfpField x 18 1 i

/-- The remain field is read from bits 10 to 17. -/
theorem getLsbD_cfpRemain : (cfpRemain x).getLsbD i =
    (decide (i < 32) && decide (i < 8) && x.getLsbD (10 + i)) := getLsbD_cfpField x 10 8 i

/-- The number is read from bits 0 to 9. -/
theorem getLsbD_cfpId : (cfpId x).getLsbD i =
    (decide (i < 32) && decide (i < 10) && x.getLsbD (0 + i)) := getLsbD_cfpField x 0 10 i

/-- The type of the identifier that a sender builds. -/
theorem cfpType_header : cfpType (cfpHeader src dst ident type remain) = type &&& 1 := by
  apply BitVec.eq_of_getLsbD_eq
  intro k hk
  simp only [cfpHeader, getLsbD_cfpType, getLsbD_cfpMakeSrc, getLsbD_cfpMakeDst, getLsbD_cfpMakeId,
    getLsbD_cfpMakeType, getLsbD_cfpMakeRemain, BitVec.getLsbD_or, BitVec.getLsbD_and]
  interval_cases k <;> simp

/-- Its remain field, modulo 256. -/
theorem cfpRemain_header : cfpRemain (cfpHeader src dst ident type remain) = remain &&& 0xff := by
  apply BitVec.eq_of_getLsbD_eq
  intro k hk
  simp only [cfpHeader, getLsbD_cfpRemain, getLsbD_cfpMakeSrc, getLsbD_cfpMakeDst,
    getLsbD_cfpMakeId, getLsbD_cfpMakeType, getLsbD_cfpMakeRemain, BitVec.getLsbD_or,
    BitVec.getLsbD_and]
  interval_cases k <;> simp

/-- Its number. -/
theorem cfpMakeId_header :
    cfpMakeId (cfpId (cfpHeader src dst ident type remain)) = cfpMakeId ident := by
  apply BitVec.eq_of_getLsbD_eq
  intro k hk
  simp only [cfpHeader, getLsbD_cfpId, getLsbD_cfpMakeSrc, getLsbD_cfpMakeDst, getLsbD_cfpMakeId,
    getLsbD_cfpMakeType, getLsbD_cfpMakeRemain, BitVec.getLsbD_or]
  interval_cases k <;> simp

/-- Type and remain do not tell packets apart. -/
theorem cfpConn_header : cfpConn (cfpHeader src dst ident type remain) =
    cfpMakeSrc src ||| cfpMakeDst dst ||| cfpMakeId ident := by
  apply BitVec.eq_of_getLsbD_eq
  intro k hk
  simp only [cfpConn, cfpIdConnMask_eq, cfpHeader, getLsbD_cfpMakeSrc, getLsbD_cfpMakeDst,
    getLsbD_cfpMakeId, getLsbD_cfpMakeType, getLsbD_cfpMakeRemain, BitVec.getLsbD_or,
    BitVec.getLsbD_and]
  interval_cases k <;> simp

end

/-- **Source, destination and number are read back from what tells packets apart.** -/
theorem cfpConn_injective {src src' dst dst' : BitVec 5} {ident ident' : BitVec 10}
    (h : cfpMakeSrc (src.setWidth 32) ||| cfpMakeDst (dst.setWidth 32) |||
        cfpMakeId (ident.setWidth 32) =
      cfpMakeSrc (src'.setWidth 32) ||| cfpMakeDst (dst'.setWidth 32) |||
        cfpMakeId (ident'.setWidth 32)) : src = src' ∧ dst = dst' ∧ ident = ident' := by
  have hbit : ∀ k, BitVec.getLsbD _ k = BitVec.getLsbD _ k := fun k => congrArg (·.getLsbD k) h
  simp only [getLsbD_cfpMakeSrc, getLsbD_cfpMakeDst, getLsbD_cfpMakeId, BitVec.getLsbD_or,
    BitVec.getLsbD_setWidth] at hbit
  refine ⟨?_, ?_, ?_⟩ <;> apply BitVec.eq_of_getLsbD_eq <;> intro k hk
  · have := hbit (k + 24)
    interval_cases k <;> simpa using this
  · have := hbit (k + 19)
    interval_cases k <;> simpa using this
  · have := hbit k
    interval_cases k <;> simpa using this

end LibCSP
