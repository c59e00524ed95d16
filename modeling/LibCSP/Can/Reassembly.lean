/-
# No corrupted packet is delivered

Frames of sent packets arrive with any loss, duplication and reordering, at any
time, and buffers may run out.  Every element in use still holds the first `k`
frames of one of the packets, in order (`Genuine`): a BEGIN frame starts it over, the
frame it expects takes it one further, and any other frame frees it.  So what is
complete is one of the packets that were sent (`rxRun_sound`).
-/

import Mathlib.Data.List.Nodup
import LibCSP.Can.Receive

namespace LibCSP

open Basis

/-- Packets that were sent are told apart by what their frames have in common. -/
theorem TxSession.eq_of_conn {sent : List TxSession} (hdist : (sent.map TxSession.triple).Nodup)
    {x y : TxSession} (hx : x ∈ sent) (hy : y ∈ sent) (h : x.conn = y.conn) : x = y := by
  obtain ⟨hsrc, hdst, hident⟩ := cfpConn_injective h
  refine List.inj_on_of_nodup_map hdist hx hy ?_
  rw [triple, triple, hsrc, hdst, hident]

/-- A frame of a packet, by its number. -/
theorem TxSession.mem_frames {x : TxSession} {frame : CanFrame} :
    frame ∈ x.frames ↔ ∃ k, k ≤ x.more ∧ x.frame k = frame := by
  rw [x.frames_eq, List.mem_map]
  simp only [List.mem_range, Nat.lt_succ_iff]

/-- An element is free, or holds the first frames of a packet that was sent. -/
def PbufElement.Known (sent : List TxSession) (buf : PbufElement) : Prop :=
  buf = .free ∨ ∃ x ∈ sent, ∃ k, k ≤ x.more ∧ x.Partial k buf

/-- Elements that are known hold a packet when they are in use. -/
theorem Pbuf.ok_of_known (sent : List TxSession) {s : Pbuf}
    (h : ∀ i, (s.elements i).Known sent) : s.Ok := by
  constructor <;> intro i hst <;> rcases h i with he | ⟨x, -, k, -, hpart⟩
  · exact he
  · exact absurd (hpart.state.symm.trans hst) (by decide)
  · rw [he] at hst
    exact nomatch hst
  · obtain ⟨p, hp, -⟩ := hpart.packet
    rw [hp]
    exact Option.some_ne_none p

/-- All elements hold parts of sent packets, and only sent packets were delivered. -/
structure Genuine (sent : List TxSession) (s : Pbuf) : Prop where
  known : ∀ i, (s.elements i).Known sent
  delivered : ∀ p ∈ newPackets s.log, ∃ x ∈ sent, x.Is p

namespace Genuine

variable {sent : List TxSession} {s s' : Pbuf} {i : Fin pbufElements}

/-- Before the first frame there is nothing that was not sent. -/
theorem init : Genuine sent .init := ⟨fun _ => .inl rfl, fun _ hp => absurd hp List.not_mem_nil⟩

/-- The elements are in order. -/
theorem ok (h : Genuine sent s) : s.Ok := Pbuf.ok_of_known sent h.known

/-- A change of one element keeps the pool genuine if the element and what was delivered
are. -/
theorem change (h : Genuine sent s) (ho : Pbuf.Others i s s') (hi : (s'.elements i).Known sent)
    (hnew : ∀ p ∈ newPackets s'.log, p ∈ newPackets s.log ∨ ∃ x ∈ sent, x.Is p) :
    Genuine sent s' where
  known j := by
    rcases eq_or_ne j i with rfl | hj
    · exact hi
    · rw [ho j hj]
      exact h.known j
  delivered p hp := (hnew p hp).elim (h.delivered p) id

/-- Freeing an element adds nothing. -/
theorem free (h : Genuine sent s) (ho : Pbuf.Others i s s')
    (hlog : newPackets s'.log = newPackets s.log) : Genuine sent (pbufFree i s') := by
  refine h.change (ho.trans (pbufFree_others i s')) (.inl (pbufFree_self i s')) fun p hp => .inl ?_
  rwa [pbufFree_newPackets, hlog] at hp

/-- Neither does a frame of a packet that was sent. -/
theorem took {x : TxSession} (hx : x ∈ sent) {k : ℕ} (hk : k ≤ x.more) (h : Genuine sent s)
    (ho : Pbuf.Others i s s') (hlog : newPackets s'.log = newPackets s.log) {s'' : Pbuf}
    (ht : x.Took k i s' s'') : Genuine sent s'' := by
  rcases Nat.lt_or_eq_of_le hk with hlt | heq
  · obtain ⟨hpart, -, hnew⟩ := ht.further hlt
    refine h.change (ho.trans ht.others) (.inr ⟨x, hx, k + 1, hlt, hpart⟩) fun p hp => .inl ?_
    rwa [hnew, hlog] at hp
  · obtain ⟨hfree, q, hq, hnew⟩ := ht.complete heq
    refine h.change (ho.trans ht.others) (.inl hfree) fun p hp => ?_
    rw [hnew, hlog, List.mem_append, List.mem_singleton] at hp
    exact hp.imp id fun (he : p = q) => ⟨x, hx, he ▸ hq⟩

end Genuine

/-- A new element for a packet, at its first frame. -/
theorem TxSession.ready_claimed (x : TxSession) {c : RxCall} {t : U32} (hbuf : c.buffer ≠ none)
    (hc : c.frame = x.frame 0) : x.Ready c 0 (.claimed c.frame.id t) where
  state := rfl
  cfpid := (congrArg (cfpConn ·.id) hc).trans (x.cfpConn_frame 0)
  packet := hbuf
  expects h := absurd rfl h

/-- An element that holds the first frames of a packet is ready for the next. -/
theorem TxSession.Partial.ready {x : TxSession} {c : RxCall} {k : ℕ} {buf : PbufElement}
    (h : x.Partial k buf) (j : ℕ) (hj : j ≠ 0 → j = k) : x.Ready c j buf where
  state := h.state
  cfpid := h.cfpid
  packet := by
    obtain ⟨p, hp, -⟩ := h.packet
    rw [hp, Option.some_or]
    exact Option.some_ne_none p
  expects hne := hj hne ▸ h

/-- `pbuf_find` changes only the time. -/
theorem TxSession.Partial.touch {x : TxSession} {k : ℕ} {buf : PbufElement} (h : x.Partial k buf)
    (t : U32) : x.Partial k { buf with lastUsed := t } :=
  ⟨h.state, h.cfpid, h.remain, h.rxCount, h.packet⟩

/-- **One frame** of a sent packet keeps the pool genuine. -/
theorem Genuine.step {sent : List TxSession} (hsmall : ∀ x ∈ sent, x.len ≤ cspCanMtu)
    (hdist : (sent.map TxSession.triple).Nodup) (o : ByteOrder) {c : RxCall}
    (hc : ∃ x ∈ sent, c.frame ∈ x.frames) {s : Pbuf} (h : Genuine sent s) :
    Genuine sent (cspRxCallback o c s).2 := by
  obtain ⟨x, hx, hframe⟩ := hc
  obtain ⟨j, hj, hframe⟩ := TxSession.mem_frames.1 hframe
  have hlen := hsmall x hx
  have htype := x.cfpType_frame j
  rw [hframe] at htype
  unfold cspRxCallback
  split
  · rename_i i s₁ hfind
    obtain ⟨hfor, rfl⟩ := pbufFind_eq_some hfind
    obtain ⟨hst, hconn⟩ := PbufElement.isFor_iff.1 hfor
    -- the element belongs to the packet of the frame
    obtain ⟨k, hk, hpart⟩ : ∃ k, k ≤ x.more ∧ x.Partial k (s.elements i) := by
      rcases h.known i with he | ⟨y, hy, k, hk, hpart⟩
      · rw [he] at hst
        exact nomatch hst
      · have hyx : y = x := TxSession.eq_of_conn hdist hy hx (by
          rw [← hpart.cfpid, hconn, ← hframe, x.cfpConn_frame])
        exact ⟨k, hyx ▸ hk, hyx ▸ hpart⟩
    obtain ⟨s₁, hs₁⟩ : ∃ s₁, s₁ = s.set i { s.elements i with lastUsed := c.clock 0 } := ⟨_, rfl⟩
    have hpart₁ : x.Partial k (s₁.elements i) := by
      rw [hs₁, Pbuf.set_elements_self]
      exact hpart.touch _
    have ho : Pbuf.Others i s s₁ := hs₁ ▸ (Pbuf.Others.refl i s).set _
    have hlog : newPackets s₁.log = newPackets s.log := by
      rw [hs₁]
      rfl
    rw [← hs₁]
    show Genuine sent (rxFrame o c i s₁)
    by_cases hnext : j ≠ 0 → j = k
    · exact h.took hx hj ho hlog
        (TxSession.rxFrame_next hlen hj hframe.symm (hpart₁.ready j hnext))
    · -- any other MORE frame
      obtain ⟨hj₀, hjk⟩ := Classical.not_imp.1 hnext
      rw [if_neg hj₀] at htype
      rw [rxFrame, htype, if_neg (by decide), if_pos rfl, ← hframe,
        x.rxMore_lost hlen hj hk hjk hpart₁ 0]
      exact h.free ho hlog
  · split
    · rename_i hbegin
      obtain rfl : j = 0 := by
        by_contra hj₀
        rw [htype, if_neg hj₀] at hbegin
        exact absurd hbegin (by decide)
      split
      · rename_i i s₁ hnew
        obtain ⟨-, ⟨k, hk⟩, ho, evs, hevs, hfrees⟩ := pbufNew_eq_some h.ok hnew
        have hlog : newPackets s₁.log = newPackets s.log := by
          rw [hevs, newPackets_append, newPackets_free hfrees, List.append_nil]
        show Genuine sent (rxFrame o c i s₁)
        by_cases hbuf : c.buffer = none
        · have hfree : rxFrame o c i s₁ = pbufFree i s₁ := by
            rw [rxFrame, if_pos hbegin, rxBegin, hk, hbuf]
            exact ite_self _
          rw [hfree]
          exact h.free ho hlog
        · refine h.took hx hj ho hlog (TxSession.rxFrame_next hlen hj hframe.symm ?_)
          rw [hk]
          exact x.ready_claimed hbuf hframe.symm
      · exact h
    · exact h

/-- **What is assembled was sent**, after any frames of the packets in any order. -/
theorem Genuine.run {sent : List TxSession} (hsmall : ∀ x ∈ sent, x.len ≤ cspCanMtu)
    (hdist : (sent.map TxSession.triple).Nodup) (o : ByteOrder) {calls : List RxCall}
    (hcalls : ∀ c ∈ calls, ∃ x ∈ sent, c.frame ∈ x.frames) {s : Pbuf} (h : Genuine sent s) :
    Genuine sent (rxRun o s calls) := by
  induction calls generalizing s with
  | nil => exact h
  | cons c calls ih =>
    obtain ⟨hc, hcalls⟩ := List.forall_mem_cons.1 hcalls
    exact ih hcalls (h.step hsmall hdist o hc)

/-- **Every packet that is delivered was sent**: whatever frames of the sent packets
arrive, in whatever order, as often as they like, and whether or not there are buffers. -/
theorem rxRun_sound (o : ByteOrder) {sent : List TxSession} {calls : List RxCall}
    (hsmall : ∀ x ∈ sent, x.len ≤ cspCanMtu) (hdist : (sent.map TxSession.triple).Nodup)
    (hcalls : ∀ c ∈ calls, ∃ x ∈ sent, c.frame ∈ x.frames) :
    ∀ p ∈ newPackets (rxRun o .init calls).log, ∃ x ∈ sent, x.Is p :=
  (Genuine.init.run hsmall hdist o hcalls).delivered

/-- A host whose pool is free sends a packet. -/
def TxSession.idle (host : ByteOrder) (packet : CspPacket) (ident : BitVec 10) : TxSession where
  host := host
  packet := packet
  ident := ident
  pbuf := .init
  clock _ _ := 0
  ok := Pbuf.init_ok
  fresh _ := rfl
  room := ⟨⟨0, by decide⟩, rfl⟩

/-- Twelve bytes from a big-endian host, in three frames, and three bytes from a
little-endian host, in two. -/
def twoPackets : Fin 2 → TxSession
  | 0 => .idle .big ⟨0, 0, 0, 12, 0x02100000, fun k => BitVec.ofNat 8 k⟩ 7
  | 1 => .idle .little ⟨1, 0, 0, 3, 0x04100000, fun _ => 0xff⟩ 7

/-- A frame of one of them arrives; there is a buffer for it. -/
def arrival (a : Fin 2 × ℕ) : RxCall :=
  ⟨(twoPackets a.1).frame a.2, fun _ => 0, some ⟨2, 0, 0, 0, 0, fun _ => 0⟩⟩

/-- Their frames in turn. -/
def framesInTurn : List (Fin 2 × ℕ) := [(0, 0), (1, 0), (0, 1), (1, 1), (0, 2)]

/-- Frame 1 of the first packet comes twice, and later all its frames come again. -/
def lossyArrivals : List (Fin 2 × ℕ) :=
  [(0, 0), (1, 0), (0, 1), (0, 1), (0, 2), (1, 1), (0, 0), (0, 1), (0, 2)]

/-- Both packets are delivered here. -/
theorem rxRun_sound_lossy :
    (newPackets (rxRun .little .init (lossyArrivals.map arrival)).log).length = 2 ∧
      ∀ p ∈ newPackets (rxRun .little .init (lossyArrivals.map arrival)).log,
        ∃ x ∈ [twoPackets 0, twoPackets 1], x.Is p := by
  refine ⟨by decide +kernel, rxRun_sound .little ?_ (by decide +kernel) fun c hc => ?_⟩
  · intro x hx
    rcases List.mem_cons.1 hx with rfl | hx
    · decide
    · rw [List.mem_singleton.1 hx]
      decide
  · have hk : ∀ a ∈ lossyArrivals, a.2 ≤ (twoPackets a.1).more := by decide +kernel
    obtain ⟨a, ha, rfl⟩ := List.mem_map.1 hc
    refine ⟨twoPackets a.1, ?_, TxSession.mem_frames.2 ⟨a.2, hk a ha, rfl⟩⟩
    match a.1 with
    | 0 => exact List.mem_cons_self
    | 1 => exact List.mem_cons_of_mem _ List.mem_cons_self

end LibCSP
