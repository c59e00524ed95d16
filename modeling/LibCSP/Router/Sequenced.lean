/-
# What an RDP connection delivers

`csp_rdp_receive_data` takes the RDP header off a packet and puts it into a receive queue
(`FromRdp`).  `csp_udp_new_packet` puts packets there as they are (`FromUdp`).  Which of
the two gets a packet is decided by the flags of the packet, and `CSP_SO_RDPREQ` among the
options of the connection keeps the packets without `CSP_FRDP` away from UDP.

So a connection that `csp_connect` made with `CSP_O_RDP` delivers RDP data only, for that
option is `CSP_SO_RDPREQ`.  A connection that an RDP packet opened on a socket without it
delivers both (`rdp_conn_delivers`).
-/

import LibCSP.Router.Provenance
import LibCSP.Router.Traced

namespace LibCSP

open Basis

variable {N : ℕ}

/-! ### The law -/

/-- The router took a packet that came out of the security check as `p`. -/
def Screened (e : StackEnv) (log : List (StackEvent N)) (opts : U32) (p : CspPacket) : Prop :=
  ∃ raw, .dequeued raw ∈ log ∧ e.node.cspRouteSecurityCheck opts raw = .ok p

/-- An RDP packet with data, its header in the order of the host. -/
def RdpData (e : StackEnv) (log : List (StackEvent N)) (x : CspPacket) : Prop :=
  ∃ opts p, Screened e log opts p ∧ p.id.has cspFrdp = true ∧
    sizeofRdpHeader < p.length.toNat ∧ x = rxPacket e.env.host p

/-- What `csp_rdp_receive_data` enqueues. -/
def FromRdp (e : StackEnv) (log : List (StackEvent N)) (q : CspPacket) : Prop :=
  ∃ x, RdpData e log x ∧ q = cspRdpHeaderRemove x

/-- What `csp_udp_new_packet` enqueues on a connection with these options. -/
def FromUdp (e : StackEnv) (log : List (StackEvent N)) (opts : U32) (q : CspPacket) : Prop :=
  Screened e log opts q ∧ q.id.has cspFrdp = false ∧ opts &&& cspSoRdpreq = 0

section Screened

variable {e : StackEnv} {log log' : List (StackEvent N)} {opts : U32} {p q : CspPacket}

/-- A packet that was screened stays so. -/
theorem Screened.mono (h : Screened e log opts p) (hl : log ⊆ log') : Screened e log' opts p := by
  obtain ⟨raw, hraw, hp⟩ := h
  exact ⟨raw, hl hraw, hp⟩

/-- Data that came with an RDP header did so. -/
theorem RdpData.mono (h : RdpData e log p) (hl : log ⊆ log') : RdpData e log' p := by
  obtain ⟨opts, p, hp, h⟩ := h
  exact ⟨opts, p, hp.mono hl, h⟩

/-- What came through RDP did so. -/
theorem FromRdp.mono (h : FromRdp e log q) (hl : log ⊆ log') : FromRdp e log' q := by
  obtain ⟨x, hx, h⟩ := h
  exact ⟨x, hx.mono hl, h⟩

/-- What came through UDP did so. -/
theorem FromUdp.mono (h : FromUdp e log opts q) (hl : log ⊆ log') : FromUdp e log' opts q :=
  ⟨h.1.mono hl, h.2⟩

/-- RDP data has `CSP_FRDP`. -/
theorem FromRdp.flag (h : FromRdp e log q) : q.id.has cspFrdp = true := by
  obtain ⟨_, ⟨opts, p, -, hp, hlen, rfl⟩, rfl⟩ := h
  have hid : (cspRdpHeaderRemove (rxPacket e.env.host p)).id = p.id := by
    show (rxPacket e.env.host p).id = p.id
    rw [rxPacket, cspRdpHeaderStore_of_le (Nat.le_of_lt hlen)]
  rw [hid]
  exact hp

end Screened

/-- Reorder queues hold RDP data, and receive queues what RDP or UDP enqueued. -/
def transportLaw (e : StackEnv) (N : ℕ) : Law e N where
  stored log _ x := RdpData e log x
  delivered log opts q := FromRdp e log q ∨ FromUdp e log opts q
  queued _ _ _ := True
  inherited _ _ := True
  stored_mono := RdpData.mono
  delivered_mono h hl := h.imp (FromRdp.mono · hl) (FromUdp.mono · hl)
  queued_mono _ _ := trivial
  reopen h _ := h
  remove h := .inl ⟨_, h, rfl⟩
  rdp hraw hp hrdp hlen := ⟨_, _, ⟨_, hraw, hp⟩, hrdp, hlen, rfl⟩
  udp hraw hp hrdp hopts := .inr ⟨⟨_, hraw, hp⟩, hrdp, hopts⟩
  connLess _ _ := trivial

/-! ### Steps and runs -/

variable [NeZero N]

/-- This law asks nothing of connections that are reopened. -/
theorem transportLaw_keeps (e : StackEnv) (s : Stack N) (a : Action N) :
    (transportLaw e N).Keeps s a := by
  cases a with
  | route => exact fun _ _ _ _ _ _ _ => trivial
  | allocate t => exact fun _ _ _ _ _ _ _ => trivial
  | _ => trivial

/-- A packet is delivered under the options of its connection. -/
theorem Turned.deliver_opts {e : StackEnv} {s s' : Stack N} {a : Action N} {i : Fin N} {opts : U32}
    {st : RdpState} {q : CspPacket} (h : Turned e s a s')
    (hev : .conn i opts (.deliver st q) ∈ s'.log.drop s.log.length) :
    opts = (s'.conns i).connOpts := by
  have hgiven : ∀ {i' c}, Given s i' c s' → opts = (s'.conns i).connOpts := by
    intro i' c hg
    obtain ⟨evs, evs', hl, hevs, hevs'⟩ := hg.log
    rw [hl, List.append_assoc, List.drop_left] at hev
    rcases List.mem_append.1 hev with hev | hev
    · exact (hevs _ hev).elim
    · rcases List.mem_cons.1 hev with heq | hev
      · cases heq
      · exact (hevs' _ hev).deliver i opts st q rfl
  cases h with
  | staying h =>
    obtain ⟨evs, hl, hevs⟩ := h.log
    rw [hl, List.drop_left] at hev
    rw [(hevs _ hev).deliver i opts st q rfl]
    exact (congrFun h.options i).symm
  | ported _ _ hlog =>
    rw [hlog, List.drop_length] at hev
    exact absurd hev List.not_mem_nil
  | accepted _ _ hg => exact hgiven hg
  | allocated _ _ hg => exact hgiven hg
  | single _ _ hlog _ =>
    obtain ⟨evs, hl, hevs⟩ := hlog
    rw [hl, List.drop_left] at hev
    exact (hevs _ hev).elim

/-- **The law of the two transports** holds in every run. -/
theorem run_transport {e : StackEnv} {ok : Traced N → Action N → Prop} {is : List (Action N)}
    {port : U8} {x : Traced N} (hrun : Run (tracedStep e) ok (Traced.init N port) is x) :
    (transportLaw e N).Holds x.stack := by
  refine hrun.invariant (P := fun x => (transportLaw e N).Holds x.stack)
    (fun x a y h _ hst => ?_) ?_
  · obtain ⟨s, hs, rfl⟩ := Option.map_eq_some_iff.1 hst
    exact Law.Holds.step h (transportLaw_keeps e x.stack a) hs
  · exact (Law.holds_started (transportLaw e N) Stack.init_started).of_eq rfl rfl

/-- `CSP_O_RDP` asks for `CSP_FRDP` in both identifiers, and is `CSP_SO_RDPREQ`. -/
theorem Requested.rdpreq {e : StackEnv} {c : Shell} (h : Requested e c)
    (hrdp : c.idin.has cspFrdp = true) : c.connOpts &&& cspSoRdpreq ≠ 0 := by
  obtain ⟨prio, dest, dport, sport, -, hin, -⟩ := h
  rw [hin] at hrdp
  unfold incomingId CspId.has at hrdp
  rw [flags_ofFields] at hrdp
  intro hopts
  unfold cspConnectFlags at hrdp
  rw [if_neg (not_not.2 hopts)] at hrdp
  revert hrdp
  split <;> split <;> split <;> decide

/-- **An RDP connection delivers RDP data only**, unless it was opened by a packet on a socket
that does not require RDP: then packets without `CSP_FRDP` are delivered too. -/
theorem rdp_conn_delivers {e : StackEnv} {is : List (Action N)} {port : U8} {x y : Traced N}
    {a : Action N} {i : Fin N} {opts : U32} {st : RdpState} {q : CspPacket}
    (hport : EphemeralPort port)
    (hrun : Run (tracedStep e) (fun _ _ => True) (Traced.init N port) is x)
    (hst : tracedStep e x a = some y) (hrdp : (y.stack.conns i).idin.has cspFrdp = true)
    (hev : .conn i opts (.deliver st q) ∈ y.stack.log.drop x.stack.log.length) :
    FromRdp e y.stack.log q ∨
      y.byConnect i = false ∧ FromUdp e y.stack.log (y.stack.conns i).connOpts q := by
  have hrun' := hrun.snoc trivial hst
  obtain ⟨s, hs, rfl⟩ := Option.map_eq_some_iff.1 hst
  have hopts := (stackStep_turned hs).deliver_opts hev
  rcases (run_transport hrun').log _ (List.mem_of_mem_drop hev) with hq | hq
  · exact .inl hq
  · rw [hopts] at hq
    refine .inr ⟨Bool.eq_false_of_not_eq_true fun hby => ?_, hq⟩
    exact ((run_made hport hrun').conns i hby).rdpreq hrdp hq.2.2

/-! ### A connection of a SYN packet -/

/-- Connection `i` delivers a packet with `CSP_FRDP`, or without it. -/
def StackEvent.deliversWith (i : Fin N) (rdp : Bool) : StackEvent N → Bool
  | .conn j _ (.deliver _ q) => decide (j = i) && q.id.has cspFrdp == rdp
  | _ => false

/-- The next iteration of the router delivers such a packet on an RDP connection. -/
def Traced.routes (i : Fin N) (rdp : Bool) (x : Traced N) : Bool :=
  (tracedStep .favourable x .route).any fun y => (y.stack.conns i).idin.has cspFrdp &&
    (y.stack.log.drop x.stack.log.length).any (StackEvent.deliversWith i rdp)

/-- A route through a connection delivers, and the stack says so. -/
theorem exists_deliver {i : Fin N} {rdp : Bool} {x : Traced N} (h : x.routes i rdp = true) :
    ∃ y opts st q, tracedStep .favourable x .route = some y ∧
      (y.stack.conns i).idin.has cspFrdp = true ∧
      .conn i opts (.deliver st q) ∈ y.stack.log.drop x.stack.log.length ∧
      q.id.has cspFrdp = rdp := by
  obtain ⟨y, hy, h⟩ := (Option.any_eq_true _ _).1 h
  obtain ⟨hin, hany⟩ := Bool.and_eq_true_iff.1 h
  obtain ⟨ev, hev, hd⟩ := List.any_eq_true.1 hany
  cases ev with
  | conn j opts ev =>
    cases ev with
    | deliver st q =>
      obtain ⟨hji, hq⟩ := Bool.and_eq_true_iff.1 hd
      rw [of_decide_eq_true hji] at hev
      exact ⟨y, opts, st, q, hy, hin, hev, eq_of_beq hq⟩
    | _ => exact absurd hd Bool.false_ne_true
  | _ => exact absurd hd Bool.false_ne_true

/-- A connection of a SYN packet delivers what comes with `CSP_FRDP`. -/
theorem rdp_conn_delivers_syn : ∃ (x y : Traced cspConnMax) (opts : U32) (st : RdpState)
    (q : CspPacket), Run (tracedStep .favourable) (fun _ _ => True) (Traced.init cspConnMax 16)
      [.bind ⟨some 0, 0⟩ 10, .newPacket ⟨1, synPacket⟩, .route,
        .newPacket ⟨1, rdpPacket .ackOnly 101 0 [42]⟩] x ∧
    tracedStep .favourable x .route = some y ∧
    .conn 1 opts (.deliver st q) ∈ y.stack.log.drop x.stack.log.length ∧
    (FromRdp .favourable y.stack.log q ∨
      y.byConnect 1 = false ∧ FromUdp .favourable y.stack.log (y.stack.conns 1).connOpts q) := by
  obtain ⟨x, hrun, hx⟩ : ∃ x : Traced cspConnMax, Run (tracedStep .favourable) (fun _ _ => True)
      (Traced.init cspConnMax 16) [.bind ⟨some 0, 0⟩ 10, .newPacket ⟨1, synPacket⟩, .route,
        .newPacket ⟨1, rdpPacket .ackOnly 101 0 [42]⟩] x ∧ x.routes 1 true = true :=
    Run.of_any (by decide +kernel)
  obtain ⟨y, opts, st, q, hy, hin, hev, -⟩ := exists_deliver hx
  exact ⟨x, y, opts, st, q, hrun, hy, hev, rdp_conn_delivers (by decide) hrun hy hin hev⟩

/-- **A packet without `CSP_FRDP` on the connection of a SYN packet** is delivered as it is. -/
theorem udp_on_rdp_conn :
    ¬ ∀ (e : StackEnv) (is : List (Action cspConnMax)) (port : U8) (x y : Traced cspConnMax)
        (a : Action cspConnMax) (i : Fin cspConnMax) (opts : U32) (st : RdpState) (q : CspPacket),
      EphemeralPort port → Run (tracedStep e) (fun _ _ => True) (Traced.init cspConnMax port) is x →
        tracedStep e x a = some y → (y.stack.conns i).idin.has cspFrdp = true →
        .conn i opts (.deliver st q) ∈ y.stack.log.drop x.stack.log.length →
        FromRdp e y.stack.log q := by
  intro h
  obtain ⟨x, hrun, hx⟩ : ∃ x : Traced cspConnMax, Run (tracedStep .favourable) (fun _ _ => True)
      (Traced.init cspConnMax 16) [.bind ⟨some 0, 0⟩ 10, .newPacket ⟨1, synPacket⟩, .route,
        .newPacket ⟨1, portPacket 0⟩] x ∧ x.routes 1 false = true :=
    Run.of_any (by decide +kernel)
  obtain ⟨y, opts, st, q, hy, hin, hev, hq⟩ := exists_deliver hx
  have hrdp := h _ _ _ _ _ _ _ _ _ _ (by decide) hrun hy hin hev
  exact absurd (hrdp.flag.symm.trans hq) (by decide)

end LibCSP
