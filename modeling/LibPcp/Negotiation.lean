import LibPcp.Versions

/-!
# LibPcp.Negotiation

Version negotiation with a server that speaks one version only.

The network is the list of all requests sent so far: a response of the server is its answer to any one
of them, so it may be late, out of order or a repetition. An `UNSUPP_VERSION` answer names the version
of the server. When the client uses that version already, it takes the answer for a rejection of it and
goes on to the next lower one.

* `MicroOp.Served`: what such a server sends. `MicroOp.Rejects`: an answer of this sort that comes too
  late.
* `version_settles`: without those, the version of the server stays in use until it is pinged anew.
-/

namespace LibPcp

open ByteBuffer LabelledSteps

/-- The answer of a server that speaks version `v` only to the request `p`. -/
def Answers (v : UInt8) (p : Sent) (dg : Datagram) : Prop :=
  dg.bytes[0]? = some v ∧ dg.bytes[1]? = p.bytes[1]?.map (· ||| 0x80) ∧
    dg.bytes[3]? = some (if p.bytes[0]? = some v then resSuccess.toUInt8 else resUnsuppVersion.toUInt8)

instance (v : UInt8) (p : Sent) (dg : Datagram) : Decidable (Answers v p dg) :=
  inferInstanceAs (Decidable (_ ∧ _))

/-- What is received from server `s` is its answer to some request that was sent to it. -/
def MicroOp.Served (v : UInt8) (s : Nat) (c : Ctx) : MicroOp → Prop
  | .recv dg i => i = s → ∃ p ∈ c.io.sent, p.server = s ∧ Answers v p dg
  | _ => True

instance (v : UInt8) (s : Nat) (c : Ctx) : (l : MicroOp) → Decidable (l.Served v s c)
  | .recv .. => inferInstanceAs (Decidable (_ → _))
  | .call _ | .close _ | .quiet | .drop _ | .fire _ | .settle _ => inferInstanceAs (Decidable True)

/-- No version below `v` may be tried. -/
def LowestVersion (cfg : Config) (v : UInt8) : Prop :=
  cfg.minSupportedVersion > 0 ∧ v - 1 < cfg.minSupportedVersion

instance (cfg : Config) (v : UInt8) : Decidable (LowestVersion cfg v) :=
  inferInstanceAs (Decidable (_ ∧ _))

/-- An `UNSUPP_VERSION` answer of `s` is processed while `v` is in use, and there is a lower version to
try. -/
def MicroOp.Rejects (e : Env) (v : UInt8) (s : Nat) (c : Ctx) : MicroOp → Prop
  | .recv dg i => i = s ∧ (c.pcpServers s).pcpVersion = v ∧
      (c.pcpServers s).serverState ∈ [.waitIo, .waitPingResp] ∧
      (acceptMsg e (readMsg e c dg)).2.msg.recvResult = resUnsuppVersion ∧ ¬ LowestVersion e.cfg v
  | _ => False

instance (e : Env) (v : UInt8) (s : Nat) (c : Ctx) : (l : MicroOp) → Decidable (l.Rejects e v s c)
  | .recv .. => inferInstanceAs (Decidable (_ ∧ _))
  | .call _ | .close _ | .quiet | .drop _ | .fire _ | .settle _ => inferInstanceAs (Decidable False)

/-- Server `s` is pinged anew: from `handle_server_reping`, or because it is registered again. -/
def MicroOp.Repings (s : Nat) (c : Ctx) (l : MicroOp) : Prop :=
  (l.runs s = true ∧ (c.pcpServers s).serverState = .serverReping) ∨ l.reregisters c = some s

instance (s : Nat) (c : Ctx) (l : MicroOp) : Decidable (l.Repings s c) :=
  inferInstanceAs (Decidable (_ ∨ _))

/-- A negotiation that is pending while `v` is in use has no version left to try. -/
def Exhausted (cfg : Config) (v : UInt8) (r : Server) : Prop :=
  r.serverState = .versionNegotiation → r.pcpVersion = v → r.nextVersion = v ∧ LowestVersion cfg v

section Steps

variable {e : Env} {v : UInt8} {s : Nat} {c c' : Ctx} {l : MicroOp}

theorem exhausted_kept (cfg : Config) (v : UInt8) : KeptByOthers (Exhausted cfg v) where
  same {r r'} h hr := by
    rw [h]
    exact hr
  zero h := by cases h
  registered h hst := by
    rcases h.state with ⟨hst', -⟩ | hst' | hst' <;> rw [hst'] at hst <;> cases hst
  reregistered {found r r'} h hst := by
    rw [h.state] at hst
    cases found <;> cases hst

/-- The version of a received message is the first byte of the datagram. -/
theorem received_version {dg : Datagram} (h : acceptMsg e (readMsg e c dg) = (some s, c'))
    (hv : dg.bytes[0]? = some v) : c'.msg.recvVersion.toUInt8 = v := by
  rw [(accepted_recvVersion h).1]
  obtain ⟨hlt, hget⟩ := List.getElem?_eq_some_iff.mp hv
  have hlen : 0 < (dg.bytes.take pcpMaxLen).length := by
    rw [List.length_take]
    exact Nat.lt_min.mpr ⟨by decide, hlt⟩
  show (Buf.ofList (dg.bytes.take pcpMaxLen)) 0 = v
  rw [Buf.ofList_get hlen, List.getElem_take, hget]

/-- A negotiation only begins with an answer that is processed. -/
theorem runServerStateMachine_negotiates {ev : ServerEvent}
    (hneg : ((runServerStateMachine e c s ev).pcpServers s).serverState = .versionNegotiation) :
    ev = .ioEvent ∧ (c.pcpServers s).serverState ∈ [.waitIo, .waitPingResp] ∧
      c.msg.recvResult = resUnsuppVersion ∧
      ((runServerStateMachine e c s ev).pcpServers s).pcpVersion = (c.pcpServers s).pcpVersion ∧
      ((runServerStateMachine e c s ev).pcpServers s).nextVersion = c.msg.recvVersion.toUInt8 := by
  obtain ⟨hd, hh⟩ := serverHandler_total (c.pcpServers s).serverState ev
  rw [runServerStateMachine_eq hh, Ctx.modServer_self] at hneg ⊢
  obtain ⟨hev, hst, hres, hself⟩ := ServerHandler.negotiates hh hneg
  refine ⟨hev, hst, hres, ?_, ?_⟩
  all_goals
    dsimp only
    rw [hself]

theorem Micro.exhausted (h : Micro e l c c') (hc : CtxOk c) (hs : l.Served v s c)
    (hr : ¬ l.Rejects e v s c) (hx : Exhausted e.cfg v (c.pcpServers s)) :
    Exhausted e.cfg v (c'.pcpServers s) := by
  cases hrun : l.runs s with
  | false => exact (exhausted_kept e.cfg v).micro h hc hrun hx
  | true =>
    cases h with
    | @recv dg i c c₁ h =>
      obtain rfl := eq_of_beq hrun
      intro hneg hver
      obtain ⟨-, hst, hres, hver', hnext⟩ := runServerStateMachine_negotiates hneg
      rw [hver'] at hver
      obtain ⟨p, -, -, hbyte, -⟩ := hs rfl
      refine ⟨hnext.trans (received_version h hbyte), ?_⟩
      by_contra hlow
      obtain ⟨⟨m, rfl⟩, -⟩ := received_eq h
      exact hr ⟨rfl, hver, hst, by rw [h]; exact hres, hlow⟩
    | @fire i c hl hd =>
      obtain rfl := eq_of_beq hrun
      intro hneg
      rw [LibPcp.fire] at hneg
      obtain ⟨hev, -⟩ := runServerStateMachine_negotiates hneg
      cases hev
    | call | close | quiet | drop | settle => cases hrun

/-- An event of the server changes the version in a negotiation and when it is pinged anew. -/
theorem runServerStateMachine_version {ev : ServerEvent} (hw : Wf c s)
    (hx : Exhausted e.cfg v (c.pcpServers s)) (hver : (c.pcpServers s).pcpVersion = v)
    (hne : (c.pcpServers s).serverState ≠ .serverReping) :
    ((runServerStateMachine e c s ev).pcpServers s).pcpVersion = v := by
  obtain ⟨hd, hh⟩ := serverHandler_total (c.pcpServers s).serverState ev
  rw [runServerStateMachine_eq hh, Ctx.modServer_self]
  dsimp only
  have hkept : ActKind.version ∉ hd.kinds → ((hd.run e c s).2.pcpServers s).pcpVersion = v :=
    fun hk => ((hd.run_acts e hw).pcpVersion hk).trans hver
  cases hd with
  | versionNegotiation =>
    have hst : (c.pcpServers s).serverState = .versionNegotiation := by
      revert hh
      cases (c.pcpServers s).serverState <;> cases ev <;> decide
    obtain ⟨hnext, hlow⟩ := hx hst hver
    have hlowered : ((lowerNextVersion c s).pcpServers s).pcpVersion = v ∧
        ((lowerNextVersion c s).pcpServers s).nextVersion = v - 1 := by
      rw [lowerNextVersion, Ctx.modServer_self]
      refine ⟨hver, ?_⟩
      dsimp only
      rw [hnext, hver, if_pos rfl]
    have hleft : NoVersionLeft e.cfg ((lowerNextVersion c s).pcpServers s) := by
      refine .inr ?_
      rw [hlowered.2]
      exact hlow
    simp only [ServerHandler.run]
    rw [handleVersionNegotiation_eq, if_pos hleft]
    exact hlowered.1
  | reping =>
    refine absurd ?_ hne
    revert hh
    cases (c.pcpServers s).serverState <;> cases ev <;> decide
  | terminate | ping | waitPingRespTimeout | waitPingRespRecv | sendAllMsgs | waitIoReceiveMsg
  | waitIoTimeout | restart | setNotWorking | notWorking | ignoreEvents | unexpected =>
    exact hkept (by decide)

theorem Micro.version (h : Micro e l c c') (hc : CtxOk c) (hl : Live c s)
    (hx : Exhausted e.cfg v (c.pcpServers s)) (hver : (c.pcpServers s).pcpVersion = v)
    (hr : ¬ l.Repings s c) : Live c' s ∧ (c'.pcpServers s).pcpVersion = v := by
  have hreg : l.reregisters c ≠ some s := fun h => hr (.inr h)
  cases hrun : l.runs s with
  | false =>
    obtain ⟨hsame, hl', -⟩ := h.server hc hl hrun hreg
    rw [hsame]
    exact ⟨hl', hver⟩
  | true =>
    have hne : (c.pcpServers s).serverState ≠ .serverReping := fun h => hr (.inl ⟨hrun, h⟩)
    cases h with
    | @recv dg i c c₁ h =>
      obtain rfl := eq_of_beq hrun
      have hw := (hc.received h).wf i
      obtain ⟨hacts, hl₁, -⟩ := recv_acts h hc
      obtain ⟨⟨m, rfl⟩, -⟩ := received_eq h
      exact ⟨hacts.frame.live_iff.mpr hl₁, runServerStateMachine_version hw hx hver hne⟩
    | @fire i c hl₁ hd =>
      obtain rfl := eq_of_beq hrun
      have hstart : Acts e i [.own] c (alignNext c.tick i) := fireStart_acts
      have hself : (alignNext c.tick i).pcpServers i =
          { c.pcpServers i with nextTimeout := timevalAlign (c.pcpServers i).nextTimeout } :=
        alignNext_self
      refine ⟨(fire_acts (hc.wf i) hl.2).frame.live_iff.mpr hl,
        runServerStateMachine_version (hstart.wf (hc.wf i)) ?_ ?_ ?_⟩
      all_goals rw [hself]
      · exact hx
      · exact hver
      · exact hne
    | call | close | quiet | drop | settle => cases hrun

end Steps

/-- A run with a server that speaks version `v` only, in which no `UNSUPP_VERSION` answer is processed
while `v` is in use and a lower version may be tried: once `v` is in use, it stays so until the server
is pinged anew. -/
theorem version_settles {e : Env} {v : UInt8} {s : Nat} {c c' : Ctx}
    (hstart : Micros e (fun a l => l.Served v s a ∧ ¬ l.Rejects e v s a) {} c) (hl : Live c s)
    (hver : (c.pcpServers s).pcpVersion = v)
    (h : Micros e (fun a l => l.Served v s a ∧ ¬ l.Rejects e v s a ∧ ¬ l.Repings s a) c c') :
    (c'.pcpServers s).pcpVersion = v := by
  have hc : CtxOk c ∧ Exhausted e.cfg v (c.pcpServers s) :=
    hstart.invariant (I := fun a => CtxOk a ∧ Exhausted e.cfg v (a.pcpServers s))
      (fun _ _ _ hi hp hm => ⟨hm.keepsOk hi.1, hm.exhausted hi.1 hp.1 hp.2 hi.2⟩)
      ⟨.empty, (exhausted_kept e.cfg v).zero⟩
  have hc' : (CtxOk c' ∧ Exhausted e.cfg v (c'.pcpServers s)) ∧
      Live c' s ∧ (c'.pcpServers s).pcpVersion = v :=
    h.invariant (I := fun a => (CtxOk a ∧ Exhausted e.cfg v (a.pcpServers s)) ∧
        Live a s ∧ (a.pcpServers s).pcpVersion = v)
      (fun _ _ _ hi hp hm => ⟨⟨hm.keepsOk hi.1.1, hm.exhausted hi.1.1 hp.1 hp.2.1 hi.1.2⟩,
        hm.version hi.1.1 hi.2.1 hi.1.2 hi.2.2 hp.2.2⟩)
      ⟨hc, hl, hver⟩
  exact hc'.2.2

/-! ## A server of version 1 -/

/-- A response of `10.0.0.1` that begins with `bytes`. -/
def fromServer (bytes : List UInt8) : Datagram :=
  { bytes := bytes ++ List.replicate (48 - bytes.length) 0, src := .inet 0x0A000001 5351,
    dst := .inet 0x0A000002 0 }

/-- Its answers to a MAP request of version 2 and to one of version 1. -/
def unsuppAnswer : Datagram := fromServer [1, 0x81, 0, 1]

def successAnswer : Datagram := fromServer [1, 0x81, 0, 0, 0, 0, 0, 60]

/-- The server is registered with version 2. -/
def startsWithVersion2 : Ctx :=
  (microsTo (.calm {}) (fun _ _ => True) {} [.call (.addServer (.inet 0x0A000001 0) 2)]).getD {}

/-- The first request is sent, and after the answer to it the same request with version 1. -/
def asksVersion1 : Ctx :=
  (microsTo (.calm {}) (fun a l => l.Served 1 0 a ∧ ¬ l.Rejects (.calm {}) 1 0 a) startsWithVersion2
    [.call (.newFlow (.inet 0x0A000002 80) none none 6 60), .quiet, .fire 0, .settle 0,
      .recv unsuppAnswer 0, .fire 0, .settle 0]).getD {}

/-- Then the answer to that arrives. -/
def mapsVersion1 : Ctx :=
  (microsTo (.calm {})
    (fun a l => l.Served 1 0 a ∧ ¬ l.Rejects (.calm {}) 1 0 a ∧ ¬ l.Repings 0 a) asksVersion1
    [.recv successAnswer 0, .fire 0, .fire 0, .settle 0]).getD {}

/-- Or the answer to the first request arrives once more. -/
def refusesVersion1 : Ctx :=
  (microsTo (.calm {}) (fun a l => l.Served 1 0 a ∧ ¬ l.Repings 0 a) asksVersion1
    [.recv unsuppAnswer 0, .fire 0, .settle 0]).getD {}

theorem startsWithVersion2_micro :
    Micro (.calm {}) (.call (.addServer (.inet 0x0A000001 0) 2)) {} startsWithVersion2 := by
  refine .of_microStep ?_
  rfl

theorem asksVersion1_micros :
    Micros (.calm {}) (fun a l => l.Served 1 0 a ∧ ¬ l.Rejects (.calm {}) 1 0 a) startsWithVersion2
      asksVersion1 :=
  Micros.of_microsTo (by decide +kernel)

theorem version_settles_at_one :
    (startsWithVersion2.pcpServers 0).pcpVersion = 2 ∧
      (mapsVersion1.pcpServers 0).serverState = .waitIo ∧
      (mapsVersion1.pcpServers 0).pcpVersion = 1 := by
  have hfirst : Micros (.calm {}) (fun a l => l.Served 1 0 a ∧ ¬ l.Rejects (.calm {}) 1 0 a) {}
      startsWithVersion2 := Steps.single startsWithVersion2_micro ⟨trivial, id⟩
  refine ⟨by decide +kernel, by decide +kernel,
    version_settles (Steps.trans hfirst asksVersion1_micros) ?_ ?_
      (Micros.of_microsTo (by decide +kernel))⟩
  all_goals decide +kernel

/-- The repeated answer to the request of version 2 takes the client from version 1 to NAT-PMP. -/
theorem version_lost_to_repeated_answer :
    ¬ ∀ (e : Env) (v start : UInt8) (s : Nat) (sa : SockAddr) (c₀ c c' : Ctx), (v = 1 ∨ v = 2) →
      (start = 1 ∨ start = 2) → Micro e (.call (.addServer sa start)) {} c₀ →
      Micros e (fun a l => l.Served v s a) c₀ c → Live c s → (c.pcpServers s).pcpVersion = v →
      Micros e (fun a l => l.Served v s a ∧ ¬ l.Repings s a) c c' →
        (c'.pcpServers s).pcpVersion = v := by
  intro hall
  have hone : (asksVersion1.pcpServers 0).pcpVersion = 1 := by decide +kernel
  have hzero : (refusesVersion1.pcpServers 0).pcpVersion = 0 := by decide +kernel
  have hlive : Live asksVersion1 0 := by decide +kernel
  have hrun : Micros (.calm {}) (fun a l => l.Served 1 0 a ∧ ¬ l.Repings 0 a) asksVersion1
      refusesVersion1 := Micros.of_microsTo (by decide +kernel)
  have hsettled := hall (.calm {}) 1 2 0 _ _ _ _ (.inl rfl) (.inr rfl) startsWithVersion2_micro
    (asksVersion1_micros.mono fun _ _ hp => hp.1) hlive hone hrun
  rw [hzero] at hsettled
  exact absurd hsettled (by decide)

end LibPcp
