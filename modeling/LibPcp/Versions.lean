import LibPcp.Notices
import LibPcp.Sending
import LibPcp.Woken

/-!
# LibPcp.Versions

The protocol versions a server can be used with.

A version comes from the application, from the version byte of an `UNSUPP_VERSION` answer, or from a
decrement of eight bits. The first two are checked where they enter the library, and the decrement only
takes effect when the version in use is not 0.

* `VersionOk`: the version in use, and the next one while a negotiation is pending.
* `Micro.versionOk`: every step of a run keeps it.
* `version_supported`: every state of a run, and what it means for mapping requests.
-/

namespace LibPcp

open LabelledSteps

structure VersionOk (v : Server) : Prop where
  version : v.pcpVersion ≤ pcpMaxSupportedVersion
  next : v.serverState = .versionNegotiation → v.nextVersion ≤ pcpMaxSupportedVersion

theorem VersionOk.zero : VersionOk .zero := ⟨by decide, by decide⟩

/-! ## Received versions -/

theorem parseResponse_recvVersion (cfg : Config) (m : RecvMsg) :
    (parseResponse cfg m).2.recvVersion = (m.pcpMsgBuffer 0).toUInt32 := by
  have hstruct : ∀ {size : Nat} {store : Nat → RecvMsg → RecvMsg} {m' : RecvMsg},
      m'.recvVersion = (m.pcpMsgBuffer 0).toUInt32 → (store 24 m').recvVersion = m'.recvVersion →
      (parseStruct size store m' 24).2.recvVersion = (m.pcpMsgBuffer 0).toUInt32 := by
    intro size store m' h hs
    unfold parseStruct parseOptions
    split
    · exact h
    · split <;> exact hs.trans h
  simp only [parseResponse, parseV0Resp, parseInvVersion, parseV1Resp, parseV2Resp, parseHeader,
    parseV1Map, parseV2Map, parseV1Peer, parseV2Peer, parseSadscp]
  repeat' split
  all_goals first
    | rfl
    | exact hstruct rfl rfl

/-- An accepted message has the version of its first byte, one that the library knows. -/
theorem accepted_recvVersion {e : Env} {c c' : Ctx} {s : Nat} (h : acceptMsg e c = (some s, c')) :
    c'.msg.recvVersion.toUInt8 = c.msg.pcpMsgBuffer 0 ∧
      c.msg.pcpMsgBuffer 0 ≤ pcpMaxSupportedVersion := by
  unfold acceptMsg at h
  split at h
  · rename_i hvalid
    have hle : c.msg.pcpMsgBuffer 0 ≤ pcpMaxSupportedVersion := by
      unfold validatePcpMsg at hvalid
      split at hvalid
      · cases hvalid
      · dsimp only at hvalid
        split at hvalid
        · cases hvalid
        · split at hvalid
          · cases hvalid
          · rename_i hgt
            exact UInt8.not_lt.mp hgt
    have hver := parseResponse_recvVersion e.cfg c.msg
    split at h
    · rename_i m hparse
      rw [hparse] at hver
      dsimp only at h hver
      split at h
      · cases h
        have hkey : (completeKey (c.pcpServers s) (pcpFillIn6Addr (.any, 0, 0) m.rcvdFromAddr).2.2
          m).recvVersion = m.recvVersion := rfl
        refine ⟨?_, hle⟩
        show (completeKey _ _ m).recvVersion.toUInt8 = c.msg.pcpMsgBuffer 0
        rw [hkey, hver, UInt8.toUInt8_toUInt32]
      · cases h
    · cases h
  · cases h

theorem accepted_version {e : Env} {c c' : Ctx} {s : Nat} (h : acceptMsg e c = (some s, c')) :
    c'.msg.recvVersion.toUInt8 ≤ pcpMaxSupportedVersion := by
  obtain ⟨hver, hle⟩ := accepted_recvVersion h
  rwa [hver]

/-! ## Handlers -/

section Handlers

variable {e : Env} {s : Nat} {c c' : Ctx}

theorem Act.pcpVersion {k : ActKind} (h : Act e s k c c') (hk : k ≠ .version) :
    (c'.pcpServers s).pcpVersion = (c.pcpServers s).pcpVersion := by
  cases h with
  | tick | reset | extAddr | putBack | align => rfl
  | server c v hv hp =>
    rw [Ctx.setServer_pcpServers, Function.update_self]
    exact hv.pcpVersion
  | event | response => rw [handleFlowEvent_pcpServers]
  | expire k c f hk ht =>
    rw [handleFlowEvent_pcpServers]
    rfl
  | version => exact absurd rfl hk
  | reveal c f hf => rw [Ctx.modServer_self]
  | announce c =>
    rcases createNatpmpAnnMsg_cases e c s with h | ⟨fl, -, -, -, -, -, -, h⟩
    · rw [h]
      simp [Ctx.modServer, Ctx.callocCall]
    · rw [h]
      simp [Ctx.modServer, Ctx.modFlow, pcpDbAddFlow, Ctx.callocCall]

theorem Acts.pcpVersion {K : List ActKind} (h : Acts e s K c c') (hK : ActKind.version ∉ K) :
    (c'.pcpServers s).pcpVersion = (c.pcpServers s).pcpVersion :=
  h.invariant (I := fun a => (a.pcpServers s).pcpVersion = (c.pcpServers s).pcpVersion)
    (fun _ _ _ ha hk hact => (hact.pcpVersion fun heq => hK (heq ▸ hk)).trans ha) rfl

/-- The version that is tried next. -/
theorem lowered_supported {v : Server} (hv : VersionOk v) (hst : v.serverState = .versionNegotiation)
    (h0 : v.pcpVersion ≠ 0) :
    (if v.nextVersion = v.pcpVersion then v.nextVersion - 1 else v.nextVersion) ≤
      pcpMaxSupportedVersion := by
  have hmax : pcpMaxSupportedVersion = 2 := rfl
  split
  · rename_i heq
    rcases version_cases hv.version with h | h | h
    · exact absurd h h0
    · rw [heq, h]
      decide
    · rw [heq, h]
      decide
  · exact hv.next hst

theorem natpmpPingMsg_pcpVersion (e : Env) (c : Ctx) (s : Nat) :
    ((natpmpPingMsg e c s).2.pcpServers s).pcpVersion = (c.pcpServers s).pcpVersion := by
  unfold natpmpPingMsg
  split
  · rename_i p hp
    have hann : Act e s .announce (c.modFlow p Flow.putBack)
        (createNatpmpAnnMsg e (c.modFlow p Flow.putBack) s).2 := .announce _
    exact hann.pcpVersion (by decide)
  · have hann : Act e s .announce c (createNatpmpAnnMsg e c s).2 := .announce _
    exact hann.pcpVersion (by decide)

theorem handleVersionNegotiation_version (hw : Wf c s) (hv : VersionOk (c.pcpServers s))
    (hst : (c.pcpServers s).serverState = .versionNegotiation) :
    ((handleVersionNegotiation e c s).2.pcpServers s).pcpVersion ≤ pcpMaxSupportedVersion := by
  have hlow : Acts e s [.own] c (lowerNextVersion c s) := lowerNextVersion_acts
  have hself : (lowerNextVersion c s).pcpServers s = { c.pcpServers s with
      nextVersion := if (c.pcpServers s).nextVersion = (c.pcpServers s).pcpVersion then
        (c.pcpServers s).nextVersion - 1 else (c.pcpServers s).nextVersion } := Ctx.modServer_self ..
  rw [handleVersionNegotiation_eq]
  dsimp only
  split
  · rw [hself]
    exact hv.version
  · rename_i hleft
    have h0 : (c.pcpServers s).pcpVersion ≠ 0 := by
      intro h0
      exact hleft (.inl (by rw [hself]; exact h0))
    have huse : Act e s .version (lowerNextVersion c s) (useNextVersion (lowerNextVersion c s) s) :=
      .version _ _
    have hw₂ := huse.wf (hlow.wf hw)
    have hver : ((useNextVersion (lowerNextVersion c s) s).pcpServers s).pcpVersion ≤
        pcpMaxSupportedVersion := by
      rw [useNextVersion, Ctx.modServer_self, hself]
      exact lowered_supported hv hst h0
    -- what follows sends a ping message and keeps the version
    generalize useNextVersion (lowerNextVersion c s) s = c₂ at hw₂ hver ⊢
    have hend : ∀ {p : Option FlowId} {a : Ctx}, Wf a s → (∀ q, p = some q → Own a s q) →
        (a.pcpServers s).pcpVersion = (c₂.pcpServers s).pcpVersion →
        ((negotiationEnd e s (p, a)).2.pcpServers s).pcpVersion ≤ pcpMaxSupportedVersion := by
      intro p a ha hp heq
      have hacts : Acts e s [.own] a (negotiationEnd e s (p, a)).2 := negotiationEnd_acts ha hp
      rw [hacts.pcpVersion (by decide), heq]
      exact hver
    split
    · have hw₃ := (natpmpPingMsg_acts (e := e) hw₂).wf hw₂
      exact hend hw₃ (fun q hq => hw₃.ping q ((natpmpPingMsg_ping e _ s).trans hq))
        (natpmpPingMsg_pcpVersion e c₂ s)
    · exact hend hw₂ (fun q hq => hw₂.ping q hq) rfl

/-- An event of the server. -/
theorem runServerStateMachine_versionOk {ev : ServerEvent} (hw : Wf c s)
    (hm : ev = .ioEvent → c.msg.recvVersion.toUInt8 ≤ pcpMaxSupportedVersion)
    (hv : VersionOk (c.pcpServers s)) :
    VersionOk ((runServerStateMachine e c s ev).pcpServers s) := by
  obtain ⟨hd, hh⟩ := serverHandler_total (c.pcpServers s).serverState ev
  have hversion : ((hd.run e c s).2.pcpServers s).pcpVersion ≤ pcpMaxSupportedVersion := by
    have hkept : ActKind.version ∉ hd.kinds →
        ((hd.run e c s).2.pcpServers s).pcpVersion ≤ pcpMaxSupportedVersion := by
      intro hk
      rw [(hd.run_acts e hw).pcpVersion hk]
      exact hv.version
    cases hd with
    | versionNegotiation =>
      refine handleVersionNegotiation_version hw hv ?_
      revert hh
      cases (c.pcpServers s).serverState <;> cases ev <;> decide
    | reping =>
      have hself : ((handleServerReping e c s).2.pcpServers s).pcpVersion = pcpMaxSupportedVersion := by
        rw [handleServerReping, Env.wakeNow_self, Ctx.modServer_self]
      exact hself ▸ UInt8.le_refl _
    | terminate | ping | waitPingRespTimeout | waitPingRespRecv | sendAllMsgs | waitIoReceiveMsg
    | waitIoTimeout | restart | setNotWorking | notWorking | ignoreEvents | unexpected =>
      exact hkept (by decide)
  rw [runServerStateMachine_eq hh, Ctx.modServer_self]
  refine ⟨hversion, fun hst => ?_⟩
  obtain ⟨hev, -, -, hself⟩ := ServerHandler.negotiates hh hst
  dsimp only
  rw [hself]
  exact hm hev

end Handlers

/-! ## Runs -/

section Runs

variable {e : Env} {c c' : Ctx}

theorem versionOk_kept : KeptByOthers VersionOk where
  same {v w} h hv := by
    rw [h]
    exact ⟨hv.version, hv.next⟩
  zero := .zero
  registered h := by
    refine ⟨h.pcpVersion, fun hst => ?_⟩
    rcases h.state with ⟨hst', -⟩ | hst' | hst' <;> rw [hst'] at hst <;> cases hst
  reregistered {found v w} h := by
    refine ⟨h.pcpVersion, fun hst => ?_⟩
    rw [h.state] at hst
    cases found <;> cases hst

theorem Micro.versionOk {l : MicroOp} {s : Nat} (h : Micro e l c c') (hc : CtxOk c)
    (hv : VersionOk (c.pcpServers s)) : VersionOk (c'.pcpServers s) := by
  cases hrun : l.runs s with
  | false => exact versionOk_kept.micro h hc hrun hv
  | true =>
    cases h with
    | @recv dg i c c₁ h =>
      obtain rfl := eq_of_beq hrun
      have hver := accepted_version h
      have hw := (hc.received h).wf i
      obtain ⟨⟨m, rfl⟩, -⟩ := received_eq h
      exact runServerStateMachine_versionOk hw (fun _ => hver) hv
    | @fire i c hl hd =>
      obtain rfl := eq_of_beq hrun
      have hstart : Acts e i [.own] c (alignNext c.tick i) := fireStart_acts
      refine runServerStateMachine_versionOk (hstart.wf (hc.wf i)) (by simp) ?_
      have hself : (alignNext c.tick i).pcpServers i =
          { c.pcpServers i with nextTimeout := timevalAlign (c.pcpServers i).nextTimeout } :=
        alignNext_self
      rw [hself]
      exact ⟨hv.version, hv.next⟩
    | call | close | quiet | drop | settle => cases hrun

theorem MicroReachable.versionOk (h : MicroReachable e c) (s : Nat) : VersionOk (c.pcpServers s) := by
  have hinv : CtxOk c ∧ VersionOk (c.pcpServers s) :=
    Steps.invariant (I := fun c => CtxOk c ∧ VersionOk (c.pcpServers s))
      (fun _ _ _ hi _ hm => ⟨hm.keepsOk hi.1, hm.versionOk hi.1 hi.2⟩) h ⟨.empty, .zero⟩
  exact hinv.2

/-- Every version the library knows has a mapping request for TCP and UDP. -/
theorem buildPcpMsg_map {v : Server} {f : Flow} {io : Io} (hv : v.pcpVersion ≤ pcpMaxSupportedVersion)
    (hop : f.kd.operation = opcodeMap) (hp : f.kd.protocol = ipprotoTcp ∨ f.kd.protocol = ipprotoUdp)
    (hf : f.Clean) (hcalloc : e.calloc io.callocs = true) :
    ∃ b, (buildPcpMsg e (some v) f io).1.pcpMsgBuffer = some b ∧
      Encodes v.pcpVersion f (b.slice 0 (buildPcpMsg e (some v) f io).1.pcpMsgLen) := by
  have hx : Expressible e.cfg v.pcpVersion f := by
    unfold Expressible
    split
    · exact .inr ⟨hop, hp⟩
    · exact .inr (.inl ⟨hv, .inl hop⟩)
  rw [buildPcpMsg_some, hf.1]
  dsimp only
  rw [if_pos hcalloc]
  cases henc : encodeMsg e.cfg v.pcpVersion f .zero with
  | none =>
    by_cases h0 : v.pcpVersion = 0
    · rw [encodeMsg, if_pos h0, buildNatpmpMsg] at henc
      have ha : f.kd.operation ≠ opcodeAnnounce := by
        rw [hop]
        decide
      rw [if_neg ha, if_pos hop, if_pos hp] at henc
      cases henc
    · exact absurd hx ((encodeMsg_pcp h0 _).mp henc)
  | some r => exact ⟨r.1, rfl, encodeMsg_encodes henc hx⟩

/-- In every state of a run, also inside of a pulse, the record of a server has a version the library
knows, and `build_pcp_msg` makes a mapping request for it. -/
theorem version_supported (e : Env) (c : Ctx) (h : MicroReachable e c) (s : Nat) :
    (c.pcpServers s).pcpVersion ≤ pcpMaxSupportedVersion ∧
      ∀ (f : Flow) (io : Io), f.kd.operation = opcodeMap →
        (f.kd.protocol = ipprotoTcp ∨ f.kd.protocol = ipprotoUdp) → f.Clean →
        e.calloc io.callocs = true →
        ∃ b, (buildPcpMsg e (some (c.pcpServers s)) f io).1.pcpMsgBuffer = some b ∧
          Encodes (c.pcpServers s).pcpVersion f
            (b.slice 0 (buildPcpMsg e (some (c.pcpServers s)) f io).1.pcpMsgLen) := by
  have hv := (h.versionOk s).version
  exact ⟨hv, fun f io hop hp hf hcalloc => buildPcpMsg_map hv hop hp hf hcalloc⟩

theorem version_supported_waiting :
    let c := runTo (.calm {}) (fun _ _ => True) 12 {} waitingFlow
    Live c 0 ∧ (c.pcpServers 0).pcpVersion ≤ pcpMaxSupportedVersion := by
  intro c
  have hl : Live c 0 := by decide +kernel
  have hreach : Reachable (.calm {}) c := Runs.runTo (by decide +kernel)
  exact ⟨hl, (version_supported (.calm {}) c hreach.micros 0).1⟩

end Runs

end LibPcp
