import LibPcp.Writes
import LibPcp.Quarantine

/-!
# LibPcp.Announced

The external address of a NAT-PMP mapping.

A NAT-PMP map response has no external address. It is taken from the record of the server, where
`server_process_rcvd_pcp_msg` has put it when it processed an announce response, and nothing else writes
it (`Micro.natpmpExtAddr`). An announce response is asked for only when a server is negotiated down to
version 0, and one that comes while the server takes in nothing is lost.

* `natpmp_success_announced`: once an announce response has been processed, the mappings carry its
  address until the next one is heard.
* `natpmp_success_unannounced`: a server that is registered with version 0 grants a mapping before
  anything has been announced.
-/

namespace LibPcp

open LabelledSteps ByteBuffer

/-! ## What is heard -/

/-- The context in which a received datagram is dispatched. -/
def received (e : Env) (c : Ctx) (dg : Datagram) : Ctx := (acceptMsg e (readMsg e c dg)).2

/-- The address in a NAT-PMP announce response, a datagram of twelve bytes. -/
def announcedAddr (dg : Datagram) : Option UInt32 :=
  let b := Buf.ofList dg.bytes
  if dg.bytes.length = 12 ∧ b 0 = 0 ∧ b 1 &&& 0x7f = natpmpOpcodeAnnounce then some (b.u32 8) else none

/-- The message is stored as an announcement. An answer of eight bytes can be, and has no address. -/
def RecvMsg.IsAnnounce (m : RecvMsg) : Prop := m.recvVersion = 0 ∧ m.kd.operation = natpmpOpcodeAnnounce

/-- Server `s` processes the message that is dispatched to it. -/
def TakesIn (e : Env) (c : Ctx) (s : Nat) : Prop :=
  c.msg.recvResult ≠ resUnsuppVersion ∧ c.msg.recvResult ≠ resAddressMismatch ∧
    match (c.pcpServers s).serverState with
    | .waitIo | .waitPingResp => True
    | .notWorking => (e.now c.io).us < (c.pcpServers s).nextTimeout.us
    | _ => False

theorem takesIn_iff {e : Env} {c : Ctx} {s : Nat} {h : ServerHandler}
    (hh : serverHandler (c.pcpServers s).serverState .ioEvent = some h) :
    TakesIn e c s ↔ h.Processes e c s := by
  unfold TakesIn ServerHandler.Processes
  refine and_congr_right fun _ => and_congr_right fun _ => ?_
  cases hst : (c.pcpServers s).serverState <;>
    (rw [hst] at hh; cases hh; exact .rfl)

/-- A success of a NAT-PMP map response, handled for a MAP flow of server `s`. -/
structure Handled.NatpmpSuccess (s : Nat) (g : Handled) : Prop where
  ev : g.ev = .res resSuccess
  msg : ∃ m, g.msg = some m ∧ m.recvVersion = 0
  owner : g.old.pcpServerIndx = s
  operation : g.old.kd.operation = opcodeMap
  entered : g.new.state = .waitForLifetimeRenew

/-- What an announce response is parsed to. -/
theorem parseV0Resp_announce {m : RecvMsg} (hop : m.kd.operation = opcodeAnnounce) (hlen : m.pcpMsgLen = 12) :
    (parseV0Resp m).2 = { m with
      recvEpoch := m.pcpMsgBuffer.u32 4, assignedExtIp := .v4mapped (m.pcpMsgBuffer.u32 8) } := by
  rw [parseV0Resp, if_pos ⟨hop, hlen⟩]

theorem received_announced {e : Env} {c c₁ : Ctx} {dg : Datagram} {s : Nat} {x : UInt32}
    (h : acceptMsg e (readMsg e c dg) = (some s, c₁)) (hx : announcedAddr dg = some x) :
    c₁.msg.IsAnnounce ∧ c₁.msg.assignedExtIp.w3 = x := by
  unfold announcedAddr at hx
  dsimp only at hx
  split at hx
  · rename_i hann
    obtain ⟨hlen, hver, hop⟩ := hann
    cases hx
    have htake : dg.bytes.take pcpMaxLen = dg.bytes := List.take_of_length_le (by rw [hlen]; decide)
    generalize hm : (readMsg e c dg).msg = m
    have hbuf : m.pcpMsgBuffer = Buf.ofList dg.bytes := by rw [← hm, readMsg, htake]
    have hmlen : m.pcpMsgLen = 12 := by rw [← hm, readMsg, htake]; exact hlen
    have hparse : (parseResponse e.cfg m).2 = { m.setResponse with
        recvEpoch := m.pcpMsgBuffer.u32 4, assignedExtIp := .v4mapped (m.pcpMsgBuffer.u32 8) } := by
      rw [parseResponse]
      dsimp only
      rw [hbuf, if_pos hver]
      have hop' : m.setResponse.kd.operation = opcodeAnnounce := by
        rw [RecvMsg.setResponse, hbuf]
        exact hop
      rw [parseV0Resp_announce hop' hmlen, ← hbuf]
      rfl
    unfold acceptMsg at h
    rw [hm] at h
    split at h
    · rcases hp : parseResponse e.cfg m with ⟨err, m'⟩
      rw [hp] at h hparse
      dsimp only at hparse
      subst hparse
      cases err with
      | success =>
        dsimp only at h
        split at h
        · cases h
          refine ⟨⟨?_, ?_⟩, ?_⟩
          · simp only [completeKey, RecvMsg.setResponse, hbuf, hver]
            rfl
          · have hkey : ∀ v sc m, (completeKey v sc m).kd.operation = m.kd.operation := by
              intro v sc m
              simp only [completeKey]
              repeat' split
              all_goals rfl
            rw [hkey]
            simp only [RecvMsg.setResponse, hbuf]
            exact hop
          · simp only [completeKey, hbuf]
            rfl
        · cases h
      | _ => cases h
    · cases h
  · cases hx

/-! ## Events -/

/-- A success that ends in `pfs_wait_for_lifetime_renew` has stored the address of the message. -/
theorem flowStep_success_extIp {x : FlowEnv} {m : RecvMsg} {f : Flow} (io : Io) (hm : x.msg = some m)
    (hop : f.kd.operation = opcodeMap)
    (hst : (flowStep x (.res resSuccess) f io).1.state = .waitForLifetimeRenew) :
    (flowStep x (.res resSuccess) f io).1.extIp = m.assignedExtIp := by
  have htake : (fhndlReceivedSuccess x { f with state := .waitForLifetimeRenew } io).2.1.extIp =
      m.assignedExtIp := by
    simp only [fhndlReceivedSuccess, hm, takeSuccess, hop, true_or, if_true]
  rw [flowStep_eq x f io (by simp)] at hst ⊢
  cases hf : f.state with
  | waitResp => exact htake
  | waitForLifetimeRenew => exact htake
  | _ =>
    rw [hf] at hst
    exact absurd (hf.symm.trans hst) (by decide)

/-- No server's address is written, and no event with a message is handled. -/
structure Mute (a b : Ctx) : Prop where
  natpmpExtAddr : ∀ i, (b.pcpServers i).natpmpExtAddr = (a.pcpServers i).natpmpExtAddr
  handled : ∃ new, b.handled = new ++ a.handled ∧ ∀ g ∈ new, g.msg = none

theorem Mute.of_eq {a b : Ctx} (hs : b.pcpServers = a.pcpServers) (hh : b.handled = a.handled) :
    Mute a b :=
  ⟨fun i => by rw [hs], [], hh, by simp⟩

theorem Mute.trans {a b d : Ctx} (h₁ : Mute a b) (h₂ : Mute b d) : Mute a d := by
  obtain ⟨new₁, heq₁, hnone₁⟩ := h₁.handled
  obtain ⟨new₂, heq₂, hnone₂⟩ := h₂.handled
  refine ⟨fun i => (h₂.natpmpExtAddr i).trans (h₁.natpmpExtAddr i), new₂ ++ new₁, ?_, fun g hg => ?_⟩
  · rw [heq₂, heq₁, List.append_assoc]
  · rcases List.mem_append.mp hg with hg | hg
    · exact hnone₂ g hg
    · exact hnone₁ g hg

theorem mute_writes (e : Env) (s : Nat) : Writes e s Mute where
  refl a := .of_eq rfl rfl
  trans := .trans
  tick a := .of_eq rfl rfl
  server a v hv := by
    refine ⟨fun i => ?_, [], rfl, by simp⟩
    by_cases hi : i = s
    · subst hi
      rw [Ctx.setServer_pcpServers, Function.update_self, hv]
    · rw [Ctx.setServer_pcpServers, Function.update_of_ne hi]
  flow a f v := .of_eq rfl rfl
  event a f ev := by
    refine ⟨fun i => by rw [handleFlowEvent_pcpServers], [handledEvent e a f ev none],
      handleFlowEvent_handled .., fun g hg => ?_⟩
    rw [List.mem_singleton.mp hg]
    rfl
  create a kd := by
    unfold pcpCreateFlow
    split
    · exact .of_eq rfl rfl
    · exact .of_eq rfl rfl
  add a f := by
    cases f with
    | none => exact .of_eq rfl rfl
    | some f => exact .of_eq rfl rfl

/-- What comes of the message in `a` when server `s` processes it. -/
structure TakenIn (s : Nat) (a b : Ctx) : Prop where
  others : ∀ i, i ≠ s → (b.pcpServers i).natpmpExtAddr = (a.pcpServers i).natpmpExtAddr
  announce : a.msg.IsAnnounce → (b.pcpServers s).natpmpExtAddr = a.msg.assignedExtIp.w3
  kept : ¬ a.msg.IsAnnounce → (b.pcpServers s).natpmpExtAddr = (a.pcpServers s).natpmpExtAddr
  handled : ∃ new, b.handled = new ++ a.handled ∧ ∀ g ∈ new, ∀ i, g.NatpmpSuccess i →
    i = (a.pcpServers s).index ∧ g.new.extIp = .v4mapped (a.pcpServers s).natpmpExtAddr

/-- Writes before and after it make no difference. -/
theorem TakenIn.between {s : Nat} {a a' b' b : Ctx} (h : TakenIn s a' b') (h₁ : Mute a a')
    (h₂ : Mute b' b) (hmsg : a'.msg = a.msg)
    (hindex : (a'.pcpServers s).index = (a.pcpServers s).index) : TakenIn s a b := by
  obtain ⟨new₁, heq₁, hnone₁⟩ := h₁.handled
  obtain ⟨new₂, heq₂, hnone₂⟩ := h₂.handled
  obtain ⟨new, heq, hsucc⟩ := h.handled
  have hmute : ∀ {l : List Handled}, (∀ g ∈ l, g.msg = none) → ∀ g ∈ l, ∀ i, ¬ g.NatpmpSuccess i := by
    intro l hl g hg i hsuccess
    obtain ⟨m, hm, -⟩ := hsuccess.msg
    rw [hl g hg] at hm
    cases hm
  refine ⟨fun i hi => ?_, fun hann => ?_, fun hann => ?_, new₂ ++ new ++ new₁, ?_, fun g hg i hi => ?_⟩
  · rw [h₂.natpmpExtAddr, h.others i hi, h₁.natpmpExtAddr]
  · rw [h₂.natpmpExtAddr, h.announce (hmsg ▸ hann), hmsg]
  · rw [h₂.natpmpExtAddr, h.kept (hmsg ▸ hann), h₁.natpmpExtAddr]
  · rw [heq₂, heq, heq₁, List.append_assoc, List.append_assoc]
  · rcases List.mem_append.mp hg with hg | hg
    · rcases List.mem_append.mp hg with hg | hg
      · exact absurd hi (hmute hnone₂ g hg i)
      · obtain ⟨hix, hext⟩ := hsucc g hg i hi
        exact ⟨hix.trans hindex, by rw [hext, h₁.natpmpExtAddr]⟩
    · exact absurd hi (hmute hnone₁ g hg i)

/-- The event of the flow that a message is matched to. -/
theorem matched_event {e : Env} {b : Ctx} {f : FlowId} {ix : Nat} {addr : UInt32}
    (hmap : b.msg.recvVersion = 0 → (b.heap f).kd.operation = opcodeMap →
      (b.heap f).pcpServerIndx = ix ∧ b.msg.assignedExtIp = .v4mapped addr) :
    ∀ i, (handledEvent e b f (.res b.msg.recvResult) (some b.msg)).NatpmpSuccess i →
      i = ix ∧ (handledEvent e b f (.res b.msg.recvResult) (some b.msg)).new.extIp = .v4mapped addr := by
  intro i hg
  obtain ⟨m, hm, hver⟩ := hg.msg
  obtain rfl : b.msg = m := Option.some.inj hm
  obtain ⟨hix, haddr⟩ := hmap hver hg.operation
  have hres : b.msg.recvResult = resSuccess := FlowEvent.res.inj hg.ev
  have hentered := hg.entered
  refine ⟨hg.owner.symm.trans hix, ?_⟩
  rw [← haddr]
  simp only [handledEvent, hres] at hentered ⊢
  exact flowStep_success_extIp b.io rfl hg.operation hentered

theorem serverProcessRcvdPcpMsg_takenIn (e : Env) (s : Nat) (a : Ctx) :
    TakenIn s a (serverProcessRcvdPcpMsg e a s).2 := by
  unfold serverProcessRcvdPcpMsg
  by_cases hann : a.msg.IsAnnounce
  · -- an announcement is matched to an announcement only
    have haddr : (matchRcvdMsg a s).2 =
        a.modServer s fun v => { v with natpmpExtAddr := a.msg.assignedExtIp.w3 } := by
      simp only [matchRcvdMsg, if_pos hann.1, if_pos hann.2]
      split
      · split <;> rfl
      · rfl
    have hping : ∀ p, (matchRcvdMsg a s).1 = some p → (a.heap p).kd.operation = opcodeAnnounce := by
      intro p hp
      simp only [matchRcvdMsg, if_pos hann.1, if_pos hann.2] at hp
      split at hp
      · split at hp
        · rename_i hcase
          cases hp
          exact hcase.2
        · cases hp
      · cases hp
    have hself : ((matchRcvdMsg a s).2.pcpServers s).natpmpExtAddr = a.msg.assignedExtIp.w3 := by
      rw [haddr, Ctx.modServer_self]
    have hother : ∀ i, i ≠ s →
        ((matchRcvdMsg a s).2.pcpServers i).natpmpExtAddr = (a.pcpServers i).natpmpExtAddr := by
      intro i hi
      rw [haddr]
      simp [Ctx.modServer, hi]
    have hheap : (matchRcvdMsg a s).2.heap = a.heap := by rw [haddr]; rfl
    have hlog : (matchRcvdMsg a s).2.handled = a.handled := by rw [haddr]; rfl
    generalize matchRcvdMsg a s = r at *
    obtain ⟨found, b⟩ := r
    cases found with
    | none => exact ⟨hother, fun _ => hself, fun hn => absurd hann hn, [], hlog, by simp⟩
    | some p =>
      dsimp only at *
      refine ⟨fun i hi => by rw [handleFlowEvent_pcpServers]; exact hother i hi,
        fun _ => by rw [handleFlowEvent_pcpServers]; exact hself, fun hn => absurd hann hn,
        [handledEvent e b p (.res b.msg.recvResult) (some b.msg)], ?_, fun g hg => ?_⟩
      · rw [handleFlowEvent_handled, hlog]
        rfl
      · rw [List.mem_singleton.mp hg]
        refine matched_event fun _ hop => ?_
        rw [hheap, hping p rfl] at hop
        cases hop
  · have hmatch : ∃ ip, (matchRcvdMsg a s).2 = { a with msg := { a.msg with assignedExtIp := ip } } ∧
        (a.msg.recvVersion = 0 → ip = .v4mapped (a.pcpServers s).natpmpExtAddr) ∧
        (matchRcvdMsg a s).1 = pcpGetFlow a a.msg.kd s := by
      by_cases hver : a.msg.recvVersion = 0
      · have hop : a.msg.kd.operation ≠ natpmpOpcodeAnnounce := fun hop => hann ⟨hver, hop⟩
        refine ⟨.v4mapped (a.pcpServers s).natpmpExtAddr, ?_, fun _ => rfl, ?_⟩
        · simp only [matchRcvdMsg, if_pos hver, if_neg hop]
        · simp only [matchRcvdMsg, if_pos hver, if_neg hop]
      · refine ⟨a.msg.assignedExtIp, ?_, fun h => absurd h hver, ?_⟩
        · simp only [matchRcvdMsg, if_neg hver]
        · simp only [matchRcvdMsg, if_neg hver]
    obtain ⟨ip, heq, hip, hfound⟩ := hmatch
    generalize matchRcvdMsg a s = r at *
    obtain ⟨found, b⟩ := r
    dsimp only at heq hfound
    subst heq
    cases found with
    | none => exact ⟨fun _ _ => rfl, fun hn => absurd hn hann, fun _ => rfl, [], rfl, by simp⟩
    | some f =>
      have hown : (a.heap f).pcpServerIndx = (a.pcpServers s).index := by
        have hcond := List.find?_some hfound.symm
        simp only [Bool.and_eq_true, beq_iff_eq] at hcond
        exact hcond.1
      dsimp only
      refine ⟨fun i _ => by rw [handleFlowEvent_pcpServers], fun hn => absurd hn hann,
        fun _ => by rw [handleFlowEvent_pcpServers],
        [handledEvent e { a with msg := { a.msg with assignedExtIp := ip } } f (.res a.msg.recvResult)
          (some { a.msg with assignedExtIp := ip })], ?_, fun g hg => ?_⟩
      · rw [handleFlowEvent_handled]
        rfl
      · rw [List.mem_singleton.mp hg]
        exact matched_event fun hver _ => ⟨hown, hip hver⟩

/-! ## Steps -/

section Steps

variable {e : Env} {c d : Ctx} {s i : Nat} {l : MicroOp}

theorem runServerStateMachine_mute {ev : ServerEvent} {h : ServerHandler}
    (hh : serverHandler (c.pcpServers s).serverState ev = some h) (hq : ¬ h.Processes e c s) :
    Mute c (runServerStateMachine e c s ev) := by
  rw [runServerStateMachine_eq hh]
  exact ((mute_writes e s).quiet h c hq).trans ((mute_writes e s).modServer _ rfl)

/-- What a received message comes to. -/
theorem runServerStateMachine_io (e : Env) (c : Ctx) (s : Nat) :
    (¬ TakesIn e c s → Mute c (runServerStateMachine e c s .ioEvent)) ∧
      (TakesIn e c s → TakenIn s c (runServerStateMachine e c s .ioEvent)) := by
  obtain ⟨h, hh⟩ := serverHandler_total (c.pcpServers s).serverState .ioEvent
  refine ⟨fun hn => runServerStateMachine_mute hh fun hp => hn ((takesIn_iff hh).mpr hp), fun hin => ?_⟩
  have w := mute_writes e s
  obtain ⟨hstart, hend⟩ := w.records.processed h c ((takesIn_iff hh).mp hin)
  have hsame : (h.start e c s).msg = c.msg ∧
      ((h.start e c s).pcpServers s).index = (c.pcpServers s).index := by
    cases h with
    | notWorking =>
      refine ⟨rfl, ?_⟩
      simp only [ServerHandler.start]
      rw [Ctx.setNextTimeout_self]
      rfl
    | _ => exact ⟨rfl, rfl⟩
  rw [runServerStateMachine_eq hh]
  exact (serverProcessRcvdPcpMsg_takenIn e s _).between hstart (hend.trans (w.modServer _ rfl))
    hsame.1 hsame.2

/-- A timeout processes no message, unless the clock goes back. -/
theorem fire_mute (he : e.ClockMono) (hd : Due e c i) : Mute c (fire e i c) := by
  have w := mute_writes e i
  have hstart : Mute c (alignNext c.tick i) := w.trans (w.tick c) (w.setNextTimeout _ _)
  obtain ⟨h, hh⟩ := serverHandler_total ((alignNext c.tick i).pcpServers i).serverState .timeout
  refine hstart.trans (runServerStateMachine_mute hh fun hp => ?_)
  obtain ⟨-, -, hwhich⟩ := hp
  cases h with
  | notWorking =>
    have hmono : (e.now c.io).us ≤ (e.now c.tick.io).us := he _ _ (Nat.le_succ _)
    have hdue := hd.2
    rw [alignNext_self] at hwhich
    simp only [us_timevalAlign, Ctx.tick_pcpServers] at hwhich
    have hnow : e.now (alignNext c.tick i).io = e.now c.tick.io := rfl
    rw [hnow] at hwhich
    omega
  | waitIoReceiveMsg | waitPingRespRecv =>
    revert hh
    cases ((alignNext c.tick i).pcpServers i).serverState <;> decide
  | _ => exact hwhich

theorem settle_mute (e : Env) (i : Nat) (c : Ctx) : Mute c (settle i c) := by
  have w := mute_writes e i
  unfold settle
  split
  · exact w.tick c
  · exact w.trans (w.tick c) (w.setNextTimeout _ _)

/-! ### Calls -/

theorem psdFillPcpServerSrc_natpmpExtAddr (e : Env) (c : Ctx) (s i : Nat) :
    ((psdFillPcpServerSrc e c s).2.pcpServers i).natpmpExtAddr = (c.pcpServers i).natpmpExtAddr := by
  by_cases hi : i = s
  · subst hi
    obtain ⟨a, n, ⟨-, h⟩ | ⟨-, -, src, scope, h⟩⟩ := psdFillPcpServerSrc_spec e c i
    · rw [h]
      simp [Ctx.modServer, Server.setSaddr]
    · rw [h]
      simp [startPing, Server.setSaddr]
  · obtain ⟨a, n, ⟨-, h⟩ | ⟨-, -, src, scope, h⟩⟩ := psdFillPcpServerSrc_spec e c s
    · rw [h]
      simp [Ctx.modServer, hi]
    · rw [h]
      simp [hi]

theorem registerServer_natpmpExtAddr (e : Env) (version : UInt8) (c : Ctx) (s i : Nat) :
    ((registerServer e version c s).2.pcpServers i).natpmpExtAddr = (c.pcpServers i).natpmpExtAddr := by
  have hmod : ∀ (a : Ctx) (g : Server → Server), (∀ v, (g v).natpmpExtAddr = v.natpmpExtAddr) →
      ((a.modServer s g).pcpServers i).natpmpExtAddr = (a.pcpServers i).natpmpExtAddr := by
    intro a g hg
    by_cases hi : i = s
    · subst hi
      rw [Ctx.modServer_self, hg]
    · simp [Ctx.modServer, hi]
  have hfill := (psdFillPcpServerSrc_natpmpExtAddr e (c.modServer s fun v =>
    { v with pcpVersion := version, serverState := .allocated }) s i).trans (hmod c _ fun _ => rfl)
  simp only [registerServer]
  generalize psdFillPcpServerSrc e _ s = r at hfill ⊢
  obtain ⟨found, b⟩ := r
  cases found with
  | true => exact hfill
  | false =>
    have hfree := hmod b (fun v => { v with serverState := .unitialized }) fun _ => rfl
    exact hfree.trans hfill

/-- Acts that do not register `s` again keep its address, as long as it is in use. -/
theorem CallActs.natpmpExtAddr {K : CallKind → Prop} (h : CallActs e K c d) (hK : ∀ found, ¬ K (.again s found))
    (hl : Live c s) : (d.pcpServers s).natpmpExtAddr = (c.pcpServers s).natpmpExtAddr := by
  have hinv := h.invariant
    (I := fun a => Live a s ∧ (a.pcpServers s).natpmpExtAddr = (c.pcpServers s).natpmpExtAddr)
    (fun k a b ha hk hact => ?_) ⟨hl, rfl⟩
  · exact hinv.2
  · obtain ⟨hla, haddr⟩ := ha
    rcases hact.server hla with ⟨found, rfl⟩ | ⟨hsame, hlt, -⟩
    · exact absurd hk (hK found)
    · refine ⟨⟨hlt, ?_⟩, ?_⟩
      · rw [hsame.serverState]
        exact hla.2
      · rw [Server.SameBut] at hsame
        rw [hsame]
        exact haddr

/-- Registering `s` once more keeps it too. -/
theorem call_natpmpExtAddr {op : Op} (hc : CtxOk c) (hp : op.isPlain = true) (h : op.exec e 0 c = some d)
    (hl : Live c s) : (d.pcpServers s).natpmpExtAddr = (c.pcpServers s).natpmpExtAddr := by
  by_cases hre : op.reregisters c = some s
  · cases op with
    | addServer sa version =>
      simp only [Op.reregisters] at hre
      split at hre
      · rename_i hv
        simp only [Op.exec, Option.some.injEq] at h
        rw [← h, pcpAddServer, if_neg (UInt8.not_lt.mpr hv)]
        simp only [psdAddPcpServer, hre]
        rw [registerServer_natpmpExtAddr, Ctx.modServer_self]
      · cases hre
    | _ => cases hre
  · exact (Op.exec_acts hc hp h).natpmpExtAddr (fun found hk => hre (Op.kinds_again hk)) hl

/-- What a step does to the address of server `s`, and the mappings it grants. -/
structure AddressStep (e : Env) (s : Nat) (l : MicroOp) (c d : Ctx) : Prop where
  announce : ∀ dg x, l = .recv dg s → announcedAddr dg = some x → TakesIn e (received e c dg) s →
    (d.pcpServers s).natpmpExtAddr = x
  kept : (∀ dg, l = .recv dg s → ¬ ((received e c dg).msg.IsAnnounce ∧ TakesIn e (received e c dg) s)) →
    (d.pcpServers s).natpmpExtAddr = (c.pcpServers s).natpmpExtAddr
  handled : ∃ new, d.handled = new ++ c.handled ∧ ∀ g ∈ new, g.NatpmpSuccess s →
    g.new.extIp = .v4mapped (c.pcpServers s).natpmpExtAddr

theorem AddressStep.of_mute (h : Mute c d) (hl : ∀ dg, l ≠ .recv dg s) : AddressStep e s l c d := by
  obtain ⟨new, heq, hnone⟩ := h.handled
  refine ⟨fun dg x hdg => absurd hdg (hl dg), fun _ => h.natpmpExtAddr s, new, heq, fun g hg hsucc => ?_⟩
  obtain ⟨m, hm, -⟩ := hsucc.msg
  rw [hnone g hg] at hm
  cases hm

theorem Micro.addressStep (h : Micro e l c d) (he : e.ClockMono) (hc : CtxOk c) (hl : Live c s) :
    AddressStep e s l c d := by
  cases h with
  | @call op c c' hp h =>
    have hexec := (step_exec h).2
    refine ⟨fun dg x hdg => (by cases hdg), fun _ => call_natpmpExtAddr hc hp hexec hl, [], ?_, by simp⟩
    exact (Op.exec_acts hc hp hexec).silent.handled
  | @close f c hlive =>
    have hacts := closeChain_acts (e := e) (c := c) f
    refine ⟨fun dg x hdg => (by cases hdg), fun _ => hacts.natpmpExtAddr (fun found hk => ?_) hl, [],
      hacts.silent.handled, by simp⟩
    obtain ⟨g, -, hg⟩ := hk
    cases hg
  | quiet => exact .of_mute (.of_eq rfl rfl) fun dg hdg => by cases hdg
  | drop h =>
    obtain ⟨⟨m, rfl⟩, -⟩ := received_eq h
    exact .of_mute (.of_eq rfl rfl) fun dg hdg => by cases hdg
  | @fire i c hl hd => exact .of_mute (fire_mute he hd) fun dg hdg => by cases hdg
  | @settle i c hl hd => exact .of_mute (settle_mute e i c) fun dg hdg => by cases hdg
  | @recv dg i c c₁ h =>
    have hrecv : received e c dg = c₁ := by rw [received, h]
    have hann : ∀ x, announcedAddr dg = some x → c₁.msg.IsAnnounce ∧ c₁.msg.assignedExtIp.w3 = x :=
      fun x hx => received_announced h hx
    obtain ⟨hmute, htaken⟩ := runServerStateMachine_io e c₁ i
    have hli := (recv_acts h hc).2.1
    have hindex := (hc.received h).index hli.2
    obtain ⟨⟨m, hm⟩, -⟩ := received_eq h
    have hservers : c₁.pcpServers = c.pcpServers := by rw [hm]; rfl
    have hlog : c₁.handled = c.handled := by rw [hm]; rfl
    have hstart : Mute c c₁ := .of_eq hservers hlog
    by_cases hin : TakesIn e c₁ i
    · have hb := htaken hin
      obtain ⟨new, heq, hsucc⟩ := hb.handled
      refine ⟨fun dg' x hdg hx _ => ?_, fun hkeep => ?_, new, by rw [heq, hlog], fun g hg hgs => ?_⟩
      · cases hdg
        rw [hb.announce (hann x hx).1, (hann x hx).2]
      · by_cases hi : s = i
        · subst hi
          have hnot : ¬ c₁.msg.IsAnnounce := fun ha => hkeep dg rfl (hrecv.symm ▸ ⟨ha, hin⟩)
          rw [hb.kept hnot, hservers]
        · rw [hb.others s hi, hservers]
      · obtain ⟨hix, hext⟩ := hsucc g hg s hgs
        obtain rfl : s = i := hix.trans hindex
        rw [hext, hservers]
    · obtain ⟨hmute', ⟨new, heq, hnone⟩⟩ := hstart.trans (hmute hin)
      refine ⟨fun dg' x hdg _ htake => ?_, fun _ => hmute' s, new, heq, fun g hg hgs => ?_⟩
      · cases hdg
        rw [hrecv] at htake
        exact absurd htake hin
      · obtain ⟨m', hm', -⟩ := hgs.msg
        rw [hnone g hg] at hm'
        cases hm'

end Steps

/-! ## Runs -/

section Runs

variable {e : Env} {a b c d : Ctx} {s : Nat} {l : MicroOp}

/-- Server `s` stays registered, no other announce response of it is heard, and no answer without an
address is processed as one. -/
def StaysAnnounced (e : Env) (s : Nat) (c : Ctx) (l : MicroOp) : Prop :=
  Live c s ∧ ∀ dg, l = .recv dg s → announcedAddr dg = none ∧
    ¬ ((received e c dg).msg.IsAnnounce ∧ TakesIn e (received e c dg) s)

/-- After an announce response that the server has processed, until it is heard to announce again, every
NAT-PMP success of its MAP flows carries the address announced. -/
theorem natpmp_success_announced (he : e.ClockMono) (ha : MicroReachable e a) {dg : Datagram} {x : UInt32}
    (hrecv : Micro e (.recv dg s) a b) (hx : announcedAddr dg = some x)
    (htaken : TakesIn e (received e a dg) s) (hrun : Micros e (StaysAnnounced e s) b c)
    (hlive : Live c s) (hstep : Micro e l c d) :
    ∃ new, d.handled = new ++ c.handled ∧
      ∀ g ∈ new, g.NatpmpSuccess s → g.new.extIp = .v4mapped x := by
  have hb : (b.pcpServers s).natpmpExtAddr = x := by
    have hl : Live a s := by
      cases hrecv with
      | recv h => exact (received_eq h).2 s rfl
    exact (hrecv.addressStep he ha.ctxOk hl).announce dg x rfl hx htaken
  have hinv := hrun.invariant (I := fun y => CtxOk y ∧ (y.pcpServers s).natpmpExtAddr = x)
    (fun l' y z hy hl hm => ?_) ⟨hrecv.keepsOk ha.ctxOk, hb⟩
  · obtain ⟨hc, haddr⟩ := hinv
    have hgranted := (hstep.addressStep he hc hlive).handled
    rwa [haddr] at hgranted
  · refine ⟨hm.keepsOk hy.1, ?_⟩
    rw [(hm.addressStep he hy.1 hl.1).kept fun dg' hdg => (hl.2 dg' hdg).2]
    exact hy.2

end Runs

/-! ## Two runs with version 0 -/

/-- `10.0.0.1` is asked with version 0 from the start. -/
def asksVersion0 : Ctx :=
  (microsTo (.calm {}) (fun _ l => l.hears 0 = false) {}
    [.call (.addServer (.inet 0x0A000001 0) 0), .call (.newFlow (.inet 0x0A000002 80) none none 6 60),
      .quiet, .fire 0, .settle 0]).getD {}

/-- Its address, and its answer to the request of flow 0. -/
def natpmpAnnounced : Datagram :=
  { bytes := [0, 0x80, 0, 0] ++ be32 1000 ++ be32 0xC0000201, src := .inet 0x0A000001 5351,
    dst := .inet 0x0A000002 0 }

def natpmpMapped : Datagram :=
  { bytes := [0, 0x82, 0, 0] ++ be32 1000 ++ be16 80 ++ be16 80 ++ be32 60, src := .inet 0x0A000001 5351,
    dst := .inet 0x0A000002 0 }

theorem recv_received {e : Env} {c : Ctx} {dg : Datagram} {s : Nat}
    (h : (acceptMsg e (readMsg e c dg)).1 = some s) :
    Micro e (.recv dg s) c (runServerStateMachine e (received e c dg) s .ioEvent) :=
  .recv (Prod.ext h rfl)

theorem asksVersion0_micros : Micros (.calm {}) (fun _ l => l.hears 0 = false) {} asksVersion0 :=
  Micros.of_microsTo (by decide +kernel)

/-- The server announces its address on its own account, and then answers. -/
def hearsAddress : Ctx :=
  runServerStateMachine (.calm {}) (received (.calm {}) asksVersion0 natpmpAnnounced) 0 .ioEvent

def knowsAddress : Ctx :=
  (microsTo (.calm {}) (fun c l => Live c 0 ∧ l.hears 0 = false) hearsAddress
    [.fire 0, .fire 0, .settle 0, .quiet]).getD {}

def mapsAddress : Ctx :=
  runServerStateMachine (.calm {}) (received (.calm {}) knowsAddress natpmpMapped) 0 .ioEvent

theorem natpmp_success_announced_first :
    (mapsAddress.heap 0).state = .waitForLifetimeRenew ∧
      (mapsAddress.heap 0).extIp = .v4mapped 0xC0000201 ∧
      ∃ new, mapsAddress.handled = new ++ knowsAddress.handled ∧
        ∀ g ∈ new, g.NatpmpSuccess 0 → g.new.extIp = .v4mapped 0xC0000201 := by
  have hreach : MicroReachable (.calm {}) asksVersion0 := asksVersion0_micros.mono fun _ _ _ => trivial
  have hannounce : Micro (.calm {}) (.recv natpmpAnnounced 0) asksVersion0 hearsAddress :=
    recv_received (by decide +kernel)
  have htaken : TakesIn (.calm {}) (received (.calm {}) asksVersion0 natpmpAnnounced) 0 := by
    have hst : ((received (.calm {}) asksVersion0 natpmpAnnounced).pcpServers 0).serverState =
        .waitPingResp := by decide +kernel
    refine ⟨by decide +kernel, by decide +kernel, ?_⟩
    rw [hst]
    trivial
  have hrun : Micros (.calm {}) (fun c l => Live c 0 ∧ l.hears 0 = false) hearsAddress knowsAddress :=
    Micros.of_microsTo (by decide +kernel)
  have hquiet := hrun.mono (Q := StaysAnnounced (.calm {}) 0) fun c l hl =>
    ⟨hl.1, fun dg hdg => by
      have hhear := hl.2
      rw [hdg] at hhear
      exact absurd hhear (by simp [MicroOp.hears])⟩
  have hanswer : Micro (.calm {}) (.recv natpmpMapped 0) knowsAddress mapsAddress :=
    recv_received (by decide +kernel)
  exact ⟨by decide +kernel, by decide +kernel,
    natpmp_success_announced calm_clock.1 hreach hannounce (by decide +kernel) htaken hquiet
      (by decide +kernel) hanswer⟩

/-- Without an announcement the mapping gets the address a new record has. -/
theorem natpmp_success_unannounced :
    ∃ c d g, Micros (.calm {}) (fun _ l => l.hears 0 = false) {} c ∧ Live c 0 ∧
      (c.pcpServers 0).pcpVersion = 0 ∧ Micro (.calm {}) (.recv natpmpMapped 0) c d ∧
      d.handled.head? = some g ∧ c.handled.length < d.handled.length ∧ g.NatpmpSuccess 0 ∧
      g.new.extIp = .v4mapped 0 := by
  have hanswer : Micro (.calm {}) (.recv natpmpMapped 0) asksVersion0
      (runServerStateMachine (.calm {}) (received (.calm {}) asksVersion0 natpmpMapped) 0 .ioEvent) :=
    recv_received (by decide +kernel)
  have hlog : (runServerStateMachine (.calm {}) (received (.calm {}) asksVersion0 natpmpMapped) 0
      .ioEvent).handled.head?.map (fun g => ((g.ev, g.msg.map (·.recvVersion)), (g.old.pcpServerIndx,
        g.old.kd.operation), (g.new.state, g.new.extIp))) =
      some ((.res resSuccess, some 0), (0, opcodeMap), (.waitForLifetimeRenew, .v4mapped 0)) := by
    decide +kernel
  obtain ⟨g, hg, hfields⟩ := Option.map_eq_some_iff.mp hlog
  simp only [Prod.mk.injEq] at hfields
  obtain ⟨⟨hev, hmsg⟩, ⟨hix, hop⟩, hst, hext⟩ := hfields
  exact ⟨asksVersion0, _, g, asksVersion0_micros, by decide +kernel, by decide +kernel, hanswer, hg,
    by decide +kernel, ⟨hev, Option.map_eq_some_iff.mp hmsg, hix, hop, hst⟩, hext⟩

end LibPcp
