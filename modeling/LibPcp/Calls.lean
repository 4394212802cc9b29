import LibPcp.Micro

/-!
# LibPcp.Calls

What the application's calls do, as sequences of acts.

Registering a server takes a free slot (`fresh`) or goes over a record in use (`again`); creating a
flow adds one flow to the table per server (`create`, `link`); the setters, closing and deleting go
over the flows of a chain (`update`, `close`, `delete`). `Op.acts` gives the acts of every call.
-/

namespace LibPcp

open LabelledSteps

/-! ## Acts of calls -/

/-- Counters of the environment and the callback. Nothing is sent. -/
structure EnvOnly (c c' : Ctx) : Prop where
  eq : c' = { c with
    lookups := c'.lookups, nonces := c'.nonces, io := c'.io, flowChangeCb := c'.flowChangeCb }
  sent : c'.io.sent = c.io.sent
  ticks : c.io.ticks ≤ c'.io.ticks

/-- The address requests go to is the server's own. -/
def SaddrOk (v : Server) : Prop := (serverAddr v.pcpServerSaddr).1 = v.pcpIp

/-- A record registered for the first time since the slot was freed. -/
structure Registered (i : Nat) (v w : Server) : Prop where
  slot : SlotOk i w
  pingFlowMsg : w.pingFlowMsg = v.pingFlowMsg
  restartFlowMsg : w.restartFlowMsg = v.restartFlowMsg
  pcpVersion : w.pcpVersion ≤ pcpMaxSupportedVersion
  state : (w.serverState = .ping ∧ w.nextTimeout = .zero ∧ SaddrOk w) ∨
    w.serverState = .allocated ∨ w.serverState = .unitialized

/-- A record registered again. The state is back to uninitialised when no source address is found. -/
structure Reregistered (found : Bool) (v w : Server) : Prop where
  index : w.index = v.index
  af : w.af = v.af
  pcpIp : w.pcpIp = v.pcpIp
  nonce : w.nonce = v.nonce
  pingFlowMsg : w.pingFlowMsg = v.pingFlowMsg
  restartFlowMsg : w.restartFlowMsg = v.restartFlowMsg
  pcpVersion : w.pcpVersion ≤ pcpMaxSupportedVersion
  state : w.serverState = if found then .ping else .unitialized
  ping : found → w.nextTimeout = .zero ∧ SaddrOk w

/-- A flow as `init_flow` leaves it, for server `s` at the time `t`. -/
structure Created (s : Server) (t : Timeval) (f : Flow) : Prop where
  pcpServerIndx : f.pcpServerIndx = s.index
  pcpServerIp : f.kd.pcpServerIp = s.pcpIp
  nonce : f.kd.nonce = s.nonce
  notWorking : s.serverState ≠ .notWorking
  state : f.state = if s.serverState = .waitIo then .send else .waitForServerInit
  timeout : f.timeout = t
  pcpMsgBuffer : f.pcpMsgBuffer = none
  pcpMsgLen : f.pcpMsgLen = 0

/-- What a setter may change in a flow before it marks it as updated. -/
structure Flow.Set (f f' : Flow) : Prop where
  kd : f'.kd = f.kd
  keyBucket : f'.keyBucket = f.keyBucket
  nextChild : f'.nextChild = f.nextChild
  pcpServerIndx : f'.pcpServerIndx = f.pcpServerIndx
  state : f'.state = f.state

/-- The new flow `fl` is added to the table and server `s` is woken at `t`. -/
def addNewFlow (c : Ctx) (s : Nat) (fl : Flow) (t : Timeval) (io : Io) : Ctx :=
  pcpDbAddFlow
    (({ c.setFlow c.heapTop fl with heapTop := c.heapTop + 1, io := io } : Ctx).setNextTimeout s t)
    (some c.heapTop)

/-- The states in which closing a flow does not send anything. -/
def FlowState.isInactive (st : FlowState) : Bool :=
  st == .waitForServerInit || st == .idle || st == .failed

/-- What closing does to a flow in one of the other states. -/
def zeroLifetime (e : Env) (c : Ctx) (f : FlowId) : Ctx :=
  pcpFlowUpdated e (c.modFlow f fun v => { v with lifetime := 0 }) f

def failFlow (c : Ctx) (f : FlowId) : Ctx := c.modFlow f fun v => { v with state := .failed }

inductive CallKind where
  | env
  | fresh (s : Nat)
  | again (s : Nat) (found : Bool)
  | create (s : Nat)
  | link (f : FlowId)
  | update (f : FlowId)
  | close (f : FlowId)
  | delete (f : FlowId)

inductive CallAct (e : Env) : CallKind → Ctx → Ctx → Prop where
  | env {c c' : Ctx} (h : EnvOnly c c') : CallAct e .env c c'
  | array (c : Ctx) (arr : Nat → Server) (len : Nat)
      (hold : ∀ i, i < c.pcpServersLength → arr i = c.pcpServers i)
      (hnew : ∀ i, c.pcpServersLength ≤ i → arr i = .zero) (hlen : c.pcpServersLength ≤ len) :
      CallAct e .env c { c with pcpServers := arr, pcpServersLength := len }
  | fresh (c : Ctx) (s : Nat) (v : Server) (hs : s < c.pcpServersLength)
      (hu : (c.pcpServers s).serverState = .unitialized) (h : Registered s (c.pcpServers s) v) :
      CallAct e (.fresh s) c (c.setServer s v)
  | again (c : Ctx) (s : Nat) (found : Bool) (v : Server) (hl : Live c s)
      (h : Reregistered found (c.pcpServers s) v) : CallAct e (.again s found) c (c.setServer s v)
  | create (c : Ctx) (s : Nat) (fl : Flow) (io : Io) (hl : Live c s)
      (h : Created (c.pcpServers s) (e.now c.io) fl) (hs : io.sent = c.io.sent)
      (ht : io.ticks = c.io.ticks + 1) :
      CallAct e (.create s) c (addNewFlow c s fl (e.now c.io) io)
  | link (c : Ctx) (p f : FlowId) :
      CallAct e (.link p) c (c.modFlow p fun v => { v with nextChild := some f })
  | update (c : Ctx) (f : FlowId) (v : Flow) (h : (c.heap f).Set v) :
      CallAct e (.update f) c (pcpFlowUpdated e (c.setFlow f v) f)
  | close (c : Ctx) (f : FlowId) (h : (c.heap f).state.isInactive = false) :
      CallAct e (.close f) c (zeroLifetime e c f)
  | fail (c : Ctx) (f : FlowId) (h : (c.heap f).state.isInactive = true) :
      CallAct e (.close f) c (failFlow c f)
  | delete (c : Ctx) (f : FlowId) : CallAct e (.delete f) c (pcpDeleteFlowIntern c f)

/-- A sequence of acts of the kinds `K`. -/
abbrev CallActs (e : Env) (K : CallKind → Prop) : Ctx → Ctx → Prop :=
  Steps (CallAct e) fun _ k => K k

/-! ## Servers -/

/-- The system has a source address for the server `v`, of the family the socket has. -/
def SourceKnown (e : Env) (c : Ctx) (v : Server) : Bool :=
  if e.cfg.useIpv6Socket then
    v.af == .inet6 && (v.pcpIp.isLoopback || (e.lookup c.lookups).isSome)
  else v.af == .inet && (e.lookup c.lookups).isSome

theorem v4mapped_of_isV4mapped {a : In6Addr} (h : a.isV4mapped = true) : .v4mapped a.w3 = a := by
  obtain ⟨w0, w1, w2, w3⟩ := a
  simp only [In6Addr.isV4mapped, Bool.and_eq_true, beq_iff_eq] at h
  obtain ⟨⟨rfl, rfl⟩, rfl⟩ := h
  rfl

theorem findsaddr6_spec (e : Env) (c : Ctx) (dst : In6Addr) (scopeId : UInt32) :
    ∃ l, (findsaddr6 e c dst scopeId).2 = { c with lookups := l } ∧
      (findsaddr6 e c dst scopeId).1.isSome = (dst.isLoopback || (e.lookup c.lookups).isSome) := by
  unfold findsaddr6
  split
  · rename_i h
    exact ⟨c.lookups, rfl, by rw [h]; rfl⟩
  · rename_i h
    exact ⟨c.lookups + 1, rfl, by simp [Env.findSrc, h]⟩

theorem findsaddr_spec (e : Env) (c : Ctx) :
    ∃ l, (findsaddr e c).2 = { c with lookups := l } ∧
      (findsaddr e c).1.isSome = (e.lookup c.lookups).isSome :=
  ⟨c.lookups + 1, rfl, by simp [findsaddr, Env.findSrc]⟩

def Server.setSaddr (a : SockAddr) (v : Server) : Server := { v with pcpServerSaddr := a }

theorem modServer_lookups (c : Ctx) (s l : Nat) (g h : Server → Server) :
    Ctx.modServer { c.modServer s g with lookups := l } s h =
      { c.setServer s (h (g (c.pcpServers s))) with lookups := l } := by
  simp [Ctx.modServer, Ctx.setServer]

section Source

variable {e : Env} {c : Ctx} {s : Nat}

theorem psdFillPcpServerSrc_inet6 (hcfg : e.cfg.useIpv6Socket = true)
    (haf : (c.pcpServers s).af = .inet6) :
    psdFillPcpServerSrc e c s =
      match findsaddr6 e (c.modServer s (Server.setSaddr (pcpFillSockaddr (c.pcpServers s).pcpIp
          (c.pcpServers s).pcpPort true (c.pcpServers s).pcpScopeId))) (c.pcpServers s).pcpIp 0 with
      | (none, c) => (false, c)
      | (some (src, scope), c') =>
        (true, c'.modServer s (startPing src
          (if (c.pcpServers s).pcpScopeId = 0 ∧ src.isLinklocal then scope
            else (c.pcpServers s).pcpScopeId))) := by
  have hne : ¬ (c.pcpServers s).af = .inet := by rw [haf]; simp
  unfold psdFillPcpServerSrc
  simp only [hcfg, if_true, if_neg hne]
  rfl

theorem psdFillPcpServerSrc_inet (hcfg : ¬ e.cfg.useIpv6Socket = true)
    (haf : (c.pcpServers s).af = .inet) :
    psdFillPcpServerSrc e c s =
      match findsaddr e (c.modServer s
          (Server.setSaddr (.inet (c.pcpServers s).pcpIp.w3 (c.pcpServers s).pcpPort))) with
      | (none, c) => (false, c)
      | (some src, c') => (true, c'.modServer s (startPing src (c.pcpServers s).pcpScopeId)) := by
  unfold psdFillPcpServerSrc
  simp only [if_neg hcfg, if_pos haf]
  rfl

/-- `psd_fill_pcp_server_src` writes the record and asks for one lookup at most. -/
theorem psdFillPcpServerSrc_spec (e : Env) (c : Ctx) (s : Nat) :
    ∃ a l, (SourceKnown e c (c.pcpServers s) = false ∧ psdFillPcpServerSrc e c s =
        (false, { c.modServer s (Server.setSaddr a) with lookups := l })) ∨
      (SourceKnown e c (c.pcpServers s) = true ∧
        (((c.pcpServers s).af = .inet → (c.pcpServers s).pcpIp.isV4mapped = true) →
          (serverAddr a).1 = (c.pcpServers s).pcpIp) ∧
        ∃ src scope, psdFillPcpServerSrc e c s =
          (true, { c.setServer s (startPing src scope ((c.pcpServers s).setSaddr a)) with
            lookups := l })) := by
  cases haf : (c.pcpServers s).af with
  | inet6 =>
    by_cases hcfg : e.cfg.useIpv6Socket = true
    · rw [psdFillPcpServerSrc_inet6 hcfg haf]
      generalize ha : pcpFillSockaddr (c.pcpServers s).pcpIp (c.pcpServers s).pcpPort true
        (c.pcpServers s).pcpScopeId = a
      obtain ⟨l, h₂, h₁⟩ := findsaddr6_spec e (c.modServer s (Server.setSaddr a))
        (c.pcpServers s).pcpIp 0
      refine ⟨a, l, ?_⟩
      have hknown : SourceKnown e c (c.pcpServers s) = (findsaddr6 e
          (c.modServer s (Server.setSaddr a)) (c.pcpServers s).pcpIp 0).1.isSome := by
        rw [h₁]
        simp [SourceKnown, hcfg, haf, Ctx.modServer]
      rcases hf : findsaddr6 e (c.modServer s (Server.setSaddr a)) (c.pcpServers s).pcpIp 0
        with ⟨r, c'⟩
      rw [hf] at h₂ hknown
      simp only at h₂
      subst h₂
      cases r with
      | none => exact .inl ⟨hknown, rfl⟩
      | some r =>
        refine .inr ⟨hknown, fun _ => ?_, r.1, if (c.pcpServers s).pcpScopeId = 0 ∧ r.1.isLinklocal
          then r.2 else (c.pcpServers s).pcpScopeId, ?_⟩
        · rw [← ha]
          simp [pcpFillSockaddr, serverAddr]
        · simp only [modServer_lookups]
    · refine ⟨.inet 0 0, c.lookups, .inl ⟨by simp [SourceKnown, hcfg, haf], ?_⟩⟩
      unfold psdFillPcpServerSrc
      simp only [if_neg hcfg, haf]
      rfl
  | inet =>
    by_cases hcfg : e.cfg.useIpv6Socket = true
    · refine ⟨.inet6 .any 0 0, c.lookups, .inl ⟨by simp [SourceKnown, hcfg, haf], ?_⟩⟩
      unfold psdFillPcpServerSrc
      simp only [hcfg, haf, if_true]
      rfl
    · rw [psdFillPcpServerSrc_inet hcfg haf]
      generalize ha : SockAddr.inet (c.pcpServers s).pcpIp.w3 (c.pcpServers s).pcpPort = a
      obtain ⟨l, h₂, h₁⟩ := findsaddr_spec e (c.modServer s (Server.setSaddr a))
      refine ⟨a, l, ?_⟩
      have hknown : SourceKnown e c (c.pcpServers s) = (findsaddr e
          (c.modServer s (Server.setSaddr a))).1.isSome := by
        rw [h₁]
        simp [SourceKnown, hcfg, haf, Ctx.modServer]
      rcases hf : findsaddr e (c.modServer s (Server.setSaddr a)) with ⟨r, c'⟩
      rw [hf] at h₂ hknown
      simp only at h₂
      subst h₂
      cases r with
      | none => exact .inl ⟨hknown, rfl⟩
      | some src =>
        refine .inr ⟨hknown, fun hmap => ?_, src, (c.pcpServers s).pcpScopeId, ?_⟩
        · rw [← ha]
          exact v4mapped_of_isV4mapped (hmap rfl)
        · simp only [modServer_lookups]

/-- The common end of `psd_add_pcp_server`. -/
theorem registerServer_spec (e : Env) (version : UInt8) (c : Ctx) (s : Nat) :
    ∃ w l, (registerServer e version c s).2 = { c.setServer s w with lookups := l } ∧
      w.index = (c.pcpServers s).index ∧ w.af = (c.pcpServers s).af ∧
      w.pcpIp = (c.pcpServers s).pcpIp ∧ w.nonce = (c.pcpServers s).nonce ∧
      w.pingFlowMsg = (c.pcpServers s).pingFlowMsg ∧
      w.restartFlowMsg = (c.pcpServers s).restartFlowMsg ∧ w.pcpVersion = version ∧
      w.serverState = (if SourceKnown e c (c.pcpServers s) then .ping else .unitialized) ∧
      (SourceKnown e c (c.pcpServers s) → w.nextTimeout = .zero ∧
        (((c.pcpServers s).af = .inet → (c.pcpServers s).pcpIp.isV4mapped = true) → SaddrOk w)) := by
  have hself : ((c.modServer s fun v =>
      { v with pcpVersion := version, serverState := .allocated }).pcpServers s) =
      { c.pcpServers s with pcpVersion := version, serverState := .allocated } := by
    simp [Ctx.modServer]
  have hknown : SourceKnown e (c.modServer s fun v =>
      { v with pcpVersion := version, serverState := .allocated })
      { c.pcpServers s with pcpVersion := version, serverState := .allocated } =
      SourceKnown e c (c.pcpServers s) := rfl
  obtain ⟨a, l, h⟩ := psdFillPcpServerSrc_spec e (c.modServer s fun v =>
    { v with pcpVersion := version, serverState := .allocated }) s
  rw [hself, hknown] at h
  unfold registerServer
  rcases h with ⟨hk, hfill⟩ | ⟨hk, haddr, src, scope, hfill⟩
  · refine ⟨{ (c.pcpServers s).setSaddr a with pcpVersion := version, serverState := .unitialized },
      l, ?_, rfl, rfl, rfl, rfl, rfl, rfl, rfl, by simp [hk], by simp [hk]⟩
    dsimp only
    rw [hfill]
    simp [Ctx.modServer, Ctx.setServer, Server.setSaddr]
  · refine ⟨startPing src scope
      { (c.pcpServers s).setSaddr a with pcpVersion := version, serverState := .allocated },
      l, ?_, rfl, rfl, rfl, rfl, rfl, rfl, rfl, by simp [hk, startPing], fun _ => ⟨rfl, haddr⟩⟩
    dsimp only
    rw [hfill]
    simp [Ctx.modServer, Ctx.setServer, Server.setSaddr]

theorem EnvOnly.lookups (c : Ctx) (l : Nat) : EnvOnly c { c with lookups := l } :=
  ⟨rfl, rfl, Nat.le_refl _⟩

theorem EnvOnly.nonces (c : Ctx) (n : Nat) : EnvOnly c { c with nonces := n } :=
  ⟨rfl, rfl, Nat.le_refl _⟩

theorem EnvOnly.callocCall (c : Ctx) : EnvOnly c c.callocCall := ⟨rfl, rfl, Nat.le_refl _⟩

theorem EnvOnly.acts {K : CallKind → Prop} {c' : Ctx} (h : EnvOnly c c') (hK : K .env) :
    CallActs e K c c' :=
  Steps.single (.env h) hK

theorem freeSlot_some {i : Nat} (h : freeSlot c = some i) :
    i < c.pcpServersLength ∧ (c.pcpServers i).serverState = .unitialized := by
  have hm := List.mem_of_find?_eq_some h
  have hp := List.find?_some h
  exact ⟨List.mem_range.mp hm, by simpa using hp⟩

theorem allocServers_some {c' : Ctx} (h : allocServers e c = some c') :
    CallActs e (· = .env) c c' ∧ 0 < c'.pcpServersLength := by
  unfold allocServers at h
  split at h
  · rename_i hz
    split at h
    · cases h
      have h₁ : CallActs e (· = .env) c c.callocCall := (EnvOnly.callocCall c).acts rfl
      have h₂ : CallAct e .env c.callocCall { c.callocCall with
          pcpServers := fun _ => .zero, pcpServersLength := pcpInitServerCount } := by
        refine .array _ _ _ (fun i hi => ?_) (fun _ _ => rfl) ?_
        · change i < c.pcpServersLength at hi
          omega
        · change c.pcpServersLength ≤ _
          omega
      exact ⟨h₁.trans (.single h₂ rfl), Nat.succ_pos _⟩
    · cases h
  · rename_i hz
    cases h
    exact ⟨.refl, Nat.pos_of_ne_zero hz⟩

theorem growServers_some {c' : Ctx} (h : growServers e c = some c') (hpos : 0 < c.pcpServersLength) :
    CallActs e (· = .env) c c' ∧ c.pcpServersLength < c'.pcpServersLength ∧
      (c'.pcpServers c.pcpServersLength).serverState = .unitialized := by
  unfold growServers at h
  split at h
  · cases h
    have hlen : c.pcpServersLength < c.pcpServersLength <<< 1 := by
      rw [Nat.shiftLeft_eq]
      omega
    have h₁ : CallActs e (· = .env) c c.callocCall := (EnvOnly.callocCall c).acts rfl
    have h₂ : CallAct e .env c.callocCall { c.callocCall with
        pcpServers := fun i => if i < c.pcpServersLength then c.pcpServers i else .zero
        pcpServersLength := c.pcpServersLength <<< 1 } :=
      .array _ _ _ (fun _ hi => if_pos hi) (fun _ hi => if_neg (Nat.not_lt.mpr hi))
        (Nat.le_of_lt hlen)
    exact ⟨h₁.trans (.single h₂ rfl), hlen, by simp [Server.zero]⟩
  · cases h

/-- Slot `i` as `pcp_new_server` fills it. -/
def newSlot (e : Env) (c : Ctx) (ip : In6Addr) (port : UInt16) (scopeId : UInt32) (i : Nat) : Ctx :=
  { c.modServer i (initServer e.cfg ip port scopeId (e.nonce c.nonces) i) with
    nonces := c.nonces + 1 }

theorem newSlot_self (e : Env) (c : Ctx) (ip : In6Addr) (port : UInt16) (scopeId : UInt32) (i : Nat) :
    (newSlot e c ip port scopeId i).pcpServers i =
      initServer e.cfg ip port scopeId (e.nonce c.nonces) i (c.pcpServers i) := by
  simp [newSlot, Ctx.modServer]

theorem newSlot_get (e : Env) (ip : In6Addr) (port : UInt16) (scopeId : UInt32) {i : Nat}
    (hi : i < c.pcpServersLength) : getPcpServer (newSlot e c ip port scopeId i) i = some i := by
  unfold getPcpServer
  rw [newSlot_self]
  exact if_pos ⟨hi, by simp [initServer]⟩

/-- `pcp_new_server` takes a free slot. -/
theorem pcpNewServer_spec (e : Env) (c : Ctx) (ip : In6Addr) (port : UInt16) (scopeId : UInt32) :
    ((pcpNewServer e c ip port scopeId).1 = none ∧
        CallActs e (· = .env) c (pcpNewServer e c ip port scopeId).2) ∨
      ∃ i c₁, CallActs e (· = .env) c c₁ ∧ i < c₁.pcpServersLength ∧
        (c₁.pcpServers i).serverState = .unitialized ∧
        pcpNewServer e c ip port scopeId = (some i, newSlot e c₁ ip port scopeId i) := by
  unfold pcpNewServer
  cases ha : allocServers e c with
  | none => exact .inl ⟨rfl, (EnvOnly.callocCall c).acts rfl⟩
  | some c₁ =>
    obtain ⟨hacts, hpos⟩ := allocServers_some ha
    dsimp only
    cases hf : freeSlot c₁ with
    | some i =>
      obtain ⟨hi, hu⟩ := freeSlot_some hf
      exact .inr ⟨i, c₁, hacts, hi, hu, rfl⟩
    | none =>
      cases hg : growServers e c₁ with
      | none => exact .inl ⟨rfl, hacts.trans ((EnvOnly.callocCall c₁).acts rfl)⟩
      | some c₂ =>
        obtain ⟨hgrow, hlen, hu⟩ := growServers_some hg hpos
        exact .inr ⟨c₁.pcpServersLength, c₂, hacts.trans hgrow, hlen, hu, rfl⟩

theorem initServer_slotOk (cfg : Config) (ip : In6Addr) (port : UInt16) (scopeId : UInt32)
    (nonce : Nonce) (i : Nat) (v : Server) : SlotOk i (initServer cfg ip port scopeId nonce i v) := by
  refine ⟨rfl, fun h => ?_⟩
  simp only [initServer] at h ⊢
  split at h
  · cases h
  · split at h
    · assumption
    · cases h

/-- The slot of a server that is being registered, and the counters. -/
theorem fresh_acts {K : CallKind → Prop} {ip : In6Addr} {port : UInt16} {scopeId : UInt32}
    {i l : Nat} {w : Server} (hK : K .env) (hf : K (.fresh i)) (hi : i < c.pcpServersLength)
    (hu : (c.pcpServers i).serverState = .unitialized) (h : Registered i (c.pcpServers i) w) :
    CallActs e K c { (newSlot e c ip port scopeId i).setServer i w with lookups := l } := by
  have h₁ : CallActs e K c (c.setServer i w) := Steps.single (.fresh c i w hi hu h) hf
  have h₂ : EnvOnly (c.setServer i w)
      { (newSlot e c ip port scopeId i).setServer i w with lookups := l } :=
    ⟨by simp [newSlot, Ctx.modServer, Ctx.setServer], rfl, Nat.le_refl _⟩
  exact h₁.trans (h₂.acts hK)

theorem CallActs.of_env {K : CallKind → Prop} {c' : Ctx} (h : CallActs e (· = .env) c c')
    (hK : K .env) : CallActs e K c c' :=
  h.mono fun _ _ hk => hk ▸ hK

/-- The acts of `pcp_add_server`. -/
def AddServerKinds (e : Env) (c : Ctx) (sa : SockAddr) (version : UInt8) : CallKind → Prop
  | .env => True
  | .fresh _ =>
    version ≤ pcpMaxSupportedVersion ∧
      getPcpServerByIp c (serverAddr sa).1 (serverAddr sa).2.2 = none
  | .again s found =>
    version ≤ pcpMaxSupportedVersion ∧
      getPcpServerByIp c (serverAddr sa).1 (serverAddr sa).2.2 = some s ∧
      found = SourceKnown e c (c.pcpServers s)
  | _ => False

theorem getPcpServerByIp_live {ip : In6Addr} {scope : UInt32} (h : getPcpServerByIp c ip scope = some s) :
    Live c s :=
  mem_servers.mp (List.mem_of_find?_eq_some h)

theorem psdAddPcpServer_acts (hc : CtxOk c) (sa : SockAddr) {version : UInt8}
    (hv : version ≤ pcpMaxSupportedVersion) :
    CallActs e (AddServerKinds e c sa version) c (psdAddPcpServer e c sa version).2 := by
  unfold psdAddPcpServer
  dsimp only
  generalize (if (serverAddr sa).2.1 = 0 then pcpServerPort else (serverAddr sa).2.1) = port
  cases hg : getPcpServerByIp c (serverAddr sa).1 (serverAddr sa).2.2 with
  | some s =>
    have hl := getPcpServerByIp_live hg
    obtain ⟨w, l, heq, hix, haf, hip, hn, hp, hr, hver, hst, hping⟩ := registerServer_spec e version
      (c.modServer s fun v => { v with pcpPort := port }) s
    have hself : (c.modServer s fun v => { v with pcpPort := port }).pcpServers s =
        { c.pcpServers s with pcpPort := port } := by simp [Ctx.modServer]
    have hknown : SourceKnown e (c.modServer s fun v => { v with pcpPort := port })
        { c.pcpServers s with pcpPort := port } = SourceKnown e c (c.pcpServers s) := rfl
    rw [hself] at hix haf hip hn hp hr hst hping
    rw [hknown] at hst hping
    have hre : Reregistered (SourceKnown e c (c.pcpServers s)) (c.pcpServers s) w :=
      ⟨hix, haf, hip, hn, hp, hr, hver ▸ hv, hst, fun hf => ⟨(hping hf).1, (hping hf).2 (hc.used hl.2).af⟩⟩
    have h₁ : CallAct e (.again s (SourceKnown e c (c.pcpServers s))) c (c.setServer s w) :=
      .again c s _ w hl hre
    have h₂ : EnvOnly (c.setServer s w) (registerServer e version
        (c.modServer s fun v => { v with pcpPort := port }) s).2 := by
      rw [heq]
      exact ⟨by simp [Ctx.modServer, Ctx.setServer], rfl, Nat.le_refl _⟩
    exact Steps.trans (.single h₁ ⟨hv, hg, rfl⟩) (h₂.acts trivial)
  | none =>
    rcases pcpNewServer_spec e c (serverAddr sa).1 port (serverAddr sa).2.2 with
      ⟨hnone, hacts⟩ | ⟨i, c₁, hacts, hi, hu, heq⟩
    · rcases hn : pcpNewServer e c (serverAddr sa).1 port (serverAddr sa).2.2 with ⟨r, c₂⟩
      rw [hn] at hnone hacts
      simp only at hnone
      subst hnone
      exact CallActs.of_env hacts trivial
    · rw [heq]
      dsimp only
      rw [newSlot_get e _ _ _ hi]
      dsimp only
      obtain ⟨w, l, hw, hix, haf, hip, hn, hp, hr, hver, hst, hping⟩ := registerServer_spec e version
        (newSlot e c₁ (serverAddr sa).1 port (serverAddr sa).2.2 i) i
      rw [hw]
      rw [newSlot_self] at hix haf hip hn hp hr hst hping
      have hslot := initServer_slotOk e.cfg (serverAddr sa).1 port (serverAddr sa).2.2
        (e.nonce c₁.nonces) i (c₁.pcpServers i)
      refine (CallActs.of_env hacts trivial).trans
        (fresh_acts trivial ⟨hv, hg⟩ hi hu ⟨⟨hix, ?_⟩, hp, hr, hver ▸ hv, ?_⟩)
      · rw [haf, hip]
        exact hslot.af
      · split at hst
        · rename_i hk
          exact .inl ⟨hst, (hping hk).1, (hping hk).2 hslot.af⟩
        · exact .inr (.inr hst)

theorem pcpAddServer_acts (hc : CtxOk c) (sa : SockAddr) (version : UInt8) :
    CallActs e (AddServerKinds e c sa version) c (pcpAddServer e c sa version).2 := by
  unfold pcpAddServer
  split
  · exact .refl
  · rename_i hv
    exact psdAddPcpServer_acts hc sa (UInt8.not_lt.mp hv)

/-- The acts of gateway discovery. -/
def GatewayKinds : CallKind → Prop
  | .env | .fresh _ => True
  | _ => False

theorem psdAddGws_acts (gws : List (In6Addr × UInt32)) :
    CallActs e GatewayKinds c (psdAddGws e gws c) := by
  unfold psdAddGws
  induction gws generalizing c with
  | nil => exact .refl
  | cons gw gws ih =>
    rw [List.foldl_cons]
    refine Steps.trans ?_ ih
    split
    · exact .refl
    · split
      · exact .refl
      · rcases pcpNewServer_spec e c gw.1 pcpServerPort gw.2 with
          ⟨hnone, hacts⟩ | ⟨i, c₁, hacts, hi, hu, heq⟩
        · rcases hn : pcpNewServer e c gw.1 pcpServerPort gw.2 with ⟨r, c₂⟩
          rw [hn] at hnone hacts
          simp only at hnone
          subst hnone
          exact CallActs.of_env hacts trivial
        · rw [heq]
          dsimp only
          rw [newSlot_get e _ _ _ hi]
          dsimp only
          have hslot := initServer_slotOk e.cfg gw.1 pcpServerPort gw.2 (e.nonce c₁.nonces) i
            (c₁.pcpServers i)
          have hself := newSlot_self e c₁ gw.1 pcpServerPort gw.2 i
          obtain ⟨a, l, ⟨-, h⟩ | ⟨-, haddr, src, scope, h⟩⟩ :=
            psdFillPcpServerSrc_spec e (newSlot e c₁ gw.1 pcpServerPort gw.2 i) i
          · rw [h, Ctx.modServer, hself]
            refine (CallActs.of_env hacts trivial).trans (fresh_acts trivial trivial hi hu ?_)
            exact ⟨⟨rfl, hslot.af⟩, rfl, rfl, UInt8.le_refl _, .inr (.inl rfl)⟩
          · rw [h, hself]
            refine (CallActs.of_env hacts trivial).trans (fresh_acts trivial trivial hi hu ?_)
            refine ⟨⟨rfl, hslot.af⟩, rfl, rfl, UInt8.le_refl _, .inl ⟨rfl, rfl, ?_⟩⟩
            rw [hself] at haddr
            exact haddr hslot.af

end Source

/-! ## Flows -/

section Flows

variable {e : Env} {c : Ctx} {s : Nat}

theorem newFlowFields_kept (copied : Bool) (d : CaasiData) (f : Flow) :
    (newFlowFields copied d f).kd = f.kd ∧
      (newFlowFields copied d f).pcpServerIndx = f.pcpServerIndx ∧
      (newFlowFields copied d f).pcpMsgBuffer = f.pcpMsgBuffer ∧
      (newFlowFields copied d f).pcpMsgLen = f.pcpMsgLen := by
  unfold newFlowFields
  dsimp only
  repeat' split
  all_goals exact ⟨rfl, rfl, rfl, rfl⟩

theorem flowKeyFor_notWorking {kd₀ kd : FlowKeyData} {sv : Server}
    (h : flowKeyFor kd₀ sv = some kd) : sv.serverState ≠ .notWorking := by
  unfold flowKeyFor at h
  split at h
  · cases h
  · assumption

theorem modFlow_new (c : Ctx) (f k : Nat) (fl : Flow) (io : Io) (g : Flow → Flow) :
    (Ctx.tick { c.setFlow f fl with heapTop := k, io := io }).modFlow f g =
      { c.setFlow f (g fl) with heapTop := k, io := io.tick } := by
  simp [Ctx.modFlow, Ctx.setFlow, Ctx.tick]

/-- The flow `init_flow` makes of a newly allocated one. -/
def initialFlow (copied : Bool) (s : Server) (t : Timeval) (d : CaasiData) (fl : Flow) : Flow :=
  { newFlowFields copied d fl with
    lifetime := d.lifetime, timeout := t
    state := if s.serverState = .waitIo then .send else .waitForServerInit }

theorem initFlow_eq (e : Env) (c : Ctx) (s : Nat) (d : CaasiData) (fl : Flow) (io : Io) :
    initFlow e { c.setFlow c.heapTop fl with heapTop := c.heapTop + 1, io := io } c.heapTop s d =
      addNewFlow c s (initialFlow (e.strdup c.heapTop) (c.pcpServers s) (e.now io) d fl) (e.now io)
        io.tick := by
  have h := modFlow_new c c.heapTop (c.heapTop + 1) fl io
    (initialFlow (e.strdup c.heapTop) (c.pcpServers s) (e.now io) d)
  unfold addNewFlow
  rw [← h]
  rfl

/-- Allocation and `init_flow` are one act. -/
theorem create_act {d : CaasiData} {kd : FlowKeyData} {f : FlowId} {c₁ : Ctx} (hl : Live c s)
    (hkey : flowKeyFor d.kd (c.pcpServers s) = some kd)
    (h : pcpCreateFlow e c s kd = (some f, c₁)) :
    CallAct e (.create s) c (initFlow e c₁ f s d) ∧ f = c.heapTop := by
  unfold pcpCreateFlow at h
  split at h
  · simp only [Prod.mk.injEq, Option.some.injEq] at h
    obtain ⟨rfl, rfl⟩ := h
    refine ⟨?_, rfl⟩
    generalize hfl : ({ Flow.zero with
      pcpServerIndx := (c.pcpServers s).index, kd := kd, keyBucket := none } : Flow) = fl
    obtain ⟨hkd, hix, hbuf, hlen⟩ := newFlowFields_kept (e.strdup c.heapTop) d fl
    obtain ⟨hip, hn, -⟩ := flowKeyFor_some hkey
    have hcreated : Created (c.pcpServers s) (e.now c.io)
        (initialFlow (e.strdup c.heapTop) (c.pcpServers s) (e.now c.io) d fl) := by
      refine ⟨hix.trans ?_, ?_, ?_, flowKeyFor_notWorking hkey, rfl, rfl, hbuf.trans ?_,
        hlen.trans ?_⟩
      · rw [← hfl]
      · rw [← hip]
        exact congrArg FlowKeyData.pcpServerIp (hkd.trans (by rw [← hfl]))
      · rw [← hn]
        exact congrArg FlowKeyData.nonce (hkd.trans (by rw [← hfl]))
      · rw [← hfl]
        rfl
      · rw [← hfl]
        rfl
    have hact := CallAct.create c s _ c.callocCall.io.tick hl hcreated rfl rfl
    have heq := initFlow_eq e c s d fl c.callocCall.io
    exact heq ▸ hact
  · cases h

/-- The acts of the calls that create flows. -/
def NewFlowKinds : CallKind → Prop
  | .env | .create _ | .link _ | .delete _ => True
  | _ => False

/-- Those that are about server `s`. -/
def TurnKinds (s : Nat) : CallKind → Prop
  | .env | .link _ => True
  | .create i => i = s
  | _ => False

theorem TurnKinds.newFlow {k : CallKind} (h : TurnKinds s k) : NewFlowKinds k := by
  cases k with
  | env | create | link | delete => trivial
  | fresh | again | update | close => exact h

theorem chainAndAssignSrcIp_acts (d : CaasiData) (a : ChainAcc) (hs : s < a.ctx.pcpServersLength) :
    CallActs e (TurnKinds s) a.ctx (chainAndAssignSrcIp e d a s).ctx ∧
      (chainAndAssignSrcIp e d a s).ctx.pcpServersLength = a.ctx.pcpServersLength := by
  unfold chainAndAssignSrcIp
  split
  · exact ⟨.refl, rfl⟩
  · rename_i hstop
    have hl : Live a.ctx s := ⟨hs, fun h => hstop (.inr h)⟩
    cases hkey : flowKeyFor d.kd (a.ctx.pcpServers s) with
    | none => exact ⟨.refl, rfl⟩
    | some kd =>
      dsimp only
      rcases hcr : pcpCreateFlow e a.ctx s kd with ⟨r, c₁⟩
      cases r with
      | none =>
        have hc₁ : c₁ = a.ctx.callocCall := by
          unfold pcpCreateFlow at hcr
          split at hcr <;> cases hcr
          rfl
        subst hc₁
        exact ⟨(EnvOnly.callocCall a.ctx).acts trivial, rfl⟩
      | some f =>
        obtain ⟨hact, rfl⟩ := create_act hl hkey hcr
        have hlen : (initFlow e c₁ a.ctx.heapTop s d).pcpServersLength = a.ctx.pcpServersLength := by
          unfold pcpCreateFlow at hcr
          split at hcr <;> cases hcr
          rfl
        have hacts : CallActs e (TurnKinds s) a.ctx (initFlow e c₁ a.ctx.heapTop s d) :=
          .single hact rfl
        cases a.fprev with
        | none => exact ⟨hacts, hlen⟩
        | some p => exact ⟨hacts.trans (.single (.link _ p a.ctx.heapTop) trivial), hlen⟩

theorem chainFlows_acts (d : CaasiData) : CallActs e NewFlowKinds c (chainFlows e c d).ctx := by
  have hfold := List.foldlRecOn
    (motive := fun a => CallActs e NewFlowKinds c a.ctx ∧ a.ctx.pcpServersLength = c.pcpServersLength)
    (List.range c.pcpServersLength) (chainAndAssignSrcIp e d) (b := { ctx := c }) ⟨.refl, rfl⟩
    fun a ha s hs => ?_
  · exact hfold.1
  · obtain ⟨hacts, hlen⟩ := chainAndAssignSrcIp_acts (e := e) d a (ha.2.symm ▸ List.mem_range.mp hs)
    exact ⟨ha.1.trans (hacts.mono fun _ _ hk => hk.newFlow), hlen.trans ha.2⟩

/-- A pass over a list of flows. -/
theorem foldl_callActs {K : CallKind → Prop} {g : Ctx → FlowId → Ctx} {l : List FlowId}
    (hg : ∀ c, ∀ f ∈ l, CallActs e K c (g c f)) : CallActs e K c (l.foldl g c) := by
  induction l generalizing c with
  | nil => exact .refl
  | cons f l ih =>
    exact (hg c f List.mem_cons_self).trans (ih fun c g' hg' => hg c g' (List.mem_cons_of_mem f hg'))

theorem pcpDeleteFlow_acts {K : CallKind → Prop} (f : FlowId) (hK : ∀ g ∈ c.chain f, K (.delete g)) :
    CallActs e K c (pcpDeleteFlow c f) :=
  foldl_callActs fun c g hg => .single (.delete c g) (hK g hg)

theorem newFlowKey_env (e : Env) (c : Ctx) (src : SockAddr) (dst : Option SockAddr)
    (protocol : UInt8) : ∃ l, (newFlowKey e c src dst protocol).2 = { c with lookups := l } := by
  unfold newFlowKey
  dsimp only
  split
  · exact ⟨c.lookups, rfl⟩
  · rename_i d _
    obtain ⟨l, hl, -⟩ := findsaddr_spec e c
    obtain ⟨l₆, hl₆, -⟩ := findsaddr6_spec e c (pcpFillIn6Addr (.any, 0, 0) d).1
      (pcpFillIn6Addr (.any, 0, 0) src).2.2
    repeat' split
    all_goals first
      | exact ⟨c.lookups, rfl⟩
      | rename_i h
        rw [h] at hl
        exact ⟨l, hl⟩
      | rename_i h
        rw [h] at hl₆
        exact ⟨l₆, hl₆⟩

/-- The acts of `pcp_new_flow` are those of its pass over the servers, and what undoes it. -/
theorem pcpNewFlow_acts_of {K : CallKind → Prop} {src : SockAddr} {dst ext : Option SockAddr}
    {protocol : UInt8} {lifetime : UInt32} (henv : K .env) (hdelete : ∀ g, K (.delete g))
    (hchain : ∀ l kd d, (newFlowKey e c src dst protocol).1 = some kd → d.kd = kd →
      CallActs e K { c with lookups := l } (chainFlows e { c with lookups := l } d).ctx) :
    CallActs e K c (pcpNewFlow e c src dst ext protocol lifetime).2 := by
  obtain ⟨l, hl⟩ := newFlowKey_env e c src dst protocol
  have hlookups : CallActs e K c { c with lookups := l } := (EnvOnly.lookups c l).acts henv
  unfold pcpNewFlow
  rcases hk : newFlowKey e c src dst protocol with ⟨r, c₁⟩
  rw [hk] at hl
  simp only at hl
  subst hl
  cases r with
  | none => exact hlookups
  | some kd =>
    dsimp only
    split
    · exact hlookups
    · rename_i ext' _
      have hpass := hchain l kd ⟨kd, lifetime, some ext', 0, none⟩ (by rw [hk]) rfl
      generalize chainFlows e _ _ = a at hpass ⊢
      refine (hlookups.trans hpass).trans ?_
      split
      · cases a.ffirst with
        | none => exact .refl
        | some f => exact pcpDeleteFlow_acts f fun _ _ => hdelete _
      · exact .refl

theorem pcpNewFlow_acts (src : SockAddr) (dst ext : Option SockAddr) (protocol : UInt8)
    (lifetime : UInt32) :
    CallActs e NewFlowKinds c (pcpNewFlow e c src dst ext protocol lifetime).2 :=
  pcpNewFlow_acts_of trivial (fun _ => trivial) fun _ _ d _ _ => chainFlows_acts d

theorem pcpLearnDscp_acts (delayTol lossTol jitterTol : UInt8) (appName : Option (List UInt8)) :
    CallActs e NewFlowKinds c (pcpLearnDscp e c delayTol lossTol jitterTol appName).2 :=
  chainFlows_acts _

/-! ## Changes of flows -/

/-- The acts of a setter called on `f`. -/
def SetterKinds (c : Ctx) (f : FlowId) : CallKind → Prop
  | .env => True
  | .update g => g ∈ c.chain f
  | _ => False

theorem updateChain_acts {g : Flow → Flow} (f : FlowId) (hg : ∀ v : Flow, v.Set (g v)) :
    CallActs e (SetterKinds c f) c (updateChain e g c f) :=
  foldl_callActs fun c i hi => .single (.update c i _ (hg _)) hi

theorem pcpFlowSetPreferFailureOpt_acts (f : FlowId) :
    CallActs e (SetterKinds c f) c (pcpFlowSetPreferFailureOpt e c f) := by
  refine foldl_callActs fun c i hi => ?_
  split
  · exact .refl
  · exact .single (.update c i _ ⟨rfl, rfl, rfl, rfl, rfl⟩) hi

theorem pcpDbAddMd_spec (e : Env) (mdId : UInt16) (val : List UInt8) (f : Flow) (io : Io) :
    f.Set (pcpDbAddMd e mdId val f io).1 ∧
      ∃ k, (pcpDbAddMd e mdId val f io).2 = { io with callocs := k } := by
  unfold pcpDbAddMd
  dsimp only
  split
  · exact ⟨⟨rfl, rfl, rfl, rfl, rfl⟩, io.callocs, rfl⟩
  · split
    · exact ⟨⟨rfl, rfl, rfl, rfl, rfl⟩, io.callocs + 1, rfl⟩
    · exact ⟨⟨rfl, rfl, rfl, rfl, rfl⟩, io.callocs + 1, rfl⟩

theorem pcpFlowAddMd_acts (mdId : UInt32) (val : List UInt8) (f : FlowId) :
    CallActs e (SetterKinds c f) c (pcpFlowAddMd e mdId val c f) := by
  refine foldl_callActs fun c i hi => ?_
  obtain ⟨hset, k, hio⟩ := pcpDbAddMd_spec e mdId.toUInt16 val (c.heap i) c.io
  rcases hm : pcpDbAddMd e mdId.toUInt16 val (c.heap i) c.io with ⟨v, io⟩
  rw [hm] at hset hio
  simp only at hio
  subst hio
  have henv : EnvOnly c { c with io := { c.io with callocs := k } } := ⟨rfl, rfl, Nat.le_refl _⟩
  exact Steps.trans (.single (.env henv) trivial)
    (.single (.update { c with io := { c.io with callocs := k } } i v hset) hi)

/-- The acts of each call that returns without a pulse. -/
def Op.kinds (e : Env) (c : Ctx) : Op → CallKind → Prop
  | .addServer sa v => AddServerKinds e c sa v
  | .addGws _ => GatewayKinds
  | .newFlow .. | .learnDscp .. => NewFlowKinds
  | .deleteFlow f => fun k => ∃ g ∈ c.chain f, k = .delete g
  | .setFlowChangeCb _ => (· = .env)
  | .setLifetime f _ | .set3rdPartyOpt f _ | .setFilterOpt f _ _ | .setPreferFailureOpt f
  | .setUserid f _ | .setLocation f _ | .setDeviceid f _ | .addMd f _ _ | .setFlowp f _ _ =>
    SetterKinds c f
  | .closeFlow .. | .pulse .. => fun _ => False

/-- The server a call registers again. -/
def Op.reregisters (c : Ctx) : Op → Option Nat
  | .addServer sa version =>
    if version ≤ pcpMaxSupportedVersion then
      getPcpServerByIp c (serverAddr sa).1 (serverAddr sa).2.2
    else none
  | _ => none

theorem Op.kinds_again {op : Op} {s : Nat} {found : Bool} (h : op.kinds e c (.again s found)) :
    op.reregisters c = some s := by
  cases op with
  | addServer sa version =>
    obtain ⟨hv, hs, -⟩ := h
    exact (if_pos hv).trans hs
  | addGws | newFlow | learnDscp | closeFlow | pulse => exact h.elim
  | setLifetime | set3rdPartyOpt | setFilterOpt | setPreferFailureOpt | setUserid | setLocation
  | setDeviceid | addMd | setFlowp => exact h.elim
  | deleteFlow f =>
    obtain ⟨g, -, hg⟩ := h
    cases hg
  | setFlowChangeCb b => cases h

/-- Whether the call puts servers into free slots. -/
def Op.takesSlot (c : Ctx) : Op → Bool
  | .addServer sa version =>
    version ≤ pcpMaxSupportedVersion && (getPcpServerByIp c (serverAddr sa).1 (serverAddr sa).2.2).isNone
  | .addGws _ => true
  | _ => false

theorem Op.kinds_fresh {op : Op} {s : Nat} (h : op.kinds e c (.fresh s)) :
    op.takesSlot c = true ∧ ∀ k, op.kinds e c k → k = .env ∨ ∃ i, k = .fresh i := by
  cases op with
  | addServer sa version =>
    obtain ⟨hv, hs⟩ := h
    refine ⟨by simp [Op.takesSlot, hv, hs], fun k hk => ?_⟩
    cases k with
    | env => exact .inl rfl
    | fresh i => exact .inr ⟨i, rfl⟩
    | again i found =>
      obtain ⟨-, hi, -⟩ := hk
      rw [hs] at hi
      cases hi
    | create | link | update | close | delete => exact hk.elim
  | addGws gws =>
    refine ⟨rfl, fun k hk => ?_⟩
    cases k with
    | env => exact .inl rfl
    | fresh i => exact .inr ⟨i, rfl⟩
    | again | create | link | update | close | delete => exact hk.elim
  | newFlow | learnDscp | closeFlow | pulse => exact h.elim
  | setLifetime | set3rdPartyOpt | setFilterOpt | setPreferFailureOpt | setUserid | setLocation
  | setDeviceid | addMd | setFlowp => exact h.elim
  | deleteFlow f =>
    obtain ⟨g, -, hg⟩ := h
    cases hg
  | setFlowChangeCb b => cases h

theorem Op.exec_acts {op : Op} {n : Nat} {c' : Ctx} (hc : CtxOk c) (hp : op.isPlain = true)
    (h : op.exec e n c = some c') : CallActs e (op.kinds e c) c c' := by
  cases op <;> simp only [Op.exec, Op.setter, Option.map_some, Option.some.injEq] at h <;>
    first | subst h | skip
  case addServer sa v => exact pcpAddServer_acts hc sa v
  case addGws gws => exact psdAddGws_acts gws
  case newFlow src dst ext p l => exact pcpNewFlow_acts src dst ext p l
  case learnDscp d l j a => exact pcpLearnDscp_acts d l j a
  case setLifetime f l => exact updateChain_acts f fun _ => ⟨rfl, rfl, rfl, rfl, rfl⟩
  case set3rdPartyOpt f a => exact updateChain_acts f fun _ => ⟨rfl, rfl, rfl, rfl, rfl⟩
  case setFilterOpt f a p => exact updateChain_acts f fun _ => ⟨rfl, rfl, rfl, rfl, rfl⟩
  case setPreferFailureOpt f => exact pcpFlowSetPreferFailureOpt_acts f
  case setUserid f u => exact updateChain_acts f fun _ => ⟨rfl, rfl, rfl, rfl, rfl⟩
  case setLocation f l => exact updateChain_acts f fun _ => ⟨rfl, rfl, rfl, rfl, rfl⟩
  case setDeviceid f d => exact updateChain_acts f fun _ => ⟨rfl, rfl, rfl, rfl, rfl⟩
  case addMd f i v => exact pcpFlowAddMd_acts i v f
  case setFlowp f u d =>
    refine updateChain_acts f fun _ => ?_
    split <;> exact ⟨rfl, rfl, rfl, rfl, rfl⟩
  case closeFlow f dg => cases hp
  case deleteFlow f => exact pcpDeleteFlow_acts f fun g hg => ⟨g, hg, rfl⟩
  case setFlowChangeCb b => exact .single (.env ⟨rfl, rfl, Nat.le_refl _⟩) rfl
  case pulse dg t => cases hp

/-- The state `pcp_flow_updated` leaves. -/
theorem pcpFlowUpdated_state (e : Env) (c : Ctx) (f : FlowId) :
    ((pcpFlowUpdated e c f).heap f).state =
      if (c.heap f).state.isInactive then (c.heap f).state else .send := by
  have hheap : ∀ c' : Ctx, c'.heap = c.heap → ∀ t, ((c'.modFlow f fun v => { v.clearMsgBuf with
      timeout := t
      state := if v.state ≠ .waitForServerInit ∧ v.state ≠ .idle ∧ v.state ≠ .failed then .send
        else v.state }).heap f).state =
      if (c.heap f).state.isInactive then (c.heap f).state else .send := by
    intro c' h t
    simp only [Ctx.modFlow, Ctx.setFlow_heap, Function.update_self, h, Flow.clearMsgBuf]
    cases (c.heap f).state <;> rfl
  unfold pcpFlowUpdated
  dsimp only
  split
  · exact hheap _ rfl _
  · exact hheap _ rfl _

theorem pcpCloseFlowIntern_eq (e : Env) (c : Ctx) (f : FlowId) :
    pcpCloseFlowIntern e c f =
      let c := if (c.heap f).state.isInactive then failFlow c f else zeroLifetime e c f
      if !(c.heap f).state.isInactive then zeroLifetime e c f else failFlow c f := rfl

/-- The second test of `pcp_close_flow_intern` finds what the first one left. -/
theorem pcpCloseFlowIntern_acts (f : FlowId) :
    CallActs e (· = .close f) c (pcpCloseFlowIntern e c f) := by
  rw [pcpCloseFlowIntern_eq]
  cases hi : (c.heap f).state.isInactive with
  | true =>
    have hf : ((failFlow c f).heap f).state.isInactive = true := by
      simp [failFlow, Ctx.modFlow, FlowState.isInactive]
    simp only [if_true, hf, Bool.not_true, Bool.false_eq_true, if_false]
    exact Steps.trans (.single (CallAct.fail c f hi) rfl) (.single (CallAct.fail _ f hf) rfl)
  | false =>
    have hf : ((zeroLifetime e c f).heap f).state.isInactive = false := by
      rw [zeroLifetime, pcpFlowUpdated_state]
      simp only [Ctx.modFlow, Ctx.setFlow_heap, Function.update_self, hi]
      rfl
    simp only [Bool.false_eq_true, if_false, hf, Bool.not_false, if_true]
    exact Steps.trans (.single (CallAct.close c f hi) rfl) (.single (CallAct.close _ f hf) rfl)

theorem closeChain_acts (f : FlowId) :
    CallActs e (fun k => ∃ g ∈ c.chain f, k = .close g) c (closeChain e c f) :=
  foldl_callActs fun _ g hg => (pcpCloseFlowIntern_acts g).mono fun _ _ hk => ⟨g, hg, hk⟩

end Flows

end LibPcp
