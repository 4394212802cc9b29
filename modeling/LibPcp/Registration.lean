import Mathlib.Data.List.Find
import LibPcp.PingFlow
import LibPcp.ServerTable

/-!
# LibPcp.Registration

`pcp_add_server` as seen by the servers that are known already, and by the lookups that follow it.

- A call that fails keeps every known server, unless the address is that of one of them: the cleanup
  of a new record is then applied to a record in use.
- A call that succeeds can be repeated, unless `psd_fill_pcp_server_src` replaces the scope the record
  is looked up by with the scope of the source address.
-/

namespace LibPcp

variable {e : Env} {c c' : Ctx}

/-! ## The list of servers -/

theorem getPcpServer_live {i : Nat} (h : Live c i) : getPcpServer c i = some i := if_pos h

/-- The list of servers is that of another array in which the same slots are in use. -/
theorem servers_congr (hlen : c.pcpServersLength ≤ c'.pcpServersLength)
    (h : ∀ i, Live c' i ↔ Live c i) : c'.servers = c.servers := by
  obtain ⟨k, hk⟩ := Nat.exists_eq_add_of_le hlen
  have hnew : ((List.range k).map (c.pcpServersLength + ·)).filter
      (fun i => decide ((c'.pcpServers i).serverState ≠ .unitialized)) = [] := by
    rw [List.filter_eq_nil_iff]
    intro i hi hst
    obtain ⟨j, hj, rfl⟩ := List.mem_map.mp hi
    have hj := List.mem_range.mp hj
    have hl : Live c (c.pcpServersLength + j) := (h _).mp ⟨by omega, of_decide_eq_true hst⟩
    exact absurd hl.1 (by omega)
  unfold Ctx.servers
  rw [hk, List.range_add, List.filter_append, hnew, List.append_nil]
  refine List.filter_congr fun i hi => ?_
  have hi := List.mem_range.mp hi
  refine decide_eq_decide.mpr ⟨fun hst => ?_, fun hst => ?_⟩
  · exact ((h i).mp ⟨by omega, hst⟩).2
  · exact ((h i).mpr ⟨hi, hst⟩).2

theorem modServer_setServer (s : Nat) (g : Server → Server) (w : Server) :
    (c.modServer s g).setServer s w = c.setServer s w := by
  simp [Ctx.modServer, Ctx.setServer]

theorem setServer_live {s : Nat} {w : Server} (hl : Live c s) (hw : w.serverState ≠ .unitialized)
    (i : Nat) : Live (c.setServer s w) i ↔ Live c i := by
  by_cases hi : i = s
  · subst hi
    refine ⟨fun _ => hl, fun _ => ⟨hl.1, ?_⟩⟩
    rw [Ctx.setServer_pcpServers, Function.update_self]
    exact hw
  · simp [Live, hi]

/-- The scope a server is looked up by. -/
def lookupScope (ip : In6Addr) (scopeId : UInt32) : UInt32 := if ip.isLinklocal then scopeId else 0

/-- `find_ip`. -/
def Server.hasAddr (v : Server) (ip : In6Addr) (scopeId : UInt32) : Prop :=
  v.pcpIp = ip ∧ v.pcpScopeId = lookupScope ip scopeId

theorem getPcpServerByIp_hasAddr {ip : In6Addr} {scopeId : UInt32} {s : Nat}
    (h : getPcpServerByIp c ip scopeId = some s) : (c.pcpServers s).hasAddr ip scopeId := by
  have hp := List.find?_some h
  simp only [Bool.and_eq_true, beq_iff_eq] at hp
  exact hp

theorem getPcpServerByIp_none {ip : In6Addr} {scopeId : UInt32} :
    getPcpServerByIp c ip scopeId = none ↔ ∀ i, Live c i → ¬ (c.pcpServers i).hasAddr ip scopeId := by
  unfold getPcpServerByIp
  rw [List.find?_eq_none]
  simp only [Bool.and_eq_true, beq_iff_eq]
  exact ⟨fun h i hi => h i (mem_servers.mpr hi), fun h i hi => h i (mem_servers.mp hi)⟩

/-- The lookup depends on the records of the servers in use. -/
theorem getPcpServerByIp_congr (hs : c'.servers = c.servers)
    (h : ∀ i, Live c i → c'.pcpServers i = c.pcpServers i) (ip : In6Addr) (scopeId : UInt32) :
    getPcpServerByIp c' ip scopeId = getPcpServerByIp c ip scopeId := by
  unfold getPcpServerByIp
  rw [hs]
  refine List.find?_congr fun i hi => ?_
  rw [h i (mem_servers.mp hi)]

/-! ## The end of a registration -/

/-- What `registerServer` leaves when there is no source address. -/
theorem registerServer_none {version : UInt8} {s : Nat} (h : registerServer e version c s = (none, c')) :
    ∃ w l, c' = { c.setServer s w with lookups := l } ∧ w.serverState = .unitialized := by
  obtain ⟨w, l, hw, -, -, -, -, -, -, -, hst, -⟩ := registerServer_spec e version c s
  rw [h] at hw
  refine ⟨w, l, hw, ?_⟩
  obtain ⟨a, l', hspec⟩ := psdFillPcpServerSrc_spec e
    (c.modServer s fun v => { v with pcpVersion := version, serverState := .allocated }) s
  rw [Ctx.modServer_self] at hspec
  rcases hspec with ⟨hk, -⟩ | ⟨-, -, src, scope, hfill⟩
  · change SourceKnown e c (c.pcpServers s) = false at hk
    rw [hst, hk]
    rfl
  · simp only [registerServer, hfill] at h
    cases h

/-- The kernel's answer depends on how often it was asked. -/
theorem findsaddr6_congr (h : c'.lookups = c.lookups) (dst : In6Addr) (scopeId : UInt32) :
    (findsaddr6 e c' dst scopeId).1 = (findsaddr6 e c dst scopeId).1 := by
  unfold findsaddr6
  split
  · rfl
  · exact congrArg e.lookup h

/-- What it leaves in the build with an IPv6 socket when there is one. -/
theorem registerServer_some {version : UInt8} {s i : Nat} (hcfg : e.cfg.useIpv6Socket = true)
    (h : registerServer e version c s = (some i, c')) :
    ∃ w l src scope, c' = { c.setServer s w with lookups := l } ∧ i = (c.pcpServers s).index ∧
      (findsaddr6 e c (c.pcpServers s).pcpIp 0).1 = some (src, scope) ∧
      w.serverState ≠ .unitialized ∧ w.index = (c.pcpServers s).index ∧
      w.pcpIp = (c.pcpServers s).pcpIp ∧
      w.pcpScopeId = if (c.pcpServers s).pcpScopeId = 0 ∧ src.isLinklocal then scope
        else (c.pcpServers s).pcpScopeId := by
  have hsome : (registerServer e version c s).1.isSome = true := by rw [h]; rfl
  have hknown := registerServer_known hsome
  have haf : (c.pcpServers s).af = .inet6 := by
    simp only [SourceKnown, hcfg, if_true, Bool.and_eq_true, beq_iff_eq] at hknown
    exact hknown.1
  unfold registerServer at h
  dsimp only at h
  rw [psdFillPcpServerSrc_inet6 hcfg (by rw [Ctx.modServer_self]; exact haf), Ctx.modServer_self] at h
  dsimp only at h
  generalize ha : pcpFillSockaddr (c.pcpServers s).pcpIp (c.pcpServers s).pcpPort true
    (c.pcpServers s).pcpScopeId = a at h
  obtain ⟨l, h₂, -⟩ := findsaddr6_spec e ((c.modServer s fun v =>
    { v with pcpVersion := version, serverState := .allocated }).modServer s (Server.setSaddr a))
    (c.pcpServers s).pcpIp 0
  have hlook : ((c.modServer s fun v => { v with pcpVersion := version, serverState := .allocated }).modServer
      s (Server.setSaddr a)).lookups = c.lookups := rfl
  have h₁ := findsaddr6_congr (e := e) hlook (c.pcpServers s).pcpIp 0
  rcases hf : findsaddr6 e ((c.modServer s fun v =>
    { v with pcpVersion := version, serverState := .allocated }).modServer s (Server.setSaddr a))
    (c.pcpServers s).pcpIp 0 with ⟨r, c₁⟩
  rw [hf] at h h₁ h₂
  dsimp only at h h₁ h₂
  subst h₂
  cases r with
  | none => cases h
  | some r =>
    simp only [Prod.mk.injEq, Option.some.injEq] at h
    obtain ⟨rfl, rfl⟩ := h
    refine ⟨startPing r.1 (if (c.pcpServers s).pcpScopeId = 0 ∧ r.1.isLinklocal then r.2
      else (c.pcpServers s).pcpScopeId) { (c.pcpServers s).setSaddr a with
        pcpVersion := version, serverState := .allocated }, l, r.1, r.2, ?_, ?_, h₁.symm, ?_, rfl, rfl, rfl⟩
    · simp [Ctx.modServer, Ctx.setServer, Server.setSaddr]
    · simp [Ctx.modServer, startPing, Server.setSaddr]
    · simp [startPing]

/-! ## A registration that fails -/

/-- The servers of `c` are in `c'` as they were, and are found by index and by address. -/
structure ServersKept (c c' : Ctx) : Prop where
  record : ∀ i, Live c i → c'.pcpServers i = c.pcpServers i
  byIndex : ∀ i, Live c i → getPcpServer c' i = some i
  byAddress : ∀ ip scopeId, getPcpServerByIp c' ip scopeId = getPcpServerByIp c ip scopeId

theorem ServersKept.of_live (hlen : c.pcpServersLength ≤ c'.pcpServersLength)
    (hlive : ∀ i, Live c' i ↔ Live c i) (h : ∀ i, Live c i → c'.pcpServers i = c.pcpServers i) :
    ServersKept c c' :=
  ⟨h, fun i hi => getPcpServer_live ((hlive i).mpr hi),
    getPcpServerByIp_congr (servers_congr hlen hlive) h⟩

theorem TakesLowest.length_le {i : Nat} (h : TakesLowest c c' i) :
    c.pcpServersLength ≤ c'.pcpServersLength := by
  have hle := h.le
  rw [h.length]
  split
  · exact Nat.le_refl _
  · split <;> omega

/-- Slot `i` is the only one in use that the old context does not have. -/
theorem TakesLowest.live {i : Nat} (h : TakesLowest c c' i) (j : Nat) :
    Live c' j ↔ j = i ∨ Live c j := by
  by_cases hj : j = i
  · subst hj
    exact ⟨fun _ => .inl rfl, fun _ => ⟨h.taken.1, h.taken.2.1⟩⟩
  · refine ⟨fun hl => .inr ?_, fun hl => ?_⟩
    · have hlt : j < c.pcpServersLength := by
        by_contra hge
        exact hl.2 (h.added j (Nat.not_lt.mp hge) hl.1 hj)
      exact ⟨hlt, h.others j hlt hj ▸ hl.2⟩
    · have hl := hl.resolve_left hj
      exact ⟨Nat.lt_of_lt_of_le hl.1 h.length_le, (h.others j hl.1 hj).symm ▸ hl.2⟩

/-- A call that fails keeps the servers exactly when it does not reach a known one. -/
theorem failed_registration_keeps_iff {sa : SockAddr} {version : UInt8}
    (h : pcpAddServer e c sa version = (none, c')) :
    ServersKept c c' ↔ version > pcpMaxSupportedVersion ∨
      getPcpServerByIp c (serverAddr sa).1 (serverAddr sa).2.2 = none := by
  unfold pcpAddServer at h
  by_cases hv : version > pcpMaxSupportedVersion
  · rw [if_pos hv] at h
    cases h
    exact ⟨fun _ => .inl hv, fun _ => .of_live (Nat.le_refl _) (fun _ => Iff.rfl) fun _ _ => rfl⟩
  · rw [if_neg hv] at h
    unfold psdAddPcpServer at h
    dsimp only at h
    generalize (if (serverAddr sa).2.1 = 0 then pcpServerPort else (serverAddr sa).2.1) = port at h
    cases hg : getPcpServerByIp c (serverAddr sa).1 (serverAddr sa).2.2 with
    | some s =>
      -- the record in use is cleaned up like a new one
      have hl := getPcpServerByIp_live hg
      rw [hg] at h
      dsimp only at h
      obtain ⟨w, l, rfl, hw⟩ := registerServer_none h
      refine ⟨fun hk => ?_, fun hn => ?_⟩
      · have hget := hk.byIndex s hl
        simp [getPcpServer, Ctx.modServer, hw] at hget
      · rcases hn with hn | hn
        · exact absurd hn hv
        · cases hn
    | none =>
      refine ⟨fun _ => .inr rfl, fun _ => ?_⟩
      rw [hg] at h
      dsimp only at h
      rcases hnew : pcpNewServer e c (serverAddr sa).1 port (serverAddr sa).2.2 with ⟨r, c₂⟩
      rw [hnew] at h
      cases r with
      | none =>
        simp only [Prod.mk.injEq, true_and] at h
        subst h
        obtain ⟨harr, hlen⟩ := pcpNewServer_none hnew
        refine .of_live (Nat.le_of_eq hlen.symm) (fun i => ?_) (fun i _ => by rw [harr])
        simp only [Live, harr, hlen]
      | some i =>
        have ht := pcpNewServer_takesLowest hnew
        have hget : getPcpServer c₂ i = some i := getPcpServer_live ⟨ht.taken.1, ht.taken.2.1⟩
        simp only [hget] at h
        obtain ⟨w, l, rfl, hw⟩ := registerServer_none h
        -- the slot that was taken is free again
        have hfree : ¬ Live c i := fun hl => hl.2 (ht.free hl.1)
        have hother (j : Nat) (hj : Live c j) : j ≠ i := fun hji => hfree (hji ▸ hj)
        refine .of_live ht.length_le (fun j => ?_) (fun j hj => ?_)
        · by_cases hj : j = i
          · subst hj
            refine ⟨fun hl => absurd hl.2 ?_, fun hl => absurd hl hfree⟩
            simp [hw]
          · have hl := ht.live j
            simp only [hj, false_or] at hl
            rw [← hl]
            simp [Live, hj]
        · change (c₂.setServer i w).pcpServers j = _
          rw [Ctx.setServer_pcpServers, Function.update_of_ne (hother j hj)]
          exact ht.others j hj.1 (hother j hj)

/-- A server that is known, and then a route to it that is not. -/
def routeLostEnv : Env :=
  { Env.calm {} with lookup := fun n => if n = 0 then some (.v4mapped 0x0A000002, 0) else none }

/-- The context with the server `10.0.0.1`. -/
def knownServer : Ctx := runTo routeLostEnv (fun _ _ => True) 1 {} [.addServer (.inet 0x0A000001 0) 2]

theorem failed_registration_keeps_known :
    pcpAddServer routeLostEnv knownServer (.inet 0x0A000003 0) 2 =
        (none, (pcpAddServer routeLostEnv knownServer (.inet 0x0A000003 0) 2).2) ∧
      ServersKept knownServer (pcpAddServer routeLostEnv knownServer (.inet 0x0A000003 0) 2).2 :=
  have h : pcpAddServer routeLostEnv knownServer (.inet 0x0A000003 0) 2 =
      (none, (pcpAddServer routeLostEnv knownServer (.inet 0x0A000003 0) 2).2) :=
    Prod.ext (by decide +kernel) rfl
  ⟨h, (failed_registration_keeps_iff h).mpr (.inr (by decide +kernel))⟩

/-- Registering the known server again fails and takes it away. -/
theorem failed_registration_loses :
    ¬ ∀ (e : Env) (c c' : Ctx) (sa : SockAddr) (version : UInt8), Reachable e c →
      pcpAddServer e c sa version = (none, c') → ServersKept c c' := by
  intro hall
  have hreach : Reachable routeLostEnv knownServer := Runs.runTo (by decide +kernel)
  have hkept := hall routeLostEnv knownServer
    (pcpAddServer routeLostEnv knownServer (.inet 0x0A000001 0) 2).2 (.inet 0x0A000001 0) 2 hreach
    (Prod.ext (by decide +kernel) rfl)
  have hrec := congrArg Server.serverState (hkept.record 0 (by decide +kernel))
  revert hrec
  decide +kernel

/-! ## A registration that succeeds -/

/-- The server of the address `sa` is found in slot `i`, and registering it again finds it there. -/
structure FoundAgain (e : Env) (c : Ctx) (sa : SockAddr) (i : Nat) : Prop where
  byAddress : getPcpServerByIp c (serverAddr sa).1 (serverAddr sa).2.2 = some i
  again : ∀ version j c', pcpAddServer e c sa version = (some j, c') → j = i ∧ c'.servers = c.servers

/-- The record has no scope, and the source address the kernel selects for it brings one. -/
def ScopeReplaced (e : Env) (c : Ctx) (sa : SockAddr) : Prop :=
  lookupScope (serverAddr sa).1 (serverAddr sa).2.2 = 0 ∧
    ∃ src scope, (findsaddr6 e c (serverAddr sa).1 0).1 = some (src, scope) ∧ src.isLinklocal = true ∧
      scope ≠ 0

/-- The record that is left is found by its address exactly when its scope was not replaced. -/
theorem hasAddr_iff {sa : SockAddr} {w v : Server} {src : In6Addr} {scope : UInt32}
    (hv : v.hasAddr (serverAddr sa).1 (serverAddr sa).2.2) (hip : w.pcpIp = v.pcpIp)
    (hf : (findsaddr6 e c (serverAddr sa).1 0).1 = some (src, scope))
    (hw : w.pcpScopeId = if v.pcpScopeId = 0 ∧ src.isLinklocal then scope else v.pcpScopeId) :
    w.hasAddr (serverAddr sa).1 (serverAddr sa).2.2 ↔ ¬ ScopeReplaced e c sa := by
  have hrep : ScopeReplaced e c sa ↔
      lookupScope (serverAddr sa).1 (serverAddr sa).2.2 = 0 ∧ src.isLinklocal = true ∧ scope ≠ 0 := by
    unfold ScopeReplaced
    simp [hf]
  rw [hrep, Server.hasAddr, hip, hw, hv.1, hv.2]
  simp only [true_and]
  split
  · rename_i hc
    rw [hc.1]
    simp [hc.2]
  · rename_i hc
    exact ⟨fun _ hr => hc ⟨hr.1, hr.2.1⟩, fun _ => rfl⟩

/-- A server found by its address is found by it as long as its record has it. -/
theorem getPcpServerByIp_setServer {ip : In6Addr} {scopeId : UInt32} {s : Nat} {w : Server}
    (h : getPcpServerByIp c ip scopeId = some s) (hw : w.serverState ≠ .unitialized) :
    getPcpServerByIp (c.setServer s w) ip scopeId = some s ↔ w.hasAddr ip scopeId := by
  have hl := getPcpServerByIp_live h
  have hs : (c.setServer s w).servers = c.servers := servers_congr (Nat.le_refl _) (setServer_live hl hw)
  constructor
  · intro h'
    have hp := getPcpServerByIp_hasAddr h'
    rwa [Ctx.setServer_pcpServers, Function.update_self] at hp
  · intro hw'
    unfold getPcpServerByIp at h ⊢
    obtain ⟨hs₀, as, bs, hsplit, has⟩ := List.find?_eq_some_iff_append.mp h
    refine List.find?_eq_some_iff_append.mpr ⟨?_, as, bs, hs.trans hsplit, fun j hj => ?_⟩
    · simp only [Ctx.setServer_pcpServers, Function.update_self, Bool.and_eq_true, beq_iff_eq]
      exact hw'
    · have hne : j ≠ s := fun hjs => by
        have := has j hj
        rw [hjs, hs₀] at this
        cases this
      simpa only [Ctx.setServer_pcpServers, Function.update_of_ne hne] using has j hj

/-- An address nobody has is found in the slot that was taken for it. -/
theorem TakesLowest.getPcpServerByIp {i : Nat} {ip : In6Addr} {scopeId : UInt32} {w : Server}
    (h : TakesLowest c c' i) (hn : getPcpServerByIp c ip scopeId = none)
    (hw : w.serverState ≠ .unitialized) :
    getPcpServerByIp (c'.setServer i w) ip scopeId = some i ↔ w.hasAddr ip scopeId := by
  constructor
  · intro h'
    have hp := getPcpServerByIp_hasAddr h'
    rwa [Ctx.setServer_pcpServers, Function.update_self] at hp
  · intro hw'
    have hl : Live (c'.setServer i w) i := by
      refine ⟨h.taken.1, ?_⟩
      rwa [Ctx.setServer_pcpServers, Function.update_self]
    cases hg : LibPcp.getPcpServerByIp (c'.setServer i w) ip scopeId with
    | none =>
      refine absurd ?_ (getPcpServerByIp_none.mp hg i hl)
      rwa [Ctx.setServer_pcpServers, Function.update_self]
    | some j =>
      by_contra hne
      have hji : j ≠ i := fun hji => hne (congrArg some hji)
      have hp := getPcpServerByIp_hasAddr hg
      have hlj := getPcpServerByIp_live hg
      have hlj' : Live c' j := by simpa [Live, hji] using hlj
      have hlj₀ : Live c j := ((h.live j).mp hlj').resolve_left hji
      rw [Ctx.setServer_pcpServers, Function.update_of_ne hji, h.others j hlj₀.1 hji] at hp
      exact getPcpServerByIp_none.mp hn j hlj₀ hp

theorem pcpNewServer_hasAddr {ip : In6Addr} {port : UInt16} {scopeId : UInt32} {i : Nat}
    (h : pcpNewServer e c ip port scopeId = (some i, c')) :
    (c'.pcpServers i).hasAddr ip scopeId ∧ c'.lookups = c.lookups := by
  have hslot (c₁ : Ctx) (k : Nat) : ((newSlot e c₁ ip port scopeId k).pcpServers k).hasAddr ip scopeId := by
    rw [newSlot_self]
    exact ⟨rfl, rfl⟩
  unfold pcpNewServer at h
  cases ha : allocServers e c with
  | none => simp [ha] at h
  | some c₁ =>
    have halloc : c₁.lookups = c.lookups := by
      unfold allocServers at ha
      split at ha
      · split at ha <;> cases ha
        rfl
      · cases ha
        rfl
    rw [ha] at h
    dsimp only at h
    cases hf : freeSlot c₁ with
    | some k =>
      simp only [hf, Prod.mk.injEq, Option.some.injEq] at h
      obtain ⟨rfl, rfl⟩ := h
      exact ⟨hslot c₁ k, halloc⟩
    | none =>
      cases hgrow : growServers e c₁ with
      | none => simp [hf, hgrow] at h
      | some c₂ =>
        simp only [hf, hgrow, Prod.mk.injEq, Option.some.injEq] at h
        obtain ⟨rfl, rfl⟩ := h
        refine ⟨hslot c₂ _, Eq.trans ?_ halloc⟩
        unfold growServers at hgrow
        split at hgrow <;> cases hgrow
        rfl

/-- Registering a server that is found again changes its record only. -/
theorem registered_again {sa : SockAddr} {i : Nat} (hcfg : e.cfg.useIpv6Socket = true)
    (hi : (c.pcpServers i).index = i)
    (hg : getPcpServerByIp c (serverAddr sa).1 (serverAddr sa).2.2 = some i) : FoundAgain e c sa i := by
  refine ⟨hg, fun version j c' h => ?_⟩
  have hl := getPcpServerByIp_live hg
  unfold pcpAddServer at h
  split at h
  · cases h
  · simp only [psdAddPcpServer, hg] at h
    generalize (if (serverAddr sa).2.1 = 0 then pcpServerPort else (serverAddr sa).2.1) = port at h
    obtain ⟨w, l, src, scope, hc', hj, -, hw, -⟩ := registerServer_some hcfg h
    rw [modServer_setServer] at hc'
    subst hc'
    rw [Ctx.modServer_self] at hj
    exact ⟨hj.trans hi, servers_congr (Nat.le_refl _) (setServer_live hl hw)⟩

/-- A registered server is found again exactly when the kernel did not replace its scope. -/
theorem registration_found_iff {sa : SockAddr} {version : UInt8} {i : Nat}
    (hcfg : e.cfg.useIpv6Socket = true) (hc : CtxOk c) (h : pcpAddServer e c sa version = (some i, c')) :
    FoundAgain e c' sa i ↔ ¬ ScopeReplaced e c sa := by
  suffices hsuff : (c'.pcpServers i).index = i ∧
      (getPcpServerByIp c' (serverAddr sa).1 (serverAddr sa).2.2 = some i ↔ ¬ ScopeReplaced e c sa) by
    rw [← hsuff.2]
    exact ⟨fun hf => hf.byAddress, registered_again hcfg hsuff.1⟩
  unfold pcpAddServer at h
  split at h
  · cases h
  · unfold psdAddPcpServer at h
    dsimp only at h
    generalize (if (serverAddr sa).2.1 = 0 then pcpServerPort else (serverAddr sa).2.1) = port at h
    cases hg : getPcpServerByIp c (serverAddr sa).1 (serverAddr sa).2.2 with
    | some s =>
      have hl := getPcpServerByIp_live hg
      have ha := getPcpServerByIp_hasAddr hg
      rw [hg] at h
      dsimp only at h
      obtain ⟨w, l, src, scope, hc', hi, hf, hw, hix, hip, hsc⟩ := registerServer_some hcfg h
      rw [modServer_setServer] at hc'
      subst hc'
      rw [Ctx.modServer_self] at hi hf hix hip hsc
      have his : i = s := hi.trans (hc.index hl.2)
      subst his
      dsimp only at hf hip hsc hix
      rw [ha.1] at hf
      have hf : (findsaddr6 e c (serverAddr sa).1 0).1 = some (src, scope) :=
        (findsaddr6_congr (by rfl) _ 0).symm.trans hf
      refine ⟨?_, ?_⟩
      · simpa using hix.trans (hc.index hl.2)
      · rw [← hasAddr_iff (c := c) ha hip hf hsc, ← getPcpServerByIp_setServer hg hw]
        rfl
    | none =>
      rw [hg] at h
      dsimp only at h
      rcases hnew : pcpNewServer e c (serverAddr sa).1 port (serverAddr sa).2.2 with ⟨r, c₂⟩
      rw [hnew] at h
      cases r with
      | none => cases h
      | some k =>
        have ht := pcpNewServer_takesLowest hnew
        have hget : getPcpServer c₂ k = some k := getPcpServer_live ⟨ht.taken.1, ht.taken.2.1⟩
        simp only [hget] at h
        obtain ⟨w, l, src, scope, rfl, hi, hf, hw, hix, hip, hsc⟩ := registerServer_some hcfg h
        have hik : i = k := hi.trans ht.taken.2.2
        subst hik
        obtain ⟨ha, hlook⟩ := pcpNewServer_hasAddr hnew
        rw [ha.1, findsaddr6_congr hlook] at hf
        refine ⟨?_, ?_⟩
        · simpa using hix.trans ht.taken.2.2
        · rw [← hasAddr_iff (c := c) ha hip hf hsc, ← ht.getPcpServerByIp hg hw]
          rfl

/-- The kernel's source address is `fe80::2` on interface 3. -/
def linkLocalEnv : Env :=
  { Env.calm {} with lookup := fun _ => some (⟨0xFE800000, 0, 0, 2⟩, 3) }

theorem registration_found_iff_plain :
    FoundAgain (.calm {}) (pcpAddServer (.calm {}) {} (.inet 0x0A000001 0) 2).2 (.inet 0x0A000001 0) 0 :=
  (registration_found_iff rfl (Reachable.ctxOk (e := .calm {}) .refl) (Prod.ext (by decide +kernel) rfl)).mpr
    fun ⟨_, src, scope, h, hlink, _⟩ => by
      have hsrc : src = .v4mapped 0x0A000002 := (congrArg Prod.fst (Option.some.inj h)).symm
      rw [hsrc] at hlink
      cases hlink

/-- The global address `2001:db8::1` is stored with scope 3, and is not found again. -/
theorem registration_lost :
    ¬ ∀ (e : Env) (c c' : Ctx) (sa : SockAddr) (version : UInt8) (i : Nat),
      e.cfg.useIpv6Socket = true → Reachable e c → pcpAddServer e c sa version = (some i, c') →
        FoundAgain e c' sa i := by
  intro hall
  have hfound := hall linkLocalEnv {}
    (pcpAddServer linkLocalEnv {} (.inet6 ⟨0x20010DB8, 0, 0, 1⟩ 0 0) 2).2
    (.inet6 ⟨0x20010DB8, 0, 0, 1⟩ 0 0) 2 0 rfl .refl (Prod.ext (by decide +kernel) rfl)
  have hget := hfound.byAddress
  revert hget
  decide +kernel

/-- The second registration makes a second record. -/
example :
    (pcpAddServer linkLocalEnv (pcpAddServer linkLocalEnv {} (.inet6 ⟨0x20010DB8, 0, 0, 1⟩ 0 0) 2).2
      (.inet6 ⟨0x20010DB8, 0, 0, 1⟩ 0 0) 2).1 = some 1 := by
  decide +kernel

end LibPcp
