import LibPcp.ServerMachine

/-!
# LibPcp.Api

The calls an application makes: registering servers (`pcp_server_discovery.c`) and creating,
changing, closing and deleting flows (`pcp_api.c`).

A loop over `next_child` is a fold over `Ctx.chain`, since none of the callees relinks the chain.
-/

namespace LibPcp

/-! ## Servers -/

/-- The kernel's choice of a source address: the answer and the context with the call counted. -/
def Env.findSrc (e : Env) (c : Ctx) : Option (In6Addr × UInt32) × Ctx :=
  (e.lookup c.lookups, { c with lookups := c.lookups + 1 })

/-- `findsaddr6`, with the loopback shortcut that leaves the scope alone. -/
def findsaddr6 (e : Env) (c : Ctx) (dst : In6Addr) (scopeId : UInt32) :
    Option (In6Addr × UInt32) × Ctx :=
  if dst.isLoopback then (some (dst, scopeId), c) else e.findSrc c

/-- `findsaddr`. -/
def findsaddr (e : Env) (c : Ctx) : Option In6Addr × Ctx :=
  match e.findSrc c with
  | (r, c) => (r.map fun a => .v4mapped a.1.w3, c)

/-- The end of a successful `psd_fill_pcp_server_src`. -/
def startPing (src : In6Addr) (scopeId : UInt32) (s : Server) : Server :=
  { s with srcIp := src, pcpScopeId := scopeId, serverState := .ping, nextTimeout := .zero }

/-- `psd_fill_pcp_server_src`; `true` is `PCP_ERR_SUCCESS`. -/
def psdFillPcpServerSrc (e : Env) (c : Ctx) (s : Nat) : Bool × Ctx :=
  let sv := c.pcpServers s
  let setAddr (a : SockAddr) : Ctx := c.modServer s fun v => { v with pcpServerSaddr := a }
  if e.cfg.useIpv6Socket then
    if sv.af = .inet then (false, setAddr (.inet6 .any 0 0))
    else
      let c := setAddr (pcpFillSockaddr sv.pcpIp sv.pcpPort true sv.pcpScopeId)
      match findsaddr6 e c sv.pcpIp 0 with
      | (none, c) => (false, c)
      | (some (src, scope), c) =>
        (true, c.modServer s (startPing src
          (if sv.pcpScopeId = 0 ∧ src.isLinklocal then scope else sv.pcpScopeId)))
  else if sv.af = .inet then
    let c := setAddr (.inet sv.pcpIp.w3 sv.pcpPort)
    match findsaddr e c with
    | (none, c) => (false, c)
    | (some src, c) => (true, c.modServer s (startPing src sv.pcpScopeId))
  else (false, setAddr (.inet 0 0))

/-- `psd_add_gws` for the gateways `gws`, each with its scope. A gateway whose source address cannot
be found stays in the table as allocated. -/
def psdAddGws (e : Env) (gws : List (In6Addr × UInt32)) (c : Ctx) : Ctx :=
  gws.foldl (fun c gw =>
    if gw.1.isAny then c
    else if (getPcpServerByIp c gw.1 gw.2).isSome then c
    else
      match pcpNewServer e c gw.1 pcpServerPort gw.2 with
      | (none, c) => c
      | (some i, c) =>
        match getPcpServer c i with
        | none => c
        | some s => (psdFillPcpServerSrc e c s).2) c

/-- Address, port and scope of the server as `psd_add_pcp_server` reads them. -/
def serverAddr : SockAddr → In6Addr × UInt16 × UInt32
  | .inet a p => (.v4mapped a, p, 0)
  | .inet6 a p sc => (a, p, sc)
  | .other a p sc => (a, p, sc)

/-- The common end of `psd_add_pcp_server`: the record in slot `s` is registered again. -/
def registerServer (e : Env) (version : UInt8) (c : Ctx) (s : Nat) : Option Nat × Ctx :=
  let c := c.modServer s fun v => { v with pcpVersion := version, serverState := .allocated }
  match psdFillPcpServerSrc e c s with
  | (false, c) => (none, c.modServer s fun v => { v with serverState := .unitialized })
  | (true, c) => (some (c.pcpServers s).index, c)

/-- `psd_add_pcp_server`: the index of the server, or `none` for an error. -/
def psdAddPcpServer (e : Env) (c : Ctx) (sa : SockAddr) (version : UInt8) : Option Nat × Ctx :=
  let ip := (serverAddr sa).1
  let port := if (serverAddr sa).2.1 = 0 then pcpServerPort else (serverAddr sa).2.1
  let scope := (serverAddr sa).2.2
  match getPcpServerByIp c ip scope with
  | some s => registerServer e version (c.modServer s fun v => { v with pcpPort := port }) s
  | none =>
    match pcpNewServer e c ip port scope with
    | (none, c) => (none, c)
    | (some i, c) =>
      match getPcpServer c i with
      | none => (none, c)
      | some s => registerServer e version c s

def pcpAddServer (e : Env) (c : Ctx) (sa : SockAddr) (version : UInt8) : Option Nat × Ctx :=
  if version > pcpMaxSupportedVersion then (none, c) else psdAddPcpServer e c sa version

/-! ## Creating flows -/

/-- `struct caasi_data` without its outputs. -/
structure CaasiData where
  kd : FlowKeyData
  lifetime : UInt32
  extAddr : Option SockAddr
  tolerFields : UInt8
  appName : Option (List UInt8)
  deriving DecidableEq, Repr

/-- The fields of the new flow that depend on what is created. The length is stored whether or not the
name was copied, and the result of `strdup` without a look at it. -/
def newFlowFields (copied : Bool) (d : CaasiData) (f : Flow) : Flow :=
  let f := if f.kd.operation = opcodeSadscp then
      { f with
        tolerFields := d.tolerFields
        appNameLength := UInt8.ofNat (d.appName.elim 0 List.length)
        sadscpAppName := if copied then d.appName else none }
    else f
  match d.extAddr with
  | some a =>
    if f.kd.operation = opcodeMap ∨ f.kd.operation = opcodePeer then
      { f with
        extIp := (pcpFillIn6Addr (f.extIp, f.extPort, 0) a).1
        extPort := (pcpFillIn6Addr (f.extIp, f.extPort, 0) a).2.1 }
    else f
  | none => f

/-- `init_flow`. -/
def initFlow (e : Env) (c : Ctx) (f : FlowId) (s : Nat) (d : CaasiData) : Ctx :=
  let curtime := e.now c.io
  let state := if (c.pcpServers s).serverState = .waitIo then FlowState.send
    else FlowState.waitForServerInit
  let c := c.tick.modFlow f fun v =>
    { newFlowFields (e.strdup f) d v with lifetime := d.lifetime, timeout := curtime, state := state }
  pcpDbAddFlow (c.setNextTimeout s curtime) (some f)

def haveSameAf (a b : In6Addr) : Bool := a.isV4mapped == b.isV4mapped

/-- The key of the new flow on server `s`, unless the server is passed over. -/
def flowKeyFor (kd : FlowKeyData) (s : Server) : Option FlowKeyData :=
  if s.serverState = .notWorking then none
  else
    let kd := if kd.srcIp.isAny then { kd with srcIp := s.srcIp, scopeId := s.pcpScopeId } else kd
    if !haveSameAf kd.srcIp s.srcIp then none
    else if kd.scopeId ≠ s.pcpScopeId then none
    else some { kd with pcpServerIp := s.pcpIp, nonce := s.nonce }

theorem flowKeyFor_some {kd₀ kd : FlowKeyData} {sv : Server} (h : flowKeyFor kd₀ sv = some kd) :
    kd.pcpServerIp = sv.pcpIp ∧ kd.nonce = sv.nonce ∧ kd.operation = kd₀.operation ∧
      kd.dstIp = kd₀.dstIp ∧ kd.dstPort = kd₀.dstPort := by
  simp only [flowKeyFor] at h
  repeat' split at h
  all_goals first
    | cases h
      exact ⟨rfl, rfl, rfl, rfl, rfl⟩
    | cases h

/-- The state of the loop over the servers: `d->ffirst`, `d->fprev`, and whether it was broken off. -/
structure ChainAcc where
  ctx : Ctx
  ffirst : Option FlowId := none
  fprev : Option FlowId := none
  stopped : Bool := false

/-- `chain_and_assign_src_ip` as the callback of `pcp_db_foreach_server`. -/
def chainAndAssignSrcIp (e : Env) (d : CaasiData) (a : ChainAcc) (s : Nat) : ChainAcc :=
  if a.stopped ∨ (a.ctx.pcpServers s).serverState = .unitialized then a
  else
    match flowKeyFor d.kd (a.ctx.pcpServers s) with
    | none => a
    | some kd =>
      match pcpCreateFlow e a.ctx s kd with
      | (none, c) => { a with ctx := c, stopped := true }
      | (some f, c) =>
        let c := initFlow e c f s d
        match a.fprev with
        | some p =>
          { a with ctx := c.modFlow p fun v => { v with nextChild := some f }, fprev := some f }
        | none => { a with ctx := c, ffirst := some f, fprev := some f }

def chainFlows (e : Env) (c : Ctx) (d : CaasiData) : ChainAcc :=
  (List.range c.pcpServersLength).foldl (chainAndAssignSrcIp e d) { ctx := c }

/-- `pcp_delete_flow`. -/
def pcpDeleteFlow (c : Ctx) (f : FlowId) : Ctx := (c.chain f).foldl pcpDeleteFlowIntern c

/-- The destination `pcp_new_flow` works with: the any-address and unknown families count as none. -/
def peerAddr : Option SockAddr → Option SockAddr
  | some (.inet a p) => if a = 0 then none else some (.inet a p)
  | some (.inet6 a p sc) => if a.isAny then none else some (.inet6 a p sc)
  | _ => none

def SockAddr.sameFamily : SockAddr → SockAddr → Bool
  | .inet .., .inet .. => true
  | .inet6 .., .inet6 .. => true
  | .other .., .other .. => true
  | _, _ => false

/-- The key `pcp_new_flow` starts from; `none` is the family mismatch. Errors of the source address
lookup are ignored. -/
def newFlowKey (e : Env) (c : Ctx) (src : SockAddr) (dst : Option SockAddr) (protocol : UInt8) :
    Option FlowKeyData × Ctx :=
  let from6 := pcpFillIn6Addr (.any, 0, 0) src
  let kd := { FlowKeyData.zero with
    srcIp := from6.1, srcPort := from6.2.1, scopeId := from6.2.2, protocol := protocol }
  match peerAddr dst with
  | none => (some { kd with operation := opcodeMap }, c)
  | some dst =>
    let to6 := pcpFillIn6Addr (.any, 0, 0) dst
    let kd := { kd with dstIp := to6.1, dstPort := to6.2.1, operation := opcodePeer }
    match src with
    | .inet .. =>
      if kd.srcIp.w3 = 0 then
        match findsaddr e c with
        | (some a, c) => (some { kd with srcIp := a }, c)
        | (none, c) => (some kd, c)
      else (some kd, c)
    | _ =>
      if kd.srcIp.isAny then
        match findsaddr6 e c to6.1 kd.scopeId with
        | (some (a, sc), c) => (some { kd with srcIp := a, scopeId := sc }, c)
        | (none, c) => (some kd, c)
      else if !dst.sameFamily src then (none, c)
      else (some kd, c)

/-- The external address `pcp_new_flow` suggests when none is given. -/
def defaultExtAddr : SockAddr → Option SockAddr
  | .inet .. => some (.inet 0 0)
  | .inet6 .. => some (.inet6 .any 0 0)
  | .other .. => none

/-- `pcp_new_flow`: the first flow of the chain. -/
def pcpNewFlow (e : Env) (c : Ctx) (src : SockAddr) (dst ext : Option SockAddr) (protocol : UInt8)
    (lifetime : UInt32) : Option FlowId × Ctx :=
  match newFlowKey e c src dst protocol with
  | (none, c) => (none, c)
  | (some kd, c) =>
    match ext.or (defaultExtAddr src) with
    | none => (none, c)
    | some ext =>
      let a := chainFlows e c
        { kd := kd, lifetime := lifetime, extAddr := some ext, tolerFields := 0, appName := none }
      if a.stopped then
        (none, match a.ffirst with
          | some f => pcpDeleteFlow a.ctx f
          | none => a.ctx)
      else (a.ffirst, a.ctx)

/-- `pcp_learn_dscp`, built with `PCP_SADSCP`. -/
def pcpLearnDscp (e : Env) (c : Ctx) (delayTol lossTol jitterTol : UInt8)
    (appName : Option (List UInt8)) : Option FlowId × Ctx :=
  let a := chainFlows e c
    { kd := { FlowKeyData.zero with operation := opcodeSadscp }
      lifetime := 0
      extAddr := none
      tolerFields :=
        ((delayTol &&& 3) <<< 6) ||| ((lossTol &&& 3) <<< 4) ||| ((jitterTol &&& 3) <<< 2)
      appName := appName }
  (a.ffirst, a.ctx)

/-! ## Changing flows -/

/-- `pcp_flow_updated`. -/
def pcpFlowUpdated (e : Env) (c : Ctx) (f : FlowId) : Ctx :=
  let curtime := e.now c.io
  let c := c.tick
  let c := match getPcpServer c (c.heap f).pcpServerIndx with
    | some s => c.setNextTimeout s curtime
    | none => c
  c.modFlow f fun v =>
    { v.clearMsgBuf with
      timeout := curtime
      state := if v.state ≠ .waitForServerInit ∧ v.state ≠ .idle ∧ v.state ≠ .failed then .send
        else v.state }

/-- The setters: change every flow of the chain, then mark it as updated. -/
def updateChain (e : Env) (g : Flow → Flow) (c : Ctx) (f : FlowId) : Ctx :=
  (c.chain f).foldl (fun c i => pcpFlowUpdated e (c.modFlow i g) i) c

def pcpFlowSetLifetime (e : Env) (lifetime : UInt32) : Ctx → FlowId → Ctx :=
  updateChain e fun v => { v with lifetime := lifetime }

def pcpFlowSet3rdPartyOpt (e : Env) (addr : SockAddr) : Ctx → FlowId → Ctx :=
  updateChain e fun v =>
    { v with
      thirdPartyOptionPresent := true
      thirdPartyIp := (pcpFillIn6Addr (v.thirdPartyIp, 0, 0) addr).1 }

def pcpFlowSetFilterOpt (e : Env) (addr : SockAddr) (filterPrefix : UInt8) : Ctx → FlowId → Ctx :=
  updateChain e fun v =>
    { v with
      filterOptionPresent := true
      filterIp := (pcpFillIn6Addr (v.filterIp, v.filterPort, 0) addr).1
      filterPort := (pcpFillIn6Addr (v.filterIp, v.filterPort, 0) addr).2.1
      filterPrefix := filterPrefix }

/-- The one setter that leaves a flow alone which has the option already. -/
def pcpFlowSetPreferFailureOpt (e : Env) (c : Ctx) (f : FlowId) : Ctx :=
  (c.chain f).foldl (fun c i =>
    if (c.heap i).pfailureOptionPresent then c
    else pcpFlowUpdated e (c.modFlow i fun v => { v with pfailureOptionPresent := true }) i) c

def pcpFlowSetUserid (e : Env) (user : Vector UInt8 maxUserId) : Ctx → FlowId → Ctx :=
  updateChain e fun v => { v with userid := user }

def pcpFlowSetLocation (e : Env) (loc : Vector UInt8 maxGeoStr) : Ctx → FlowId → Ctx :=
  updateChain e fun v => { v with location := loc }

def pcpFlowSetDeviceid (e : Env) (dev : Vector UInt8 maxDeviceId) : Ctx → FlowId → Ctx :=
  updateChain e fun v => { v with deviceid := dev }

/-- `pcp_flow_add_md`. The id is cut to 16 bits by `pcp_db_add_md`. -/
def pcpFlowAddMd (e : Env) (mdId : UInt32) (val : List UInt8) (c : Ctx) (f : FlowId) : Ctx :=
  (c.chain f).foldl (fun c i =>
    match pcpDbAddMd e mdId.toUInt16 val (c.heap i) c.io with
    | (v, io) => pcpFlowUpdated e { c.setFlow i v with io := io } i) c

/-- `pcp_flow_set_flowp`: two zero values take the option away and keep the old ones. -/
def pcpFlowSetFlowp (e : Env) (dscpUp dscpDown : UInt8) : Ctx → FlowId → Ctx :=
  updateChain e fun v =>
    if dscpUp ≠ 0 ∨ dscpDown ≠ 0 then
      { v with flowpOptionPresent := true, flowpDscpUp := dscpUp, flowpDscpDown := dscpDown }
    else { v with flowpOptionPresent := false }

/-- `pcp_close_flow_intern`, with its second test as the source has it. -/
def pcpCloseFlowIntern (e : Env) (c : Ctx) (f : FlowId) : Ctx :=
  let inactive (st : FlowState) : Bool := st == .waitForServerInit || st == .idle || st == .failed
  let zeroLifetime (c : Ctx) : Ctx := pcpFlowUpdated e (c.modFlow f fun v => { v with lifetime := 0 }) f
  let fail (c : Ctx) : Ctx := c.modFlow f fun v => { v with state := .failed }
  let c := if inactive (c.heap f).state then fail c else zeroLifetime c
  if !inactive (c.heap f).state then zeroLifetime c else fail c

/-- `pcp_close_flow` up to the pulse it ends with. -/
def closeChain (e : Env) (c : Ctx) (f : FlowId) : Ctx := (c.chain f).foldl (pcpCloseFlowIntern e) c

/-- `pcp_close_flow`; `dg` is what the socket holds when it pulses. -/
def pcpCloseFlow (e : Env) (n : Nat) (c : Ctx) (f : FlowId) (dg : Option Datagram) : Option Ctx :=
  (pcpPulse e n (closeChain e c f) dg .zero).map (·.1)

end LibPcp
