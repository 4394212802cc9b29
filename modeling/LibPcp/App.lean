import LibPcp.AppParams
import LibPcp.Grants
import LibPcp.Handles
import LibPcp.SockNtop
import LibPcp.Terminate
import LibPcp.Wait

/-!
# LibPcp.App

The client program (`main` in `pcp_app.c`): from the command line over the flow it creates and the wait for
it to the table it prints, its exit status and the end.

The contexts of the library go from one call to the next; a run that does not return within the bounds is
`none`. The socket can be created. How the table is set on the screen is left out.

* `appMain_grants`: the flows of the table are the ones that the command line asks for, and a mapping that is
  printed was granted by a datagram that was received.
* `appMain_status`: what the exit status says about the flows, and when the table has them.
* `appMain_releases`: no flow and no server is left in the end.
-/

namespace LibPcp

open CText Getopt LabelledSteps

/-! ## The flow as the application sees it -/

/-- `pcp_flow_info_t`. -/
structure FlowInfo where
  result : FState := .processing
  pcpServerIp : In6Addr := .any
  extIp : In6Addr := .any
  extPort : UInt16 := 0
  recvLifetimeEnd : Int := 0
  lifetimeRenewS : UInt32 := 0
  pcpResultCode : UInt8 := 0
  intIp : In6Addr := .any
  intPort : UInt16 := 0
  intScopeId : UInt32 := 0
  dstIp : In6Addr := .any
  dstPort : UInt16 := 0
  protocol : UInt8 := 0
  learnedDscp : UInt8 := 0
  deriving DecidableEq, Repr

def FlowState.result : FlowState → FState
  | .waitAfterShortLifeError => .shortLifetimeError
  | .waitForLifetimeRenew => .succeeded
  | .failed => .failed
  | _ => .processing

/-- One round of the second loop of `pcp_flow_get_info`. -/
def flowInfo (v : Flow) : FlowInfo :=
  let info : FlowInfo :=
    { result := v.state.result
      recvLifetimeEnd := v.recvLifetime
      lifetimeRenewS := v.lifetime
      pcpResultCode := v.recvResult.toUInt8
      intIp := v.kd.srcIp
      pcpServerIp := v.kd.pcpServerIp
      intScopeId := v.kd.scopeId }
  if v.kd.operation = opcodeMap ∨ v.kd.operation = opcodePeer then
    { info with
      dstIp := v.kd.dstIp, extIp := v.extIp, intPort := v.kd.srcPort, dstPort := v.kd.dstPort
      extPort := v.extPort, protocol := v.kd.protocol }
  else if v.kd.operation = opcodeSadscp then { info with learnedDscp := v.learnedDscp }
  else info

/-- The flows of the chain, as `pcp_flow_get_info` describes them. -/
def flowInfos (c : Ctx) (flow : Option FlowId) : List FlowInfo :=
  flow.elim [] fun f => (c.chain f).map fun g => flowInfo (c.heap g)

/-- `pcp_flow_get_info`: the array and its count, or `NULL` without memory for it. -/
def pcpFlowGetInfo (e : Env) (c : Ctx) (flow : Option FlowId) : Option (List FlowInfo) × Ctx :=
  (if e.calloc c.io.callocs then some (flowInfos c flow) else none, c.callocCall)

/-! ## The program -/

/-- What the program runs on: `gws` is what `getgateways` finds, `stack` what there is in the addresses that
`main` does not clear, and `received i` what the socket holds when the `i`th pulse reads it. -/
structure Host where
  env : Env
  resolver : Resolver
  gws : List (In6Addr × UInt32)
  stack : SockAddr
  received : Nat → Option Datagram

/-- The addresses of `main`, and the prefix length of the filter. -/
structure AppAddrs where
  sourceIp : SockAddr
  destinationIp : SockAddr
  extIp : SockAddr
  filterIp : SockAddr
  filterPrefix : Int
  thirdpartyIp : SockAddr

/-- An address that may be given, to be stored in `buf`. -/
def ptonArg (h : Host) (buf : SockAddr) (message : String) : Option Text → Except Exit SockAddr
  | none => .ok buf
  | some addr =>
    match sockPton h.resolver (some addr) (some buf) with
    | (0, sa) => .ok (sa.getD buf)
    | _ => .error ⟨1, message.toList⟩

def filterArg (h : Host) (p : PcpParams) : Except Exit (SockAddr × Int) :=
  match p.optFilter, p.filterAddr with
  | true, some addr =>
    match sockPtonWithPrefix h.resolver (some addr) (some h.stack) (some 0) with
    | (0, sa, filterPrefix) => .ok (sa.getD h.stack, filterPrefix.getD 0)
    | _ => .error ⟨1, "Invalid address for Filter option!\n".toList⟩
  | _, _ => .ok (h.stack, 0)

/-- The first part of `main`: the addresses, and the options of a MAP request. -/
def appAddrs (h : Host) (p : PcpParams) : Except Exit AppAddrs := do
  let sourceIp ← ptonArg h .unspec "Entered invalid internal address!\n" p.intAddr
  let destinationIp ← ptonArg h .unspec "Entered invalid peer address!\n" p.peerAddr
  let extIp ← ptonArg h h.stack "Entered invalid external address!\n" p.extAddr
  if p.peerAddr.isSome ∧ p.optPfailure then
    throw ⟨1, "Prefer failure option can be added only to MAP message!\n".toList⟩
  if p.peerAddr.isSome ∧ p.optFilter then
    throw ⟨1, "Filter option can be added only to MAP message!\n".toList⟩
  let (filterIp, filterPrefix) ← filterArg h p
  let thirdpartyIp ← ptonArg h h.stack "Entered invalid third-party address!\n" p.optThirdpartyAddr
  return { sourceIp, destinationIp, extIp, filterIp, filterPrefix, thirdpartyIp }

/-- The loop over the servers. `Sock_pton` has a buffer of its own, which it keeps. -/
def addServers (r : Resolver) : SockAddr → List ServerArg → List Op
  | _, [] => []
  | buf, s :: servers =>
    match sockPton r (some s.server) (some buf) with
    | (0, some sa) => .addServer sa s.version :: addServers r sa servers
    | (_, sa) => addServers r (sa.getD buf) servers

/-- `pcp_init`, and the servers of the command line. -/
def initOps (h : Host) (p : PcpParams) : List Op :=
  (if p.disAutoDiscovery then [] else [.addGws h.gws]) ++ addServers h.resolver .unspec p.pcpServers

def toBytes (t : Text) : List UInt8 := t.map fun c => UInt8.ofNat c.toNat

/-- A text in an array that is zero behind it. -/
def toArray (n : Nat) (t : Text) : Vector UInt8 n := Vector.ofFn fun i => (toBytes t).getD i 0

/-- What `main` sets on a flow for MAP and PEER. -/
def optionOps (p : PcpParams) (a : AppAddrs) (f : FlowId) : List Op :=
  (if p.optFlowp then [.setFlowp f p.optDscpUp p.optDscpDown] else []) ++
    (if p.isMd then [.addMd f p.optMdid (toBytes p.optMdVal)] else []) ++
    (if p.appLocation ≠ [] then [.setLocation f (toArray _ p.appLocation)] else []) ++
    (if p.appUserid ≠ [] then [.setUserid f (toArray _ p.appUserid)] else []) ++
    (if p.optFilter then [.setFilterOpt f a.filterIp (UInt8.ofInt a.filterPrefix)] else []) ++
    (if p.optPfailure then [.setPreferFailureOpt f] else []) ++
    (if p.optThirdpartyAddr.isSome then [.set3rdPartyOpt f a.thirdpartyIp] else [])

/-- The call that creates the flow. -/
def createOp (p : PcpParams) (a : AppAddrs) : Op :=
  if p.hasMappeerData then
    .newFlow a.sourceIp (some a.destinationIp) (p.extAddr.map fun _ => a.extIp) p.optProtocol p.optLifetime
  else .learnDscp p.delayTolerance p.lossTolerance p.jitterTolerance (p.appName.map toBytes)

def createFlow (e : Env) (c : Ctx) : Op → Option FlowId × Ctx
  | .newFlow src dst ext protocol lifetime => pcpNewFlow e c src dst ext protocol lifetime
  | .learnDscp delayTol lossTol jitterTol appName => pcpLearnDscp e c delayTol lossTol jitterTol appName
  | _ => (none, c)

/-- `pcp_wait` with the context it leaves. -/
def waitFlow (h : Host) (n m : Nat) (p : PcpParams) (c : Ctx) : Option FlowId → Option (FState × Ctx)
  | none => some (.failed, c)
  | some f =>
    (waitChain (Ctx.waiting h.env n h.received f) ((p.timeout.toNat : Int).bmod (2 ^ 32)) p.fastReturn m
      (c, 0)).map fun r => (r.state, r.found.1)

/-- The loop of `check_flow_info`. The count is zero where there is no array. -/
def checkFlowInfo : List FlowInfo → Nat
  | [] => 2
  | ret :: info =>
    match ret.result with
    | .succeeded => 0
    | .shortLifetimeError => 3
    | .failed => 4
    | _ => checkFlowInfo info

/-- The `switch` over what `pcp_wait` returns. -/
def exitStatus (info : List FlowInfo) : FState → Nat
  | .processing => 2
  | .succeeded => 0
  | .shortLifetimeError => 3
  | .failed => 4
  | .partialResult => checkFlowInfo info

/-- The `switch` with its call of `pcp_flow_get_info`. -/
def readStatus (e : Env) (c : Ctx) (flow : Option FlowId) : FState → Nat × Ctx
  | .partialResult =>
    match pcpFlowGetInfo e c flow with
    | (ret, c) => (exitStatus (ret.getD []) .partialResult, c)
  | state => (exitStatus [] state, c)

/-- The exit status, the lines that are printed, the flows they are read from, and what there is after
`pcp_terminate`. -/
structure Ended where
  retVal : Nat
  info : List FlowInfo
  flows : List FlowInfo
  ctx : Ctx

/-- Calls one after the other. -/
def execAll (e : Env) (n : Nat) (c : Ctx) (ops : List Op) : Option Ctx := ops.foldlM (Op.exec e n) c

/-- The rest of `main`, with bounds on the rounds of the pulses and on those of the wait. -/
def appRun (h : Host) (n m : Nat) (p : PcpParams) (a : AppAddrs) : Option (Except Exit Ended) := do
  let c ← execAll h.env n {} (initOps h p)
  let (flow, c) := createFlow h.env c (createOp p a)
  if p.hasMappeerData ∧ flow = none then
    return .error ⟨1, "main:554 Could not create flow \n".toList⟩
  let c ← execAll h.env n c (if p.hasMappeerData then flow.elim [] (optionOps p a) else [])
  let (state, c) ← waitFlow h n m p c flow
  let (retVal, c) := readStatus h.env c flow state
  let (ret, c) := pcpFlowGetInfo h.env c flow
  let left ← pcpTerminate h.env n false (fun _ => none) c
  return .ok ⟨retVal, ret.getD [], flowInfos c flow, left⟩

/-- `main`. -/
def appMain (h : Host) (n m : Nat) (argv : List Text) : Option (Except Exit Ended) :=
  match parseParams argv with
  | none => none
  | some (.error x) => some (.error x)
  | some (.ok p) =>
    match appAddrs h p with
    | .error x => some (.error x)
    | .ok a => appRun h n m p a

/-! ## From call to call -/

section Calls

variable {e : Env} {D : Datagram → Prop} {c c' : Ctx} {hs hs' : List FlowId} {op : Op} {ops : List Op} {n : Nat}

/-- What holds between two calls of an application with the pointers `hs`. -/
structure Standing (e : Env) (D : Datagram → Prop) (c : Ctx) (hs : List FlowId) : Prop where
  reachable : Reachable e c
  held : Held c hs
  grants : e.ClockMono → GrantLog e D c

theorem Standing.start : Standing e D {} [] := by
  have hempty : ({} : Ctx).allFlows = [] := by simp [Ctx.allFlows]
  refine ⟨.refl, ⟨List.nodup_nil, ?_, ?_⟩, fun _ => .empty⟩
  · intro f hf
    cases hf
  · rw [hempty]
    intro f hf
    cases hf

theorem Standing.call (hb : Standing e D c hs) (h : AppStep e op (c, hs) (c', hs'))
    (hd : ∀ dg ∈ op.datagram, D dg) : Standing e D c' hs' := by
  obtain ⟨hstep, hheld⟩ := h.held hb.reachable hb.held
  exact ⟨hb.reachable.trans (.single hstep trivial), hheld, fun he =>
    (hb.grants he).step he hb.reachable.ctxOk hstep hd⟩

/-- Calls on the pointers that make no flow and delete none. -/
theorem Standing.calls (hb : Standing e D c hs) (h : execAll e n c ops = some c')
    (hops : ∀ op ∈ ops, op.keepsFlows = true ∧ op.datagram = none ∧ ∀ f ∈ op.target, f ∈ hs) :
    Standing e D c' hs ∧ Retains c c' := by
  induction ops generalizing c with
  | nil =>
    cases h
    exact ⟨hb, .refl _⟩
  | cons op ops ih =>
    obtain ⟨⟨hkeeps, hdg, htarget⟩, hrest⟩ := List.forall_mem_cons.mp hops
    obtain ⟨c₁, hexec, h⟩ := Option.bind_eq_some_iff.mp h
    have hcall : AppStep e op (c, hs) (c₁, hs) :=
      ⟨htarget, ⟨n, hexec⟩, (Op.handles_keepsFlows hkeeps e c hs).symm⟩
    have hstep := (hcall.held hb.reachable hb.held).1
    have hb₁ := hb.call hcall fun dg h => by rw [hdg] at h; cases h
    obtain ⟨hb', hret⟩ := ih hb₁ h hrest
    exact ⟨hb', (hstep.retains hb.reachable.ctxOk hkeeps).trans hret⟩

end Calls

section Wait

variable {σ : Type} {w : Waiting σ} {I : σ → Prop}

/-- What a reading of the clock and a pulse keep, the wait keeps. -/
theorem waitLoop_keeps (hclock : ∀ x, I x → I (w.gettimeofday x).2)
    (hpulse : ∀ t x y, I x → w.pulse t x = some y → I y) {b : Bool} {k m : Nat} {x : σ} {toutEnd : Timeval}
    {r : WaitResult σ} (h : waitLoop w b k m x toutEnd = some r) (hx : I x) : I r.found := by
  induction m generalizing x toutEnd with
  | zero => cases h
  | succ m ih =>
    simp only [waitLoop] at h
    have hx' := hclock x hx
    split at h
    · cases h
      exact hx'
    · cases hp : w.pulse (timevalSubtractInto toutEnd (w.gettimeofday x).1).2.2 (w.gettimeofday x).2 with
      | none => simp [hp] at h
      | some y =>
        have hy := hpulse _ _ _ hx' hp
        rw [hp] at h
        dsimp only at h
        split at h
        · cases h
          exact hy
        · exact ih h hy

/-- What the result says about the states that were found. -/
theorem waitLoop_state {b : Bool} {k m : Nat} {x : σ} {toutEnd : Timeval} {r : WaitResult σ}
    (h : waitLoop w b k m x toutEnd = some r) :
    r.state = .processing ∨
      r.state = evalFlowStates (w.states r.found) ∧ (b = true ∨ r.state ≠ .partialResult) := by
  induction m generalizing x toutEnd with
  | zero => cases h
  | succ m ih =>
    simp only [waitLoop] at h
    split at h
    · cases h
      exact .inl rfl
    · cases hp : w.pulse (timevalSubtractInto toutEnd (w.gettimeofday x).1).2.2 (w.gettimeofday x).2 with
      | none => simp [hp] at h
      | some y =>
        rw [hp] at h
        dsimp only at h
        split at h
        · rename_i hleaves
          cases h
          exact .inr ⟨rfl, hleaves.2⟩
        · exact ih h

end Wait

section Run

variable {h : Host} {n m : Nat} {p : PcpParams} {a : AppAddrs} {r : Ended} {c c' : Ctx}

theorem clock_keeps {e : Env} {I : Ctx → Prop} (hI : KeptByServers e I) (hi : I c) : I c.tick :=
  hI.act (Act.tick (s := 0) c) hi

theorem clock_ctxOk (hc : CtxOk c) : CtxOk c.tick := ⟨{ hc.table with }, hc.slot, hc.ping⟩

theorem calloc_ctxOk (k : Nat) (hc : CtxOk c) : CtxOk { c with io := { c.io with callocs := k } } :=
  ⟨{ hc.table with }, hc.slot, hc.ping⟩

theorem clock_grants {e : Env} {D : Datagram → Prop} (hg : GrantLog e D c) : GrantLog e D c.tick :=
  ⟨hg.accounted, hg.made⟩

/-- What the pulses of the wait leave. -/
structure Waited (e : Env) (D : Datagram → Prop) (c c' : Ctx) : Prop where
  ok : CtxOk c'
  grants : e.ClockMono → GrantLog e D c'
  counted : Counted c'
  retains : Retains c c'

theorem waitFlow_waited {D : Datagram → Prop} {flow : Option FlowId} {state : FState}
    (hd : ∀ i dg, h.received i = some dg → D dg) (hw : waitFlow h n m p c flow = some (state, c'))
    (hr : Reachable h.env c) (hg : h.env.ClockMono → GrantLog h.env D c) :
    Waited h.env D c c' := by
  have hstart : Waited h.env D c c := ⟨hr.ctxOk, hg, hr.counted, .refl c⟩
  cases flow with
  | none =>
    cases hw
    exact hstart
  | some f =>
    obtain ⟨res, hres, heq⟩ := Option.map_eq_some_iff.mp hw
    cases heq
    unfold waitChain at hres
    refine waitLoop_keeps (I := fun x => Waited h.env D c x.1) ?_ ?_ hres ?_
    · rintro ⟨b, i⟩ hb
      exact ⟨clock_ctxOk hb.ok, fun he => clock_grants (hb.grants he),
        clock_keeps (counted_kept h.env) hb.counted, clock_keeps (retains_kept h.env c) hb.retains⟩
    · rintro t ⟨b, i⟩ ⟨b', i'⟩ hb hp
      obtain ⟨⟨b'', t'⟩, hpulse, heq⟩ := Option.map_eq_some_iff.mp hp
      cases heq
      have hstep := pulse_step hpulse
      exact ⟨(hstep.cases hb.ok).2, fun he => (hb.grants he).step he hb.ok hstep fun dg hdg => hd i dg hdg,
        hstep.counted hb.ok hb.counted, hb.retains.trans (hstep.retains hb.ok rfl)⟩
    · exact ⟨clock_ctxOk hstart.ok, fun he => clock_grants (hg he),
        clock_keeps (counted_kept h.env) hstart.counted, clock_keeps (retains_kept h.env c) hstart.retains⟩

/-- A run of `main` to its end: the contexts after `pcp_init` with the servers, after the flow and its options,
and after the wait. -/
structure AppRan (h : Host) (n m : Nat) (p : PcpParams) (a : AppAddrs) (r : Ended) (flow : Option FlowId)
    (c₁ c₂ c₃ : Ctx) (state : FState) : Prop where
  initialised : execAll h.env n {} (initOps h p) = some c₁
  created : (createFlow h.env c₁ (createOp p a)).1 = flow
  opted : execAll h.env n (createFlow h.env c₁ (createOp p a)).2
    (if p.hasMappeerData then flow.elim [] (optionOps p a) else []) = some c₂
  waited : waitFlow h n m p c₂ flow = some (state, c₃)
  terminated : ∃ k, pcpTerminate h.env n false (fun _ => none)
    { c₃ with io := { c₃.io with callocs := k } } = some r.ctx
  flows : r.flows = flowInfos c₃ flow
  printed : r.info = r.flows ∨ r.info = [] ∧ ∃ k, h.env.calloc k = false
  status : r.retVal = exitStatus r.flows state ∨ r.retVal = 2

/-- The array is there, or there was no memory for it. -/
theorem pcpFlowGetInfo_rows (e : Env) (c : Ctx) (flow : Option FlowId) :
    (pcpFlowGetInfo e c flow).1.getD [] = flowInfos c flow ∨
      (pcpFlowGetInfo e c flow).1.getD [] = [] ∧ ∃ k, e.calloc k = false := by
  unfold pcpFlowGetInfo
  cases h : e.calloc c.io.callocs with
  | true => exact .inl rfl
  | false => exact .inr ⟨rfl, _, h⟩

/-- Reading the status costs a call of `calloc` at most, and without memory it is 2. -/
theorem readStatus_spec (e : Env) (c : Ctx) (flow : Option FlowId) (state : FState) :
    (∃ k, (readStatus e c flow state).2 = { c with io := { c.io with callocs := k } }) ∧
      ((readStatus e c flow state).1 = exitStatus (flowInfos c flow) state ∨
        (readStatus e c flow state).1 = 2) := by
  cases state with
  | partialResult =>
    refine ⟨⟨c.io.callocs + 1, rfl⟩, ?_⟩
    rcases pcpFlowGetInfo_rows e c flow with h | ⟨h, -⟩
    · exact .inl (congrArg (exitStatus · .partialResult) h)
    · exact .inr (congrArg (exitStatus · .partialResult) h)
  | processing | succeeded | shortLifetimeError | failed => exact ⟨⟨c.io.callocs, rfl⟩, .inl rfl⟩

theorem appRun_ran (hrun : appRun h n m p a = some (.ok r)) :
    ∃ flow c₁ c₂ c₃ state, AppRan h n m p a r flow c₁ c₂ c₃ state := by
  obtain ⟨c₁, hinit, hrun⟩ := Option.bind_eq_some_iff.mp hrun
  dsimp only at hrun
  split at hrun
  · cases hrun
  · obtain ⟨c₂, hoptions, hrun⟩ := Option.bind_eq_some_iff.mp hrun
    obtain ⟨⟨state, c₃⟩, hwait, hrun⟩ := Option.bind_eq_some_iff.mp hrun
    generalize hflow : (createFlow h.env c₁ (createOp p a)).1 = flow at hoptions hwait hrun
    obtain ⟨⟨k, hk⟩, hstatus⟩ := readStatus_spec h.env c₃ flow state
    generalize readStatus h.env c₃ flow state = status at hk hstatus hrun
    obtain ⟨retVal, c₄⟩ := status
    obtain rfl : c₄ = _ := hk
    obtain ⟨left, hterm, hrun⟩ := Option.bind_eq_some_iff.mp hrun
    cases hrun
    exact ⟨flow, c₁, c₂, c₃, state, hinit, hflow, hoptions, hwait, ⟨k + 1, hterm⟩, rfl,
      pcpFlowGetInfo_rows h.env { c₃ with io := { c₃.io with callocs := k } } flow, hstatus⟩

theorem appMain_ran {argv : List Text} (hrun : appMain h n m argv = some (.ok r)) :
    ∃ p a, parseParams argv = some (.ok p) ∧ appAddrs h p = .ok a ∧
      ∃ flow c₁ c₂ c₃ state, AppRan h n m p a r flow c₁ c₂ c₃ state := by
  unfold appMain at hrun
  split at hrun
  · cases hrun
  · cases hrun
  · rename_i p hparse
    split at hrun
    · cases hrun
    · rename_i a haddrs
      exact ⟨p, a, hparse, haddrs, appRun_ran hrun⟩

theorem addServers_calls (res : Resolver) (buf : SockAddr) (servers : List ServerArg) :
    ∀ op ∈ addServers res buf servers, op.keepsFlows = true ∧ op.datagram = none ∧ op.target = none := by
  induction servers generalizing buf with
  | nil =>
    intro op hop
    cases hop
  | cons s servers ih =>
    intro op hop
    unfold addServers at hop
    split at hop
    · rcases List.mem_cons.mp hop with rfl | hop
      · exact ⟨rfl, rfl, rfl⟩
      · exact ih _ op hop
    · exact ih _ op hop

theorem initOps_calls : ∀ op ∈ initOps h p,
    op.keepsFlows = true ∧ op.datagram = none ∧ ∀ f ∈ op.target, f ∈ ([] : List FlowId) := by
  intro op hop
  rcases List.mem_append.mp hop with hop | hop
  · split at hop
    · cases hop
    · cases List.mem_singleton.mp hop
      refine ⟨rfl, rfl, fun f hf => ?_⟩
      cases hf
  · obtain ⟨hkeeps, hdg, htarget⟩ := addServers_calls _ _ _ op hop
    refine ⟨hkeeps, hdg, fun f hf => ?_⟩
    rw [htarget] at hf
    cases hf

theorem optionOps_calls (f : FlowId) : ∀ op ∈ optionOps p a f,
    op.keepsFlows = true ∧ op.datagram = none ∧ ∀ g ∈ op.target, g ∈ [f] := by
  have hone : ∀ {P : Prop} [Decidable P] {op op' : Op}, op ∈ (if P then [op'] else []) → op = op' := by
    intro P _ op op' hop
    split at hop
    · exact List.mem_singleton.mp hop
    · cases hop
  intro op hop
  simp only [optionOps, List.mem_append] at hop
  rcases hop with (((((hop | hop) | hop) | hop) | hop) | hop) | hop
  all_goals
    cases hone hop
    exact ⟨rfl, rfl, fun g hg => by cases hg; exact List.mem_singleton_self f⟩

theorem createOp_call (hs : List FlowId) : AppStep h.env (createOp p a) (c, hs)
    ((createFlow h.env c (createOp p a)).2, (createFlow h.env c (createOp p a)).1.toList ++ hs) := by
  unfold createOp
  split
  · refine ⟨fun f hf => ?_, ⟨0, rfl⟩, rfl⟩
    cases hf
  · refine ⟨fun f hf => ?_, ⟨0, rfl⟩, rfl⟩
    cases hf

/-- The datagrams that are on the socket at some time. -/
def Host.Receives (h : Host) (dg : Datagram) : Prop := ∃ i, h.received i = some dg

/-- What a run comes through. -/
theorem AppRan.phases {flow : Option FlowId} {c₁ c₂ c₃ : Ctx} {state : FState}
    (hran : AppRan h n m p a r flow c₁ c₂ c₃ state) :
    Standing h.env h.Receives c₁ [] ∧
      Standing h.env h.Receives (createFlow h.env c₁ (createOp p a)).2 flow.toList ∧
      Waited h.env h.Receives (createFlow h.env c₁ (createOp p a)).2 c₃ := by
  have hinit : Standing h.env h.Receives c₁ [] :=
    (Standing.start.calls hran.initialised initOps_calls).1
  have hcreate : Standing h.env h.Receives (createFlow h.env c₁ (createOp p a)).2 flow.toList := by
    have hcall := createOp_call (h := h) (p := p) (a := a) (c := c₁) []
    rw [hran.created, List.append_nil] at hcall
    refine hinit.call hcall fun dg hdg => ?_
    unfold createOp at hdg
    split at hdg <;> cases hdg
  obtain ⟨hoptions, hretains⟩ := hcreate.calls hran.opted (by
    intro op hop
    split at hop
    · cases flow with
      | none => cases hop
      | some f => exact optionOps_calls f op hop
    · cases hop)
  have hwait := waitFlow_waited (fun i dg hdg => ⟨i, hdg⟩) hran.waited hoptions.reachable hoptions.grants
  exact ⟨hinit, hcreate, hwait.ok, hwait.grants, hwait.counted, hretains.trans hwait.retains⟩

end Run

/-- A host with the server `10.0.0.1`, which answers the second pulse. -/
def answeringHost : Host where
  env := .calm {}
  resolver :=
    { inetNtop6 := fun _ => none
      getaddrinfo := fun host port =>
        if host = some "10.0.0.1".toList ∧ port = none then some [.inet 0x0A000001 0]
        else if host = some "10.0.0.2".toList ∧ port = some "80".toList then some [.inet 0x0A000002 80]
        else none }
  gws := []
  stack := .unspec
  received i := if i = 1 then some mapGranted else none

/-- A mapping for port 80 is asked for. -/
def mapPort80 : List Text :=
  ["pcp".toList, "-d".toList, "-s".toList, "10.0.0.1".toList, "-l60".toList, "--internal=10.0.0.2:80".toList]

theorem mapPort80_runs : ∃ r, appMain answeringHost 80 9 mapPort80 = some (.ok r) ∧ r.retVal = 0 ∧
    r.info.map (·.recvLifetimeEnd) = [1060] := by
  have hruns : ((appMain answeringHost 80 9 mapPort80).bind Except.toOption).map
      (fun r => (r.retVal, r.info.map (·.recvLifetimeEnd))) = some (0, [1060]) := by
    decide +kernel
  obtain ⟨r, hr, heq⟩ := Option.map_eq_some_iff.mp hruns
  obtain ⟨x, hx, hok⟩ := Option.bind_eq_some_iff.mp hr
  cases x with
  | error => cases hok
  | ok r' =>
    cases hok
    exact ⟨r, hx, congrArg Prod.fst heq, congrArg Prod.snd heq⟩

/-! ## What is printed -/

section Printed

variable {h : Host} {n m : Nat} {p : PcpParams} {a : AppAddrs} {r : Ended} {c : Ctx}

/-- The line is about a flow as the command line asks for it. -/
structure FlowInfo.AskedFor (row : FlowInfo) (p : PcpParams) (a : AppAddrs) : Prop where
  protocol : row.protocol = p.optProtocol
  intPort : row.intPort = (addrOf a.sourceIp).2.1
  peer : (row.dstIp, row.dstPort) =
    (peerAddr (some a.destinationIp)).elim (.any, 0) fun d => ((addrOf d).1, (addrOf d).2.1)

/-- The keys `pcp_new_flow` makes. -/
theorem pcpNewFlow_asks {e : Env} {src : SockAddr} {dst ext : Option SockAddr} {protocol : UInt8}
    {lifetime : UInt32} {f : FlowId} (hf : (pcpNewFlow e c src dst ext protocol lifetime).1 = some f) :
    ∃ kd, AsksFor e c src dst protocol kd ∧
      ∀ g ∈ (pcpNewFlow e c src dst ext protocol lifetime).2.chain f,
        ∃ sv, ((pcpNewFlow e c src dst ext protocol lifetime).2.heap g).kd = flowKeyOn kd sv := by
  by_cases hnone : (newFlowKey e c src dst protocol).1 = none ∨ ext.or (defaultExtAddr src) = none
  · have hnothing : ∃ k, pcpNewFlow e c src dst ext protocol lifetime = (none, { c with lookups := k }) :=
      pcpNewFlow_none hnone
    obtain ⟨k, heq⟩ := hnothing
    rw [heq] at hf
    cases hf
  · obtain ⟨hkey, hext⟩ := not_or.mp hnone
    obtain ⟨kd, hkey⟩ := Option.ne_none_iff_exists'.mp hkey
    obtain ⟨ext', hext⟩ := Option.ne_none_iff_exists'.mp hext
    obtain ⟨acc, S, d, rfl, -, hfan, -, heq⟩ := pcpNewFlow_key lifetime hkey hext
    refine ⟨d.kd, newFlowKey_asksFor hkey, ?_⟩
    rw [heq] at hf ⊢
    split at hf
    · cases hf
    · rename_i hstop
      rw [if_neg hstop]
      intro g hg
      rw [hfan.chain_eq hf] at hg
      obtain ⟨k, hk, rfl⟩ := List.mem_range'.mp hg
      rw [Nat.one_mul]
      exact ⟨_, (hfan.asked k hk).kd⟩

theorem flowInfo_mapPeer {v : Flow} (hv : v.kd.Maps) :
    (flowInfo v).protocol = v.kd.protocol ∧ (flowInfo v).intPort = v.kd.srcPort ∧
      (flowInfo v).dstIp = v.kd.dstIp ∧ (flowInfo v).dstPort = v.kd.dstPort := by
  have hop : v.kd.operation = opcodeMap ∨ v.kd.operation = opcodePeer := hv
  simp only [flowInfo, if_pos hop, and_self]

theorem flowInfo_recvLifetimeEnd (v : Flow) : (flowInfo v).recvLifetimeEnd = v.recvLifetime := by
  unfold flowInfo
  split
  · rfl
  · split <;> rfl

/-- The lines of the table are about flows with the ports, the protocol and the peer of the command line. Where
there is an end of a lifetime, the mapping was granted by a datagram that the program has received. -/
theorem appMain_grants {argv : List Text} (he : h.env.ClockMono) (hrun : appMain h n m argv = some (.ok r)) :
    ∃ p a, parseParams argv = some (.ok p) ∧ appAddrs h p = .ok a ∧
      (p.hasMappeerData = true → ∀ row ∈ r.info, row.AskedFor p a ∧
        (row.recvLifetimeEnd ≠ 0 → ∃ dg v, h.Receives dg ∧ flowInfo v = row ∧ GrantedIn h.env dg v)) := by
  obtain ⟨p, a, hparse, haddrs, flow, c₁, c₂, c₃, state, hran⟩ := appMain_ran hrun
  refine ⟨p, a, hparse, haddrs, fun hmap row hrow => ?_⟩
  obtain ⟨hinit, hcreate, hwait⟩ := hran.phases
  have hrow : row ∈ flowInfos c₃ flow := by
    rcases hran.printed with hinfo | ⟨hinfo, -⟩
    · rw [hinfo, hran.flows] at hrow
      exact hrow
    · rw [hinfo] at hrow
      cases hrow
  cases hflow : flow with
  | none =>
    rw [hflow] at hrow
    cases hrow
  | some f =>
    rw [hflow] at hrow hcreate
    obtain ⟨g, hg, rfl⟩ := List.mem_map.mp hrow
    have hcreated : createFlow h.env c₁ (createOp p a) = pcpNewFlow h.env c₁ a.sourceIp
        (some a.destinationIp) (p.extAddr.map fun _ => a.extIp) p.optProtocol p.optLifetime := by
      rw [createOp, if_pos hmap, createFlow]
    have hsome := hran.created.trans hflow
    rw [hcreated] at hcreate hwait hsome
    obtain ⟨kd, hasks, hkeys⟩ := pcpNewFlow_asks hsome
    -- The wait neither relinks the chain nor changes the keys.
    have halloc := hcreate.held.alloc hcreate.reachable.ctxOk.table (List.mem_singleton_self f)
    rw [hwait.retains.chain hcreate.reachable.linksForward halloc] at hg
    have hmem : g ∈ ([f].flatMap _) := List.mem_flatMap.mpr ⟨f, List.mem_singleton_self f, hg⟩
    have hkd := hwait.retains.kd g (hcreate.reachable.ctxOk.alloc (hcreate.held.table g hmem))
    obtain ⟨sv, hkey⟩ := hkeys g hg
    rw [hkey] at hkd
    have hmaps : (c₃.heap g).kd.Maps := by
      rw [hkd]
      show kd.operation = _ ∨ kd.operation = _
      rw [hasks.operation]
      split
      · exact .inr rfl
      · exact .inl rfl
    obtain ⟨hprotocol, hport, hip, hdport⟩ := flowInfo_mapPeer hmaps
    refine ⟨⟨?_, ?_, ?_⟩, fun hend => ?_⟩
    · rw [hprotocol, hkd]
      exact hasks.protocol
    · rw [hport, hkd]
      exact hasks.srcPort
    · rw [hip, hdport, hkd]
      exact hasks.peer
    · rw [flowInfo_recvLifetimeEnd] at hend
      obtain ⟨dg, hdg, hgranted⟩ := (hwait.grants he).holds ⟨hmaps, hend⟩
      exact ⟨dg, c₃.heap g, hdg, rfl, hgranted⟩

theorem appMain_grants_mapped : ∃ r, appMain answeringHost 80 9 mapPort80 = some (.ok r) ∧
    ∃ row ∈ r.info, ∃ dg v, answeringHost.Receives dg ∧ flowInfo v = row ∧ GrantedIn (.calm {}) dg v := by
  obtain ⟨r, hr, -, hends⟩ := mapPort80_runs
  obtain ⟨p, a, hparse, -, hrows⟩ := appMain_grants calm_clock.1 hr
  have hmap : (parseParams mapPort80).map (fun x => x.toOption.map (·.hasMappeerData)) = some (some true) := by
    decide +kernel
  rw [hparse] at hmap
  obtain ⟨row, hrow, hend⟩ := List.mem_map.mp (hends ▸ List.mem_singleton_self (1060 : Int))
  have hne : row.recvLifetimeEnd ≠ 0 := by rw [hend]; decide
  exact ⟨r, hr, row, hrow, (hrows (Option.some.inj (Option.some.inj hmap)) row hrow).2 hne⟩

/-! ## The exit status -/

/-- The status for flows that are all done. -/
def verdict (info : List FlowInfo) : Nat :=
  if ∃ row ∈ info, row.result = .succeeded then 0
  else if ∃ row ∈ info, row.result = .failed then 4
  else 3

/-- The exit statuses there can be with a table. -/
inductive StatusOf (fastReturn : Bool) (info : List FlowInfo) : Nat → Prop where
  | timedOut : StatusOf fastReturn info 2
  | noFlow (h : info = []) : StatusOf fastReturn info 4
  | done (h : ∀ row ∈ info, row.result ≠ .processing) : StatusOf fastReturn info (verdict info)
  | first {row : FlowInfo} (hfast : fastReturn = true) (hsucc : ∃ row ∈ info, row.result = .succeeded)
      (h : info.find? (fun row => row.result ≠ .processing) = some row) :
      StatusOf fastReturn info (exitStatus [] row.result)

theorem flowInfo_result (v : Flow) : (flowInfo v).result = v.state.result := by
  unfold flowInfo
  split
  · rfl
  · split <;> rfl

/-- The first flow that is done decides. -/
theorem checkFlowInfo_first {info : List FlowInfo} {row : FlowInfo}
    (hnot : ∀ row ∈ info, row.result ≠ .partialResult)
    (h : info.find? (fun row => row.result ≠ .processing) = some row) :
    checkFlowInfo info = exitStatus [] row.result := by
  induction info with
  | nil => cases h
  | cons ret info ih =>
    obtain ⟨hret, hinfo⟩ := List.forall_mem_cons.mp hnot
    unfold checkFlowInfo
    cases hresult : ret.result with
    | processing =>
      rw [List.find?_cons_of_neg (by simp [hresult])] at h
      exact ih hinfo h
    | partialResult => exact absurd hresult hret
    | succeeded | shortLifetimeError | failed =>
      rw [List.find?_cons_of_pos (by simp [hresult])] at h
      cases h
      rw [hresult]
      rfl

theorem FlowState.isExit_iff (st : FlowState) : st.isExit ↔ st.result ≠ .processing := by
  cases st <;> decide

theorem FlowState.result_succeeded (st : FlowState) : st.result = .succeeded ↔ st = .waitForLifetimeRenew := by
  cases st <;> decide

theorem FlowState.result_failed (st : FlowState) : st.result = .failed ↔ st = .failed := by
  cases st <;> decide

/-- What `pcp_eval_flow_state` says and what the table says. -/
theorem evalFlowStates_status {fastReturn : Bool} {info : List FlowInfo} {l : List FlowState}
    (hinfo : info.map (·.result) = l.map FlowState.result)
    (hfast : fastReturn = true ∨ evalFlowStates l ≠ .partialResult) :
    StatusOf fastReturn info (exitStatus info (evalFlowStates l)) := by
  have hrows : ∀ x, (∃ row ∈ info, row.result = x) ↔ ∃ st ∈ l, st.result = x := by
    intro x
    rw [← List.mem_map, ← List.mem_map, hinfo]
  have hsucc : (l.any (· = .waitForLifetimeRenew)) = true ↔ ∃ row ∈ info, row.result = .succeeded := by
    rw [hrows, List.any_eq_true]
    simp only [decide_eq_true_eq, FlowState.result_succeeded]
  have hfailed : (l.any (· = .failed)) = true ↔ ∃ row ∈ info, row.result = .failed := by
    rw [hrows, List.any_eq_true]
    simp only [decide_eq_true_eq, FlowState.result_failed]
  have hpending : (l.any fun st => ¬ st.isExit) = true ↔ ∃ row ∈ info, row.result = .processing := by
    rw [hrows, List.any_eq_true]
    simp only [decide_eq_true_eq, FlowState.isExit_iff, not_not]
  unfold evalFlowStates at hfast ⊢
  simp only [hsucc, hfailed, hpending] at hfast ⊢
  by_cases hp : ∃ row ∈ info, row.result = .processing
  · by_cases hs : ∃ row ∈ info, row.result = .succeeded
    · rw [if_pos hp, if_pos hs] at hfast ⊢
      have hpartial : ∀ row ∈ info, row.result ≠ .partialResult := by
        intro row hrow heq
        obtain ⟨st, -, hst⟩ := (hrows _).mp ⟨row, hrow, heq⟩
        cases st <;> cases hst
      obtain ⟨ret, hret, hsret⟩ := hs
      obtain ⟨row, hrow⟩ : ∃ row, info.find? (fun row => row.result ≠ .processing) = some row := by
        rw [← Option.isSome_iff_exists, List.find?_isSome]
        exact ⟨ret, hret, by simp [hsret]⟩
      rw [exitStatus, checkFlowInfo_first hpartial hrow]
      exact .first (hfast.resolve_right (not_not_intro rfl)) ⟨ret, hret, hsret⟩ hrow
    · rw [if_pos hp, if_neg hs]
      exact .timedOut
  · have hdone : ∀ row ∈ info, row.result ≠ .processing := fun row hrow heq => hp ⟨row, hrow, heq⟩
    have hverdict : StatusOf fastReturn info (verdict info) := .done hdone
    rw [if_neg hp]
    unfold verdict at hverdict
    split at hverdict
    · rename_i hs
      rw [if_pos hs]
      exact hverdict
    · rename_i hs
      rw [if_neg hs]
      split at hverdict
      · rename_i hf
        rw [if_pos hf]
        exact hverdict
      · rename_i hf
        rw [if_neg hf]
        exact hverdict

/-- What is left in the end is a table without flows and no servers. -/
theorem appMain_releases {argv : List Text} (hrun : appMain h n m argv = some (.ok r)) :
    (∀ b, r.ctx.flows b = []) ∧ r.ctx.flowCnt = 0 ∧ r.ctx.pcpServersLength = 0 := by
  obtain ⟨p, a, -, -, flow, c₁, c₂, c₃, state, hran⟩ := appMain_ran hrun
  obtain ⟨-, -, hwait⟩ := hran.phases
  obtain ⟨k, hterminated⟩ := hran.terminated
  obtain ⟨c, hwalk, hfree⟩ := Option.map_eq_some_iff.mp hterminated
  obtain ⟨hflows, hcnt⟩ := pcpDbFreePcpServers_table h.env c
  rw [hfree] at hflows hcnt
  have hsound : (FlowWalk.start { c₃ with io := { c₃.io with callocs := k } }).Sound :=
    .start (calloc_ctxOk k hwait.ok) hwait.counted
  -- Without closing there are no pulses that could add a flow.
  have hempty : ∀ b, c.flows b = [] :=
    (walk_empties_iff hwalk hsound (.start _)).mpr fun w _ hclose => by cases hclose
  have hcounted := walk_sound hwalk hsound
  refine ⟨fun b => ?_, ?_, ?_⟩
  · rw [hflows]
    exact hempty b
  · rw [hcnt, hcounted, Ctx.allFlows, List.flatMap_eq_nil_iff.mpr fun b _ => hempty b]
    rfl
  · rw [← hfree]
    rfl

theorem appMain_releases_mapped : ∃ r, appMain answeringHost 80 9 mapPort80 = some (.ok r) ∧
    (∀ b, r.ctx.flows b = []) ∧ r.ctx.flowCnt = 0 ∧ r.ctx.pcpServersLength = 0 := by
  obtain ⟨r, hr, -, -⟩ := mapPort80_runs
  exact ⟨r, hr, appMain_releases hr⟩

end Printed

end LibPcp
