import LibPcp.FlowMachine
import LibPcp.MsgParse

/-!
# LibPcp.ServerMachine

The server state machine of `pcp_event_handler.c` and `pcp_pulse`.

Every handler returns the next state of the server next to the changed context, as in the source,
where the dispatcher stores it. `hserverLoop` runs timeout events until the server's timer is off or
in the future; how often is up to the clock, so it takes a bound and returns `none` past it. A pulse
that returns is one with `pcpPulse e n … = some …` for some bound `n`.
-/

namespace LibPcp

open ByteBuffer

/-! ## Helpers of the handlers -/

/-- `compare_epochs`; the server's epoch is initialised by the first message. -/
def compareEpochs (m : RecvMsg) (s : Server) : Bool × Server :=
  let s := if s.epoch = 0xFFFFFFFF then { s with epoch := m.recvEpoch, cepoch := m.receivedTime }
    else s
  let cDelta : UInt32 := UInt32.ofNat ((m.receivedTime - s.cepoch) % 2 ^ 32).toNat
  let sDelta : UInt32 := m.recvEpoch - s.epoch
  let apart (x y : UInt32) : Bool := decide (x + (2 : UInt32) < y - (y >>> (4 : UInt32)))
  (apart cDelta sDelta || apart sDelta cDelta, s)

/-- The part of `server_process_rcvd_pcp_msg` before the search is over: the message with the NAT-PMP
external address filled in, and the flow it belongs to. -/
def matchRcvdMsg (c : Ctx) (s : Nat) : Option FlowId × Ctx :=
  let m := c.msg
  let sv := c.pcpServers s
  if m.recvVersion = 0 then
    if m.kd.operation = natpmpOpcodeAnnounce then
      let c := c.modServer s fun v => { v with natpmpExtAddr := m.assignedExtIp.w3 }
      match sv.pingFlowMsg with
      | some p =>
        if sv.pcpVersion = 0 ∧ (c.heap p).kd.operation = opcodeAnnounce then (some p, c)
        else (none, c)
      | none => (none, c)
    else
      let m := { m with assignedExtIp := .v4mapped sv.natpmpExtAddr }
      (pcpGetFlow c m.kd s, { c with msg := m })
  else (pcpGetFlow c m.kd s, c)

def serverProcessRcvdPcpMsg (e : Env) (c : Ctx) (s : Nat) : Option FlowId × Ctx :=
  match matchRcvdMsg c s with
  | (none, c) => (none, c)
  | (some f, c) => (some f, handleFlowEvent e c f (.res c.msg.recvResult) (some c.msg))

/-- `check_flow_timeout(f, &s->next_timeout)`: fire the flow's timer if it is due, then lower the
server's timer to what is left of the flow's. -/
def checkFlowTimeout (e : Env) (s : Nat) (c : Ctx) (f : FlowId) : Ctx :=
  if (c.heap f).timeout.isZero then c
  else
    let cmp := timevalComp (c.heap f).timeout (e.now c.io)
    let c := c.tick.modFlow f fun v => { v with timeout := cmp.2.1 }
    let c := if cmp.1 ≤ 0 then handleFlowEvent e c f .flowTimedout none else c
    if (c.heap f).timeout.isZero then c
    else
      let sub := timevalSubtractInto (c.heap f).timeout cmp.2.2
      let c := c.modFlow f fun v => { v with timeout := sub.2.1 }
      let tout := (c.pcpServers s).nextTimeout
      if tout.isZero then c.setNextTimeout s sub.2.2
      else
        let cmp := timevalComp sub.2.2 tout
        c.setNextTimeout s (if cmp.1 < 0 then cmp.2.1 else cmp.2.2)

/-- `get_first_flow_iter`: a flow of the server that has something to send. -/
def firstFlowCandidate (c : Ctx) (s : Nat) (f : FlowId) : Bool :=
  (c.heap f).pcpServerIndx == (c.pcpServers s).index &&
    ((c.heap f).state == .idle || (c.heap f).state == .waitForServerInit ||
      (c.heap f).state == .send)

def getPingMsg (c : Ctx) (s : Nat) : Option FlowId × Ctx :=
  let found := c.allFlows.find? (firstFlowCandidate c s)
  (found, c.modServer s fun v => { v with pingFlowMsg := found })

/-- `create_natpmp_ann_msg`. -/
def createNatpmpAnnMsg (e : Env) (c : Ctx) (s : Nat) : Option FlowId × Ctx :=
  let sv := c.pcpServers s
  let kd := { FlowKeyData.zero with
    srcIp := sv.srcIp, pcpServerIp := sv.pcpIp, nonce := sv.nonce, operation := natpmpOpcodeAnnounce }
  match pcpCreateFlow e c s kd with
  | (f, c) => (f, pcpDbAddFlow (c.modServer s fun v => { v with pingFlowMsg := f }) f)

/-- `flow_send_event_iter`. -/
def flowSendEventIter (e : Env) (s : Nat) (ev : FlowEvent) (c : Ctx) (f : FlowId) : Ctx :=
  if (c.heap f).pcpServerIndx = (c.pcpServers s).index then
    checkFlowTimeout e s (handleFlowEvent e c f ev none) f
  else c

/-- `pcp_db_foreach_flow(ctx, flow_send_event_iter, &d)`. -/
def sendEventAll (e : Env) (s : Nat) (ev : FlowEvent) (c : Ctx) : Ctx :=
  c.allFlows.foldl (flowSendEventIter e s ev) c

/-! ## Handlers -/

/-- The loop of `handle_server_ping`. Each round moves one candidate to another state, so as many
rounds as there are flows, and one to find none, are enough. -/
def pingLoop (e : Env) (s : Nat) : Nat → Ctx → ServerState × Ctx
  | 0, c => (.ping, c.setNextTimeout s .zero)
  | n + 1, c =>
    match getPingMsg c s with
    | (none, c) => (.ping, c.setNextTimeout s .zero)
    | (some f, c) =>
      let c := c.modFlow f fun v => { v with retryCount := 0 }
      let c := handleFlowEvent e c f .send none
      if (c.heap f).state ≠ .failed then
        (.waitPingResp, c.setNextTimeout s (c.heap f).timeout)
      else pingLoop e s n c

def handleServerPing (e : Env) (c : Ctx) (s : Nat) : ServerState × Ctx :=
  pingLoop e s (c.allFlows.length + 1) (c.modServer s fun v => { v with pingCount := 0 })

def handleWaitPingRespTimeout (e : Env) (c : Ctx) (s : Nat) : ServerState × Ctx :=
  let c := c.modServer s fun v => { v with pingCount := v.pingCount + 1 }
  if (c.pcpServers s).pingCount ≥ e.cfg.maxPingCount then (.setNotWorking, e.wakeNow c s)
  else
    match (c.pcpServers s).pingFlowMsg with
    | none => (.ping, e.wakeNow c s)
    | some p =>
      let c := handleFlowEvent e c p .flowTimedout none
      if (c.heap p).state = .failed then (.setNotWorking, e.wakeNow c s)
      else (.waitPingResp, c.setNextTimeout s (c.heap p).timeout)

def handleWaitIoReceiveMsg (e : Env) (c : Ctx) (s : Nat) : ServerState × Ctx :=
  if c.msg.recvResult = resUnsuppVersion then
    (.versionNegotiation, (e.wakeNow c s).modServer s fun v =>
      { v with nextVersion := c.msg.recvVersion.toUInt8 })
  else if c.msg.recvResult = resAddressMismatch then (.setNotWorking, e.wakeNow c s)
  else
    match serverProcessRcvdPcpMsg e c s with
    | (f, c) =>
      let cmp := compareEpochs c.msg (c.pcpServers s)
      let c := c.setServer s cmp.2
      if cmp.1 then
        let c := c.modServer s fun v =>
          { v with epoch := c.msg.recvEpoch, cepoch := c.msg.receivedTime }
        (.serverRestart, (e.wakeNow c s).modServer s fun v => { v with restartFlowMsg := f })
      else (.waitIoCalcNearestTimeout, e.wakeNow c s)

def handleWaitPingRespRecv (e : Env) (c : Ctx) (s : Nat) : ServerState × Ctx :=
  match handleWaitIoReceiveMsg e c s with
  | (.waitIoCalcNearestTimeout, c) => (.sendAllMsgs, c)
  | (.waitIo, c) => (.waitPingResp, c)
  | r => r

/-- The end of `handle_version_negotiation`, with the message to ping with. -/
def negotiationPing (e : Env) (c : Ctx) (s : Nat) (p : FlowId) : ServerState × Ctx :=
  let c := c.modFlow p fun v => { v with retryCount := 0, resendTimeout := 0 }
  let c := handleFlowEvent e c p .send none
  if (c.heap p).state = .failed then (.setNotWorking, c)
  else (.waitPingResp, c.setNextTimeout s (c.heap p).timeout)

/-- For version 0 the current ping message is put back and replaced by an announce request. -/
def natpmpPingMsg (e : Env) (c : Ctx) (s : Nat) : Option FlowId × Ctx :=
  let c := match (c.pcpServers s).pingFlowMsg with
    | some p => c.modFlow p fun v => { v with state := .waitForServerInit, timeout := .zero }
    | none => c
  createNatpmpAnnMsg e c s

def handleVersionNegotiation (e : Env) (c : Ctx) (s : Nat) : ServerState × Ctx :=
  let c := c.modServer s fun v =>
    { v with nextVersion := if v.nextVersion = v.pcpVersion then v.nextVersion - 1 else v.nextVersion }
  let sv := c.pcpServers s
  if sv.pcpVersion = 0 ∨ (e.cfg.minSupportedVersion > 0 ∧ sv.nextVersion < e.cfg.minSupportedVersion)
  then (.setNotWorking, c)
  else
    let c := c.modServer s fun v => { v with pcpVersion := v.nextVersion }
    let r := if (c.pcpServers s).pcpVersion = 0 then natpmpPingMsg e c s
      else ((c.pcpServers s).pingFlowMsg, c)
    match r with
    | (some p, c) => negotiationPing e c s p
    | (none, c) =>
      match getPingMsg c s with
      | (some p, c) => negotiationPing e c s p
      | (none, c) => (.ping, c.setNextTimeout s .zero)

def handleSendAllMsgs (e : Env) (c : Ctx) (s : Nat) : ServerState × Ctx :=
  (.waitIoCalcNearestTimeout, e.wakeNow (sendEventAll e s .serverInitialized c) s)

def handleServerRestart (e : Env) (c : Ctx) (s : Nat) : ServerState × Ctx :=
  let c := sendEventAll e s .serverRestarted c
  (.waitIoCalcNearestTimeout,
    e.wakeNow (c.modServer s fun v => { v with restartFlowMsg := none }) s)

/-- `handle_wait_io_timeout`. The walk is over all flows of the table. -/
def handleWaitIoTimeout (e : Env) (c : Ctx) (s : Nat) : ServerState × Ctx :=
  let c := c.setNextTimeout s .zero
  let c := c.allFlows.foldl (checkFlowTimeout e s) c
  let nt := (c.pcpServers s).nextTimeout
  if nt.isZero then (.waitIo, c)
  else
    let ctv := e.now c.io
    (.waitIo, c.tick.setNextTimeout s
      (timevalAlign ⟨nt.tvSec + ctv.tvSec, nt.tvUsec + ctv.tvUsec⟩))

def handleServerSetNotWorking (e : Env) (c : Ctx) (s : Nat) : ServerState × Ctx :=
  let c := sendEventAll e s .failed c
  (.notWorking, (c.setNextTimeout s
    ((e.now c.io).addSec e.cfg.serverDiscoveryRetryDelay)).tick)

def handleServerNotWorking (e : Env) (c : Ctx) (s : Nat) : ServerState × Ctx :=
  let cmp := timevalComp (e.now c.io) (c.pcpServers s).nextTimeout
  let c := c.tick.setNextTimeout s cmp.2.2
  if cmp.1 < 0 then
    if c.msg.recvResult = resUnsuppVersion ∨ c.msg.recvResult = resAddressMismatch then
      (.notWorking, c)
    else
      match serverProcessRcvdPcpMsg e c s with
      | (f, c) =>
        let c := c.modServer s fun v =>
          { v with epoch := c.msg.recvEpoch, cepoch := c.msg.receivedTime }
        (.serverRestart, (e.wakeNow c s).modServer s fun v => { v with restartFlowMsg := f })
  else (.serverReping, c.setNextTimeout s cmp.2.1)

def handleServerReping (e : Env) (c : Ctx) (s : Nat) : ServerState × Ctx :=
  (.ping, e.wakeNow (c.modServer s fun v => { v with pcpVersion := pcpMaxSupportedVersion }) s)

def pcpTerminateServer (_ : Env) (c : Ctx) (s : Nat) : ServerState × Ctx :=
  (.allocated, c.setNextTimeout s .zero)

def ignoreEvents (_ : Env) (c : Ctx) (s : Nat) : ServerState × Ctx :=
  ((c.pcpServers s).serverState, c.setNextTimeout s .zero)

def logUnexepectedStateEvent (e : Env) (c : Ctx) (s : Nat) : ServerState × Ctx :=
  (.setNotWorking, e.wakeNow c s)

/-! ## Dispatch -/

/-- The handlers that occur in `server_sm`. -/
inductive ServerHandler where
  | terminate
  | ping
  | waitPingRespTimeout
  | waitPingRespRecv
  | versionNegotiation
  | sendAllMsgs
  | waitIoReceiveMsg
  | waitIoTimeout
  | restart
  | reping
  | setNotWorking
  | notWorking
  | ignoreEvents
  | unexpected
  deriving DecidableEq, Repr

def ServerHandler.run : ServerHandler → Env → Ctx → Nat → ServerState × Ctx
  | .terminate => pcpTerminateServer
  | .ping => handleServerPing
  | .waitPingRespTimeout => handleWaitPingRespTimeout
  | .waitPingRespRecv => handleWaitPingRespRecv
  | .versionNegotiation => handleVersionNegotiation
  | .sendAllMsgs => handleSendAllMsgs
  | .waitIoReceiveMsg => handleWaitIoReceiveMsg
  | .waitIoTimeout => handleWaitIoTimeout
  | .restart => handleServerRestart
  | .reping => handleServerReping
  | .setNotWorking => handleServerSetNotWorking
  | .notWorking => handleServerNotWorking
  | .ignoreEvents => LibPcp.ignoreEvents
  | .unexpected => logUnexepectedStateEvent

/-- `server_sm`: state (`none` is `pss_any`), event (`none` is `pcpe_any`), handler. -/
def serverSm : List (Option ServerState × Option ServerEvent × ServerHandler) :=
  [(none, some .terminate, .terminate),
   (some .ping, none, .ping),
   (some .waitPingResp, some .timeout, .waitPingRespTimeout),
   (some .waitPingResp, some .ioEvent, .waitPingRespRecv),
   (some .versionNegotiation, none, .versionNegotiation),
   (some .sendAllMsgs, none, .sendAllMsgs),
   (some .waitIo, some .ioEvent, .waitIoReceiveMsg),
   (some .waitIo, some .timeout, .waitIoTimeout),
   (some .waitIoCalcNearestTimeout, none, .waitIoTimeout),
   (some .serverRestart, none, .restart),
   (some .serverReping, none, .reping),
   (some .setNotWorking, none, .setNotWorking),
   (some .notWorking, none, .notWorking),
   (some .allocated, none, .ignoreEvents),
   (none, none, .unexpected)]

/-- Handler of the first matching row of `server_sm`. -/
def serverHandler (st : ServerState) (ev : ServerEvent) : Option ServerHandler :=
  (serverSm.find? fun r => (r.1 = some st ∨ r.1 = none) ∧ (r.2.1 = none ∨ r.2.1 = some ev)).map
    fun r => r.2.2

def runServerStateMachine (e : Env) (c : Ctx) (s : Nat) (ev : ServerEvent) : Ctx :=
  match serverHandler (c.pcpServers s).serverState ev with
  | none => c
  | some h =>
    match h.run e c s with
    | (st, c) => c.modServer s fun v => { v with serverState := st }

/-- The loop of `hserver_iter`: the time left to the server's timer, or the time of day when there
is no timer. -/
def hserverLoop (e : Env) (s : Nat) : Nat → Ctx → Option (Timeval × Ctx)
  | 0, _ => none
  | n + 1, c =>
    let ctv := e.now c.io
    let c := c.tick
    let nt := (c.pcpServers s).nextTimeout
    if nt.isZero then some (ctv, c)
    else
      let sub := timevalSubtractInto nt ctv
      let c := c.setNextTimeout s sub.2.1
      if sub.1 then hserverLoop e s n (runServerStateMachine e c s .timeout)
      else some (sub.2.2, c)

/-- `hserver_iter`; `resTimeout` is `none` for a `NULL` pointer. -/
def hserverIter (e : Env) (n : Nat) (ev : ServerEvent) (c : Ctx) (s : Nat)
    (resTimeout : Option Timeval) : Option (Ctx × Option Timeval) :=
  if (c.pcpServers s).serverState = .unitialized then some (c, resTimeout)
  else
    let c := if ev ≠ .timeout then runServerStateMachine e c s ev else c
    match hserverLoop e s n c with
    | none => none
    | some (ctv, c) =>
      match resTimeout with
      | none => some (c, none)
      | some t =>
        if (c.pcpServers s).nextTimeout.isZero then some (c, some t)
        else if t.isZero then some (c, some ctv)
        else
          let cmp := timevalComp ctv t
          some (c, some (if cmp.1 < 0 then cmp.2.1 else cmp.2.2))

/-! ## `pcp_pulse` -/

/-- `pcp_fill_in6_addr`; an unknown family leaves its outputs alone. -/
def pcpFillIn6Addr (dst : In6Addr × UInt16 × UInt32) : SockAddr → In6Addr × UInt16 × UInt32
  | .inet a p => (.v4mapped a, p, 0)
  | .inet6 a p sc => (a, p, sc)
  | .other .. => dst

/-- `read_msg` and the time of reception. The buffer holds `PCP_MAX_LEN` bytes. -/
def readMsg (e : Env) (c : Ctx) (dg : Datagram) : Ctx :=
  let bytes := dg.bytes.take pcpMaxLen
  { c.tick with msg := { RecvMsg.zero with
      pcpMsgBuffer := Buf.ofList bytes, pcpMsgLen := bytes.length
      rcvdFromAddr := dg.src, rcvdToAddr := dg.dst
      receivedTime := (e.now c.io).tvSec } }

/-- The key as `pcp_pulse` completes it for server `s`. -/
def completeKey (s : Server) (scopeId : UInt32) (m : RecvMsg) : RecvMsg :=
  let dst := pcpFillIn6Addr (m.kd.srcIp, 0, m.kd.scopeId) m.rcvdToAddr
  let kd := { m.kd with pcpServerIp := s.pcpIp, srcIp := dst.1, scopeId := dst.2.2 }
  let kd := if kd.srcIp.isAny then { kd with srcIp := s.srcIp, scopeId := scopeId } else kd
  let kd := if m.recvVersion < 2 then { kd with nonce := s.nonce } else kd
  { m with pcpServerIndx := s.index, kd := kd }

/-- Validation, parsing and the search for the server: the slot, and the context with the completed
message. The addresses `recvfrom` reports are of one of the two known families. -/
def acceptMsg (e : Env) (c : Ctx) : Option Nat × Ctx :=
  if validatePcpMsg c.msg then
    match parseResponse e.cfg c.msg with
    | (.success, m) =>
      let c := { c with msg := m }
      let src := pcpFillIn6Addr (.any, 0, 0) m.rcvdFromAddr
      match getPcpServerByIp c src.1 src.2.2 with
      | some s => (some s, { c with msg := completeKey (c.pcpServers s) src.2.2 m })
      | none => (none, c)
    | (_, m) => (none, { c with msg := m })
  else (none, c)

/-- The first half of `pcp_pulse`. -/
def pulseRecv (e : Env) (n : Nat) (c : Ctx) : Option Datagram → Option Ctx
  | none => some { c with msg := .zero }
  | some dg =>
    match acceptMsg e (readMsg e c dg) with
    | (some s, c) => (hserverIter e n .ioEvent c s none).map (·.1)
    | (none, c) => some c

/-- `pcp_db_foreach_server(ctx, hserver_iter, …)` over the slots `ss`. -/
def pulseTimeouts (e : Env) (n : Nat) : List Nat → Ctx → Option Timeval → Option (Ctx × Option Timeval)
  | [], c, t => some (c, t)
  | s :: ss, c, t =>
    match hserverIter e n .timeout c s t with
    | none => none
    | some (c, t) => pulseTimeouts e n ss c t

/-- `pcp_pulse` with the datagram the socket holds, if any: the context and `*next_timeout`. -/
def pcpPulse (e : Env) (n : Nat) (c : Ctx) (dg : Option Datagram) (nextTimeout : Timeval) :
    Option (Ctx × Option Timeval) :=
  match pulseRecv e n c dg with
  | none => none
  | some c => pulseTimeouts e n (List.range c.pcpServersLength) c (some nextTimeout)

end LibPcp
