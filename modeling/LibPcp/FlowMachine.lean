import LibPcp.ClientDb
import LibPcp.MsgBuild

/-!
# LibPcp.FlowMachine

The flow state machine of `pcp_event_handler.c`: sending, the transition handlers, the two tables
and `handle_flow_event`.

A handler reads the flow, the record of the flow's server and the received message, and changes only
the flow and the environment counters; `flowLoop` is the loop that follows the events the handlers
return. It takes a bound on the number of rounds and `flowLoop_total` shows that five suffice from
every state and event, so `handleFlowEvent` is total.
-/

namespace LibPcp

open ByteBuffer

/-! ## Sending -/

/-- `pcp_fill_sockaddr`. -/
def pcpFillSockaddr (ip : In6Addr) (port : UInt16) (retIpv6MappedIpv4 : Bool) (scopeId : UInt32) :
    SockAddr :=
  if !retIpv6MappedIpv4 && ip.isV4mapped then .inet ip.w3 port else .inet6 ip port scopeId

/-- The loop of `pcp_flow_send_msg` around `sendto`, which takes at most the bytes it is offered.
Every call that accepts bytes is one datagram. The first argument bounds the calls. -/
def sendLoop (e : Env) (mk : List UInt8 → Sent) (b : Buf) (len : Nat) :
    Nat → Nat → Io → Bool × Io
  | 0, toSend, io => (toSend == 0, io)
  | n + 1, toSend, io =>
    if toSend = 0 then (true, io)
    else
      let ret := min (e.sendto io.sends) toSend
      let io' := { io with sends := io.sends + 1 }
      if ret ≤ 0 then (false, io')
      else
        sendLoop e mk b len n (toSend - ret.toNat)
          { io' with sent := mk (b.slice (len - toSend) ret.toNat) :: io'.sent }

/-- `pcp_flow_send_msg` to the server in slot `i` with record `s`; `true` is `PCP_ERR_SUCCESS`. -/
def pcpFlowSendMsg (e : Env) (id : FlowId) (i : Nat) (s : Server) (f : Flow) (io : Io) :
    Bool × Flow × Io :=
  let r := if f.pcpMsgBuffer.isNone ∨ f.pcpMsgLen = 0 then buildPcpMsg e (some s) f io else (f, io)
  match r.1.pcpMsgBuffer with
  | none => (false, r.1, r.2.sendErr)
  | some b =>
    let mk (bytes : List UInt8) : Sent :=
      { flow := id, server := i, src := pcpFillSockaddr r.1.kd.srcIp 0 true s.pcpScopeId,
        dest := s.pcpServerSaddr, bytes := bytes }
    match sendLoop e mk b r.1.pcpMsgLen r.1.pcpMsgLen r.1.pcpMsgLen r.2 with
    | (true, io') => (true, r.1.clearMsgBuf, io')
    | (false, io') => (false, r.1, io'.sendErr)

/-! ## Transition handlers -/

/-- What a handler can see besides its flow. -/
structure FlowEnv where
  env : Env
  id : FlowId
  -- the server the flow's index resolves to
  server : Option Server
  msg : Option RecvMsg

/-- `PCP_RT`, in 32-bit arithmetic. -/
def pcpRt (cfg : Config) (rtprev : UInt32) (r : Nat) : UInt32 :=
  let rtprev := rtprev <<< 1
  let bounded := if rtprev > cfg.retxIrt then rtprev else cfg.retxIrt
  let bounded := if bounded < cfg.retxMrt then bounded else cfg.retxMrt
  (UInt32.ofNat (8192 + 1024 - (r &&& 2047)) * bounded) >>> 13

/-- `gettimeofday(&f->timeout)`, then `resend_timeout` milliseconds more. -/
def armResend (x : FlowEnv) (f : Flow) (io : Io) : Flow × Io :=
  ({ f with timeout := (x.env.now io).addMs f.resendTimeout.toNat }, io.tick)

def fhndlSend (x : FlowEnv) (f : Flow) (io : Io) : FlowEvent × Flow × Io :=
  match x.server with
  | none => (.failed, f, io)
  | some s =>
    if s.restartFlowMsg = some x.id then (.ignored, f, io)
    else
      match pcpFlowSendMsg x.env x.id f.pcpServerIndx s f io with
      | (false, r) => (.failed, r)
      | (true, f, io) => (.msgSent, armResend x { f with resendTimeout := x.env.cfg.retxIrt } io)

def fhndlResend (x : FlowEnv) (f : Flow) (io : Io) : FlowEvent × Flow × Io :=
  match x.server with
  | none => (.failed, f, io)
  | some s =>
    let mrc := x.env.cfg.retxMrc
    let f := if mrc > 0 then { f with retryCount := f.retryCount + 1 } else f
    if mrc > 0 ∧ f.retryCount ≥ mrc then (.failed, f, io)
    else
      match pcpFlowSendMsg x.env x.id f.pcpServerIndx s f io with
      | (false, r) => (.failed, r)
      | (true, f, io) =>
        let rt := pcpRt x.env.cfg f.resendTimeout (x.env.rand io.rands)
        (.msgSent, armResend x { f with resendTimeout := rt } { io with rands := io.rands + 1 })

def fhndlShortlifeerror (x : FlowEnv) (f : Flow) (io : Io) : FlowEvent × Flow × Io :=
  match x.msg with
  -- the table enters this state on a response only
  | none => (.none, f, io)
  | some m =>
    (.none, { f with
      recvResult := m.recvResult
      timeout := (x.env.now io).addSec m.recvLifetime.toNat }, io.tick)

/-- The fields of the flow that a success response sets. -/
def takeSuccess (cfg : Config) (m : RecvMsg) (f : Flow) : Flow :=
  let f := { f with
    recvLifetime := if (m.recvLifetime.toNat : Int) > longMax - m.receivedTime then longMax
      else m.receivedTime + m.recvLifetime.toNat }
  let f := if f.kd.operation = opcodeMap ∨ f.kd.operation = opcodePeer then
      { f with extIp := m.assignedExtIp, extPort := m.assignedExtPort }
    else if cfg.sadscp ∧ f.kd.operation = opcodeSadscp then { f with learnedDscp := m.recvDscp }
    else f
  { f with recvResult := m.recvResult }

def fhndlReceivedSuccess (x : FlowEnv) (f : Flow) (io : Io) : FlowEvent × Flow × Io :=
  match x.msg with
  | none => (.none, f, io)
  | some m =>
    let f := takeSuccess x.env.cfg m f
    let ctv := x.env.now io
    (.none, { f with
      timeout := if m.recvLifetime = 0 then .zero
        else ctv.addSec ((f.recvLifetime - ctv.tvSec) >>> (1 : Nat)) }, io.tick)

def fhndlSendRenew (x : FlowEnv) (f : Flow) (io : Io) : FlowEvent × Flow × Io :=
  match x.server with
  | none => (.failed, f, io)
  | some s =>
    match pcpFlowSendMsg x.env x.id f.pcpServerIndx s f io with
    | (false, r) => (.failed, r)
    | (true, f, io) =>
      let ctv := x.env.now io
      let timeoutAdd := (f.recvLifetime - ctv.tvSec) >>> (1 : Nat)
      if timeoutAdd = 0 then (.failed, { f with timeout := ctv }, io.tick)
      else (.msgSent, { f with timeout := ctv.addSec timeoutAdd }, io.tick)

def fhndlClearTimeouts (x : FlowEnv) (f : Flow) (io : Io) : FlowEvent × Flow × Io :=
  let f := match x.msg with
    | some m => { f with recvResult := m.recvResult }
    | none => f
  (.none, { f.clearMsgBuf with timeout := .zero }, io)

def fhndlWaitresp (x : FlowEnv) (f : Flow) (io : Io) : FlowEvent × Flow × Io :=
  let cmp := timevalComp f.timeout (x.env.now io)
  (if cmp.1 < 0 then .failed else .none, { f with timeout := cmp.2.1 }, io.tick)

/-! ## Tables -/

/-- The handlers that occur in `flow_transitions`. -/
inductive FlowHandler where
  | waitresp
  | resend
  | send
  | shortlifeerror
  | receivedSuccess
  | sendRenew
  | clearTimeouts
  deriving DecidableEq, Repr

def FlowHandler.run : FlowHandler → FlowEnv → Flow → Io → FlowEvent × Flow × Io
  | .waitresp => fhndlWaitresp
  | .resend => fhndlResend
  | .send => fhndlSend
  | .shortlifeerror => fhndlShortlifeerror
  | .receivedSuccess => fhndlReceivedSuccess
  | .sendRenew => fhndlSendRenew
  | .clearTimeouts => fhndlClearTimeouts

/-- `flow_transitions`: state from (`none` is `pfs_any`), state to, handler. -/
def flowTransitions : List (Option FlowState × FlowState × FlowHandler) :=
  [(none, .waitResp, .waitresp),
   (some .waitResp, .send, .resend),
   (none, .send, .send),
   (none, .waitAfterShortLifeError, .shortlifeerror),
   (some .waitResp, .waitForLifetimeRenew, .receivedSuccess),
   (none, .sendRenew, .sendRenew),
   (some .waitForLifetimeRenew, .waitForLifetimeRenew, .receivedSuccess),
   (none, .waitForServerInit, .clearTimeouts),
   (none, .failed, .clearTimeouts)]

/-- `flow_events_sm`: state (`none` is `pfs_any`), event, new state. -/
def flowEventsSm : List (Option FlowState × FlowEvent × FlowState) :=
  [(none, .send, .send),
   (some .waitForServerInit, .serverInitialized, .send),
   (some .waitResp, .res resSuccess, .waitForLifetimeRenew),
   (some .waitResp, .res resUnsuppVersion, .waitForServerInit),
   (some .waitResp, .res resNetworkFailure, .waitAfterShortLifeError),
   (some .waitResp, .res resNoResources, .waitAfterShortLifeError),
   (some .waitResp, .res resExcessiveRemotePeers, .waitAfterShortLifeError),
   (some .waitResp, .res resUserExQuota, .waitAfterShortLifeError),
   (some .waitResp, .flowTimedout, .send),
   (some .waitResp, .serverInitialized, .send),
   (some .send, .serverInitialized, .send),
   (some .send, .msgSent, .waitResp),
   (some .send, .flowTimedout, .send),
   (some .waitAfterShortLifeError, .flowTimedout, .send),
   (some .waitForLifetimeRenew, .flowTimedout, .sendRenew),
   (some .waitForLifetimeRenew, .res resSuccess, .waitForLifetimeRenew),
   (some .waitForLifetimeRenew, .res resUnsuppVersion, .waitForServerInit),
   (some .waitForLifetimeRenew, .res resNetworkFailure, .sendRenew),
   (some .waitForLifetimeRenew, .res resNoResources, .sendRenew),
   (some .waitForLifetimeRenew, .res resExcessiveRemotePeers, .sendRenew),
   (some .waitForLifetimeRenew, .failed, .send),
   (some .waitForLifetimeRenew, .res resUserExQuota, .sendRenew),
   (some .sendRenew, .msgSent, .waitForLifetimeRenew),
   (some .sendRenew, .flowTimedout, .sendRenew),
   (some .sendRenew, .failed, .send),
   (some .send, .ignored, .waitForLifetimeRenew),
   (none, .serverRestarted, .send),
   (none, .failed, .failed),
   (some .waitResp, .res resNotAuthorized, .failed),
   (some .waitResp, .res resMalformedRequest, .failed),
   (some .waitResp, .res resUnsuppOpcode, .failed),
   (some .waitResp, .res resUnsuppOption, .failed),
   (some .waitResp, .res resUnsuppProtocol, .failed),
   (some .waitResp, .res resCannotProvideExternal, .failed),
   (some .waitResp, .res resAddressMismatch, .failed),
   (some .waitForLifetimeRenew, .res resNotAuthorized, .failed),
   (some .waitForLifetimeRenew, .res resMalformedRequest, .failed),
   (some .waitForLifetimeRenew, .res resUnsuppOpcode, .failed),
   (some .waitForLifetimeRenew, .res resUnsuppOption, .failed),
   (some .waitForLifetimeRenew, .res resUnsuppProtocol, .failed),
   (some .waitForLifetimeRenew, .res resCannotProvideExternal, .failed),
   (some .waitForLifetimeRenew, .res resAddressMismatch, .failed)]

/-- New state of the first matching row of `flow_events_sm`. -/
def nextState (cur : FlowState) (ev : FlowEvent) : Option FlowState :=
  (flowEventsSm.find? fun r => (r.1 = some cur ∨ r.1 = none) ∧ r.2.1 = ev).map fun r => r.2.2

/-- Handler of the first matching row of `flow_transitions`. -/
def transHandler (cur next : FlowState) : Option FlowHandler :=
  (flowTransitions.find? fun r => (r.1 = some cur ∨ r.1 = none) ∧ r.2.1 = next).map fun r => r.2.2

/-- The loop of `handle_flow_event`; `none` only when the bound is too small. -/
def flowLoop (x : FlowEnv) : Nat → FlowState → FlowEvent → Flow → Io → Option (Flow × Io)
  | 0, _, _, _, _ => none
  | n + 1, cur, ev, f, io =>
    match nextState cur ev with
    | none => some (f, io)
    | some next =>
      match transHandler cur next with
      | none => some ({ f with state := next }, io)
      | some h =>
        match h.run x { f with state := next } io with
        | (.none, r) => some r
        | (ev', f', io') => flowLoop x n next ev' f' io'

/-! ## `handle_flow_event` -/

/-- The flow and its children, as the loops over `next_child` visit them. The first argument bounds
the length of the chain. -/
def chainAux (heap : FlowId → Flow) : Nat → Option FlowId → List FlowId
  | _, none => []
  | 0, some f => [f]
  | n + 1, some f => f :: chainAux heap n (heap f).nextChild

def Ctx.chain (c : Ctx) (f : FlowId) : List FlowId := chainAux c.heap c.heapTop (some f)

/-- `pcp_eval_flow_state`: the aggregate state reported to the application. -/
def pcpEvalFlowState (c : Ctx) (f : FlowId) : FState :=
  let states := (c.chain f).map fun i => (c.heap i).state
  let fsuccess := states.any (· = .waitForLifetimeRenew)
  let ffailed := states.any (· = .failed)
  let fpresentNoExitState := states.any fun s =>
    s ≠ .waitForLifetimeRenew ∧ s ≠ .failed ∧ s ≠ .waitAfterShortLifeError
  if fpresentNoExitState then if fsuccess then .partialResult else .processing
  else if fsuccess then .succeeded
  else if ffailed then .failed
  else .shortLifetimeError

/-- `flow_change_notify`. -/
def flowChangeNotify (c : Ctx) (f : FlowId) (state : FState) : Ctx :=
  if c.flowChangeCb then
    let v := c.heap f
    { c with notified :=
      { flow := f
        src := pcpFillSockaddr v.kd.srcIp v.kd.srcPort false v.kd.scopeId
        ext := if state = .succeeded then pcpFillSockaddr v.extIp v.extPort false 0
          else .inet 0 0
        state := state } :: c.notified }
  else c

def Ctx.flowEnv (c : Ctx) (e : Env) (f : FlowId) (m : Option RecvMsg) : FlowEnv :=
  { env := e, id := f, server := serverOf c (c.heap f).pcpServerIndx, msg := m }

/-- What `handle_flow_event` makes of the flow itself. -/
def flowStep (x : FlowEnv) (ev : FlowEvent) (f : Flow) (io : Io) : Flow × Io :=
  (flowLoop x 5 f.state ev f io).getD (f, io)

/-- The entry `handle_flow_event` leaves in the log. -/
def handledEvent (e : Env) (c : Ctx) (f : FlowId) (ev : FlowEvent) (m : Option RecvMsg) : Handled :=
  let x := c.flowEnv e f m
  let r := flowStep x ev (c.heap f) c.io
  { flow := f, ev := ev, msg := m, server := x.server, old := c.heap f, new := r.1, before := c.io,
    after := r.2 }

/-- `handle_flow_event`; the state it returns is the one of the flow afterwards. -/
def handleFlowEvent (e : Env) (c : Ctx) (f : FlowId) (ev : FlowEvent) (m : Option RecvMsg) : Ctx :=
  let v := c.heap f
  let r := flowStep (c.flowEnv e f m) ev v c.io
  let c' := { c.setFlow f r.1 with io := r.2, handled := handledEvent e c f ev m :: c.handled }
  if pcpEvalFlowState c f ≠ pcpEvalFlowState c' f ∨ v.extIp ≠ r.1.extIp ∨ v.extPort ≠ r.1.extPort then
    flowChangeNotify c' f (pcpEvalFlowState c' f)
  else c'

end LibPcp
