import Mathlib.Tactic.Simps.Basic
import LibPcp.Buffer
import LibPcp.Timeval

/-!
# LibPcp.Types

The data model of the client: enumerations of `pcp_event_handler.h`, addresses, the flow key, the
flow, server and received-message records of `pcp_client_db.h`, the build configuration and the
environment.

Pointers to flows are `FlowId`s, pointers to servers are indices into the server table. Fields kept
in network byte order (ports, addresses, nonces) are stored as the number read from the wire, so
copying memory to or from a packet is writing or reading that number in network order. `NULL` is
`none`.

What the library cannot decide itself is in `Env`: the clock, what the socket accepts, `rand`,
allocation outcomes, the source address the kernel selects, and new nonces. Each is a sequence and
`Io` counts how many of its elements have been used, so one `Env` fixes a whole run and a theorem
for every `Env` covers every outcome of every call.
-/

namespace LibPcp

open ByteBuffer

/-! ## Enumerations -/

/-- `pcp_flow_state_e`; the table wildcard `pfs_any` is `none` in `Option FlowState`. -/
inductive FlowState where
  | idle
  | waitForServerInit
  | send
  | waitResp
  | waitAfterShortLifeError
  | waitForLifetimeRenew
  | sendRenew
  | failed
  deriving DecidableEq, Repr, Inhabited

/-- `pcp_event_e` without the wildcard `pcpe_any`. -/
inductive ServerEvent where
  | timeout
  | ioEvent
  | terminate
  deriving DecidableEq, Repr, Inhabited

/-- `pcp_flow_event_e`; `res c` is `FEV_RES_BEGIN + c`. -/
inductive FlowEvent where
  | flowTimedout
  | serverInitialized
  | send
  | msgSent
  | failed
  | none
  | serverRestarted
  | ignored
  | res (code : UInt32)
  deriving DecidableEq, Repr, Inhabited

/-- `pcp_server_state_e`; the wildcard `pss_any` is `none` in `Option ServerState`. -/
inductive ServerState where
  | unitialized
  | allocated
  | ping
  | waitPingResp
  | versionNegotiation
  | sendAllMsgs
  | waitIo
  | waitIoCalcNearestTimeout
  | serverRestart
  | serverReping
  | setNotWorking
  | notWorking
  deriving DecidableEq, Repr, Inhabited

/-- `pcp_fstate_e`, the state reported to the application. -/
inductive FState where
  | processing
  | succeeded
  | partialResult
  | shortLifetimeError
  | failed
  deriving DecidableEq, Repr, Inhabited

/-- `pcp_errno`. -/
inductive Errno where
  | success
  | maxSize
  | optAlreadyPresent
  | badAfinet
  | sendFailed
  | recvFailed
  | unsupVersion
  | noMem
  | badArgs
  | unknown
  | shortLifetimeErr
  | timeout
  | notFound
  | wouldblock
  | addrinuse
  deriving DecidableEq, Repr, Inhabited

/-! ## Protocol constants -/

def pcpMaxLen : Nat := 1100

def opcodeAnnounce : UInt8 := 0
def opcodeMap : UInt8 := 1
def opcodePeer : UInt8 := 2
def opcodeSadscp : UInt8 := 3
def natpmpOpcodeAnnounce : UInt8 := 0
def natpmpOpcodeMapUdp : UInt8 := 1
def natpmpOpcodeMapTcp : UInt8 := 2

def ipprotoTcp : UInt8 := 6
def ipprotoUdp : UInt8 := 17

def resSuccess : UInt32 := 0
def resUnsuppVersion : UInt32 := 1
def resNotAuthorized : UInt32 := 2
def resMalformedRequest : UInt32 := 3
def resUnsuppOpcode : UInt32 := 4
def resUnsuppOption : UInt32 := 5
def resMalformedOption : UInt32 := 6
def resNetworkFailure : UInt32 := 7
def resNoResources : UInt32 := 8
def resUnsuppProtocol : UInt32 := 9
def resUserExQuota : UInt32 := 10
def resCannotProvideExternal : UInt32 := 11
def resAddressMismatch : UInt32 := 12
def resExcessiveRemotePeers : UInt32 := 13

def maxUserId : Nat := 512
def maxDeviceId : Nat := 32
def maxGeoStr : Nat := 32
def mdValMaxLen : Nat := 24

def pcpMaxSupportedVersion : UInt8 := 2

/-- `PCP_SERVER_PORT`. -/
def pcpServerPort : UInt16 := 5351

/-- `LONG_MAX` with a 64-bit `long`. -/
def longMax : Int := 2 ^ 63 - 1

/-! ## Addresses and keys -/

/-- `struct in6_addr` as the four words of `S6_ADDR32`. -/
structure In6Addr where
  w0 : UInt32
  w1 : UInt32
  w2 : UInt32
  w3 : UInt32
  deriving DecidableEq, Repr, Inhabited

namespace In6Addr

def any : In6Addr := ⟨0, 0, 0, 0⟩

/-- The IPv4-mapped form of an IPv4 address. -/
def v4mapped (a : UInt32) : In6Addr := ⟨0, 0, 0xFFFF, a⟩

/-- `IN6_IS_ADDR_V4MAPPED`. -/
def isV4mapped (a : In6Addr) : Bool := a.w0 == 0 && a.w1 == 0 && a.w2 == 0xFFFF

/-- `IN6_IS_ADDR_LINKLOCAL`: `fe80::/10`. -/
def isLinklocal (a : In6Addr) : Bool := a.w0 &&& 0xFFC00000 == 0xFE800000

/-- `IN6_IS_ADDR_LOOPBACK`: `::1`. -/
def isLoopback (a : In6Addr) : Bool := a == ⟨0, 0, 0, 1⟩

/-- `IPV6_IS_ADDR_ANY`: `::` or the mapped `0.0.0.0`. -/
def isAny (a : In6Addr) : Bool := a == any || (a.isV4mapped && a.w3 == 0)

def bytes (a : In6Addr) : List UInt8 := be32 a.w0 ++ be32 a.w1 ++ be32 a.w2 ++ be32 a.w3

@[simp] theorem bytes_length (a : In6Addr) : a.bytes.length = 16 := rfl

end In6Addr

/-- `struct pcp_nonce`. -/
structure Nonce where
  n0 : UInt32
  n1 : UInt32
  n2 : UInt32
  deriving DecidableEq, Repr, Inhabited

def Nonce.bytes (n : Nonce) : List UInt8 := be32 n.n0 ++ be32 n.n1 ++ be32 n.n2

@[simp] theorem Nonce.bytes_length (n : Nonce) : n.bytes.length = 12 := rfl

/-- `struct sockaddr` by family. A family other than the two known ones keeps what the code would
read from it as a `sockaddr_in6`. -/
inductive SockAddr where
  | inet (addr : UInt32) (port : UInt16)
  | inet6 (addr : In6Addr) (port : UInt16) (scopeId : UInt32)
  | other (addr : In6Addr) (port : UInt16) (scopeId : UInt32)
  deriving DecidableEq, Repr, Inhabited

/-- A zeroed `sockaddr_storage`. -/
def SockAddr.unspec : SockAddr := .other .any 0 0

/-- `struct flow_key_data`; the union has the one member `map_peer`. -/
structure FlowKeyData where
  operation : UInt8
  srcIp : In6Addr
  pcpServerIp : In6Addr
  scopeId : UInt32
  nonce : Nonce
  protocol : UInt8
  srcPort : UInt16
  dstIp : In6Addr
  dstPort : UInt16
  deriving DecidableEq, Repr, Inhabited

/-- A key cleared by `memset`. -/
def FlowKeyData.zero : FlowKeyData :=
  { operation := 0, srcIp := .any, pcpServerIp := .any, scopeId := 0, nonce := ⟨0, 0, 0⟩,
    protocol := 0, srcPort := 0, dstIp := .any, dstPort := 0 }

/-! ## Records -/

/-- Pointer to a flow. -/
abbrev FlowId := Nat

/-- `md_val_t`: at most `MD_VAL_MAX_LEN` bytes of value. -/
structure MdVal where
  mdId : UInt16
  val : List UInt8
  len_le : val.length ≤ mdValMaxLen
  deriving DecidableEq, Repr

/-- `struct pcp_flow_s`. -/
structure Flow where
  kd : FlowKeyData
  /-- `none` is `EMPTY`. -/
  keyBucket : Option Nat
  lifetime : UInt32
  extIp : In6Addr
  extPort : UInt16
  tolerFields : UInt8
  appNameLength : UInt8
  learnedDscp : UInt8
  sadscpAppName : Option (List UInt8)
  recvLifetime : Int
  recvResult : UInt32
  nextChild : Option FlowId
  pcpServerIndx : Nat
  state : FlowState
  resendTimeout : UInt32
  retryCount : UInt32
  timeout : Timeval
  userid : Vector UInt8 maxUserId
  location : Vector UInt8 maxGeoStr
  deviceid : Vector UInt8 maxDeviceId
  flowpOptionPresent : Bool
  flowpDscpUp : UInt8
  flowpDscpDown : UInt8
  pfailureOptionPresent : Bool
  filterOptionPresent : Bool
  filterPrefix : UInt8
  filterPort : UInt16
  filterIp : In6Addr
  thirdPartyOptionPresent : Bool
  thirdPartyIp : In6Addr
  mdVals : List MdVal
  pcpMsgLen : Nat
  pcpMsgBuffer : Option Buf

/-- A flow cleared by `calloc`. -/
def Flow.zero : Flow :=
  { kd := .zero, keyBucket := some 0, lifetime := 0, extIp := .any, extPort := 0,
    tolerFields := 0, appNameLength := 0, learnedDscp := 0, sadscpAppName := none,
    recvLifetime := 0, recvResult := 0, nextChild := none, pcpServerIndx := 0, state := .idle,
    resendTimeout := 0, retryCount := 0, timeout := .zero, userid := Vector.replicate _ 0,
    location := Vector.replicate _ 0, deviceid := Vector.replicate _ 0,
    flowpOptionPresent := false, flowpDscpUp := 0, flowpDscpDown := 0,
    pfailureOptionPresent := false, filterOptionPresent := false, filterPrefix := 0,
    filterPort := 0, filterIp := .any, thirdPartyOptionPresent := false, thirdPartyIp := .any,
    mdVals := [], pcpMsgLen := 0, pcpMsgBuffer := none }

instance : Inhabited Flow := ⟨.zero⟩

/-- `s->af`. -/
inductive Af where
  | inet
  | inet6
  deriving DecidableEq, Repr, Inhabited

/-- `struct pcp_server`. -/
structure Server where
  af : Af
  pcpIp : In6Addr
  pcpPort : UInt16
  pcpScopeId : UInt32
  srcIp : In6Addr
  pcpServerSaddr : SockAddr
  pcpVersion : UInt8
  nextVersion : UInt8
  serverState : ServerState
  epoch : UInt32
  cepoch : Int
  nonce : Nonce
  index : Nat
  pingFlowMsg : Option FlowId
  restartFlowMsg : Option FlowId
  pingCount : UInt32
  nextTimeout : Timeval
  natpmpExtAddr : UInt32
  deriving DecidableEq, Repr

/-- A server record cleared by `calloc` or `memset`. -/
def Server.zero : Server :=
  { af := .inet, pcpIp := .any, pcpPort := 0, pcpScopeId := 0, srcIp := .any,
    pcpServerSaddr := .unspec, pcpVersion := 0, nextVersion := 0, serverState := .unitialized,
    epoch := 0, cepoch := 0, nonce := ⟨0, 0, 0⟩, index := 0, pingFlowMsg := none,
    restartFlowMsg := none, pingCount := 0, nextTimeout := .zero, natpmpExtAddr := 0 }

instance : Inhabited Server := ⟨.zero⟩

/-- `pcp_recv_msg_t`. -/
structure RecvMsg where
  kd : FlowKeyData
  assignedExtIp : In6Addr
  assignedExtPort : UInt16
  recvDscp : UInt8
  recvVersion : UInt32
  recvEpoch : UInt32
  recvLifetime : UInt32
  recvResult : UInt32
  receivedTime : Int
  pcpServerIndx : Nat
  rcvdFromAddr : SockAddr
  rcvdToAddr : SockAddr
  pcpMsgLen : Nat
  pcpMsgBuffer : Buf

/-- A message cleared by `memset`. -/
def RecvMsg.zero : RecvMsg :=
  { kd := .zero, assignedExtIp := .any, assignedExtPort := 0, recvDscp := 0, recvVersion := 0,
    recvEpoch := 0, recvLifetime := 0, recvResult := 0, receivedTime := 0, pcpServerIndx := 0,
    rcvdFromAddr := .unspec, rcvdToAddr := .unspec, pcpMsgLen := 0, pcpMsgBuffer := .zero }

instance : Inhabited RecvMsg := ⟨.zero⟩

/-- What `recvfrom` can deliver: bytes, the sender, and the local address it was sent to. -/
structure Datagram where
  bytes : List UInt8
  src : SockAddr
  dst : SockAddr
  deriving DecidableEq, Repr

/-! ## Build configuration and environment -/

/-- The preprocessor configuration. -/
structure Config where
  /-- `PCP_MAX_PING_COUNT`: 5 in `default_config.h`, 3 in `configure.ac`. -/
  maxPingCount : UInt32 := 5
  /-- `PCP_RETX_IRT`, in milliseconds. -/
  retxIrt : UInt32 := 3000
  /-- `PCP_RETX_MRC`; 0 is no maximum. -/
  retxMrc : UInt32 := 3
  /-- `PCP_RETX_MRT`, in milliseconds. -/
  retxMrt : UInt32 := 1024000
  /-- `PCP_SERVER_DISCOVERY_RETRY_DELAY`, in seconds. -/
  serverDiscoveryRetryDelay : Nat := 3600
  /-- `PCP_MIN_SUPPORTED_VERSION`. -/
  minSupportedVersion : UInt8 := 0
  /-- `PCP_USE_IPV6_SOCKET`. -/
  useIpv6Socket : Bool := true
  /-- `PCP_EXPERIMENTAL`. -/
  experimental : Bool := false
  /-- `PCP_FLOW_PRIORITY`. -/
  flowPriority : Bool := false
  /-- `PCP_SADSCP`. -/
  sadscp : Bool := false
  deriving DecidableEq, Repr

/-- The outcomes of everything the library asks its surroundings for. -/
structure Env where
  cfg : Config
  /-- Successive readings of `gettimeofday` and `time`. -/
  clock : Nat → Timeval
  /-- Return values of successive `sendto` calls. -/
  sendto : Nat → Int
  /-- Successive values of `rand`. -/
  rand : Nat → Nat
  /-- Whether successive `calloc` calls succeed. -/
  calloc : Nat → Bool
  /-- Whether `strdup` of the application name succeeds for the flow at this address. -/
  strdup : FlowId → Bool
  /-- Source address and scope selected by successive kernel lookups, `none` on error. -/
  lookup : Nat → Option (In6Addr × UInt32)
  /-- Successive nonces drawn by `createNonce`. -/
  nonce : Nat → Nonce

/-- Surroundings in which every call succeeds and the clock stands still. -/
def Env.calm (cfg : Config) : Env :=
  { cfg := cfg, clock := fun _ => ⟨1000, 0⟩, sendto := fun _ => pcpMaxLen, rand := fun _ => 0,
    calloc := fun _ => true, strdup := fun _ => true,
    lookup := fun _ => some (.v4mapped 0x0A000002, 0), nonce := fun _ => ⟨1, 2, 3⟩ }

/-- The clock never goes back. -/
def Env.ClockMono (e : Env) : Prop := ∀ i j, i ≤ j → (e.clock i).us ≤ (e.clock j).us

/-- The clock never reads zero. -/
def Env.ClockNonzero (e : Env) : Prop := ∀ i, (e.clock i).us ≠ 0

/-- A datagram handed to the socket, with the flow and the server slot it was sent for. -/
structure Sent where
  flow : FlowId
  server : Nat
  src : SockAddr
  dest : SockAddr
  bytes : List UInt8
  deriving DecidableEq, Repr

/-- How much of each sequence of `Env` has been used, and what was sent, newest first. -/
structure Io where
  ticks : Nat := 0
  sends : Nat := 0
  rands : Nat := 0
  callocs : Nat := 0
  sent : List Sent := []
  -- calls of `pcp_flow_send_msg` that returned an error
  sendErrs : Nat := 0
  deriving DecidableEq, Repr

/-- `gettimeofday`. -/
def Env.now (e : Env) (io : Io) : Timeval := e.clock io.ticks

def Io.tick (io : Io) : Io := { io with ticks := io.ticks + 1 }

def Io.sendErr (io : Io) : Io := { io with sendErrs := io.sendErrs + 1 }

@[simp] theorem Io.tick_ticks (io : Io) : io.tick.ticks = io.ticks + 1 := rfl
@[simp] theorem Io.tick_sent (io : Io) : io.tick.sent = io.sent := rfl

/-- One call of the application's notification callback. -/
structure Notification where
  flow : FlowId
  src : SockAddr
  ext : SockAddr
  state : FState
  deriving DecidableEq, Repr

/-- One call of `handle_flow_event`: its arguments, the flow and its server as it found them, and what
it left. -/
structure Handled where
  flow : FlowId
  ev : FlowEvent
  msg : Option RecvMsg
  server : Option Server
  old : Flow
  new : Flow
  before : Io
  after : Io

def flowHashBits : Nat := 5

/-- `FLOW_HASH_SIZE`, that is `2 << FLOW_HASH_BITS`. -/
def flowHashSize : Nat := 2 <<< flowHashBits

/-- `pcp_ctx_s` with its flow and server memory, plus what the environment has been asked for. -/
structure Ctx where
  pcpServersLength : Nat := 0
  /-- The server array; `NULL` when its length is 0. -/
  pcpServers : Nat → Server := fun _ => .zero
  flowCnt : Nat := 0
  /-- The hash buckets, each the chain of flows linked by `next`. -/
  flows : Nat → List FlowId := fun _ => []
  /-- Memory of the flows. -/
  heap : FlowId → Flow := fun _ => .zero
  /-- The next address the allocator hands out. -/
  heapTop : FlowId := 0
  msg : RecvMsg := .zero
  /-- Whether the application has installed a callback. -/
  flowChangeCb : Bool := false
  notified : List Notification := []
  -- the calls of `handle_flow_event`, newest first
  handled : List Handled := []
  lookups : Nat := 0
  nonces : Nat := 0
  io : Io := {}

instance : Inhabited Ctx := ⟨{}⟩

namespace Ctx

/-- `*f = ...`. -/
@[simps -fullyApplied]
def setFlow (c : Ctx) (f : FlowId) (v : Flow) : Ctx := { c with heap := Function.update c.heap f v }

/-- `*s = ...`. -/
@[simps -fullyApplied]
def setServer (c : Ctx) (s : Nat) (v : Server) : Ctx :=
  { c with pcpServers := Function.update c.pcpServers s v }

def modServer (c : Ctx) (s : Nat) (g : Server → Server) : Ctx := c.setServer s (g (c.pcpServers s))

def modFlow (c : Ctx) (f : FlowId) (g : Flow → Flow) : Ctx := c.setFlow f (g (c.heap f))

@[simps -fullyApplied]
def tick (c : Ctx) : Ctx := { c with io := c.io.tick }

/-- `s->next_timeout = t`. -/
def setNextTimeout (c : Ctx) (s : Nat) (t : Timeval) : Ctx :=
  c.modServer s fun v => { v with nextTimeout := t }

end Ctx

/-- `gettimeofday(&s->next_timeout, NULL)`. -/
def Env.wakeNow (e : Env) (c : Ctx) (s : Nat) : Ctx := (c.setNextTimeout s (e.now c.io)).tick

section Updates

variable (e : Env) (c : Ctx) (s : Nat) (g : Server → Server) (t : Timeval)

theorem Ctx.modServer_self : (c.modServer s g).pcpServers s = g (c.pcpServers s) :=
  Function.update_self ..

theorem Ctx.setNextTimeout_self :
    (c.setNextTimeout s t).pcpServers s = { c.pcpServers s with nextTimeout := t } :=
  Function.update_self ..

theorem Env.wakeNow_self :
    (e.wakeNow c s).pcpServers s = { c.pcpServers s with nextTimeout := e.now c.io } :=
  Function.update_self ..

end Updates

end LibPcp
