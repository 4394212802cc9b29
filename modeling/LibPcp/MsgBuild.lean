import LibPcp.Types

/-!
# LibPcp.MsgBuild

`build_pcp_msg` and its helpers (`pcp_msg.c`): encoding a request into a flow's message buffer.

Each `add_*_option` takes a cursor into the buffer and returns the next one. The structures are
packed, so a field is a write at a fixed offset from the start of its structure; a field the source
does not write keeps the byte the buffer had.
-/

namespace LibPcp

open ByteBuffer

/-- A buffer being filled, and the cursor `cur`. -/
abbrev Cursor := Buf × Nat

/-! ## Options -/

def optionThirdParty : UInt8 := 1
def optionPrefFail : UInt8 := 2
def optionFilter : UInt8 := 3
def optionDeviceid : UInt8 := 96
def optionLocation : UInt8 := 97
def optionUserid : UInt8 := 98
def optionFlowPriority : UInt8 := 99
def optionMetadata : UInt8 := 100

def addFilterOption (f : Flow) (c : Cursor) : Cursor :=
  let b := c.1.blit c.2 [optionFilter]
  let b := b.blit (c.2 + 1) [0]
  let b := b.blit (c.2 + 2) (be16 20)
  let b := b.blit (c.2 + 4) [0]
  let b := b.blit (c.2 + 5) [f.filterPrefix]
  let b := b.blit (c.2 + 6) (be16 f.filterPort)
  let b := b.blit (c.2 + 8) f.filterIp.bytes
  (b, c.2 + 24)

def addPreferFailureOption (c : Cursor) : Cursor :=
  let b := c.1.blit c.2 [optionPrefFail]
  let b := b.blit (c.2 + 1) [0]
  let b := b.blit (c.2 + 2) (be16 0)
  (b, c.2 + 4)

def addThirdPartyOption (f : Flow) (c : Cursor) : Cursor :=
  let b := c.1.blit c.2 [optionThirdParty]
  let b := b.blit (c.2 + 1) [0]
  let b := b.blit (c.2 + 4) f.thirdPartyIp.bytes
  let b := b.blit (c.2 + 2) (be16 16)
  (b, c.2 + 20)

/-- The three options that carry a fixed-size string: code, length, then all of the array. The
reserved byte is not written. -/
def addStringOption (code : UInt8) (len : UInt16) (str : List UInt8) (c : Cursor) : Cursor :=
  let b := c.1.blit c.2 [code]
  let b := b.blit (c.2 + 2) (be16 len)
  let b := b.blit (c.2 + 4) str
  (b, c.2 + 4 + str.length)

def addUseridOption (f : Flow) : Cursor → Cursor :=
  addStringOption optionUserid (UInt16.ofNat maxUserId) f.userid.toList

def addLocationOption (f : Flow) : Cursor → Cursor :=
  addStringOption optionLocation (UInt16.ofNat maxGeoStr) f.location.toList

def addDeviceidOption (f : Flow) : Cursor → Cursor :=
  addStringOption optionDeviceid (UInt16.ofNat maxDeviceId) f.deviceid.toList

def addFlowpOption (f : Flow) (c : Cursor) : Cursor :=
  let b := c.1.blit c.2 [optionFlowPriority]
  let b := b.blit (c.2 + 2) (be16 4)
  let b := b.blit (c.2 + 4) [f.flowpDscpUp]
  let b := b.blit (c.2 + 5) [f.flowpDscpDown]
  (b, c.2 + 8)

/-- `padding` of `add_md_option`. -/
def mdPadding (lenMd : Nat) : Nat := (4 - lenMd % 4) % 4

/-- An option that does not fit is skipped; the cursor stays for the next one. -/
def addMdOption (md : MdVal) (c : Cursor) : Cursor :=
  let lenMd := md.val.length
  let padding := mdPadding lenMd
  if c.2 + (8 + lenMd + padding) > pcpMaxLen then c
  else
    let b := c.1.blit c.2 [optionMetadata]
    let b := b.blit (c.2 + 4) (be32 md.mdId.toUInt32)
    let b := b.blit (c.2 + 8) md.val
    let b := b.blit (c.2 + 2) (be16 (UInt16.ofNat (4 + lenMd + padding)))
    (b, c.2 + 8 + lenMd + padding)

def addMdOptions (mds : List MdVal) (c : Cursor) : Cursor :=
  mds.foldl (fun c md => if md.val.length ≠ 0 then addMdOption md c else c) c

/-- `build_pcp_options`: the buffer and the new `pcp_msg_len`. -/
def buildPcpOptions (cfg : Config) (f : Flow) (c : Cursor) : Cursor :=
  let c := if cfg.flowPriority && f.flowpOptionPresent then addFlowpOption f c else c
  let c := if f.filterOptionPresent then addFilterOption f c else c
  let c := if f.pfailureOptionPresent then addPreferFailureOption c else c
  let c := if f.thirdPartyOptionPresent then addThirdPartyOption f c else c
  if cfg.experimental then
    let c := if f.deviceid.toList.head? ≠ some 0 then addDeviceidOption f c else c
    let c := if f.userid.toList.head? ≠ some 0 then addUseridOption f c else c
    let c := if f.location.toList.head? ≠ some 0 then addLocationOption f c else c
    if f.mdVals.length > 0 then addMdOptions f.mdVals c else c
  else c

/-! ## Opcode-specific parts -/

/-- `build_pcp_peer` at offset `loc`; `none` is `PCP_ERR_UNSUP_VERSION`. -/
def buildPcpPeer (cfg : Config) (version : UInt8) (f : Flow) (b : Buf) (loc : Nat) :
    Option Cursor :=
  if version = 1 then
    let b := b.blit loc [f.kd.protocol]
    let b := b.blit (loc + 4) (be16 f.kd.srcPort)
    let b := b.blit (loc + 6) (be16 f.extPort)
    let b := b.blit (loc + 24) (be16 f.kd.dstPort)
    let b := b.blit (loc + 8) f.extIp.bytes
    let b := b.blit (loc + 28) f.kd.dstIp.bytes
    some (buildPcpOptions cfg f (b, loc + 44))
  else if version = 2 then
    let b := b.blit (loc + 12) [f.kd.protocol]
    let b := b.blit (loc + 16) (be16 f.kd.srcPort)
    let b := b.blit (loc + 18) (be16 f.extPort)
    let b := b.blit (loc + 36) (be16 f.kd.dstPort)
    let b := b.blit (loc + 20) f.extIp.bytes
    let b := b.blit (loc + 40) f.kd.dstIp.bytes
    let b := b.blit loc f.kd.nonce.bytes
    some (buildPcpOptions cfg f (b, loc + 56))
  else none

/-- `build_pcp_map` at offset `loc`; `none` is `PCP_ERR_UNSUP_VERSION`. -/
def buildPcpMap (cfg : Config) (version : UInt8) (f : Flow) (b : Buf) (loc : Nat) :
    Option Cursor :=
  if version = 1 then
    let b := b.blit loc [f.kd.protocol]
    let b := b.blit (loc + 4) (be16 f.kd.srcPort)
    let b := b.blit (loc + 6) (be16 f.extPort)
    let b := b.blit (loc + 8) f.extIp.bytes
    some (buildPcpOptions cfg f (b, loc + 24))
  else if version = 2 then
    let b := b.blit (loc + 12) [f.kd.protocol]
    let b := b.blit (loc + 16) (be16 f.kd.srcPort)
    let b := b.blit (loc + 18) (be16 f.extPort)
    let b := b.blit (loc + 20) f.extIp.bytes
    let b := b.blit loc f.kd.nonce.bytes
    some (buildPcpOptions cfg f (b, loc + 36))
  else none

/-- `build_pcp_sadscp` at offset `loc`; `none` is `PCP_ERR_UNSUP_VERSION`. Both length fields are
eight bits wide. -/
def buildPcpSadscp (cfg : Config) (version : UInt8) (f : Flow) (b : Buf) (loc : Nat) :
    Option Cursor :=
  if version = 2 then
    let fillLen := (4 - (f.appNameLength.toNat + 2) % 4) % 4
    let fieldLen := f.appNameLength + UInt8.ofNat fillLen
    let b := b.blit loc f.kd.nonce.bytes
    let b := b.blit (loc + 12) [f.tolerFields]
    let b := b.blit (loc + 13) [fieldLen]
    let b := match f.sadscpAppName with
      | some name => b.blit (loc + 14) (name.take f.appNameLength.toNat)
      | none => b.blit (loc + 14) (List.replicate f.appNameLength.toNat 0)
    some (buildPcpOptions cfg f (b, loc + 14 + fieldLen.toNat))
  else none

/-- `build_natpmp_msg`. The error codes it returns are `PCP_RES_*` values, which are positive; the
length is then left as it was. -/
def buildNatpmpMsg (f : Flow) (b : Buf) : Int × Buf × Nat :=
  if f.kd.operation = opcodeAnnounce then
    ((0 : Int), (b.blit 0 [0]).blit 1 [natpmpOpcodeAnnounce], 2)
  else if f.kd.operation = opcodeMap then
    if f.kd.protocol = ipprotoTcp ∨ f.kd.protocol = ipprotoUdp then
      let b := b.blit 1
        [if f.kd.protocol = ipprotoTcp then natpmpOpcodeMapTcp else natpmpOpcodeMapUdp]
      let b := b.blit 0 [0]
      let b := b.blit 8 (be32 f.lifetime)
      let b := b.blit 4 (be16 f.kd.srcPort)
      let b := b.blit 6 (be16 f.extPort)
      ((0 : Int), b, 12)
    else ((resUnsuppProtocol.toNat : Int), b, f.pcpMsgLen)
  else ((resUnsuppOpcode.toNat : Int), b, f.pcpMsgLen)

/-- The common request header: version, opcode, lifetime and client address. The opcode is or-ed
into the byte. -/
def buildHeader (version : UInt8) (f : Flow) (b : Buf) : Buf :=
  let b := b.blit 0 [version]
  let b := b.blit 1 [b 1 ||| (f.kd.operation &&& 0x7f)]
  let b := b.blit 4 (be32 f.lifetime)
  b.blit 8 f.kd.srcIp.bytes

/-- The switch on the operation: the buffer and length, or `none` for a negative result. -/
def buildBody (cfg : Config) (version : UInt8) (f : Flow) (b : Buf) : Option Cursor :=
  if f.kd.operation = opcodePeer then buildPcpPeer cfg version f b 24
  else if f.kd.operation = opcodeMap then buildPcpMap cfg version f b 24
  else if cfg.sadscp ∧ f.kd.operation = opcodeSadscp then buildPcpSadscp cfg version f b 24
  else if f.kd.operation = opcodeAnnounce then some (b, 24)
  else none

/-- What `build_pcp_msg` writes into the buffer `b` for a server of the given version: the buffer
and `pcp_msg_len`, or `none` when it frees the buffer. -/
def encodeMsg (cfg : Config) (version : UInt8) (f : Flow) (b : Buf) : Option Cursor :=
  if version = 0 then
    match buildNatpmpMsg f b with
    | (ret, b, len) => if ret < 0 then none else some (b, len)
  else buildBody cfg version f (buildHeader version f b)

/-- `build_pcp_msg`, for the server `s` the flow's index resolves to. The flow's buffer is reused
when it has one, otherwise allocated. -/
def buildPcpMsg (e : Env) (s : Option Server) (f : Flow) (io : Io) : Flow × Io :=
  match s with
  | none => (f, io)
  | some s =>
    let fill (b : Buf) : Flow :=
      match encodeMsg e.cfg s.pcpVersion f b with
      | some (b, len) => { f with pcpMsgBuffer := some b, pcpMsgLen := len }
      | none => { f with pcpMsgBuffer := none, pcpMsgLen := 0 }
    match f.pcpMsgBuffer with
    | some b => (fill b, io)
    | none =>
      let io' := { io with callocs := io.callocs + 1 }
      if e.calloc io.callocs then (fill .zero, io') else (f, io')

end LibPcp
