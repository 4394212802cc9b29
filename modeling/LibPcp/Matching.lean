import LibPcp.Api
import LibPcp.MsgEncode

/-!
# LibPcp.Matching

Requests and their answers: the way from the encoder through a server's reply, the parser and the key
completion of `pcp_pulse` back to the flow.

`createResponse` is the in-place rewrite of the reference server (`pcp_server.c`); for NAT-PMP the
reply is the 16-byte map response. `answer_finds_request`: the reply to a flow's request is accepted,
its completed key is the key of the flow, and the lookup returns the flow.
-/

namespace LibPcp

open ByteBuffer

/-! ## Replies -/

/-- The fields of `server_info_t` that `create_response` reads. -/
structure ServerInfo where
  serverVersion : UInt8
  extIp : In6Addr
  appBit : UInt8
  retDscp : UInt8
  epochTimeStart : Int
  deriving DecidableEq, Repr

/-- `create_response` on the buffer that holds the request, at time `now`. -/
def createResponse (info : ServerInfo) (code : Int) (now : Int) (b : Buf) : Buf :=
  let b := b.blit 2 [0]
  let b := b.blit 12 (List.replicate 12 0)
  let b := b.blit 1 [b 1 ||| 0x80]
  let b := b.blit 3 [UInt8.ofNat (code % 2 ^ 8).toNat]
  let b := b.blit 8 (be32 (UInt32.ofNat ((now - info.epochTimeStart) % 2 ^ 32).toNat))
  if code = (resUnsuppVersion.toNat : Int) then b.blit 0 [info.serverVersion]
  else
    let b := if b 1 &&& 0x7f = opcodeMap then
        if b 0 = 1 then b.blit 32 info.extIp.bytes
        else if b 0 = 2 then b.blit 44 info.extIp.bytes
        else b
      else b
    if b 1 &&& 0x7f = opcodeSadscp then b.blit 36 [(info.appBit <<< 7) ||| info.retDscp] else b

/-- `nat_pmp_map_resp` to the request in `req`, with or without the response bit. -/
def natpmpMapResp (req : Buf) (rbit : Bool) (result : UInt16) (epoch : UInt32) (extPort : UInt16)
    (lifetime : UInt32) : List UInt8 :=
  [0, if rbit then req 1 ||| 0x80 else req 1] ++ be16 result ++ be32 epoch ++ [req 4, req 5] ++
    be16 extPort ++ be32 lifetime

/-- `resp` answers the request of `n` bytes in `req`, which was built for the given version. -/
def ResponseTo (version : UInt8) (req : Buf) (n : Nat) (resp : List UInt8) : Prop :=
  if version = 0 then
    ∃ rbit result epoch extPort lifetime, resp = natpmpMapResp req rbit result epoch extPort lifetime
  else
    ∃ info code now, code ≠ (resUnsuppVersion.toNat : Int) ∧
      resp = (createResponse info code now req).slice 0 n

/-- The header of a reply with result byte `res` and epoch `ep`. -/
def replyHeader (version : UInt8) (f : Flow) (res : UInt8) (ep : UInt32) : List UInt8 :=
  [version, f.kd.operation ||| 0x80, 0, res] ++ be32 f.lifetime ++ be32 ep ++ List.replicate 12 0

/-- The part of `create_response` that does not look at the opcode. -/
theorem createResponse_header (info : ServerInfo) (code now : Int) (version : UInt8) {f : Flow}
    (l : List UInt8) (hmask : f.kd.operation &&& 0x7f = f.kd.operation) :
    ∃ res ep,
      (let b := (Buf.ofList (headerBytes version f ++ l)).blit 2 [0]
       let b := b.blit 12 (List.replicate 12 0)
       let b := b.blit 1 [b 1 ||| 0x80]
       let b := b.blit 3 [UInt8.ofNat (code % 2 ^ 8).toNat]
       b.blit 8 (be32 (UInt32.ofNat ((now - info.epochTimeStart) % 2 ^ 32).toNat))) =
      Buf.ofList (replyHeader version f res ep ++ l) := by
  refine ⟨UInt8.ofNat (code % 2 ^ 8).toNat,
    UInt32.ofNat ((now - info.epochTimeStart) % 2 ^ 32).toNat, ?_⟩
  have h1 : (Buf.ofList (headerBytes version f ++ l)).blit 2 [0] =
      Buf.ofList (headerBytes version f ++ l) :=
    Buf.ofList_blit_mid [version, f.kd.operation &&& 0x7f] [0] [0] _ rfl rfl
  have h2 : (Buf.ofList (headerBytes version f ++ l)).blit 12 (List.replicate 12 0) =
      Buf.ofList ([version, f.kd.operation &&& 0x7f, 0, 0] ++ be32 f.lifetime ++
        be32 f.kd.srcIp.w0 ++ (List.replicate 12 0 ++ l)) :=
    Buf.ofList_blit_mid ([version, f.kd.operation &&& 0x7f, 0, 0] ++ be32 f.lifetime ++
      be32 f.kd.srcIp.w0) (be32 f.kd.srcIp.w1 ++ be32 f.kd.srcIp.w2 ++ be32 f.kd.srcIp.w3) _ l rfl rfl
  have hop : Buf.ofList ([version, f.kd.operation &&& 0x7f, 0, 0] ++ be32 f.lifetime ++
      be32 f.kd.srcIp.w0 ++ (List.replicate 12 0 ++ l)) 1 = f.kd.operation := hmask
  have h3 := Buf.ofList_blit_mid [version] [f.kd.operation &&& 0x7f] [f.kd.operation ||| 0x80]
    ([0, 0] ++ be32 f.lifetime ++ be32 f.kd.srcIp.w0 ++ (List.replicate 12 0 ++ l)) rfl rfl
  have h4 := Buf.ofList_blit_mid [version, f.kd.operation ||| 0x80, 0] [0]
    [UInt8.ofNat (code % 2 ^ 8).toNat]
    (be32 f.lifetime ++ be32 f.kd.srcIp.w0 ++ (List.replicate 12 0 ++ l)) rfl rfl
  have h5 := Buf.ofList_blit_mid ([version, f.kd.operation ||| 0x80, 0,
      UInt8.ofNat (code % 2 ^ 8).toNat] ++ be32 f.lifetime) (be32 f.kd.srcIp.w0)
    (be32 (UInt32.ofNat ((now - info.epochTimeStart) % 2 ^ 32).toNat))
    (List.replicate 12 0 ++ l) rfl rfl
  simp only [h1, h2, hop]
  exact ((congrArg (fun b : Buf => (b.blit 3 _).blit 8 _) h3).trans
    (congrArg (fun b : Buf => b.blit 8 _) h4)).trans h5

theorem structBytes_map {version : UInt8} {f : Flow} (h : f.kd.operation = opcodeMap) :
    structBytes version f =
      (if version = 2 then f.kd.nonce.bytes else []) ++ mapFieldBytes f := by
  have hne : opcodeMap ≠ opcodePeer := by decide
  rw [structBytes, h, if_neg hne]

/-- The reply to a MAP or PEER request is a request of a flow with another external address under a
reply header. -/
theorem createResponse_request (info : ServerInfo) (code now : Int) {version : UInt8} {f : Flow}
    (r : List UInt8) (hv : version = 1 ∨ version = 2)
    (hop : f.kd.operation = opcodeMap ∨ f.kd.operation = opcodePeer)
    (hcode : code ≠ (resUnsuppVersion.toNat : Int)) :
    ∃ extIp res ep, createResponse info code now
        (Buf.ofList (headerBytes version f ++ (structBytes version f ++ r))) =
      Buf.ofList (replyHeader version f res ep ++
        (structBytes version { f with extIp := extIp } ++ r)) := by
  have hmask : f.kd.operation &&& 0x7f = f.kd.operation := by
    rcases hop with hop | hop <;> rw [hop] <;> rfl
  obtain ⟨res, ep, hhdr⟩ := createResponse_header info code now version (structBytes version f ++ r) hmask
  have h0 : Buf.ofList (replyHeader version f res ep ++ (structBytes version f ++ r)) 0 = version := rfl
  have h1 : Buf.ofList (replyHeader version f res ep ++ (structBytes version f ++ r)) 1 =
      f.kd.operation ||| 0x80 := rfl
  simp only [createResponse, if_neg hcode]
  simp only at hhdr
  rw [hhdr, h0, h1]
  rcases hop with hop | hop
  · refine ⟨info.extIp, res, ep, ?_⟩
    have hm : (opcodeMap ||| 0x80) &&& 0x7f = opcodeMap := by decide
    have hs : opcodeMap ≠ opcodeSadscp := by decide
    let g : Flow := { f with extIp := info.extIp }
    rw [structBytes_map hop, structBytes_map (f := g) hop]
    -- the external address of the structure is overwritten in place
    have hset : (if version = 1 then
          (Buf.ofList (replyHeader version f res ep ++
            ((if version = 2 then f.kd.nonce.bytes else []) ++ mapFieldBytes f ++ r))).blit 32
              info.extIp.bytes
        else if version = 2 then
          (Buf.ofList (replyHeader version f res ep ++
            ((if version = 2 then f.kd.nonce.bytes else []) ++ mapFieldBytes f ++ r))).blit 44
              info.extIp.bytes
        else Buf.ofList (replyHeader version f res ep ++
            ((if version = 2 then f.kd.nonce.bytes else []) ++ mapFieldBytes f ++ r))) =
        Buf.ofList (replyHeader version f res ep ++
          ((if version = 2 then f.kd.nonce.bytes else []) ++ mapFieldBytes g ++ r)) := by
      let fields := [f.kd.protocol, 0, 0, 0] ++ be16 f.kd.srcPort ++ be16 f.extPort
      rcases hv with rfl | rfl
      · exact Buf.ofList_blit_mid (replyHeader 1 f res ep ++ fields) f.extIp.bytes info.extIp.bytes r
          rfl rfl
      · exact Buf.ofList_blit_mid (replyHeader 2 f res ep ++ (f.kd.nonce.bytes ++ fields))
          f.extIp.bytes info.extIp.bytes r rfl rfl
    have h1' : Buf.ofList (replyHeader version f res ep ++
        ((if version = 2 then f.kd.nonce.bytes else []) ++ mapFieldBytes g ++ r)) 1 =
          opcodeMap ||| 0x80 := by rw [← hop]; rfl
    simp only [hop, hm, if_true]
    rw [hset, h1', hm, if_neg hs]
  · refine ⟨f.extIp, res, ep, ?_⟩
    have hm : (opcodePeer ||| 0x80) &&& 0x7f = opcodePeer := by decide
    have hne : opcodePeer ≠ opcodeMap := by decide
    have hs : opcodePeer ≠ opcodeSadscp := by decide
    rw [hop] at h1
    simp only [hop, hm, hne, if_false]
    rw [h1, hm, if_neg hs]

/-! ## Parsing a reply -/

/-- The part of the key that is on the wire. -/
def wireKey (version : UInt8) (kd : FlowKeyData) : FlowKeyData :=
  { FlowKeyData.zero with
    operation := kd.operation
    nonce := if version = 2 then kd.nonce else ⟨0, 0, 0⟩
    protocol := kd.protocol
    srcPort := kd.srcPort
    dstIp := if kd.operation = opcodePeer then kd.dstIp else .any
    dstPort := if kd.operation = opcodePeer then kd.dstPort else 0 }

/-- The bytes of a reply, and what parsing them has to give back. -/
structure IsReply (version : UInt8) (kd : FlowKeyData) (m : RecvMsg) : Prop where
  ver : m.pcpMsgBuffer 0 = version
  op : m.pcpMsgBuffer 1 &&& 0x7f = kd.operation
  fields : ∃ f : Flow, f.kd = kd ∧
    (version = 2 → m.pcpMsgBuffer.slice 24 12 = kd.nonce.bytes) ∧
    (kd.operation = opcodeMap →
      m.pcpMsgBuffer.slice (requestFieldsAt version) 24 = mapFieldBytes f) ∧
    (kd.operation = opcodePeer →
      m.pcpMsgBuffer.slice (requestFieldsAt version) 44 = peerFieldBytes f)
  len : requestOptionsAt version kd.operation ≤ m.pcpMsgLen

/-- The message after the header has been read. -/
def RecvMsg.headerRead (m : RecvMsg) : RecvMsg :=
  { m.setResponse with recvLifetime := m.pcpMsgBuffer.u32 4, recvEpoch := m.pcpMsgBuffer.u32 8 }

section ParseEq

variable {cfg : Config} {m : RecvMsg}

theorem parseResponse_v1 (hv : m.pcpMsgBuffer 0 = 1) (hlen : 24 ≤ m.pcpMsgLen) :
    parseResponse cfg m =
      if m.headerRead.kd.operation = opcodeAnnounce then (.success, m.headerRead)
      else if m.headerRead.kd.operation = opcodeMap then parseV1Map m.headerRead 24
      else if m.headerRead.kd.operation = opcodePeer then parseV1Peer m.headerRead 24
      else (.recvFailed, m.headerRead) := by
  have h0 : (1 : UInt8) ≠ 0 := by decide
  have h24 : ¬ m.setResponse.pcpMsgLen < 24 := Nat.not_lt.mpr hlen
  rw [parseResponse, hv, if_neg h0, if_pos rfl, parseV1Resp, parseHeader, if_neg h24]
  rfl

theorem parseResponse_v2 (hv : m.pcpMsgBuffer 0 = 2) (hlen : 24 ≤ m.pcpMsgLen) :
    parseResponse cfg m =
      if m.headerRead.kd.operation = opcodeAnnounce then (.success, m.headerRead)
      else if m.headerRead.kd.operation = opcodeMap then parseV2Map m.headerRead 24
      else if m.headerRead.kd.operation = opcodePeer then parseV2Peer m.headerRead 24
      else if cfg.sadscp ∧ m.headerRead.kd.operation = opcodeSadscp then parseSadscp m.headerRead 24
      else (.recvFailed, m.headerRead) := by
  have h0 : (2 : UInt8) ≠ 0 := by decide
  have h1 : (2 : UInt8) ≠ 1 := by decide
  have h24 : ¬ m.setResponse.pcpMsgLen < 24 := Nat.not_lt.mpr hlen
  rw [parseResponse, hv, if_neg h0, if_neg h1, if_pos rfl, parseV2Resp, parseHeader, if_neg h24]
  rfl

end ParseEq

/-- Parsing a reply succeeds and stores the part of the key that is on the wire. -/
theorem IsReply.parse (cfg : Config) {version : UInt8} {kd : FlowKeyData} {m : RecvMsg}
    (h : IsReply version kd m) (hv : version = 1 ∨ version = 2)
    (hop : kd.operation = opcodeMap ∨ kd.operation = opcodePeer) :
    ∃ m', parseResponse cfg m = (.success, m') ∧ m'.kd = wireKey version kd ∧
      m'.recvVersion = version.toUInt32 ∧ m'.rcvdFromAddr = m.rcvdFromAddr ∧
      m'.rcvdToAddr = m.rcvdToAddr := by
  obtain ⟨f, rfl, hn, hmap, hpeer⟩ := h.fields
  have hlen := h.len
  have hrv : m.headerRead.recvVersion = (m.pcpMsgBuffer 0).toUInt32 := rfl
  have hro : m.headerRead.kd.operation = f.kd.operation := h.op
  have hne1 : opcodeMap ≠ opcodeAnnounce := by decide
  have hne2 : opcodePeer ≠ opcodeAnnounce := by decide
  have hne3 : opcodePeer ≠ opcodeMap := by decide
  have hne4 : opcodeMap ≠ opcodePeer := by decide
  rcases hv with rfl | rfl <;> rcases hop with hop | hop <;> rw [hop] at hro hlen <;>
    simp [requestOptionsAt, requestFieldsAt, hne4] at hlen
  · obtain ⟨hp, hsp, -, -⟩ := readRequest_map m.pcpMsgBuffer 24 (hmap hop)
    refine ⟨storeV1Map 24 m.headerRead, ?_, ?_, hrv.trans (by rw [h.ver]), rfl, rfl⟩
    · rw [parseResponse_v1 h.ver (by omega), hro, if_neg hne1, if_pos rfl]
      exact parseStruct_eq (by show 24 ≤ m.pcpMsgLen - 24; omega)
    · have hkd : (storeV1Map 24 m.headerRead).kd = { FlowKeyData.zero with
          operation := m.pcpMsgBuffer 1 &&& 0x7f
          srcPort := m.pcpMsgBuffer.u16 (24 + 4), protocol := m.pcpMsgBuffer 24 } := rfl
      simp [hkd, h.op, hp, hsp, wireKey, hop, hne4, FlowKeyData.zero]
  · obtain ⟨hs, hdp, hdi⟩ := readRequest_peer m.pcpMsgBuffer 24 (hpeer hop)
    obtain ⟨hp, hsp, -, -⟩ := readRequest_map m.pcpMsgBuffer 24 hs
    refine ⟨storeV1Peer 24 m.headerRead, ?_, ?_, hrv.trans (by rw [h.ver]), rfl, rfl⟩
    · rw [parseResponse_v1 h.ver (by omega), hro, if_neg hne2, if_neg hne3, if_pos rfl]
      exact parseStruct_eq (by show 44 ≤ m.pcpMsgLen - 24; omega)
    · have hkd : (storeV1Peer 24 m.headerRead).kd = { FlowKeyData.zero with
          operation := m.pcpMsgBuffer 1 &&& 0x7f
          srcPort := m.pcpMsgBuffer.u16 (24 + 4), protocol := m.pcpMsgBuffer 24
          dstPort := m.pcpMsgBuffer.u16 (24 + 24), dstIp := readIn6 m.pcpMsgBuffer (24 + 28) } := rfl
      simp [hkd, h.op, hp, hsp, hdp, hdi, wireKey, hop, FlowKeyData.zero]
  · obtain ⟨hp, hsp, -, -⟩ := readRequest_map m.pcpMsgBuffer 36 (hmap hop)
    have hnonce := readNonce_of_slice (hn rfl)
    refine ⟨storeV2Map 24 m.headerRead, ?_, ?_, hrv.trans (by rw [h.ver]), rfl, rfl⟩
    · rw [parseResponse_v2 h.ver (by omega), hro, if_neg hne1, if_pos rfl]
      exact parseStruct_eq (by show 36 ≤ m.pcpMsgLen - 24; omega)
    · have hkd : (storeV2Map 24 m.headerRead).kd = { FlowKeyData.zero with
          operation := m.pcpMsgBuffer 1 &&& 0x7f, nonce := readNonce m.pcpMsgBuffer 24
          srcPort := m.pcpMsgBuffer.u16 (36 + 4), protocol := m.pcpMsgBuffer 36 } := rfl
      simp [hkd, h.op, hp, hsp, hnonce, wireKey, hop, hne4, FlowKeyData.zero]
  · obtain ⟨hs, hdp, hdi⟩ := readRequest_peer m.pcpMsgBuffer 36 (hpeer hop)
    obtain ⟨hp, hsp, -, -⟩ := readRequest_map m.pcpMsgBuffer 36 hs
    have hnonce := readNonce_of_slice (hn rfl)
    refine ⟨storeV2Peer 24 m.headerRead, ?_, ?_, hrv.trans (by rw [h.ver]), rfl, rfl⟩
    · rw [parseResponse_v2 h.ver (by omega), hro, if_neg hne2, if_neg hne3, if_pos rfl]
      exact parseStruct_eq (by show 56 ≤ m.pcpMsgLen - 24; omega)
    · have hkd : (storeV2Peer 24 m.headerRead).kd = { FlowKeyData.zero with
          operation := m.pcpMsgBuffer 1 &&& 0x7f, nonce := readNonce m.pcpMsgBuffer 24
          srcPort := m.pcpMsgBuffer.u16 (36 + 4), protocol := m.pcpMsgBuffer 36
          dstPort := m.pcpMsgBuffer.u16 (36 + 24), dstIp := readIn6 m.pcpMsgBuffer (36 + 28) } := rfl
      simp [hkd, h.op, hp, hsp, hdp, hdi, hnonce, wireKey, hop, FlowKeyData.zero]

/-! ## NAT-PMP -/

theorem encodeMsg_natpmp_map (cfg : Config) {f : Flow} (hop : f.kd.operation = opcodeMap)
    (hproto : f.kd.protocol = ipprotoTcp ∨ f.kd.protocol = ipprotoUdp) :
    ∃ b, encodeMsg cfg 0 f .zero = some (b, 12) ∧ [b 4, b 5] = be16 f.kd.srcPort ∧
      b 1 = if f.kd.protocol = ipprotoTcp then natpmpOpcodeMapTcp else natpmpOpcodeMapUdp := by
  have hann : opcodeMap ≠ opcodeAnnounce := by decide
  have hret : ¬ (0 : Int) < 0 := by decide
  refine ⟨((((Buf.zero.blit 1
      [if f.kd.protocol = ipprotoTcp then natpmpOpcodeMapTcp else natpmpOpcodeMapUdp]).blit 0
      [0]).blit 8 (be32 f.lifetime)).blit 4 (be16 f.kd.srcPort)).blit 6 (be16 f.extPort),
    ?_, rfl, rfl⟩
  simp only [encodeMsg, if_true, buildNatpmpMsg, hop, if_neg hann, if_pos hproto, if_neg hret]

theorem natpmp_reply_parse (cfg : Config) {kd : FlowKeyData} {m : RecvMsg} {req : Buf} {rbit : Bool}
    {result extPort : UInt16} {epoch lifetime : UInt32}
    (hop : kd.operation = opcodeMap)
    (hproto : kd.protocol = ipprotoTcp ∨ kd.protocol = ipprotoUdp)
    (hport : [req 4, req 5] = be16 kd.srcPort)
    (hreq : req 1 = if kd.protocol = ipprotoTcp then natpmpOpcodeMapTcp else natpmpOpcodeMapUdp)
    (hbuf : m.pcpMsgBuffer = Buf.ofList (natpmpMapResp req rbit result epoch extPort lifetime))
    (hlen : m.pcpMsgLen = 16) :
    validatePcpMsg m = true ∧
    ∃ m', parseResponse cfg m = (.success, m') ∧ m'.kd = wireKey 0 kd ∧ m'.recvVersion = 0 ∧
      m'.rcvdFromAddr = m.rcvdFromAddr ∧ m'.rcvdToAddr = m.rcvdToAddr := by
  have hb0 : m.pcpMsgBuffer 0 = 0 := by rw [hbuf]; rfl
  have hb1 : m.pcpMsgBuffer 1 &&& 0x7f =
      if kd.protocol = ipprotoTcp then natpmpOpcodeMapTcp else natpmpOpcodeMapUdp := by
    have : m.pcpMsgBuffer 1 = if rbit then req 1 ||| 0x80 else req 1 := by rw [hbuf]; rfl
    rw [this, hreq]
    rcases hproto with h | h <;> cases rbit <;> rw [h] <;> decide
  have hp : m.pcpMsgBuffer.u16 8 = kd.srcPort := by
    apply Buf.u16_of_slice
    rw [← hport, hbuf]
    rfl
  constructor
  · rw [validatePcpMsg_iff, hb0, hlen]
    simp
  · have hop' : m.setResponse.kd.operation = m.pcpMsgBuffer 1 &&& 0x7f := rfl
    have hlen' : m.setResponse.pcpMsgLen = 16 := hlen
    have hmap : (m.setResponse.kd.operation = natpmpOpcodeMapTcp ∨
        m.setResponse.kd.operation = natpmpOpcodeMapUdp) ∧ m.setResponse.pcpMsgLen = 16 := by
      refine ⟨?_, hlen'⟩
      rw [hop', hb1]
      rcases hproto with h | h <;> rw [h] <;> decide
    have hann : ¬ (m.setResponse.kd.operation = opcodeAnnounce ∧ m.setResponse.pcpMsgLen = 12) := by
      rw [hlen']; simp
    rw [parseResponse, hb0, if_pos rfl]
    simp only [parseV0Resp, if_neg hann, if_pos hmap]
    refine ⟨_, rfl, ?_, ?_, rfl, rfl⟩
    · have hpr : (if m.setResponse.kd.operation = natpmpOpcodeMapTcp then ipprotoTcp else ipprotoUdp) =
          kd.protocol := by
        rw [hop', hb1]
        rcases hproto with h | h <;> rw [h] <;> decide
      have hne : opcodeMap ≠ opcodePeer := by decide
      simp [RecvMsg.setResponse] at hpr
      simp [RecvMsg.setResponse, wireKey, hop, hne, hp, hpr, FlowKeyData.zero]
    · show (m.pcpMsgBuffer 0).toUInt32 = 0
      rw [hb0]
      rfl

/-! ## Completing the key -/

theorem completeKey_kd {sv : Server} {scope : UInt32} {m : RecvMsg} {version : UInt8}
    {kd : FlowKeyData} {port : UInt16} (hkd : m.kd = wireKey version kd)
    (hver : m.recvVersion = version.toUInt32) (hv : version = 0 ∨ version = 1 ∨ version = 2)
    (hip : kd.pcpServerIp = sv.pcpIp)
    (hto : pcpFillIn6Addr (.any, 0, 0) m.rcvdToAddr = (kd.srcIp, port, kd.scopeId))
    (hany : kd.srcIp.isAny = false) (hnonce : kd.nonce = sv.nonce)
    (hmap : kd.operation ≠ opcodePeer → kd.dstIp = .any ∧ kd.dstPort = 0) :
    (completeKey sv scope m).kd = kd := by
  have hto' : pcpFillIn6Addr (m.kd.srcIp, 0, m.kd.scopeId) m.rcvdToAddr =
      (kd.srcIp, port, kd.scopeId) := by
    rw [hkd]; exact hto
  have hdst : (wireKey version kd).dstIp = kd.dstIp ∧ (wireKey version kd).dstPort = kd.dstPort := by
    by_cases hp : kd.operation = opcodePeer
    · simp [wireKey, hp]
    · obtain ⟨hi, hq⟩ := hmap hp
      simp [wireKey, hp, hi, hq]
  have hn : (if m.recvVersion < 2 then sv.nonce else m.kd.nonce) = kd.nonce := by
    rw [hver, hkd, ← hnonce]
    rcases hv with rfl | rfl | rfl
    · rfl
    · rfl
    · rfl
  have hfin : (completeKey sv scope m).kd = { m.kd with
      pcpServerIp := sv.pcpIp, srcIp := kd.srcIp, scopeId := kd.scopeId
      nonce := if m.recvVersion < 2 then sv.nonce else m.kd.nonce } := by
    simp only [completeKey, hto', hany, Bool.false_eq_true, if_false]
    split <;> rfl
  rw [hfin, hn, ← hip, hkd]
  simp only [hdst]
  rfl

/-! ## From the request to the flow -/

/-- `kd` is a key that `pcp_new_flow` gives to a flow on a server with the address of `sv`. -/
def NewFlowKeyOn (sv : Server) (kd : FlowKeyData) : Prop :=
  ∃ e c c' src dst protocol kd₀ sv₀, newFlowKey e c src dst protocol = (some kd₀, c') ∧
    flowKeyFor kd₀ sv₀ = some kd ∧ sv₀.pcpIp = sv.pcpIp

/-- The requests that are answered, by version of the server. -/
def Answerable (version : UInt8) (kd : FlowKeyData) : Prop :=
  ((version = 1 ∨ version = 2) ∧ (kd.operation = opcodeMap ∨ kd.operation = opcodePeer)) ∨
    (version = 0 ∧ kd.operation = opcodeMap ∧
      (kd.protocol = ipprotoTcp ∨ kd.protocol = ipprotoUdp))

/-- No flow before `f` in its bucket belongs to the same server and has the same key. -/
def FirstWithKey (c : Ctx) (f : FlowId) : Prop :=
  ∃ pre post, c.flows (computeFlowKey (c.heap f).kd) = pre ++ f :: post ∧
    ∀ g ∈ pre, ¬ ((c.heap g).pcpServerIndx = (c.heap f).pcpServerIndx ∧
      (c.heap g).kd = (c.heap f).kd)

theorem newFlowKey_dst {e : Env} {c c' : Ctx} {src : SockAddr} {dst : Option SockAddr}
    {protocol : UInt8} {kd : FlowKeyData} (h : newFlowKey e c src dst protocol = (some kd, c'))
    (hop : kd.operation ≠ opcodePeer) : kd.dstIp = .any ∧ kd.dstPort = 0 := by
  unfold newFlowKey at h
  cases hp : peerAddr dst with
  | none =>
    simp only [hp] at h
    injection h with h1 _
    cases h1
    exact ⟨rfl, rfl⟩
  | some d =>
    -- every way to a key sets the opcode to PEER first
    exfalso
    apply hop
    simp only [hp] at h
    repeat' split at h
    all_goals
      injection h with h1 _
      cases h1
    all_goals rfl

theorem NewFlowKeyOn.key {sv : Server} {kd : FlowKeyData} (h : NewFlowKeyOn sv kd) :
    kd.pcpServerIp = sv.pcpIp ∧
      (kd.operation ≠ opcodePeer → kd.dstIp = .any ∧ kd.dstPort = 0) := by
  obtain ⟨e, c, c', src, dst, protocol, kd₀, sv₀, hnew, hkey, hip⟩ := h
  obtain ⟨h1, _, h3, h4, h5⟩ := flowKeyFor_some hkey
  refine ⟨h1.trans hip, fun hop => ?_⟩
  rw [h4, h5]
  exact newFlowKey_dst hnew (by rwa [h3] at hop)

theorem FirstWithKey.get {c c' : Ctx} {f : FlowId} {s : Nat} (h : FirstWithKey c f)
    (hf : c'.flows = c.flows) (hh : c'.heap = c.heap) (hs : c'.pcpServers = c.pcpServers)
    (hidx : (c.heap f).pcpServerIndx = (c.pcpServers s).index) :
    pcpGetFlow c' (c.heap f).kd s = some f := by
  obtain ⟨pre, post, hb, hpre⟩ := h
  rw [pcpGetFlow, hf, hh, hs, hb]
  rw [List.find?_append, List.find?_eq_none.mpr]
  · simp [hidx]
  · intro g hg hp
    simp only [Bool.and_eq_true, beq_iff_eq] at hp
    exact hpre g hg ⟨hp.1.trans hidx.symm, hp.2⟩

theorem readMsg_msg (e : Env) (c : Ctx) (dg : Datagram) (h : dg.bytes.length ≤ pcpMaxLen) :
    (readMsg e c dg).msg.pcpMsgBuffer = Buf.ofList dg.bytes ∧
      (readMsg e c dg).msg.pcpMsgLen = dg.bytes.length := by
  simp only [readMsg, List.take_of_length_le h, and_self]

/-- What is left once validation and parsing have succeeded. -/
theorem acceptMsg_found {e : Env} {c : Ctx} {s : Nat} {f : FlowId} {dg : Datagram}
    {version : UInt8} {m : RecvMsg} {port dport : UInt16} {scope : UInt32}
    (hvalid : validatePcpMsg (readMsg e c dg).msg = true)
    (hparse : parseResponse e.cfg (readMsg e c dg).msg = (.success, m))
    (hkd : m.kd = wireKey version (c.heap f).kd) (hver : m.recvVersion = version.toUInt32)
    (hsrcA : m.rcvdFromAddr = dg.src) (hdstA : m.rcvdToAddr = dg.dst)
    (hv : version = 0 ∨ version = 1 ∨ version = 2)
    (hkey : NewFlowKeyOn (c.pcpServers s) (c.heap f).kd)
    (hany : (c.heap f).kd.srcIp.isAny = false)
    (hnonce : (c.heap f).kd.nonce = (c.pcpServers s).nonce)
    (hres : getPcpServerByIp c (c.pcpServers s).pcpIp scope = some s)
    (hidx : (c.heap f).pcpServerIndx = (c.pcpServers s).index) (hfirst : FirstWithKey c f)
    (hfrom : pcpFillIn6Addr (.any, 0, 0) dg.src = ((c.pcpServers s).pcpIp, port, scope))
    (hto : pcpFillIn6Addr (.any, 0, 0) dg.dst = ((c.heap f).kd.srcIp, dport, (c.heap f).kd.scopeId)) :
    ∃ c', acceptMsg e (readMsg e c dg) = (some s, c') ∧ c'.msg.kd = (c.heap f).kd ∧
      pcpGetFlow c' c'.msg.kd s = some f := by
  obtain ⟨hip, hmap⟩ := hkey.key
  let c₁ : Ctx := { readMsg e c dg with msg := m }
  have hres' : getPcpServerByIp c₁ (c.pcpServers s).pcpIp scope = some s := hres
  have hkd' : (completeKey (c.pcpServers s) scope m).kd = (c.heap f).kd :=
    completeKey_kd hkd hver hv hip (by rw [hdstA]; exact hto) hany hnonce hmap
  refine ⟨{ c₁ with msg := completeKey (c.pcpServers s) scope m }, ?_, hkd', ?_⟩
  · simp only [acceptMsg, hvalid, if_true, hparse, hsrcA, hfrom]
    rw [hres']
    rfl
  · show pcpGetFlow _ (completeKey (c.pcpServers s) scope m).kd s = some f
    rw [hkd']
    exact hfirst.get rfl rfl rfl hidx

/-- The bytes `createResponse_request` describes are a reply. -/
theorem isReply_ofList {version : UInt8} {f g : Flow} {m : RecvMsg} {res : UInt8} {ep : UInt32}
    (r : List UInt8) (hv : version = 1 ∨ version = 2)
    (hop : f.kd.operation = opcodeMap ∨ f.kd.operation = opcodePeer) (hg : g.kd = f.kd)
    (hbuf : m.pcpMsgBuffer =
      Buf.ofList (replyHeader version f res ep ++ (structBytes version g ++ r)))
    (hlen : requestOptionsAt version f.kd.operation ≤ m.pcpMsgLen) :
    IsReply version f.kd m := by
  have hmap : f.kd.operation = opcodeMap → structBytes version g =
      (if version = 2 then g.kd.nonce.bytes else []) ++ mapFieldBytes g := fun h =>
    structBytes_map (by rw [hg, h])
  have hpeer : f.kd.operation = opcodePeer → structBytes version g =
      (if version = 2 then g.kd.nonce.bytes else []) ++ peerFieldBytes g := by
    intro h; rw [structBytes, hg, if_pos h]
  have hnonce : version = 2 → ∃ l, structBytes version g = f.kd.nonce.bytes ++ l := by
    rintro rfl
    rcases hop with h | h
    · exact ⟨mapFieldBytes g, by rw [hmap h, hg]; rfl⟩
    · exact ⟨peerFieldBytes g, by rw [hpeer h, hg]; rfl⟩
  have hmask : (f.kd.operation ||| 0x80) &&& 0x7f = f.kd.operation := by
    rcases hop with h | h <;> rw [h] <;> decide
  -- a piece behind the header and, in version 2, behind the nonce
  have hslice : ∀ l, structBytes version g =
      (if version = 2 then g.kd.nonce.bytes else []) ++ l →
      m.pcpMsgBuffer.slice (requestFieldsAt version) l.length = l := by
    intro l hl
    have hpre : (replyHeader version f res ep ++ (if version = 2 then g.kd.nonce.bytes else [])).length =
        requestFieldsAt version := by
      rcases hv with rfl | rfl <;> rfl
    rw [hbuf, hl, ← hpre, List.append_assoc, ← List.append_assoc (replyHeader version f res ep)]
    exact Buf.slice_ofList_mid _ l r
  refine ⟨by rw [hbuf]; rfl, by rw [hbuf]; exact hmask, ⟨g, hg, ?_, ?_, ?_⟩, hlen⟩
  · intro h2
    obtain ⟨l, hl⟩ := hnonce h2
    rw [hbuf, hl, List.append_assoc]
    exact Buf.slice_ofList_mid (replyHeader version f res ep) f.kd.nonce.bytes (l ++ r)
  · intro h
    exact hslice (mapFieldBytes g) (hmap h)
  · intro h
    exact hslice (peerFieldBytes g) (hpeer h)

/-- Every answer finds its request. -/
theorem answer_finds_request (e : Env) (c : Ctx) (s : Nat) (f : FlowId) (dg : Datagram) (req : Buf)
    (port dport : UInt16) (scope : UInt32)
    (hver : Answerable (c.pcpServers s).pcpVersion (c.heap f).kd)
    (hkey : NewFlowKeyOn (c.pcpServers s) (c.heap f).kd)
    (hidx : (c.heap f).pcpServerIndx = (c.pcpServers s).index)
    (hany : (c.heap f).kd.srcIp.isAny = false)
    (hnonce : (c.heap f).kd.nonce = (c.pcpServers s).nonce)
    (hres : getPcpServerByIp c (c.pcpServers s).pcpIp scope = some s)
    (hfirst : FirstWithKey c f) (hbuf : (c.heap f).pcpMsgBuffer = none)
    (hreq : (buildPcpMsg e (some (c.pcpServers s)) (c.heap f) c.io).1.pcpMsgBuffer = some req)
    (hresp : ResponseTo (c.pcpServers s).pcpVersion req
      (buildPcpMsg e (some (c.pcpServers s)) (c.heap f) c.io).1.pcpMsgLen dg.bytes)
    (hfrom : pcpFillIn6Addr (.any, 0, 0) dg.src = ((c.pcpServers s).pcpIp, port, scope))
    (hto : pcpFillIn6Addr (.any, 0, 0) dg.dst = ((c.heap f).kd.srcIp, dport, (c.heap f).kd.scopeId)) :
    validatePcpMsg (readMsg e c dg).msg = true ∧
      (parseResponse e.cfg (readMsg e c dg).msg).1 = .success ∧
      ∃ c', acceptMsg e (readMsg e c dg) = (some s, c') ∧ c'.msg.kd = (c.heap f).kd ∧
        pcpGetFlow c' c'.msg.kd s = some f := by
  -- the buffer can only come from a successful allocation
  have hcalloc : e.calloc c.io.callocs = true := by
    cases hc : e.calloc c.io.callocs with
    | true => rfl
    | false => simp [buildPcpMsg, hbuf, hc] at hreq
  rcases hver with ⟨hv, hop⟩ | ⟨hv, hop, hproto⟩
  · have henc := encodeMsg_eq e.cfg hv hop
    simp only [buildPcpMsg, hbuf, hcalloc, if_true, henc, Option.some.injEq] at hreq hresp
    have hpre := structBytes_length hv hop
    obtain ⟨hoff48, hoff, hoff4⟩ :=
      requestOptionsAt_bounds (c.pcpServers s).pcpVersion (c.heap f).kd.operation
    obtain ⟨hmax, hmod⟩ := requestOptions_length e.cfg (c.heap f) hoff
    have hv0 : (c.pcpServers s).pcpVersion ≠ 0 := by rcases hv with h | h <;> rw [h] <;> decide
    rw [ResponseTo, if_neg hv0] at hresp
    obtain ⟨info, code, now, hcode, hbytes⟩ := hresp
    let opts := Tlv.bytesAll (requestOptions e.cfg (c.heap f)
      (requestOptionsAt (c.pcpServers s).pcpVersion (c.heap f).kd.operation))
    have hopts : opts.length = (Tlv.bytesAll (requestOptions e.cfg (c.heap f)
      (requestOptionsAt (c.pcpServers s).pcpVersion (c.heap f).kd.operation))).length := rfl
    have hrb : requestBytes e.cfg (c.pcpServers s).pcpVersion (c.heap f) =
        headerBytes (c.pcpServers s).pcpVersion (c.heap f) ++
          (structBytes (c.pcpServers s).pcpVersion (c.heap f) ++ opts) := by
      rw [requestBytes, withOptions, hpre, List.append_assoc]
    obtain ⟨extIp, res, ep, hcr⟩ := createResponse_request info code now
      (f := c.heap f) opts hv hop hcode
    let g : Flow := { c.heap f with extIp := extIp }
    have hpre' : (replyHeader (c.pcpServers s).pcpVersion (c.heap f) res ep ++
        structBytes (c.pcpServers s).pcpVersion g).length =
          requestOptionsAt (c.pcpServers s).pcpVersion (c.heap f).kd.operation :=
      structBytes_length (f := g) hv hop
    have hn : (requestBytes e.cfg (c.pcpServers s).pcpVersion (c.heap f)).length =
        (replyHeader (c.pcpServers s).pcpVersion (c.heap f) res ep ++
          (structBytes (c.pcpServers s).pcpVersion g ++ opts)).length := by
      rw [hrb]
      simp only [List.length_append] at hpre hpre' ⊢
      omega
    have hdg : dg.bytes = replyHeader (c.pcpServers s).pcpVersion (c.heap f) res ep ++
        (structBytes (c.pcpServers s).pcpVersion g ++ opts) := by
      rw [hbytes, ← hreq, hrb, hcr, ← hrb, hn]
      exact Buf.slice_ofList _
    have hlen : dg.bytes.length = requestOptionsAt (c.pcpServers s).pcpVersion
        (c.heap f).kd.operation + opts.length := by
      rw [hdg, ← List.append_assoc, List.length_append, hpre']
    obtain ⟨hmb, hml⟩ := readMsg_msg e c dg (by omega)
    have hreply : IsReply (c.pcpServers s).pcpVersion (c.heap f).kd (readMsg e c dg).msg :=
      isReply_ofList opts hv hop (g := g) rfl (by rw [hmb, hdg]) (by omega)
    obtain ⟨m, hparse, hkd, hmv, hsrcA, hdstA⟩ := hreply.parse e.cfg hv hop
    have hvalid : validatePcpMsg (readMsg e c dg).msg = true := by
      have hb0 : (readMsg e c dg).msg.pcpMsgBuffer 0 = (c.pcpServers s).pcpVersion := hreply.ver
      have hb1 : (readMsg e c dg).msg.pcpMsgBuffer 1 = (c.heap f).kd.operation ||| 0x80 := by
        rw [hmb, hdg]; rfl
      rw [validatePcpMsg_iff, hb0, hb1, hml]
      refine ⟨by omega, by omega, ?_, ?_, ?_⟩
      · simp only [pcpMaxLen] at hmax
        omega
      · rcases hv with h | h <;> rw [h] <;> decide
      · intro _
        rcases hop with h | h <;> rw [h] <;> decide
    refine ⟨hvalid, by rw [hparse], ?_⟩
    exact acceptMsg_found hvalid hparse hkd hmv hsrcA hdstA (.inr hv) hkey hany hnonce hres hidx
      hfirst hfrom hto
  · obtain ⟨b, henc, hport, hb1⟩ := encodeMsg_natpmp_map e.cfg hop hproto
    simp only [buildPcpMsg, hbuf, hcalloc, if_true, hv, henc, Option.some.injEq] at hreq hresp
    subst hreq
    rw [ResponseTo, if_pos rfl] at hresp
    obtain ⟨rbit, result, epoch, extPort, lifetime, hdg⟩ := hresp
    have hlen : dg.bytes.length = 16 := by rw [hdg]; rfl
    obtain ⟨hmb, hml⟩ := readMsg_msg e c dg (by rw [hlen]; decide)
    obtain ⟨hvalid, m, hparse, hkd, hmv, hsrcA, hdstA⟩ :=
      natpmp_reply_parse e.cfg hop hproto hport hb1 (by rw [hmb, hdg]) (hml.trans hlen)
    refine ⟨hvalid, by rw [hparse], ?_⟩
    exact acceptMsg_found hvalid hparse hkd hmv hsrcA hdstA (.inl rfl) hkey hany hnonce hres hidx
      hfirst hfrom hto

/-- A client with one server, 10.0.0.1, and one TCP mapping on it. -/
def oneFlow : Ctx :=
  (pcpNewFlow (.calm {}) (pcpAddServer (.calm {}) {} (.inet 0x0A000001 0) 2).2 (.inet 0 1234) none none
    ipprotoTcp 100).2

/-- The request of that flow as it is sent. -/
def oneFlowRequest : Flow :=
  (buildPcpMsg (.calm {}) (some (oneFlow.pcpServers 0)) (oneFlow.heap 0) oneFlow.io).1

/-- The reply of the reference server, delivered to the source address of the flow. -/
def oneFlowReply : Datagram :=
  { bytes := (createResponse ⟨2, .v4mapped 0xC0000201, 0, 0, 900⟩ 0 1000
      (oneFlowRequest.pcpMsgBuffer.getD .zero)).slice 0 oneFlowRequest.pcpMsgLen
    src := .inet 0x0A000001 5351
    dst := .inet6 (oneFlow.heap 0).kd.srcIp 0 0 }

theorem answer_finds_request_map :
    validatePcpMsg (readMsg (.calm {}) oneFlow oneFlowReply).msg = true ∧
      (parseResponse {} (readMsg (.calm {}) oneFlow oneFlowReply).msg).1 = .success ∧
      ∃ c', acceptMsg (.calm {}) (readMsg (.calm {}) oneFlow oneFlowReply) = (some 0, c') ∧
        c'.msg.kd = (oneFlow.heap 0).kd ∧ pcpGetFlow c' c'.msg.kd 0 = some 0 := by
  have hsome : oneFlowRequest.pcpMsgBuffer.isSome = true := by decide +kernel
  have hreq : oneFlowRequest.pcpMsgBuffer = some (oneFlowRequest.pcpMsgBuffer.getD .zero) := by
    obtain ⟨b, hb⟩ := Option.isSome_iff_exists.mp hsome
    rw [hb]
    rfl
  have hkey : NewFlowKeyOn (oneFlow.pcpServers 0) (oneFlow.heap 0).kd :=
    ⟨.calm {}, {}, {}, .inet 0 1234, none, ipprotoTcp, _, oneFlow.pcpServers 0, rfl,
      by decide +kernel, rfl⟩
  have hv2 : (oneFlow.pcpServers 0).pcpVersion = 2 := by decide +kernel
  exact answer_finds_request (.calm {}) oneFlow 0 0 oneFlowReply
    (oneFlowRequest.pcpMsgBuffer.getD .zero) 5351 0 0
    (.inl ⟨.inr hv2, .inl (by decide +kernel)⟩) hkey (by decide +kernel) (by decide +kernel)
    (by decide +kernel) (by decide +kernel)
    ⟨[], [], by decide +kernel, by simp⟩ (Option.isNone_iff_eq_none.mp (by decide +kernel)) hreq
    (by
      rw [ResponseTo, hv2, if_neg (by decide)]
      exact ⟨_, _, _, by decide, rfl⟩)
    (by decide +kernel) (by decide +kernel)

end LibPcp
