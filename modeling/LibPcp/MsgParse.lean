import LibPcp.Types

/-!
# LibPcp.MsgParse

`validate_pcp_msg` and `parse_response` (`pcp_msg.c`): checking a received datagram and copying its
fields into the message record. A parser returns the error code next to the message, since a failed
parse leaves behind what it had already stored.

`response_parser_exact`: the accepted datagrams are those of the grammar `ValidResponse`, and
validation, the result and every stored field are functions of the first `pcp_msg_len` bytes.
-/

namespace LibPcp

open ByteBuffer

/-- The `struct in6_addr` at offset `off`. -/
def readIn6 (b : Buf) (off : Nat) : In6Addr :=
  ⟨b.u32 off, b.u32 (off + 4), b.u32 (off + 8), b.u32 (off + 12)⟩

/-- The `struct pcp_nonce` at offset `off`. -/
def readNonce (b : Buf) (off : Nat) : Nonce := ⟨b.u32 off, b.u32 (off + 4), b.u32 (off + 8)⟩

def validatePcpMsg (m : RecvMsg) : Bool :=
  if m.pcpMsgLen &&& 3 ≠ 0 ∨ m.pcpMsgLen < 4 ∨ m.pcpMsgLen > pcpMaxLen then false
  else
    let ver := m.pcpMsgBuffer 0
    let rOpcode := m.pcpMsgBuffer 1
    if ver ≠ 0 ∧ rOpcode &&& 0x80 = 0 then false
    else if ver > pcpMaxSupportedVersion then false
    else true

/-- `parse_options` accepts everything. -/
def parseOptions (m : RecvMsg) : Errno × RecvMsg := (.success, m)

/-- `rest_size`: bytes of the message from offset `off` on. -/
def restSize (m : RecvMsg) (off : Nat) : Nat := m.pcpMsgLen - off

/-- The four `parse_vN_map` and `parse_vN_peer`: a structure of `size` bytes at offset `r`, stored
by `store`; options may follow it. -/
def parseStruct (size : Nat) (store : Nat → RecvMsg → RecvMsg) (m : RecvMsg) (r : Nat) :
    Errno × RecvMsg :=
  if restSize m r < size then (.recvFailed, m)
  else if restSize m r > size then parseOptions (store r m)
  else (.success, store r m)

def storeV1Map (r : Nat) (m : RecvMsg) : RecvMsg :=
  let b := m.pcpMsgBuffer
  { m with
    kd := { m.kd with srcPort := b.u16 (r + 4), protocol := b r }
    assignedExtPort := b.u16 (r + 6)
    assignedExtIp := readIn6 b (r + 8) }

def storeV2Map (r : Nat) (m : RecvMsg) : RecvMsg :=
  let b := m.pcpMsgBuffer
  { m with
    kd := { m.kd with nonce := readNonce b r, srcPort := b.u16 (r + 16), protocol := b (r + 12) }
    assignedExtPort := b.u16 (r + 18)
    assignedExtIp := readIn6 b (r + 20) }

def storeV1Peer (r : Nat) (m : RecvMsg) : RecvMsg :=
  let b := m.pcpMsgBuffer
  { m with
    kd := { m.kd with
      srcPort := b.u16 (r + 4), protocol := b r, dstPort := b.u16 (r + 24),
      dstIp := readIn6 b (r + 28) }
    assignedExtPort := b.u16 (r + 6)
    assignedExtIp := readIn6 b (r + 8) }

def storeV2Peer (r : Nat) (m : RecvMsg) : RecvMsg :=
  let b := m.pcpMsgBuffer
  { m with
    kd := { m.kd with
      nonce := readNonce b r, srcPort := b.u16 (r + 16), protocol := b (r + 12),
      dstPort := b.u16 (r + 36), dstIp := readIn6 b (r + 40) }
    assignedExtPort := b.u16 (r + 18)
    assignedExtIp := readIn6 b (r + 20) }

def parseV1Map : RecvMsg → Nat → Errno × RecvMsg := parseStruct 24 storeV1Map
def parseV2Map : RecvMsg → Nat → Errno × RecvMsg := parseStruct 36 storeV2Map
def parseV1Peer : RecvMsg → Nat → Errno × RecvMsg := parseStruct 44 storeV1Peer
def parseV2Peer : RecvMsg → Nat → Errno × RecvMsg := parseStruct 56 storeV2Peer

def parseSadscp (m : RecvMsg) (r : Nat) : Errno × RecvMsg :=
  if restSize m r < 16 then (.recvFailed, m)
  else
    let b := m.pcpMsgBuffer
    (.success, { m with
      kd := { m.kd with nonce := readNonce b r }
      recvDscp := b (r + 12) &&& 0x3f })

/-- The end of `parse_v0_resp`: the 8-byte "unsupported version" answer. -/
def parseInvVersion (m : RecvMsg) : Errno × RecvMsg :=
  if m.pcpMsgLen = 8 then
    (.success, { m with
      recvResult := (m.pcpMsgBuffer.u16 2).toUInt32, recvEpoch := m.pcpMsgBuffer.u32 4 })
  else (.recvFailed, m)

/-- `parse_v0_resp`. An announce or map answer of another size than its structure falls through to
the 8-byte answer. -/
def parseV0Resp (m : RecvMsg) : Errno × RecvMsg :=
  let b := m.pcpMsgBuffer
  if m.kd.operation = opcodeAnnounce ∧ m.pcpMsgLen = 12 then
    (.success, { m with recvEpoch := b.u32 4, assignedExtIp := .v4mapped (b.u32 8) })
  else if (m.kd.operation = natpmpOpcodeMapTcp ∨ m.kd.operation = natpmpOpcodeMapUdp) ∧
      m.pcpMsgLen = 16 then
    (.success, { m with
      assignedExtPort := b.u16 10
      recvEpoch := b.u32 4
      recvLifetime := b.u32 12
      recvResult := (b.u16 2).toUInt32
      kd := { m.kd with
        srcPort := b.u16 8
        protocol := if m.kd.operation = natpmpOpcodeMapTcp then ipprotoTcp else ipprotoUdp
        operation := opcodeMap } })
  else parseInvVersion m

/-- The part shared by `parse_v1_resp` and `parse_v2_resp`: header size, lifetime and epoch. -/
def parseHeader (m : RecvMsg) (k : RecvMsg → Errno × RecvMsg) : Errno × RecvMsg :=
  if m.pcpMsgLen < 24 then (.recvFailed, m)
  else k { m with recvLifetime := m.pcpMsgBuffer.u32 4, recvEpoch := m.pcpMsgBuffer.u32 8 }

def parseV1Resp (m : RecvMsg) : Errno × RecvMsg :=
  parseHeader m fun m =>
    if m.kd.operation = opcodeAnnounce then (.success, m)
    else if m.kd.operation = opcodeMap then parseV1Map m 24
    else if m.kd.operation = opcodePeer then parseV1Peer m 24
    else (.recvFailed, m)

def parseV2Resp (cfg : Config) (m : RecvMsg) : Errno × RecvMsg :=
  parseHeader m fun m =>
    if m.kd.operation = opcodeAnnounce then (.success, m)
    else if m.kd.operation = opcodeMap then parseV2Map m 24
    else if m.kd.operation = opcodePeer then parseV2Peer m 24
    else if cfg.sadscp ∧ m.kd.operation = opcodeSadscp then parseSadscp m 24
    else (.recvFailed, m)

/-- The fields `parse_response` stores before the switch on the version. -/
def RecvMsg.setResponse (m : RecvMsg) : RecvMsg :=
  { m with
    recvVersion := (m.pcpMsgBuffer 0).toUInt32
    recvResult := (m.pcpMsgBuffer 3).toUInt32
    kd := { FlowKeyData.zero with operation := m.pcpMsgBuffer 1 &&& 0x7f } }

def parseResponse (cfg : Config) (m : RecvMsg) : Errno × RecvMsg :=
  let ver := m.pcpMsgBuffer 0
  let m := m.setResponse
  if ver = 0 then parseV0Resp m
  else if ver = 1 then parseV1Resp m
  else if ver = 2 then parseV2Resp cfg m
  else (.unsupVersion, m)

/-- What reception stored stays as it is. -/
structure RecvMsg.SameOrigin (m m' : RecvMsg) : Prop where
  rcvdFromAddr : m'.rcvdFromAddr = m.rcvdFromAddr
  rcvdToAddr : m'.rcvdToAddr = m.rcvdToAddr
  receivedTime : m'.receivedTime = m.receivedTime

theorem parseStruct_origin (size : Nat) {store : Nat → RecvMsg → RecvMsg} {m : RecvMsg} (r : Nat)
    (h : m.SameOrigin (store r m)) : m.SameOrigin (parseStruct size store m r).2 := by
  unfold parseStruct
  split
  · exact ⟨rfl, rfl, rfl⟩
  · split <;> exact h

theorem parseResponse_origin (cfg : Config) (m : RecvMsg) : m.SameOrigin (parseResponse cfg m).2 := by
  have hstruct : ∀ {size : Nat} {store : Nat → RecvMsg → RecvMsg} {m' : RecvMsg}, m.SameOrigin m' →
      m'.SameOrigin (store 24 m') → m.SameOrigin (parseStruct size store m' 24).2 := by
    intro size store m' h hs
    obtain ⟨h₁, h₂, h₃⟩ := parseStruct_origin size 24 hs
    exact ⟨h₁.trans h.1, h₂.trans h.2, h₃.trans h.3⟩
  simp only [parseResponse, parseV0Resp, parseInvVersion, parseV1Resp, parseV2Resp, parseHeader,
    parseV1Map, parseV2Map, parseV1Peer, parseV2Peer, parseSadscp]
  repeat' split
  all_goals first
    | exact ⟨rfl, rfl, rfl⟩
    | exact hstruct ⟨rfl, rfl, rfl⟩ ⟨rfl, rfl, rfl⟩

/-! ## The accepted language -/

/-- A datagram of `n` bytes in buffer `b` is a well-formed response. -/
def ValidResponse (cfg : Config) (b : Buf) (n : Nat) : Prop :=
  let v := b 0
  let op := b 1 &&& 0x7f
  n % 4 = 0 ∧ 4 ≤ n ∧ n ≤ 1100 ∧ v ≤ 2 ∧ (0 < v → b 1 &&& 0x80 ≠ 0) ∧
    ((v = 0 ∧ (op = 0 ∧ n = 12 ∨ (op = 1 ∨ op = 2) ∧ n = 16 ∨ n = 8)) ∨
      ((v = 1 ∨ v = 2) ∧ 24 ≤ n ∧
        (op = 0 ∨ (op = 1 ∧ (v = 1 ∧ 48 ≤ n ∨ v = 2 ∧ 60 ≤ n)) ∨
          (op = 2 ∧ (v = 1 ∧ 68 ≤ n ∨ v = 2 ∧ 80 ≤ n)) ∨
          (cfg.sadscp = true ∧ op = 3 ∧ v = 2 ∧ 40 ≤ n))))

/-- The message `m` with another buffer, which the parsers never write. -/
def RecvMsg.withBuf (m : RecvMsg) (b : Buf) : RecvMsg := { m with pcpMsgBuffer := b }

/-- The datagram is accepted: validation passes and the parser succeeds. -/
def Accepted (cfg : Config) (m : RecvMsg) : Prop :=
  validatePcpMsg m = true ∧ (parseResponse cfg m).1 = .success

theorem validatePcpMsg_iff (m : RecvMsg) :
    validatePcpMsg m = true ↔
      m.pcpMsgLen % 4 = 0 ∧ 4 ≤ m.pcpMsgLen ∧ m.pcpMsgLen ≤ 1100 ∧ m.pcpMsgBuffer 0 ≤ 2 ∧
        (0 < m.pcpMsgBuffer 0 → m.pcpMsgBuffer 1 &&& 0x80 ≠ 0) := by
  have h3 : m.pcpMsgLen &&& 3 = m.pcpMsgLen % 4 := Nat.and_two_pow_sub_one_eq_mod m.pcpMsgLen 2
  have hpos : 0 < m.pcpMsgBuffer 0 ↔ m.pcpMsgBuffer 0 ≠ 0 := UInt8.pos_iff_ne_zero
  have hle : m.pcpMsgBuffer 0 ≤ 2 ↔ ¬ m.pcpMsgBuffer 0 > 2 := UInt8.not_lt.symm
  simp only [validatePcpMsg, h3, pcpMaxLen, pcpMaxSupportedVersion, hpos, hle]
  by_cases hlen : m.pcpMsgLen % 4 ≠ 0 ∨ m.pcpMsgLen < 4 ∨ m.pcpMsgLen > 1100
  · rw [if_pos hlen]; simp; omega
  · rw [if_neg hlen]
    have hlen' : m.pcpMsgLen % 4 = 0 ∧ 4 ≤ m.pcpMsgLen ∧ m.pcpMsgLen ≤ 1100 := by omega
    by_cases hver : m.pcpMsgBuffer 0 > 2 <;> by_cases h0 : m.pcpMsgBuffer 0 = 0 <;>
      by_cases hr : m.pcpMsgBuffer 1 &&& 128 = 0 <;> simp [hlen', hver, h0, hr]

theorem parseStruct_ok {size : Nat} {store : Nat → RecvMsg → RecvMsg} (m : RecvMsg) (r : Nat) :
    (parseStruct size store m r).1 = .success ↔ size ≤ m.pcpMsgLen - r := by
  by_cases h : m.pcpMsgLen - r < size
  · simp [parseStruct, restSize, h]
  · have hle : size ≤ m.pcpMsgLen - r := by omega
    by_cases h' : m.pcpMsgLen - r > size
    · simp [parseStruct, parseOptions, restSize, h, h', hle]
    · simp [parseStruct, restSize, h, h', hle]

theorem parseStruct_eq {size : Nat} {store : Nat → RecvMsg → RecvMsg} {m : RecvMsg} {r : Nat}
    (h : size ≤ m.pcpMsgLen - r) : parseStruct size store m r = (.success, store r m) := by
  have hlt : ¬ restSize m r < size := by simp only [restSize]; omega
  simp only [parseStruct, if_neg hlt, parseOptions]
  split <;> rfl

theorem parseSadscp_ok (m : RecvMsg) (r : Nat) :
    (parseSadscp m r).1 = .success ↔ 16 ≤ m.pcpMsgLen - r := by
  by_cases h : m.pcpMsgLen - r < 16
  · simp [parseSadscp, restSize, h]
  · simp [parseSadscp, restSize, h, Nat.not_lt.mp h]

theorem parseV0Resp_ok (m : RecvMsg) :
    (parseV0Resp m).1 = .success ↔
      (m.kd.operation = 0 ∧ m.pcpMsgLen = 12) ∨
        ((m.kd.operation = 1 ∨ m.kd.operation = 2) ∧ m.pcpMsgLen = 16) ∨ m.pcpMsgLen = 8 := by
  have hm' : (m.kd.operation = natpmpOpcodeMapTcp ∨ m.kd.operation = natpmpOpcodeMapUdp) ↔
      (m.kd.operation = 1 ∨ m.kd.operation = 2) := or_comm
  simp only [parseV0Resp, parseInvVersion]
  by_cases ha : m.kd.operation = opcodeAnnounce ∧ m.pcpMsgLen = 12
  · simp only [if_pos ha, true_iff]
    exact .inl ha
  · simp only [if_neg ha]
    by_cases hm : (m.kd.operation = natpmpOpcodeMapTcp ∨ m.kd.operation = natpmpOpcodeMapUdp) ∧
        m.pcpMsgLen = 16
    · simp only [if_pos hm, true_iff]
      exact .inr (.inl ⟨hm'.mp hm.1, hm.2⟩)
    · simp only [if_neg hm]
      by_cases h8 : m.pcpMsgLen = 8
      · simp [h8]
      · simp only [h8, if_false, or_false]
        constructor
        · intro h; cases h
        · rintro (h | h)
          · exact absurd h ha
          · exact absurd ⟨hm'.mpr h.1, h.2⟩ hm

theorem parseV1Resp_ok (m : RecvMsg) :
    (parseV1Resp m).1 = .success ↔ 24 ≤ m.pcpMsgLen ∧
      (m.kd.operation = 0 ∨ (m.kd.operation = 1 ∧ 48 ≤ m.pcpMsgLen) ∨
        (m.kd.operation = 2 ∧ 68 ≤ m.pcpMsgLen)) := by
  simp only [parseV1Resp, parseHeader, opcodeAnnounce, opcodeMap, opcodePeer]
  by_cases hl : m.pcpMsgLen < 24
  · rw [if_pos hl]; simp; omega
  · rw [if_neg hl]
    by_cases h0 : m.kd.operation = 0
    · simp [h0]; omega
    · by_cases h1 : m.kd.operation = 1
      · simp [h1, parseV1Map, parseStruct_ok]; omega
      · by_cases h2 : m.kd.operation = 2
        · simp [h2, parseV1Peer, parseStruct_ok]; omega
        · simp [h0, h1, h2]

theorem parseV2Resp_ok (cfg : Config) (m : RecvMsg) :
    (parseV2Resp cfg m).1 = .success ↔ 24 ≤ m.pcpMsgLen ∧
      (m.kd.operation = 0 ∨ (m.kd.operation = 1 ∧ 60 ≤ m.pcpMsgLen) ∨
        (m.kd.operation = 2 ∧ 80 ≤ m.pcpMsgLen) ∨
        (cfg.sadscp = true ∧ m.kd.operation = 3 ∧ 40 ≤ m.pcpMsgLen)) := by
  simp only [parseV2Resp, parseHeader, opcodeAnnounce, opcodeMap, opcodePeer, opcodeSadscp]
  by_cases hl : m.pcpMsgLen < 24
  · rw [if_pos hl]; simp; omega
  · rw [if_neg hl]
    by_cases h0 : m.kd.operation = 0
    · simp [h0]; omega
    · by_cases h1 : m.kd.operation = 1
      · simp [h1, parseV2Map, parseStruct_ok]; omega
      · by_cases h2 : m.kd.operation = 2
        · simp [h2, parseV2Peer, parseStruct_ok]; omega
        · by_cases h3 : cfg.sadscp = true ∧ m.kd.operation = 3
          · simp [h3.1, h3.2, parseSadscp_ok]; omega
          · simp only [h0, h1, h2, h3, if_false, false_and, false_or]
            constructor
            · intro h; cases h
            · rintro ⟨_, hs, h, _⟩; exact absurd ⟨hs, h⟩ h3

theorem accepted_iff (cfg : Config) (m : RecvMsg) :
    Accepted cfg m ↔ ValidResponse cfg m.pcpMsgBuffer m.pcpMsgLen := by
  have hop : m.setResponse.kd.operation = m.pcpMsgBuffer 1 &&& 0x7f := rfl
  have hlen : m.setResponse.pcpMsgLen = m.pcpMsgLen := rfl
  simp only [Accepted, ValidResponse, validatePcpMsg_iff, parseResponse]
  by_cases h0 : m.pcpMsgBuffer 0 = 0
  · rw [if_pos h0, parseV0Resp_ok]
    simp [h0, and_assoc, hop, hlen]
  · by_cases h1 : m.pcpMsgBuffer 0 = 1
    · rw [if_neg h0, if_pos h1, parseV1Resp_ok]
      simp [h1, and_assoc, hop, hlen]
    · by_cases h2 : m.pcpMsgBuffer 0 = 2
      · rw [if_neg h0, if_neg h1, if_pos h2, parseV2Resp_ok]
        simp [h2, and_assoc, hop, hlen]
      · simp [h0, h1, h2]

/-! ## Bytes past the datagram -/

section Prefix

variable {m : RecvMsg} {b' : Buf}

theorem readIn6_congr {b b' : Buf} {n off : Nat} (h : Buf.AgreeTo n b b') (ho : off + 16 ≤ n) :
    readIn6 b' off = readIn6 b off := by
  simp only [readIn6]
  rw [h.u32 (by omega : off + 4 ≤ n), h.u32 (by omega : off + 4 + 4 ≤ n),
    h.u32 (by omega : off + 8 + 4 ≤ n), h.u32 (by omega : off + 12 + 4 ≤ n)]

theorem readNonce_congr {b b' : Buf} {n off : Nat} (h : Buf.AgreeTo n b b') (ho : off + 12 ≤ n) :
    readNonce b' off = readNonce b off := by
  simp only [readNonce]
  rw [h.u32 (by omega : off + 4 ≤ n), h.u32 (by omega : off + 4 + 4 ≤ n),
    h.u32 (by omega : off + 8 + 4 ≤ n)]

theorem parseStruct_withBuf {size : Nat} {store : Nat → RecvMsg → RecvMsg} {r : Nat} (hs : 0 < size)
    (hst : r + size ≤ m.pcpMsgLen → store r (m.withBuf b') = (store r m).withBuf b') :
    parseStruct size store (m.withBuf b') r =
      ((parseStruct size store m r).1, (parseStruct size store m r).2.withBuf b') := by
  have hrest : restSize (m.withBuf b') r = restSize m r := rfl
  simp only [parseStruct, hrest]
  by_cases h : restSize m r < size
  · simp [h]
  · have hle : r + size ≤ m.pcpMsgLen := by simp only [restSize] at h; omega
    by_cases h' : restSize m r > size <;> simp [h, h', parseOptions, hst hle]

theorem storeV1Map_withBuf (h : Buf.AgreeTo m.pcpMsgLen m.pcpMsgBuffer b') (r : Nat)
    (hle : r + 24 ≤ m.pcpMsgLen) :
    storeV1Map r (m.withBuf b') = (storeV1Map r m).withBuf b' := by
  have hproto := h.get (by omega : r + 1 ≤ m.pcpMsgLen)
  have hint := h.u16 (by omega : r + 4 + 2 ≤ m.pcpMsgLen)
  have hext := h.u16 (by omega : r + 6 + 2 ≤ m.pcpMsgLen)
  have hip := readIn6_congr h (by omega : r + 8 + 16 ≤ m.pcpMsgLen)
  simp only [storeV1Map, RecvMsg.withBuf, hproto, hint, hext, hip]

theorem storeV2Map_withBuf (h : Buf.AgreeTo m.pcpMsgLen m.pcpMsgBuffer b') (r : Nat)
    (hle : r + 36 ≤ m.pcpMsgLen) :
    storeV2Map r (m.withBuf b') = (storeV2Map r m).withBuf b' := by
  have hnonce := readNonce_congr h (by omega : r + 12 ≤ m.pcpMsgLen)
  have hproto := h.get (by omega : r + 12 + 1 ≤ m.pcpMsgLen)
  have hint := h.u16 (by omega : r + 16 + 2 ≤ m.pcpMsgLen)
  have hext := h.u16 (by omega : r + 18 + 2 ≤ m.pcpMsgLen)
  have hip := readIn6_congr h (by omega : r + 20 + 16 ≤ m.pcpMsgLen)
  simp only [storeV2Map, RecvMsg.withBuf, hnonce, hproto, hint, hext, hip]

theorem storeV1Peer_withBuf (h : Buf.AgreeTo m.pcpMsgLen m.pcpMsgBuffer b') (r : Nat)
    (hle : r + 44 ≤ m.pcpMsgLen) :
    storeV1Peer r (m.withBuf b') = (storeV1Peer r m).withBuf b' := by
  have hproto := h.get (by omega : r + 1 ≤ m.pcpMsgLen)
  have hint := h.u16 (by omega : r + 4 + 2 ≤ m.pcpMsgLen)
  have hext := h.u16 (by omega : r + 6 + 2 ≤ m.pcpMsgLen)
  have hip := readIn6_congr h (by omega : r + 8 + 16 ≤ m.pcpMsgLen)
  have hport := h.u16 (by omega : r + 24 + 2 ≤ m.pcpMsgLen)
  have hpeer := readIn6_congr h (by omega : r + 28 + 16 ≤ m.pcpMsgLen)
  simp only [storeV1Peer, RecvMsg.withBuf, hproto, hint, hext, hip, hport, hpeer]

theorem storeV2Peer_withBuf (h : Buf.AgreeTo m.pcpMsgLen m.pcpMsgBuffer b') (r : Nat)
    (hle : r + 56 ≤ m.pcpMsgLen) :
    storeV2Peer r (m.withBuf b') = (storeV2Peer r m).withBuf b' := by
  have hnonce := readNonce_congr h (by omega : r + 12 ≤ m.pcpMsgLen)
  have hproto := h.get (by omega : r + 12 + 1 ≤ m.pcpMsgLen)
  have hint := h.u16 (by omega : r + 16 + 2 ≤ m.pcpMsgLen)
  have hext := h.u16 (by omega : r + 18 + 2 ≤ m.pcpMsgLen)
  have hip := readIn6_congr h (by omega : r + 20 + 16 ≤ m.pcpMsgLen)
  have hport := h.u16 (by omega : r + 36 + 2 ≤ m.pcpMsgLen)
  have hpeer := readIn6_congr h (by omega : r + 40 + 16 ≤ m.pcpMsgLen)
  simp only [storeV2Peer, RecvMsg.withBuf, hnonce, hproto, hint, hext, hip, hport, hpeer]

theorem parseSadscp_withBuf (h : Buf.AgreeTo m.pcpMsgLen m.pcpMsgBuffer b') (r : Nat) :
    parseSadscp (m.withBuf b') r = ((parseSadscp m r).1, (parseSadscp m r).2.withBuf b') := by
  have hrest : restSize (m.withBuf b') r = restSize m r := rfl
  simp only [parseSadscp, hrest]
  by_cases hl : restSize m r < 16
  · simp [hl]
  · have hle : r + 16 ≤ m.pcpMsgLen := by simp only [restSize] at hl; omega
    simp only [hl, if_false, RecvMsg.withBuf]
    rw [h.get (by omega : r + 12 + 1 ≤ m.pcpMsgLen),
      readNonce_congr h (by omega : r + 12 ≤ m.pcpMsgLen)]

theorem parseInvVersion_withBuf (h : Buf.AgreeTo m.pcpMsgLen m.pcpMsgBuffer b') :
    parseInvVersion (m.withBuf b') = ((parseInvVersion m).1, (parseInvVersion m).2.withBuf b') := by
  simp only [parseInvVersion, RecvMsg.withBuf]
  by_cases hl : m.pcpMsgLen = 8
  · simp only [hl, if_true]
    rw [h.u16 (by omega : 2 + 2 ≤ m.pcpMsgLen), h.u32 (by omega : 4 + 4 ≤ m.pcpMsgLen)]
  · simp only [hl, if_false]

theorem parseV0Resp_withBuf (h : Buf.AgreeTo m.pcpMsgLen m.pcpMsgBuffer b') :
    parseV0Resp (m.withBuf b') = ((parseV0Resp m).1, (parseV0Resp m).2.withBuf b') := by
  have hkd : (m.withBuf b').kd = m.kd := rfl
  have hlen : (m.withBuf b').pcpMsgLen = m.pcpMsgLen := rfl
  simp only [parseV0Resp, hkd, hlen]
  by_cases ha : m.kd.operation = opcodeAnnounce ∧ m.pcpMsgLen = 12
  · simp only [if_pos ha, RecvMsg.withBuf]
    rw [h.u32 (by omega : 4 + 4 ≤ m.pcpMsgLen), h.u32 (by omega : 8 + 4 ≤ m.pcpMsgLen)]
  · simp only [if_neg ha]
    by_cases hm : (m.kd.operation = natpmpOpcodeMapTcp ∨ m.kd.operation = natpmpOpcodeMapUdp) ∧
        m.pcpMsgLen = 16
    · simp only [if_pos hm, RecvMsg.withBuf]
      rw [h.u32 (by omega : 4 + 4 ≤ m.pcpMsgLen), h.u32 (by omega : 12 + 4 ≤ m.pcpMsgLen),
        h.u16 (by omega : 2 + 2 ≤ m.pcpMsgLen), h.u16 (by omega : 8 + 2 ≤ m.pcpMsgLen),
        h.u16 (by omega : 10 + 2 ≤ m.pcpMsgLen)]
    · simp only [if_neg hm]
      exact parseInvVersion_withBuf h

theorem parseHeader_withBuf {k : RecvMsg → Errno × RecvMsg}
    (h : Buf.AgreeTo m.pcpMsgLen m.pcpMsgBuffer b')
    (hk : ∀ m' : RecvMsg, Buf.AgreeTo m'.pcpMsgLen m'.pcpMsgBuffer b' →
      k (m'.withBuf b') = ((k m').1, (k m').2.withBuf b')) :
    parseHeader (m.withBuf b') k =
      ((parseHeader m k).1, (parseHeader m k).2.withBuf b') := by
  by_cases hl : m.pcpMsgLen < 24
  · simp [parseHeader, RecvMsg.withBuf, hl]
  · have hk' := hk
      { m with recvLifetime := m.pcpMsgBuffer.u32 4, recvEpoch := m.pcpMsgBuffer.u32 8 } h
    simp only [parseHeader, RecvMsg.withBuf, hl, if_false] at hk' ⊢
    rw [← h.u32 (by omega : 4 + 4 ≤ m.pcpMsgLen), ← h.u32 (by omega : 8 + 4 ≤ m.pcpMsgLen)]
    exact hk'

theorem parseV1Resp_withBuf (h : Buf.AgreeTo m.pcpMsgLen m.pcpMsgBuffer b') :
    parseV1Resp (m.withBuf b') = ((parseV1Resp m).1, (parseV1Resp m).2.withBuf b') := by
  apply parseHeader_withBuf h
  intro m' h'
  have hkd : (m'.withBuf b').kd = m'.kd := rfl
  simp only [hkd]
  by_cases h0 : m'.kd.operation = opcodeAnnounce
  · simp only [if_pos h0]
  · by_cases h1 : m'.kd.operation = opcodeMap
    · simp only [if_neg h0, if_pos h1]
      exact parseStruct_withBuf (by decide) (storeV1Map_withBuf h' 24)
    · by_cases h2 : m'.kd.operation = opcodePeer
      · simp only [if_neg h0, if_neg h1, if_pos h2]
        exact parseStruct_withBuf (by decide) (storeV1Peer_withBuf h' 24)
      · simp only [if_neg h0, if_neg h1, if_neg h2]

theorem parseV2Resp_withBuf (cfg : Config) (h : Buf.AgreeTo m.pcpMsgLen m.pcpMsgBuffer b') :
    parseV2Resp cfg (m.withBuf b') =
      ((parseV2Resp cfg m).1, (parseV2Resp cfg m).2.withBuf b') := by
  apply parseHeader_withBuf h
  intro m' h'
  have hkd : (m'.withBuf b').kd = m'.kd := rfl
  simp only [hkd]
  by_cases h0 : m'.kd.operation = opcodeAnnounce
  · simp only [if_pos h0]
  · by_cases h1 : m'.kd.operation = opcodeMap
    · simp only [if_neg h0, if_pos h1]
      exact parseStruct_withBuf (by decide) (storeV2Map_withBuf h' 24)
    · by_cases h2 : m'.kd.operation = opcodePeer
      · simp only [if_neg h0, if_neg h1, if_pos h2]
        exact parseStruct_withBuf (by decide) (storeV2Peer_withBuf h' 24)
      · by_cases h3 : cfg.sadscp = true ∧ m'.kd.operation = opcodeSadscp
        · simp only [if_neg h0, if_neg h1, if_neg h2, if_pos h3]
          exact parseSadscp_withBuf h' 24
        · simp only [if_neg h0, if_neg h1, if_neg h2, if_neg h3]

theorem parseResponse_withBuf (cfg : Config) (hn : 4 ≤ m.pcpMsgLen)
    (h : Buf.AgreeTo m.pcpMsgLen m.pcpMsgBuffer b') :
    parseResponse cfg (m.withBuf b') =
      ((parseResponse cfg m).1, (parseResponse cfg m).2.withBuf b') := by
  have e0 := h.get (by omega : 0 + 1 ≤ m.pcpMsgLen)
  have e1 := h.get (by omega : 1 + 1 ≤ m.pcpMsgLen)
  have e3 := h.get (by omega : 3 + 1 ≤ m.pcpMsgLen)
  have hset : (m.withBuf b').setResponse = m.setResponse.withBuf b' := by
    simp only [RecvMsg.setResponse, RecvMsg.withBuf, e0, e1, e3]
  have h : Buf.AgreeTo m.setResponse.pcpMsgLen m.setResponse.pcpMsgBuffer b' := h
  have hver : (m.withBuf b').pcpMsgBuffer 0 = m.pcpMsgBuffer 0 := e0.symm
  simp only [parseResponse, hset, hver]
  by_cases h0 : m.pcpMsgBuffer 0 = 0
  · simp only [if_pos h0]
    exact parseV0Resp_withBuf h
  · by_cases h1 : m.pcpMsgBuffer 0 = 1
    · simp only [if_neg h0, if_pos h1]
      exact parseV1Resp_withBuf h
    · by_cases h2 : m.pcpMsgBuffer 0 = 2
      · simp only [if_neg h0, if_neg h1, if_pos h2]
        exact parseV2Resp_withBuf cfg h
      · simp only [if_neg h0, if_neg h1, if_neg h2]

theorem validatePcpMsg_withBuf (h : Buf.AgreeTo m.pcpMsgLen m.pcpMsgBuffer b') :
    validatePcpMsg (m.withBuf b') = validatePcpMsg m := by
  rw [Bool.eq_iff_iff, validatePcpMsg_iff, validatePcpMsg_iff]
  by_cases hn : 4 ≤ m.pcpMsgLen
  · have e0 := h.get (by omega : 0 + 1 ≤ m.pcpMsgLen)
    have e1 := h.get (by omega : 1 + 1 ≤ m.pcpMsgLen)
    simp only [RecvMsg.withBuf, e0, e1]
  · simp [RecvMsg.withBuf, hn]

/-- The parser accepts exactly its grammar, and neither the verdict nor any stored field depends on
a byte past the datagram. -/
theorem response_parser_exact (cfg : Config) :
    (∀ m : RecvMsg, Accepted cfg m ↔ ValidResponse cfg m.pcpMsgBuffer m.pcpMsgLen) ∧
      ∀ (m : RecvMsg) (b' : Buf), Buf.AgreeTo m.pcpMsgLen m.pcpMsgBuffer b' →
        validatePcpMsg (m.withBuf b') = validatePcpMsg m ∧
          (validatePcpMsg m = true →
            (parseResponse cfg (m.withBuf b')).1 = (parseResponse cfg m).1 ∧
              (parseResponse cfg (m.withBuf b')).2 = (parseResponse cfg m).2.withBuf b') := by
  refine ⟨accepted_iff cfg, fun m b' h => ⟨validatePcpMsg_withBuf h, fun hv => ?_⟩⟩
  have hn : 4 ≤ m.pcpMsgLen := ((validatePcpMsg_iff m).mp hv).2.1
  rw [parseResponse_withBuf cfg hn h]
  exact ⟨rfl, rfl⟩

end Prefix

/-- A version-2 announce answer of 24 bytes, in a buffer whose later bytes are `stale`. -/
def announceAnswer (stale : UInt8) : RecvMsg :=
  { RecvMsg.zero with
    pcpMsgLen := 24
    pcpMsgBuffer := fun i => if i = 0 then 2 else if i = 1 then 0x80 else if i < 24 then 0 else stale }

theorem response_parser_exact_announce :
    Accepted {} (announceAnswer 0) ∧
      (parseResponse {} ((announceAnswer 0).withBuf (announceAnswer 7).pcpMsgBuffer)).1 = .success ∧
      (parseResponse {} ((announceAnswer 0).withBuf (announceAnswer 7).pcpMsgBuffer)).2 =
        (parseResponse {} (announceAnswer 0)).2.withBuf (announceAnswer 7).pcpMsgBuffer := by
  have hacc : Accepted {} (announceAnswer 0) :=
    ((response_parser_exact {}).1 _).mpr (by unfold ValidResponse; decide)
  have hagree : Buf.AgreeTo (announceAnswer 0).pcpMsgLen (announceAnswer 0).pcpMsgBuffer
      (announceAnswer 7).pcpMsgBuffer := by
    intro i hi
    have hi' : i < 24 := hi
    simp [announceAnswer, hi']
  have h := ((response_parser_exact {}).2 (announceAnswer 0) _ hagree).2 hacc.1
  exact ⟨hacc, h.1.trans hacc.2, h.2⟩

end LibPcp
