import LibPcp.MsgBuild
import LibPcp.MsgParse
import LibPcp.Tlv

/-!
# LibPcp.MsgEncode

What `build_pcp_msg` puts on the wire for MAP and PEER requests of versions 1 and 2.

Starting from a zeroed buffer the message is the concatenation of the common header, the structure
of the opcode and version, and the enabled options as type-length-value records (`encodeMsg_eq`).
`request_well_formed` reads it back: the fields are those of the flow and following the length
fields through the options ends exactly at `pcp_msg_len`.
-/

namespace LibPcp

open ByteBuffer

/-! ## The layout -/

def headerBytes (version : UInt8) (f : Flow) : List UInt8 :=
  [version, f.kd.operation &&& 0x7f, 0, 0] ++ be32 f.lifetime ++ f.kd.srcIp.bytes

def mapFieldBytes (f : Flow) : List UInt8 :=
  [f.kd.protocol, 0, 0, 0] ++ be16 f.kd.srcPort ++ be16 f.extPort ++ f.extIp.bytes

def peerFieldBytes (f : Flow) : List UInt8 :=
  mapFieldBytes f ++ be16 f.kd.dstPort ++ [0, 0] ++ f.kd.dstIp.bytes

/-- The structure after the header: version 2 puts the nonce before the version 1 fields. -/
def structBytes (version : UInt8) (f : Flow) : List UInt8 :=
  (if version = 2 then f.kd.nonce.bytes else []) ++
    (if f.kd.operation = opcodePeer then peerFieldBytes f else mapFieldBytes f)

def flowpTlv (f : Flow) : Tlv := ⟨optionFlowPriority, 0, [f.flowpDscpUp, f.flowpDscpDown, 0, 0]⟩

def filterTlv (f : Flow) : Tlv :=
  ⟨optionFilter, 0, [0, f.filterPrefix] ++ be16 f.filterPort ++ f.filterIp.bytes⟩

def preferFailureTlv : Tlv := ⟨optionPrefFail, 0, []⟩

def thirdPartyTlv (f : Flow) : Tlv := ⟨optionThirdParty, 0, f.thirdPartyIp.bytes⟩

def deviceidTlv (f : Flow) : Tlv := ⟨optionDeviceid, 0, f.deviceid.toList⟩

def useridTlv (f : Flow) : Tlv := ⟨optionUserid, 0, f.userid.toList⟩

def locationTlv (f : Flow) : Tlv := ⟨optionLocation, 0, f.location.toList⟩

/-- A metadata value: its id, its bytes, and zeros up to a multiple of four. -/
def mdTlv (md : MdVal) : Tlv :=
  ⟨optionMetadata, 0,
    be32 md.mdId.toUInt32 ++ md.val ++ List.replicate (mdPadding md.val.length) 0⟩

/-- The enabled options before the metadata, in the order of the wire. -/
def fixedOptions (cfg : Config) (f : Flow) : List Tlv :=
  (if cfg.flowPriority && f.flowpOptionPresent then [flowpTlv f] else []) ++
  (if f.filterOptionPresent then [filterTlv f] else []) ++
  (if f.pfailureOptionPresent then [preferFailureTlv] else []) ++
  (if f.thirdPartyOptionPresent then [thirdPartyTlv f] else []) ++
  (if cfg.experimental ∧ f.deviceid.toList.head? ≠ some 0 then [deviceidTlv f] else []) ++
  (if cfg.experimental ∧ f.userid.toList.head? ≠ some 0 then [useridTlv f] else []) ++
  (if cfg.experimental ∧ f.location.toList.head? ≠ some 0 then [locationTlv f] else [])

/-- The non-empty values that still fit, taken in order from the cursor `cur` on. -/
def fittingMd : Nat → List MdVal → List MdVal
  | _, [] => []
  | cur, md :: mds =>
    if md.val ≠ [] ∧ cur + (mdTlv md).bytes.length ≤ pcpMaxLen then
      md :: fittingMd (cur + (mdTlv md).bytes.length) mds
    else fittingMd cur mds

/-- All options of the message, for the options region starting at `cur`. -/
def requestOptions (cfg : Config) (f : Flow) (cur : Nat) : List Tlv :=
  let fixed := fixedOptions cfg f
  fixed ++ if cfg.experimental then
    (fittingMd (cur + (Tlv.bytesAll fixed).length) f.mdVals).map mdTlv else []

/-! ## Each option writes one record -/

theorem addFilterOption_appends (f : Flow) : Tlv.Appends (addFilterOption f) [filterTlv f] := by
  intro ⟨b, cur⟩ _
  have hb : (addFilterOption f (b, cur)).1 = b.blit cur (Tlv.bytesAll [filterTlv f]) := by
    simp only [addFilterOption]
    rw [Buf.blit_next, Buf.blit_next, Buf.blit_next, Buf.blit_next, Buf.blit_next, Buf.blit_next]
    all_goals rfl
  exact Prod.ext hb rfl

theorem addPreferFailureOption_appends : Tlv.Appends addPreferFailureOption [preferFailureTlv] := by
  intro ⟨b, cur⟩ _
  have hb : (addPreferFailureOption (b, cur)).1 = b.blit cur (Tlv.bytesAll [preferFailureTlv]) := by
    simp only [addPreferFailureOption]
    rw [Buf.blit_next, Buf.blit_next]
    all_goals rfl
  exact Prod.ext hb rfl

theorem addThirdPartyOption_appends (f : Flow) :
    Tlv.Appends (addThirdPartyOption f) [thirdPartyTlv f] := by
  intro ⟨b, cur⟩ _
  have hb : (addThirdPartyOption f (b, cur)).1 = b.blit cur (Tlv.bytesAll [thirdPartyTlv f]) := by
    simp only [addThirdPartyOption]
    rw [Buf.blit_sort _ (by simp), Buf.blit_next, Buf.blit_next, Buf.blit_next]
    all_goals rfl
  exact Prod.ext hb rfl

theorem addStringOption_appends (code : UInt8) {len : UInt16} {str : List UInt8}
    (h : len = UInt16.ofNat str.length) :
    Tlv.Appends (addStringOption code len str) [⟨code, 0, str⟩] := by
  intro ⟨b, cur⟩ hz
  have hgap : (b.blit cur [code]).blit (cur + 2) (be16 len) = b.blit cur ([code, 0] ++ be16 len) :=
    hz.blit_gap [code] (be16 len) 1
  have hb : (addStringOption code len str (b, cur)).1 =
      b.blit cur (Tlv.bytesAll [⟨code, 0, str⟩]) := by
    simp only [addStringOption, hgap]
    rw [Buf.blit_next]
    · simp [Tlv.bytesAll, Tlv.bytes, h]
    · rfl
  refine Prod.ext hb ?_
  simp only [addStringOption, Tlv.append, Tlv.bytesAll_cons, Tlv.bytesAll_nil, List.append_nil,
    Tlv.bytes_length]
  omega

theorem addFlowpOption_appends (f : Flow) : Tlv.Appends (addFlowpOption f) [flowpTlv f] := by
  intro ⟨b, cur⟩ hz
  have hgap : (b.blit cur [optionFlowPriority]).blit (cur + 2) (be16 4) =
      b.blit cur ([optionFlowPriority, 0] ++ be16 4) := hz.blit_gap [optionFlowPriority] (be16 4) 1
  have hpad := (hz.blit ([optionFlowPriority, 0] ++ be16 4 ++ [f.flowpDscpUp, f.flowpDscpDown])).blit_zeros 2
  have hb : (addFlowpOption f (b, cur)).1 = b.blit cur (Tlv.bytesAll [flowpTlv f]) := by
    simp only [addFlowpOption, hgap]
    rw [Buf.blit_next, Buf.blit_next]
    · refine Eq.trans hpad.symm ?_
      rw [Buf.blit_blit_append]
      rfl
    all_goals rfl
  exact Prod.ext hb rfl

theorem mdTlv_data_length (md : MdVal) :
    (mdTlv md).data.length = 4 + md.val.length + mdPadding md.val.length := by
  simp [mdTlv, Nat.add_assoc]

theorem mdTlv_bytes_length (md : MdVal) :
    (mdTlv md).bytes.length = 8 + md.val.length + mdPadding md.val.length := by
  rw [Tlv.bytes_length, mdTlv_data_length]
  omega

/-- A metadata option writes its length last and leaves the padding to the zeroed buffer. -/
theorem addMdOption_eq (md : MdVal) {c : Cursor} (hz : c.1.ZeroFrom c.2)
    (hfit : c.2 + (mdTlv md).bytes.length ≤ pcpMaxLen) :
    addMdOption md c = Tlv.append c [mdTlv md] := by
  obtain ⟨b, cur⟩ := c
  have hle : ¬ cur + (8 + md.val.length + mdPadding md.val.length) > pcpMaxLen := by
    rw [mdTlv_bytes_length] at hfit
    simp only at hfit
    omega
  let len := be16 (UInt16.ofNat (4 + md.val.length + mdPadding md.val.length))
  have hgap : (b.blit cur [optionMetadata]).blit (cur + 2) len =
      b.blit cur ([optionMetadata, 0] ++ len) := hz.blit_gap [optionMetadata] len 1
  have hpad := (hz.blit ([optionMetadata, 0] ++ len ++ (be32 md.mdId.toUInt32 ++ md.val))).blit_zeros
    (mdPadding md.val.length)
  have hb : (addMdOption md (b, cur)).1 = b.blit cur (Tlv.bytesAll [mdTlv md]) := by
    simp only [addMdOption, if_neg hle]
    simp (disch := simp) only [Buf.blit_sort]
    rw [hgap, Buf.blit_next, Buf.blit_next]
    · refine Eq.trans hpad.symm ?_
      rw [Buf.blit_blit_append]
      simp only [Tlv.bytesAll_cons, Tlv.bytesAll_nil, Tlv.bytes, mdTlv_data_length]
      simp [mdTlv, len]
    all_goals rfl
  refine Prod.ext hb ?_
  simp only [addMdOption, if_neg hle, Tlv.append, Tlv.bytesAll_cons, Tlv.bytesAll_nil,
    List.append_nil, mdTlv_bytes_length]
  omega

theorem addMdOption_skip (md : MdVal) {c : Cursor}
    (h : ¬ c.2 + (mdTlv md).bytes.length ≤ pcpMaxLen) : addMdOption md c = c := by
  have : c.2 + (8 + md.val.length + mdPadding md.val.length) > pcpMaxLen := by
    rw [mdTlv_bytes_length] at h
    omega
  simp only [addMdOption, if_pos this]

/-- The loop over the metadata: induction on the values, for every cursor. -/
theorem addMdOptions_eq (mds : List MdVal) :
    ∀ c : Cursor, c.1.ZeroFrom c.2 →
      addMdOptions mds c = Tlv.append c ((fittingMd c.2 mds).map mdTlv) := by
  induction mds with
  | nil => intro c _; simp [addMdOptions, fittingMd]
  | cons md mds ih =>
    intro c hz
    have hstep : addMdOptions (md :: mds) c =
        addMdOptions mds (if md.val.length ≠ 0 then addMdOption md c else c) := rfl
    rw [hstep, fittingMd]
    by_cases he : md.val = []
    · simpa [he] using ih c hz
    · have hlen : md.val.length ≠ 0 := by simpa using he
      rw [if_pos hlen]
      by_cases hfit : c.2 + (mdTlv md).bytes.length ≤ pcpMaxLen
      · rw [if_pos ⟨he, hfit⟩, addMdOption_eq md hz hfit, ih _ (Tlv.append_zeroFrom hz _),
          Tlv.append_append]
        simp [Tlv.append]
      · rw [if_neg (fun h => hfit h.2), addMdOption_skip md hfit]
        exact ih c hz

theorem addDeviceidOption_appends (f : Flow) :
    Tlv.Appends (addDeviceidOption f) [deviceidTlv f] := addStringOption_appends _ (by simp)

theorem addUseridOption_appends (f : Flow) :
    Tlv.Appends (addUseridOption f) [useridTlv f] := addStringOption_appends _ (by simp)

theorem addLocationOption_appends (f : Flow) :
    Tlv.Appends (addLocationOption f) [locationTlv f] := addStringOption_appends _ (by simp)

/-- The options before the metadata as one chain of conditional writers. -/
def addFixedOptions (cfg : Config) (f : Flow) (c : Cursor) : Cursor :=
  Tlv.writeIf (cfg.experimental ∧ f.location.toList.head? ≠ some 0) (addLocationOption f) <|
  Tlv.writeIf (cfg.experimental ∧ f.userid.toList.head? ≠ some 0) (addUseridOption f) <|
  Tlv.writeIf (cfg.experimental ∧ f.deviceid.toList.head? ≠ some 0) (addDeviceidOption f) <|
  Tlv.writeIf f.thirdPartyOptionPresent (addThirdPartyOption f) <|
  Tlv.writeIf f.pfailureOptionPresent addPreferFailureOption <|
  Tlv.writeIf f.filterOptionPresent (addFilterOption f) <|
  Tlv.writeIf (cfg.flowPriority && f.flowpOptionPresent) (addFlowpOption f) c

theorem addFixedOptions_appends (cfg : Config) (f : Flow) :
    Tlv.Appends (addFixedOptions cfg f) (fixedOptions cfg f) :=
  ((((((((addFlowpOption_appends f).writeIf _).comp ((addFilterOption_appends f).writeIf _)).comp
    (addPreferFailureOption_appends.writeIf _)).comp
    ((addThirdPartyOption_appends f).writeIf _)).comp
    ((addDeviceidOption_appends f).writeIf _)).comp
    ((addUseridOption_appends f).writeIf _)).comp
    ((addLocationOption_appends f).writeIf _))

theorem buildPcpOptions_chain (cfg : Config) (f : Flow) (c : Cursor) :
    buildPcpOptions cfg f c = Tlv.writeIf cfg.experimental (addMdOptions f.mdVals)
      (addFixedOptions cfg f c) := by
  let c4 := Tlv.writeIf f.thirdPartyOptionPresent (addThirdPartyOption f) <|
    Tlv.writeIf f.pfailureOptionPresent addPreferFailureOption <|
    Tlv.writeIf f.filterOptionPresent (addFilterOption f) <|
    Tlv.writeIf (cfg.flowPriority && f.flowpOptionPresent) (addFlowpOption f) c
  have h : buildPcpOptions cfg f c = if cfg.experimental then
      Tlv.writeIf (f.mdVals.length > 0) (addMdOptions f.mdVals) <|
      Tlv.writeIf (f.location.toList.head? ≠ some 0) (addLocationOption f) <|
      Tlv.writeIf (f.userid.toList.head? ≠ some 0) (addUseridOption f) <|
      Tlv.writeIf (f.deviceid.toList.head? ≠ some 0) (addDeviceidOption f) c4
    else c4 := rfl
  have hmd : ∀ c, Tlv.writeIf (f.mdVals.length > 0) (addMdOptions f.mdVals) c =
      addMdOptions f.mdVals c := by
    intro c
    cases hm : f.mdVals with
    | nil => simp [Tlv.writeIf, addMdOptions]
    | cons md mds => simp [Tlv.writeIf]
  rw [h, hmd]
  by_cases he : cfg.experimental = true
  · simp [addFixedOptions, he, c4]
  · simp [addFixedOptions, he, c4]

/-- `build_pcp_options` writes the enabled options and moves the cursor behind them. -/
theorem buildPcpOptions_eq (cfg : Config) (f : Flow) {c : Cursor} (hz : c.1.ZeroFrom c.2) :
    buildPcpOptions cfg f c = Tlv.append c (requestOptions cfg f c.2) := by
  rw [buildPcpOptions_chain, addFixedOptions_appends cfg f c hz]
  by_cases he : cfg.experimental
  · simp only [Tlv.writeIf, requestOptions, if_pos he]
    rw [addMdOptions_eq _ _ (Tlv.append_zeroFrom hz _), Tlv.append_append]
    rfl
  · simp only [Tlv.writeIf, requestOptions, if_neg he, List.append_nil]

/-! ## The whole message -/

theorem buildHeader_zero (version : UInt8) (f : Flow) :
    buildHeader version f .zero = Buf.ofList (headerBytes version f) := by
  have h1 : Buf.zero.blit 0 [version] = Buf.ofList [version] := rfl
  have hb : Buf.ofList [version] 1 = 0 := rfl
  simp only [buildHeader, h1, hb, UInt8.zero_or]
  simp (disch := simp) only [Buf.ofList_blit]
  rfl

/-- The message that starts with the bytes `l` and continues with the options. -/
def withOptions (cfg : Config) (f : Flow) (l : List UInt8) : List UInt8 :=
  l ++ Tlv.bytesAll (requestOptions cfg f l.length)

theorem buildPcpOptions_ofList (cfg : Config) (f : Flow) (l : List UInt8) :
    buildPcpOptions cfg f (Buf.ofList l, l.length) =
      (Buf.ofList (withOptions cfg f l), (withOptions cfg f l).length) := by
  have hz : (Buf.ofList l).ZeroFrom l.length := by
    have := (Buf.zero_zeroFrom 0).blit l
    rwa [Nat.zero_add] at this
  have happ := Buf.blit_next Buf.zero l (Tlv.bytesAll (requestOptions cfg f l.length))
    (Nat.zero_add l.length).symm
  rw [buildPcpOptions_eq cfg f hz]
  exact Prod.ext happ (List.length_append ..).symm

section Structs

variable (cfg : Config) (f : Flow) (hdr : List UInt8) (hlen : hdr.length = 24)

/-- The nonce comes first on the wire and is written last. -/
theorem blit_nonce (b : Buf) (n : Nonce) {off : Nat} (l : List UInt8) (h : 36 ≤ off) :
    (b.blit off l).blit 24 n.bytes = (b.blit 24 n.bytes).blit off l :=
  Buf.blit_sort b (by simpa using h)

include hlen

theorem buildPcpMap_v1 :
    buildPcpMap cfg 1 f (Buf.ofList hdr) 24 =
      some (Buf.ofList (withOptions cfg f (hdr ++ mapFieldBytes f)),
        (withOptions cfg f (hdr ++ mapFieldBytes f)).length) := by
  rw [← buildPcpOptions_ofList]
  simp only [buildPcpMap]
  simp (disch := simp [hlen]) only [Buf.ofList_blit]
  simp [hlen, mapFieldBytes]

theorem buildPcpMap_v2 :
    buildPcpMap cfg 2 f (Buf.ofList hdr) 24 =
      some (Buf.ofList (withOptions cfg f (hdr ++ (f.kd.nonce.bytes ++ mapFieldBytes f))),
        (withOptions cfg f (hdr ++ (f.kd.nonce.bytes ++ mapFieldBytes f))).length) := by
  have h21 : ¬ (2 : UInt8) = 1 := by decide
  rw [← buildPcpOptions_ofList]
  simp only [buildPcpMap, if_neg h21]
  simp (disch := simp) only [blit_nonce]
  simp (disch := simp [hlen]) only [Buf.ofList_blit]
  simp [hlen, mapFieldBytes]

theorem buildPcpPeer_v1 :
    buildPcpPeer cfg 1 f (Buf.ofList hdr) 24 =
      some (Buf.ofList (withOptions cfg f (hdr ++ peerFieldBytes f)),
        (withOptions cfg f (hdr ++ peerFieldBytes f)).length) := by
  rw [← buildPcpOptions_ofList]
  simp only [buildPcpPeer]
  -- the peer port is written before the external address that precedes it
  rw [Buf.blit_sort _ (show 24 + 8 + f.extIp.bytes.length ≤ 24 + 24 by simp)]
  simp (disch := simp [hlen]) only [Buf.ofList_blit]
  simp [hlen, peerFieldBytes, mapFieldBytes]

theorem buildPcpPeer_v2 :
    buildPcpPeer cfg 2 f (Buf.ofList hdr) 24 =
      some (Buf.ofList (withOptions cfg f (hdr ++ (f.kd.nonce.bytes ++ peerFieldBytes f))),
        (withOptions cfg f (hdr ++ (f.kd.nonce.bytes ++ peerFieldBytes f))).length) := by
  have h21 : ¬ (2 : UInt8) = 1 := by decide
  rw [← buildPcpOptions_ofList]
  simp only [buildPcpPeer, if_neg h21]
  simp (disch := simp) only [blit_nonce]
  rw [Buf.blit_sort _ (show 24 + 20 + f.extIp.bytes.length ≤ 24 + 36 by simp)]
  simp (disch := simp [hlen]) only [Buf.ofList_blit]
  simp [hlen, peerFieldBytes, mapFieldBytes]

end Structs

/-- The bytes of a MAP or PEER request. -/
def requestBytes (cfg : Config) (version : UInt8) (f : Flow) : List UInt8 :=
  withOptions cfg f (headerBytes version f ++ structBytes version f)

theorem encodeMsg_eq (cfg : Config) {version : UInt8} {f : Flow}
    (hv : version = 1 ∨ version = 2) (hop : f.kd.operation = opcodeMap ∨ f.kd.operation = opcodePeer) :
    encodeMsg cfg version f .zero =
      some (Buf.ofList (requestBytes cfg version f), (requestBytes cfg version f).length) := by
  have hlen : (headerBytes version f).length = 24 := rfl
  have hpeer : opcodeMap ≠ opcodePeer := by decide
  rcases hv with rfl | rfl <;> rcases hop with hop | hop
  · simp [encodeMsg, buildBody, hop, hpeer, buildHeader_zero, buildPcpMap_v1 cfg f _ hlen,
      requestBytes, structBytes]
  · simp [encodeMsg, buildBody, hop, buildHeader_zero, buildPcpPeer_v1 cfg f _ hlen,
      requestBytes, structBytes]
  · simp [encodeMsg, buildBody, hop, hpeer, buildHeader_zero, buildPcpMap_v2 cfg f _ hlen,
      requestBytes, structBytes]
  · simp [encodeMsg, buildBody, hop, buildHeader_zero, buildPcpPeer_v2 cfg f _ hlen,
      requestBytes, structBytes]

/-! ## Reading a request -/

/-- A decoded MAP or PEER request without its options. -/
structure Request where
  version : UInt8
  operation : UInt8
  lifetime : UInt32
  srcIp : In6Addr
  nonce : Option Nonce
  protocol : UInt8
  srcPort : UInt16
  extPort : UInt16
  extIp : In6Addr
  peer : Option (UInt16 × In6Addr)
  deriving DecidableEq, Repr

/-- Where the fields after the nonce start. -/
def requestFieldsAt (version : UInt8) : Nat := if version = 2 then 36 else 24

/-- Where the options start. -/
def requestOptionsAt (version operation : UInt8) : Nat :=
  requestFieldsAt version + if operation = opcodePeer then 44 else 24

def readRequest (b : Buf) : Request :=
  let loc := requestFieldsAt (b 0)
  { version := b 0
    operation := b 1
    lifetime := b.u32 4
    srcIp := readIn6 b 8
    nonce := if b 0 = 2 then some (readNonce b 24) else none
    protocol := b loc
    srcPort := b.u16 (loc + 4)
    extPort := b.u16 (loc + 6)
    extIp := readIn6 b (loc + 8)
    peer := if b 1 = opcodePeer then some (b.u16 (loc + 24), readIn6 b (loc + 28)) else none }

/-- The request the flow stands for. -/
def Flow.request (f : Flow) (version : UInt8) : Request :=
  { version := version
    operation := f.kd.operation
    lifetime := f.lifetime
    srcIp := f.kd.srcIp
    nonce := if version = 2 then some f.kd.nonce else none
    protocol := f.kd.protocol
    srcPort := f.kd.srcPort
    extPort := f.extPort
    extIp := f.extIp
    peer := if f.kd.operation = opcodePeer then some (f.kd.dstPort, f.kd.dstIp) else none }

theorem readIn6_of_slice {b : Buf} {off : Nat} {a : In6Addr} (h : b.slice off 16 = a.bytes) :
    readIn6 b off = a := by
  obtain ⟨h, h3⟩ := Buf.slice_split (m := 12) (n := 4) h rfl
  obtain ⟨h, h2⟩ := Buf.slice_split (m := 8) (n := 4) h rfl
  obtain ⟨h0, h1⟩ := Buf.slice_split (m := 4) (n := 4) h rfl
  simp only [readIn6, Buf.u32_of_slice h0, Buf.u32_of_slice h1, Buf.u32_of_slice h2,
    Buf.u32_of_slice h3]

theorem readNonce_of_slice {b : Buf} {off : Nat} {n : Nonce} (h : b.slice off 12 = n.bytes) :
    readNonce b off = n := by
  obtain ⟨h, h2⟩ := Buf.slice_split (m := 8) (n := 4) h rfl
  obtain ⟨h0, h1⟩ := Buf.slice_split (m := 4) (n := 4) h rfl
  simp only [readNonce, Buf.u32_of_slice h0, Buf.u32_of_slice h1, Buf.u32_of_slice h2]

section ReadBack

variable {f : Flow}

/-- The header, whatever follows it. -/
theorem readRequest_header (version : UInt8) (l : List UInt8)
    (hop : f.kd.operation &&& 0x7f = f.kd.operation) :
    let b := Buf.ofList (headerBytes version f ++ l)
    b 0 = version ∧ b 1 = f.kd.operation ∧ b.u32 4 = f.lifetime ∧ readIn6 b 8 = f.kd.srcIp :=
  ⟨rfl, hop, Buf.u32_of_slice rfl, readIn6_of_slice rfl⟩

/-- The fields MAP and PEER share, behind any 24 or 36 bytes. -/
theorem readRequest_map (b : Buf) (loc : Nat) (h : b.slice loc 24 = mapFieldBytes f) :
    b loc = f.kd.protocol ∧ b.u16 (loc + 4) = f.kd.srcPort ∧ b.u16 (loc + 6) = f.extPort ∧
      readIn6 b (loc + 8) = f.extIp := by
  obtain ⟨h, hip⟩ := Buf.slice_split (m := 8) (n := 16) h rfl
  obtain ⟨h, hext⟩ := Buf.slice_split (m := 6) (n := 2) h rfl
  obtain ⟨h, hsrc⟩ := Buf.slice_split (m := 4) (n := 2) h rfl
  have hproto : b (loc + 0) = f.kd.protocol := Buf.get_of_slice h (by simp)
  exact ⟨hproto, Buf.u16_of_slice hsrc, Buf.u16_of_slice hext, readIn6_of_slice hip⟩

theorem readRequest_peer (b : Buf) (loc : Nat) (h : b.slice loc 44 = peerFieldBytes f) :
    b.slice loc 24 = mapFieldBytes f ∧ b.u16 (loc + 24) = f.kd.dstPort ∧
      readIn6 b (loc + 28) = f.kd.dstIp := by
  obtain ⟨h, hip⟩ := Buf.slice_split (m := 28) (n := 16) h rfl
  obtain ⟨h, _⟩ := Buf.slice_split (m := 26) (n := 2) h rfl
  obtain ⟨h, hport⟩ := Buf.slice_split (m := 24) (n := 2) h rfl
  exact ⟨h, Buf.u16_of_slice hport, readIn6_of_slice hip⟩

end ReadBack

/-- Header and structure of an encoded request give back the flow's fields. -/
theorem readRequest_ofList {version : UInt8} {f : Flow} (r : List UInt8)
    (hv : version = 1 ∨ version = 2)
    (hop : f.kd.operation = opcodeMap ∨ f.kd.operation = opcodePeer) :
    readRequest (Buf.ofList (headerBytes version f ++ structBytes version f ++ r)) =
      f.request version := by
  have hmask : f.kd.operation &&& 0x7f = f.kd.operation := by
    rcases hop with hop | hop <;> rw [hop] <;> rfl
  have hne : opcodeMap ≠ opcodePeer := by decide
  rw [List.append_assoc]
  obtain ⟨h0, h1, hlife, hsrc⟩ := readRequest_header version (structBytes version f ++ r) hmask
  rcases hv with rfl | rfl <;> rcases hop with hop | hop
  · have hs : structBytes 1 f = mapFieldBytes f := by simp [structBytes, hop, hne]
    rw [hs] at h0 h1 hlife hsrc ⊢
    obtain ⟨hp, hsp, hep, hei⟩ := readRequest_map _ 24
      (Buf.slice_ofList_mid (headerBytes 1 f) (mapFieldBytes f) r)
    simp [readRequest, Flow.request, requestFieldsAt, h0, h1, hlife, hsrc, hp, hsp, hep, hei, hop,
      hne]
  · have hs : structBytes 1 f = peerFieldBytes f := by simp [structBytes, hop]
    rw [hs] at h0 h1 hlife hsrc ⊢
    obtain ⟨hmap, hdp, hdi⟩ := readRequest_peer _ 24
      (Buf.slice_ofList_mid (headerBytes 1 f) (peerFieldBytes f) r)
    obtain ⟨hp, hsp, hep, hei⟩ := readRequest_map _ 24 hmap
    simp [readRequest, Flow.request, requestFieldsAt, h0, h1, hlife, hsrc, hp, hsp, hep, hei, hop,
      hdp, hdi]
  · have hs : structBytes 2 f ++ r = f.kd.nonce.bytes ++ (mapFieldBytes f ++ r) := by
      simp [structBytes, hop, hne]
    rw [hs] at h0 h1 hlife hsrc ⊢
    have hn := readNonce_of_slice
      (Buf.slice_ofList_mid (headerBytes 2 f) f.kd.nonce.bytes (mapFieldBytes f ++ r))
    have hf := Buf.slice_ofList_mid (headerBytes 2 f ++ f.kd.nonce.bytes) (mapFieldBytes f) r
    rw [List.append_assoc] at hf
    obtain ⟨hp, hsp, hep, hei⟩ := readRequest_map _ 36 hf
    have hlen : (headerBytes 2 f).length = 24 := rfl
    rw [hlen] at hn
    simp only [readRequest, Flow.request, requestFieldsAt, h0, h1, hlife, hsrc, hp, hsp, hep, hei,
      hop, hne, hn, if_true, if_false]
  · have hs : structBytes 2 f ++ r = f.kd.nonce.bytes ++ (peerFieldBytes f ++ r) := by
      simp [structBytes, hop]
    rw [hs] at h0 h1 hlife hsrc ⊢
    have hn := readNonce_of_slice
      (Buf.slice_ofList_mid (headerBytes 2 f) f.kd.nonce.bytes (peerFieldBytes f ++ r))
    have hf := Buf.slice_ofList_mid (headerBytes 2 f ++ f.kd.nonce.bytes) (peerFieldBytes f) r
    rw [List.append_assoc] at hf
    obtain ⟨hmap, hdp, hdi⟩ := readRequest_peer _ 36 hf
    obtain ⟨hp, hsp, hep, hei⟩ := readRequest_map _ 36 hmap
    have hlen : (headerBytes 2 f).length = 24 := rfl
    rw [hlen] at hn
    simp only [readRequest, Flow.request, requestFieldsAt, h0, h1, hlife, hsrc, hp, hsp, hep, hei,
      hop, hn, hdp, hdi, if_true]

/-! ## Lengths -/

theorem fixedOption_length (p : Prop) [Decidable p] {t : Tlv} {k : Nat} (h : 4 + t.data.length = k)
    (h4 : k % 4 = 0) :
    (Tlv.bytesAll (if p then [t] else [])).length ≤ k ∧
      (Tlv.bytesAll (if p then [t] else [])).length % 4 = 0 := by
  by_cases hp : p
  · simp [hp]; omega
  · simp [hp]

theorem fixedOptions_length (cfg : Config) (f : Flow) :
    (Tlv.bytesAll (fixedOptions cfg f)).length ≤ 644 ∧
      (Tlv.bytesAll (fixedOptions cfg f)).length % 4 = 0 := by
  have h1 := fixedOption_length (cfg.flowPriority && f.flowpOptionPresent)
    (t := flowpTlv f) (k := 8) rfl rfl
  have h2 := fixedOption_length f.filterOptionPresent (t := filterTlv f) (k := 24) rfl rfl
  have h3 := fixedOption_length f.pfailureOptionPresent (t := preferFailureTlv) (k := 4) rfl rfl
  have h4 := fixedOption_length f.thirdPartyOptionPresent (t := thirdPartyTlv f) (k := 20) rfl rfl
  have h5 := fixedOption_length (cfg.experimental ∧ f.deviceid.toList.head? ≠ some 0)
    (t := deviceidTlv f) (k := 36) (by rw [deviceidTlv, Vector.length_toList]; rfl) rfl
  have h6 := fixedOption_length (cfg.experimental ∧ f.userid.toList.head? ≠ some 0)
    (t := useridTlv f) (k := 516) (by rw [useridTlv, Vector.length_toList]; rfl) rfl
  have h7 := fixedOption_length (cfg.experimental ∧ f.location.toList.head? ≠ some 0)
    (t := locationTlv f) (k := 36) (by rw [locationTlv, Vector.length_toList]; rfl) rfl
  simp only [fixedOptions, Tlv.bytesAll_append, List.length_append]
  omega

theorem mdTlv_bytes_mod (md : MdVal) : (mdTlv md).bytes.length % 4 = 0 := by
  rw [mdTlv_bytes_length, mdPadding]
  omega

theorem fittingMd_length (mds : List MdVal) :
    ∀ cur, cur ≤ pcpMaxLen →
      cur + (Tlv.bytesAll ((fittingMd cur mds).map mdTlv)).length ≤ pcpMaxLen ∧
        (Tlv.bytesAll ((fittingMd cur mds).map mdTlv)).length % 4 = 0 := by
  induction mds with
  | nil => intro cur h; exact ⟨h, rfl⟩
  | cons md mds ih =>
    intro cur h
    by_cases hfit : md.val ≠ [] ∧ cur + (mdTlv md).bytes.length ≤ pcpMaxLen
    · have hmod := mdTlv_bytes_mod md
      have := ih _ hfit.2
      rw [fittingMd, if_pos hfit, List.map_cons, Tlv.bytesAll_cons, List.length_append]
      omega
    · rw [fittingMd, if_neg hfit]
      exact ih cur h

theorem requestOptions_length (cfg : Config) (f : Flow) {cur : Nat} (h : cur ≤ 80) :
    cur + (Tlv.bytesAll (requestOptions cfg f cur)).length ≤ pcpMaxLen ∧
      (Tlv.bytesAll (requestOptions cfg f cur)).length % 4 = 0 := by
  have hfix := fixedOptions_length cfg f
  have hle : cur + (Tlv.bytesAll (fixedOptions cfg f)).length ≤ pcpMaxLen := by
    simp only [pcpMaxLen]; omega
  have hmd := fittingMd_length f.mdVals _ hle
  simp only [requestOptions, Tlv.bytesAll_append, List.length_append]
  by_cases he : cfg.experimental = true
  · simp only [if_pos he]; omega
  · simp only [if_neg he, Tlv.bytesAll_nil, List.length_nil]; omega

/-- Every length field is exact: no option's data is longer than 16 bits can say. -/
theorem requestOptions_data (cfg : Config) (f : Flow) {cur : Nat} (h : cur ≤ 80) :
    ∀ t ∈ requestOptions cfg f cur, t.data.length < 2 ^ 16 := by
  intro t ht
  have hlen := (requestOptions_length cfg f h).1
  have hmem := Tlv.bytes_length_le_bytesAll ht
  rw [Tlv.bytes_length] at hmem
  simp only [pcpMaxLen] at hlen
  omega

theorem structBytes_length {version : UInt8} {f : Flow} (hv : version = 1 ∨ version = 2)
    (hop : f.kd.operation = opcodeMap ∨ f.kd.operation = opcodePeer) :
    (headerBytes version f ++ structBytes version f).length =
      requestOptionsAt version f.kd.operation := by
  have hne : opcodeMap ≠ opcodePeer := by decide
  rcases hv with rfl | rfl <;> rcases hop with hop | hop <;>
    simp [structBytes, requestOptionsAt, requestFieldsAt, headerBytes, mapFieldBytes,
      peerFieldBytes, hop, hne]

theorem requestOptionsAt_bounds (version operation : UInt8) :
    48 ≤ requestOptionsAt version operation ∧ requestOptionsAt version operation ≤ 80 ∧
      requestOptionsAt version operation % 4 = 0 := by
  simp only [requestOptionsAt, requestFieldsAt]
  split <;> split <;> omega

/-- The message built for a MAP or PEER flow is well formed: its length is a multiple of four and
within the limit, its fields are the flow's, and the options are exactly the enabled ones. -/
theorem request_well_formed (e : Env) (s : Server) (f : Flow) (io : Io)
    (hv : s.pcpVersion = 1 ∨ s.pcpVersion = 2)
    (hop : f.kd.operation = opcodeMap ∨ f.kd.operation = opcodePeer)
    (hbuf : f.pcpMsgBuffer = none) (hcalloc : e.calloc io.callocs = true) :
    ∃ b, (buildPcpMsg e (some s) f io).1.pcpMsgBuffer = some b ∧
      let n := (buildPcpMsg e (some s) f io).1.pcpMsgLen
      let off := requestOptionsAt s.pcpVersion f.kd.operation
      n % 4 = 0 ∧ n ≤ pcpMaxLen ∧ readRequest b = f.request s.pcpVersion ∧
        Tlv.walk b n n off = some (requestOptions e.cfg f off) := by
  have henc := encodeMsg_eq e.cfg hv hop
  have hbuild : (buildPcpMsg e (some s) f io).1 =
      { f with
        pcpMsgBuffer := some (Buf.ofList (requestBytes e.cfg s.pcpVersion f))
        pcpMsgLen := (requestBytes e.cfg s.pcpVersion f).length } := by
    simp only [buildPcpMsg, hbuf, hcalloc, if_true, henc]
  have hpre := structBytes_length hv hop
  obtain ⟨_, hoff, hoff4⟩ := requestOptionsAt_bounds s.pcpVersion f.kd.operation
  have hbytes : requestBytes e.cfg s.pcpVersion f = (headerBytes s.pcpVersion f ++ structBytes s.pcpVersion f) ++
      Tlv.bytesAll (requestOptions e.cfg f (requestOptionsAt s.pcpVersion f.kd.operation)) := by
    rw [requestBytes, withOptions, hpre]
  have hlen := congrArg List.length hbytes
  rw [List.length_append, hpre] at hlen
  obtain ⟨hmax, hmod⟩ := requestOptions_length e.cfg f hoff
  rw [hbuild]
  refine ⟨_, rfl, ?_, ?_, ?_, ?_⟩
  · show (requestBytes e.cfg s.pcpVersion f).length % 4 = 0
    omega
  · show (requestBytes e.cfg s.pcpVersion f).length ≤ pcpMaxLen
    omega
  · rw [hbytes]
    exact readRequest_ofList _ hv hop
  · show Tlv.walk _ (requestBytes e.cfg s.pcpVersion f).length
      (requestBytes e.cfg s.pcpVersion f).length _ = _
    rw [hlen]
    apply Tlv.walk_of_bytes _ _ _ (requestOptions_data e.cfg f hoff)
    · have := Tlv.length_le_bytesAll
        (requestOptions e.cfg f (requestOptionsAt s.pcpVersion f.kd.operation))
      omega
    · intro i hi
      rw [hbytes, Buf.ofList_get (by rw [List.length_append, hpre]; omega)]
      rw [List.getElem_append_right (by omega)]
      simp only [hpre, Nat.add_sub_cancel_left]

theorem request_well_formed_peer :
    let e := Env.calm { experimental := true }
    let s : Server := { Server.zero with pcpVersion := 2 }
    let f : Flow := { Flow.zero with
      kd := { FlowKeyData.zero with operation := opcodePeer, protocol := ipprotoTcp, srcPort := 80 }
      filterOptionPresent := true
      mdVals := [⟨7, [1, 2, 3], by decide⟩] }
    ∃ b, (buildPcpMsg e (some s) f {}).1.pcpMsgBuffer = some b ∧
      let n := (buildPcpMsg e (some s) f {}).1.pcpMsgLen
      let off := requestOptionsAt s.pcpVersion f.kd.operation
      n % 4 = 0 ∧ n ≤ pcpMaxLen ∧ readRequest b = f.request s.pcpVersion ∧
        Tlv.walk b n n off = some (requestOptions e.cfg f off) :=
  request_well_formed _ _ _ _ (.inr rfl) (.inr rfl) rfl rfl

end LibPcp
