import LibPcp.FanOut
import LibPcp.FlowSteps
import LibPcp.MsgEncode

/-!
# LibPcp.Sadscp

The application name in an SADSCP request.

`CarriesName`: the request holds the whole name, padded with zeros so that the structure ends at a
multiple of four, and says how long it is with the padding. The length passes through two fields of
eight bits, and the flow keeps it when the name could not be copied: zeros are sent in its place.

* `buildPcpSadscp_plain`: the request of a flow without options, byte by byte.
* `carriesName_iff`: it carries the name exactly when the name has at most 254 bytes and was copied, or
  consists of zeros.
* `learnDscp_carriesName_iff`: the same for every flow that `pcp_learn_dscp` makes.
-/

namespace LibPcp

open ByteBuffer

/-! ## The padded name -/

/-- The length of the name with its padding. -/
def paddedLength (n : Nat) : Nat := n + (4 - (n + 2) % 4) % 4

/-- It is the least length from `n` on that fills the structure up to a multiple of four. -/
theorem paddedLength_least (n : Nat) : n ≤ paddedLength n ∧ (paddedLength n + 2) % 4 = 0 ∧
    ∀ k, n ≤ k → (k + 2) % 4 = 0 → paddedLength n ≤ k := by
  unfold paddedLength
  refine ⟨by omega, by omega, fun k hk hmod => ?_⟩
  omega

/-- A message of `len` bytes in the buffer `b` carries the name. -/
structure CarriesName (b : Buf) (len : Nat) (name : List UInt8) : Prop where
  length : len = 24 + 14 + paddedLength name.length
  aligned : len % 4 = 0
  field : (b 37).toNat = paddedLength name.length
  bytes : b.slice 38 (paddedLength name.length) =
    name ++ List.replicate (paddedLength name.length - name.length) 0

/-! ## Flows without options -/

/-- No option of the flow is set, and it has no message yet. -/
structure Plain (f : Flow) : Prop where
  flowp : f.flowpOptionPresent = false
  filter : f.filterOptionPresent = false
  pfailure : f.pfailureOptionPresent = false
  thirdParty : f.thirdPartyOptionPresent = false
  deviceid : f.deviceid.toList.head? = some 0
  userid : f.userid.toList.head? = some 0
  location : f.location.toList.head? = some 0
  mdVals : f.mdVals = []
  pcpMsgBuffer : f.pcpMsgBuffer = none

theorem Plain.buildPcpOptions {f : Flow} (h : Plain f) (cfg : Config) (c : Cursor) :
    buildPcpOptions cfg f c = c := by
  simp [LibPcp.buildPcpOptions, h.flowp, h.filter, h.pfailure, h.thirdParty, h.deviceid, h.userid,
    h.location, h.mdVals]

theorem Made.plain {copied : Bool} {d : CaasiData} {f : Flow} (h : Made copied d f) : Plain f := by
  obtain ⟨v, t, kd, kb, n, -, rfl⟩ := h
  have hempty : ∀ n, 0 < n → (Vector.replicate n (0 : UInt8)).toList.head? = some 0 := by
    intro n hn
    obtain ⟨m, rfl⟩ : ∃ m, n = m + 1 := ⟨n - 1, by omega⟩
    simp [List.replicate_succ]
  have hdevice := hempty maxDeviceId (by decide)
  have huser := hempty maxUserId (by decide)
  have hlocation := hempty maxGeoStr (by decide)
  unfold initialFlow newFlowFields
  dsimp only
  repeat' split
  all_goals exact ⟨rfl, rfl, rfl, rfl, hdevice, huser, hlocation, rfl, rfl⟩

/-- The flow is one for an SADSCP request with this name, of which it has a copy or only the length. -/
structure AsksWithName (copied : Bool) (f : Flow) (name : List UInt8) : Prop where
  operation : f.kd.operation = opcodeSadscp
  length : f.appNameLength = UInt8.ofNat name.length
  name : f.sadscpAppName = if copied then some name else none

theorem Made.asksWithName {copied : Bool} {d : CaasiData} {f : Flow} {name : List UInt8}
    (h : Made copied d f) (hop : d.kd.operation = opcodeSadscp) (hext : d.extAddr = none)
    (hname : d.appName = some name) : AsksWithName copied f name := by
  obtain ⟨v, t, kd, kb, n, hkd, rfl⟩ := h
  rw [hop] at hkd
  unfold initialFlow newFlowFields createdFlow
  simp only [hkd, hext, hname, if_true]
  exact ⟨hkd, rfl, rfl⟩

/-! ## The request -/

section Request

variable {copied : Bool} {f : Flow} {name : List UInt8} {cfg : Config}

/-- The bytes before the name. -/
def sadscpBytes (f : Flow) (field : UInt8) : List UInt8 :=
  headerBytes 2 f ++ f.kd.nonce.bytes ++ [f.tolerFields, field]

@[simp] theorem sadscpBytes_length (f : Flow) (field : UInt8) : (sadscpBytes f field).length = 38 := by
  simp [sadscpBytes, headerBytes]

/-- The length field as it is computed. -/
def sentLength (f : Flow) : UInt8 :=
  f.appNameLength + UInt8.ofNat ((4 - (f.appNameLength.toNat + 2) % 4) % 4)

/-- What is sent for the name. -/
def sentName (copied : Bool) (name : List UInt8) (n : Nat) : List UInt8 :=
  if copied then name.take n else List.replicate n 0

theorem sentName_length (hn : AsksWithName copied f name) :
    (sentName copied name f.appNameLength.toNat).length = f.appNameLength.toNat := by
  have hle : f.appNameLength.toNat ≤ name.length := by
    rw [hn.length, UInt8.toNat_ofNat']
    exact Nat.mod_le _ _
  unfold sentName
  split
  · rw [List.length_take, Nat.min_eq_left hle]
  · exact List.length_replicate

/-- Zeros at the end of a list of bytes make no difference in a buffer that is zero behind them. -/
theorem ofList_zeros (l : List UInt8) (n : Nat) :
    Buf.ofList (l ++ List.replicate n 0) = Buf.ofList l := by
  have hzero := (Buf.zero_zeroFrom 0).blit l
  have hpad := hzero.blit_zeros n
  rw [Nat.zero_add] at hpad
  have happ := Buf.blit_next Buf.zero l (List.replicate n 0) (Nat.zero_add l.length).symm
  exact happ.symm.trans hpad

/-- The whole request when no option is set. -/
theorem buildPcpSadscp_plain (hp : Plain f) (hn : AsksWithName copied f name) :
    buildPcpSadscp cfg 2 f (buildHeader 2 f .zero) 24 =
      some (Buf.ofList (sadscpBytes f (sentLength f) ++ sentName copied name f.appNameLength.toNat),
        38 + (sentLength f).toNat) := by
  have hhdr : (headerBytes 2 f).length = 24 := by simp [headerBytes]
  rw [buildHeader_zero]
  cases copied with
  | true =>
    have hname : f.sadscpAppName = some name := hn.name
    simp only [buildPcpSadscp, if_true, hname, hp.buildPcpOptions]
    simp (disch := simp [hhdr]) only [Buf.ofList_blit]
    simp [hhdr, sadscpBytes, sentLength, sentName]
  | false =>
    have hname : f.sadscpAppName = none := hn.name
    simp only [buildPcpSadscp, if_true, hname, hp.buildPcpOptions]
    simp (disch := simp [hhdr]) only [Buf.ofList_blit]
    simp [hhdr, sadscpBytes, sentLength, sentName]

/-- The name fits the length fields. -/
theorem sentLength_toNat (hn : AsksWithName copied f name) (hlen : name.length ≤ 254) :
    f.appNameLength.toNat = name.length ∧ (sentLength f).toNat = paddedLength name.length := by
  have hlength : f.appNameLength.toNat = name.length := by
    rw [hn.length, UInt8.toNat_ofNat']
    omega
  refine ⟨hlength, ?_⟩
  rw [sentLength, UInt8.toNat_add, UInt8.toNat_ofNat', hlength]
  unfold paddedLength
  omega

/-- The bytes of the message from the name on, for a name that fits. -/
theorem request_slice (hn : AsksWithName copied f name) (hlen : name.length ≤ 254) :
    (Buf.ofList (sadscpBytes f (sentLength f) ++ sentName copied name f.appNameLength.toNat)).slice 38
        (paddedLength name.length) =
      sentName copied name name.length ++ List.replicate (paddedLength name.length - name.length) 0 := by
  have hle := (paddedLength_least name.length).1
  have hsent := sentName_length hn
  rw [(sentLength_toNat hn hlen).1] at hsent ⊢
  rw [← ofList_zeros _ (paddedLength name.length - name.length), List.append_assoc]
  have hmid := Buf.slice_ofList_mid (sadscpBytes f (sentLength f))
    (sentName copied name name.length ++ List.replicate (paddedLength name.length - name.length) 0) []
  rw [List.append_nil, sadscpBytes_length, List.length_append, List.length_replicate, hsent,
    Nat.add_sub_cancel' hle] at hmid
  exact hmid

/-- What is sent is the name. -/
theorem sentName_eq_iff : sentName copied name name.length = name ↔
    copied = true ∨ ∀ x ∈ name, x = 0 := by
  unfold sentName
  cases copied with
  | true => simp
  | false =>
    simp only [Bool.false_eq_true, if_false, false_or]
    rw [eq_comm, List.eq_replicate_iff]
    simp

/-- The message carries the name exactly when the name has at most 254 bytes and was copied, or is
nothing but zeros. -/
theorem carriesName_iff (hn : AsksWithName copied f name) :
    CarriesName (Buf.ofList (sadscpBytes f (sentLength f) ++
      sentName copied name f.appNameLength.toNat)) (38 + (sentLength f).toNat) name ↔
      name.length ≤ 254 ∧ (copied = true ∨ ∀ x ∈ name, x = 0) := by
  have hfield : (Buf.ofList (sadscpBytes f (sentLength f) ++
      sentName copied name f.appNameLength.toNat)) 37 = sentLength f := by
    rw [Buf.ofList_get (by simp; omega), List.getElem_append_left (by simp)]
    rfl
  have hmod := (paddedLength_least name.length).2.1
  have hle := (paddedLength_least name.length).1
  constructor
  · intro hc
    have hfit := hc.field
    have hlt := (sentLength f).toNat_lt
    rw [hfield] at hfit
    have hlen : name.length ≤ 254 := by omega
    have hbytes := hc.bytes
    rw [request_slice hn hlen] at hbytes
    exact ⟨hlen, sentName_eq_iff.mp (List.append_cancel_right hbytes)⟩
  · rintro ⟨hlen, hcopied⟩
    obtain ⟨-, hsent⟩ := sentLength_toNat hn hlen
    refine ⟨by rw [hsent], by rw [hsent]; omega, by rw [hfield, hsent], ?_⟩
    rw [request_slice hn hlen, sentName_eq_iff.mpr hcopied]

end Request

/-! ## `pcp_learn_dscp` -/

section Learn

variable {e : Env} {c c' : Ctx} {delayTol lossTol jitterTol : UInt8} {name : List UInt8} {r f : FlowId}

/-- Every flow of the chain is a new one, without options, and asks with the name. -/
theorem learnDscp_flow (h : pcpLearnDscp e c delayTol lossTol jitterTol (some name) = (some r, c'))
    (hf : f ∈ c'.chain r) : Plain (c'.heap f) ∧ AsksWithName (e.strdup f) (c'.heap f) name := by
  unfold pcpLearnDscp at h
  generalize hd : ({ kd := { FlowKeyData.zero with operation := opcodeSadscp }
                     lifetime := 0, extAddr := none
                     tolerFields := ((delayTol &&& 3) <<< 6) ||| ((lossTol &&& 3) <<< 4) |||
                       ((jitterTol &&& 3) <<< 2)
                     appName := some name } : CaasiData) = d at h
  obtain ⟨hr, rfl⟩ := Prod.mk.inj h
  obtain ⟨S, hfan, -⟩ := FanOut.pass e c d c.pcpServersLength
  have hmade := chainFlows_made e c d
  unfold chainFlows at hr hf hmade ⊢
  rw [hfan.chain_eq hr] at hf
  obtain ⟨k, hk, rfl⟩ := mem_newFlows.mp hf
  have hnew := hmade.made (c.heapTop + k) (Nat.le_add_right _ _) (by rw [hfan.top]; omega)
  subst hd
  exact ⟨hnew.plain, hnew.asksWithName rfl rfl rfl⟩

/-- The request for a version 2 server carries the name of the application if it is built at all,
exactly when the name has at most 254 bytes and was copied to the flow. A string has no byte that is
zero, so that the last alternative is the empty name. -/
theorem learnDscp_carriesName_iff (hcfg : e.cfg.sadscp = true)
    (h : pcpLearnDscp e c delayTol lossTol jitterTol (some name) = (some r, c'))
    (hf : f ∈ c'.chain r) {s : Server} (hs : s.pcpVersion = 2) (io : Io) :
    (∀ b, (buildPcpMsg e (some s) (c'.heap f) io).1.pcpMsgBuffer = some b →
      CarriesName b (buildPcpMsg e (some s) (c'.heap f) io).1.pcpMsgLen name) ↔
      e.calloc io.callocs = false ∨
        name.length ≤ 254 ∧ (e.strdup f = true ∨ ∀ x ∈ name, x = 0) := by
  obtain ⟨hplain, hname⟩ := learnDscp_flow h hf
  generalize c'.heap f = fl at hplain hname
  rw [buildPcpMsg_some, hplain.pcpMsgBuffer]
  cases hal : e.calloc io.callocs with
  | false =>
    simp only [Bool.false_eq_true, if_false, hplain.pcpMsgBuffer]
    exact ⟨fun _ => .inl trivial, fun _ b hb => nomatch hb⟩
  | true =>
    have henc : encodeMsg e.cfg s.pcpVersion fl .zero =
        buildPcpSadscp e.cfg 2 fl (buildHeader 2 fl .zero) 24 := by
      rw [hs]
      simp [encodeMsg, buildBody, hname.operation, hcfg, opcodePeer, opcodeMap, opcodeSadscp]
    have hbuilt := (carriesName_iff hname).symm
    simp only [if_true, henc, buildPcpSadscp_plain hplain hname, Flow.fillMsg]
    simp only [Flow.setMsg, Option.some.injEq, forall_eq', Bool.true_eq_false, false_or]
    exact hbuilt.symm

end Learn

/-- A server that has been found, in a build with SADSCP. -/
def dscpEnv : Env := .calm { sadscp := true }

def dscpServer : Ctx := runTo dscpEnv (fun _ _ => True) 1 {} [.addServer (.inet 0x0A000001 0) 2]

/-- What `pcp_learn_dscp` returns for the name, and the request of the first flow. -/
def learnt (name : List UInt8) : Option FlowId × Ctx :=
  pcpLearnDscp dscpEnv dscpServer 1 2 3 (some name)

def dscpRequest (name : List UInt8) : Flow :=
  (buildPcpMsg dscpEnv (some (dscpServer.pcpServers 0)) ((learnt name).2.heap 0) {}).1

theorem dscpServer_version : (dscpServer.pcpServers 0).pcpVersion = 2 := by decide +kernel

theorem learnDscp_carriesName_iff_short :
    ∃ b, (dscpRequest [0x70, 0x63, 0x70]).pcpMsgBuffer = some b ∧
      CarriesName b (dscpRequest [0x70, 0x63, 0x70]).pcpMsgLen [0x70, 0x63, 0x70] := by
  have hfirst : (learnt [0x70, 0x63, 0x70]).1 = some 0 := by decide +kernel
  have hchain : 0 ∈ (learnt [0x70, 0x63, 0x70]).2.chain 0 := by decide +kernel
  have hbuilt : (dscpRequest [0x70, 0x63, 0x70]).pcpMsgBuffer.isSome := by decide +kernel
  obtain ⟨b, hb⟩ := Option.isSome_iff_exists.mp hbuilt
  exact ⟨b, hb, (learnDscp_carriesName_iff rfl (Prod.ext hfirst rfl) hchain dscpServer_version {}).mpr
    (.inr ⟨by decide, .inl rfl⟩) b hb⟩

/-- A name of 255 bytes. -/
def longName : List UInt8 := List.replicate 255 0x61

/-- With the padding it would be 258 bytes long, and the length field says 2. -/
theorem learnDscp_cuts_name :
    ¬ ∀ (e : Env) (c c' : Ctx) (delayTol lossTol jitterTol : UInt8) (name : List UInt8)
      (r f : FlowId) (s : Server) (io : Io), e.cfg.sadscp = true →
      pcpLearnDscp e c delayTol lossTol jitterTol (some name) = (some r, c') → f ∈ c'.chain r →
      s.pcpVersion = 2 → ∀ b, (buildPcpMsg e (some s) (c'.heap f) io).1.pcpMsgBuffer = some b →
        CarriesName b (buildPcpMsg e (some s) (c'.heap f) io).1.pcpMsgLen name := by
  intro hall
  have hfirst : (learnt longName).1 = some 0 := by decide +kernel
  have hchain : 0 ∈ (learnt longName).2.chain 0 := by decide +kernel
  have hlen : (dscpRequest longName).pcpMsgLen = 40 := by decide +kernel
  have hbuilt : (dscpRequest longName).pcpMsgBuffer.isSome := by decide +kernel
  obtain ⟨b, hb⟩ := Option.isSome_iff_exists.mp hbuilt
  have hname : (dscpRequest longName).pcpMsgLen = 24 + 14 + paddedLength longName.length :=
    (hall dscpEnv dscpServer (learnt longName).2 1 2 3 longName 0 0 (dscpServer.pcpServers 0) {} rfl
      (Prod.ext hfirst rfl) hchain dscpServer_version b hb).length
  rw [hlen] at hname
  revert hname
  decide +kernel

end LibPcp
