import LibPcp.Grants
import LibPcp.Interop
import LibPcp.Soup

/-!
# LibPcp.TwoParty

The client and test servers over a network that promises nothing.

A server takes in what was sent to its address, and what it sends has its address as the source. Replies
get lost, come late, in any order and more than once; servers can be busy, and stop.

* `parse_mapping`: what the client takes out of a response for a mapping.
* `Answer`: the response of some round to a request that was sent.
* `net_agreement`: for every mapping that the client holds, a server has found nothing wrong with a
  request of the client for it, and both have the same mapping.
-/

namespace LibPcp

open LabelledSteps ByteBuffer MessageSoup

/-! ## What the client takes out of a response -/

/-- What the response says is in the message. -/
structure RecvMsg.Carries (m : RecvMsg) (q : MappingMsg) : Prop where
  version : m.recvVersion = q.version.toUInt32
  operation : m.kd.operation = q.operation
  lifetime : m.recvLifetime = q.lifetime
  nonce : q.version = 2 → m.kd.nonce = q.nonce
  protocol : m.kd.protocol = q.protocol
  srcPort : m.kd.srcPort = q.srcPort
  extPort : m.assignedExtPort = q.extPort
  extIp : m.assignedExtIp = q.extIp
  dst : q.operation = opcodePeer → m.kd.dstPort = q.dstPort ∧ m.kd.dstIp = q.dstIp

section Parse

variable {cfg : Config} {m m' : RecvMsg}

/-- Every response that is parsed has eight bytes at least. -/
theorem parseResponse_length (h : parseResponse cfg m = (.success, m')) : 8 ≤ m.pcpMsgLen := by
  have hok : (parseResponse cfg m).1 = .success := by rw [h]
  have hlen : m.setResponse.pcpMsgLen = m.pcpMsgLen := rfl
  simp only [parseResponse] at hok
  split_ifs at hok
  · rw [parseV0Resp_ok, hlen] at hok
    omega
  · have h24 := ((parseV1Resp_ok _).mp hok).1
    omega
  · have h24 := ((parseV2Resp_ok cfg _).mp hok).1
    omega

theorem parseStruct_success {size r : Nat} {store : Nat → RecvMsg → RecvMsg}
    (h : parseStruct size store m r = (.success, m')) : m' = store r m ∧ size ≤ m.pcpMsgLen - r := by
  have hsize := (parseStruct_ok m r).mp (congrArg Prod.fst h)
  rw [parseStruct_eq hsize] at h
  exact ⟨(Prod.mk.inj h).2.symm, hsize⟩

/-- With nothing in the byte before it, the result code is the one byte in all versions. -/
theorem parseResponse_result (h : parseResponse cfg m = (.success, m')) (h2 : m.pcpMsgBuffer 2 = 0) :
    m'.recvResult = (m.pcpMsgBuffer 3).toUInt32 := by
  have hu16 : (m.pcpMsgBuffer.u16 2).toUInt32 = (m.pcpMsgBuffer 3).toUInt32 := by
    rw [Buf.u16, h2]
    apply UInt32.toNat_inj.mp
    simp
  have hset : m.setResponse.recvResult = (m.pcpMsgBuffer 3).toUInt32 := rfl
  simp only [parseResponse] at h
  split_ifs at h
  · simp only [parseV0Resp, parseInvVersion] at h
    split_ifs at h
    · exact (Prod.mk.inj h).2 ▸ hset
    · exact (Prod.mk.inj h).2 ▸ hu16
    · exact (Prod.mk.inj h).2 ▸ hu16
    · exact (Prod.mk.inj h).2 ▸ hu16
    · cases h
  · simp only [parseV1Resp, parseHeader, parseV1Map, parseV1Peer] at h
    split_ifs at h
    · cases h
    · exact (Prod.mk.inj h).2 ▸ hset
    · exact (parseStruct_success h).1 ▸ hset
    · exact (parseStruct_success h).1 ▸ hset
    · cases h
  · simp only [parseV2Resp, parseHeader, parseV2Map, parseV2Peer, parseSadscp] at h
    split_ifs at h
    · cases h
    · exact (Prod.mk.inj h).2 ▸ hset
    · exact (parseStruct_success h).1 ▸ hset
    · exact (parseStruct_success h).1 ▸ hset
    · cases h
    · exact (Prod.mk.inj h).2 ▸ hset
    · cases h
  · cases h

/-- Only NAT-PMP has opcodes of its own. -/
theorem parseResponse_operation (h : parseResponse cfg m = (.success, m')) (h0 : m.pcpMsgBuffer 0 ≠ 0) :
    m'.kd.operation = receivedOpcode m.pcpMsgBuffer := by
  have hset : m.setResponse.kd.operation = receivedOpcode m.pcpMsgBuffer := rfl
  simp only [parseResponse, if_neg h0] at h
  split_ifs at h
  · simp only [parseV1Resp, parseHeader, parseV1Map, parseV1Peer] at h
    split_ifs at h
    · cases h
    · exact (Prod.mk.inj h).2 ▸ hset
    · exact (parseStruct_success h).1 ▸ hset
    · exact (parseStruct_success h).1 ▸ hset
    · cases h
  · simp only [parseV2Resp, parseHeader, parseV2Map, parseV2Peer, parseSadscp] at h
    split_ifs at h
    · cases h
    · exact (Prod.mk.inj h).2 ▸ hset
    · exact (parseStruct_success h).1 ▸ hset
    · exact (parseStruct_success h).1 ▸ hset
    · cases h
    · exact (Prod.mk.inj h).2 ▸ hset
    · cases h
  · cases h

/-- The message has what the response says, and the response is complete. -/
theorem parse_mapping (h : parseResponse cfg m = (.success, m')) (hq : (readMapping m.pcpMsgBuffer).Maps) :
    m'.Carries (readMapping m.pcpMsgBuffer) ∧
      requestOptionsAt (m.pcpMsgBuffer 0) (receivedOpcode m.pcpMsgBuffer) ≤ m.pcpMsgLen := by
  have hver : m.pcpMsgBuffer 0 = 1 ∨ m.pcpMsgBuffer 0 = 2 := hq.version
  have hop : receivedOpcode m.pcpMsgBuffer = opcodeMap ∨ receivedOpcode m.pcpMsgBuffer = opcodePeer :=
    hq.operation
  have hread : m.headerRead.kd.operation = receivedOpcode m.pcpMsgBuffer := rfl
  have hlen : m.headerRead.pcpMsgLen = m.pcpMsgLen := rfl
  have h24 : 24 ≤ m.pcpMsgLen := by
    have hok : (parseResponse cfg m).1 = .success := by rw [h]
    rcases hver with hver | hver
    · simp only [parseResponse, hver] at hok
      exact ((parseV1Resp_ok _).mp hok).1
    · simp only [parseResponse, hver] at hok
      exact ((parseV2Resp_ok cfg _).mp hok).1
  have hne1 : opcodeMap ≠ opcodeAnnounce := by decide
  have hne2 : opcodePeer ≠ opcodeAnnounce := by decide
  have hne3 : opcodePeer ≠ opcodeMap := by decide
  have hne4 : opcodeMap ≠ opcodePeer := by decide
  have h12 : (1 : UInt8) ≠ 2 := by decide
  rcases hver with hver | hver
  · rw [parseResponse_v1 hver h24, hread] at h
    rcases hop with hop | hop
    · rw [hop, if_neg hne1, if_pos rfl] at h
      obtain ⟨rfl, hsize⟩ := parseStruct_success h
      simp only [readMapping, requestOptionsAt, requestFieldsAt, hver, hop, if_neg h12, if_neg hne4]
      refine ⟨⟨?_, hop, rfl, fun h2 => absurd h2 h12, rfl, rfl, rfl, rfl, fun hp => absurd hp hne4⟩, ?_⟩
      · exact congrArg UInt8.toUInt32 hver
      · omega
    · rw [hop, if_neg hne2, if_neg hne3, if_pos rfl] at h
      obtain ⟨rfl, hsize⟩ := parseStruct_success h
      simp only [readMapping, requestOptionsAt, requestFieldsAt, hver, hop, if_neg h12]
      refine ⟨⟨?_, hop, rfl, fun h2 => absurd h2 h12, rfl, rfl, rfl, rfl, fun _ => ⟨rfl, rfl⟩⟩, ?_⟩
      · exact congrArg UInt8.toUInt32 hver
      · simp only [if_true]
        omega
  · rw [parseResponse_v2 hver h24, hread] at h
    rcases hop with hop | hop
    · rw [hop, if_neg hne1, if_pos rfl] at h
      obtain ⟨rfl, hsize⟩ := parseStruct_success h
      simp only [readMapping, requestOptionsAt, requestFieldsAt, hver, hop, if_true, if_neg hne4]
      refine ⟨⟨?_, hop, rfl, fun _ => rfl, rfl, rfl, rfl, rfl, fun hp => absurd hp hne4⟩, ?_⟩
      · exact congrArg UInt8.toUInt32 hver
      · omega
    · rw [hop, if_neg hne2, if_neg hne3, if_pos rfl] at h
      obtain ⟨rfl, hsize⟩ := parseStruct_success h
      simp only [readMapping, requestOptionsAt, requestFieldsAt, hver, hop, if_true]
      refine ⟨⟨?_, hop, rfl, fun _ => rfl, rfl, rfl, rfl, rfl, fun _ => ⟨rfl, rfl⟩⟩, ?_⟩
      · exact congrArg UInt8.toUInt32 hver
      · omega

/-- The rest of the key is not on the wire. -/
theorem completeKey_fields (sv : Server) (scope : UInt32) (m : RecvMsg) :
    (completeKey sv scope m).kd.operation = m.kd.operation ∧
      (completeKey sv scope m).kd.protocol = m.kd.protocol ∧
      (completeKey sv scope m).kd.srcPort = m.kd.srcPort ∧
      (completeKey sv scope m).kd.dstPort = m.kd.dstPort ∧
      (completeKey sv scope m).kd.dstIp = m.kd.dstIp ∧
      (completeKey sv scope m).kd.pcpServerIp = sv.pcpIp ∧
      (¬ m.recvVersion < 2 → (completeKey sv scope m).kd.nonce = m.kd.nonce) := by
  simp only [completeKey]
  split_ifs <;> simp_all

theorem RecvMsg.Carries.completeKey {q : MappingMsg} (h : m.Carries q) (sv : Server) (scope : UInt32) :
    (completeKey sv scope m).Carries q := by
  obtain ⟨hop, hproto, hsrc, hport, hip, -, hnonce⟩ := completeKey_fields sv scope m
  refine ⟨h.version, hop.trans h.operation, h.lifetime, fun h2 => ?_, hproto.trans h.protocol,
    hsrc.trans h.srcPort, h.extPort, h.extIp, fun hpeer => ?_⟩
  · have hver : ¬ m.recvVersion < 2 := by
      rw [h.version, h2]
      decide
    exact (hnonce hver).trans (h.nonce h2)
  · exact ⟨hport.trans (h.dst hpeer).1, hip.trans (h.dst hpeer).2⟩

end Parse

/-! ## The parties -/

/-- The servers there are: their settings and their addresses. -/
structure ServerPark (ι : Type) where
  setup : ι → ServerSetup
  addr : ι → SockAddr

/-- Two names of one address and port. -/
def SameHost (a b : SockAddr) : Prop :=
  (pcpFillIn6Addr (.any, 0, 0) a).1 = (pcpFillIn6Addr (.any, 0, 0) b).1 ∧
    (pcpFillIn6Addr (.any, 0, 0) a).2.1 = (pcpFillIn6Addr (.any, 0, 0) b).2.1

instance (a b : SockAddr) : Decidable (SameHost a b) := inferInstanceAs (Decidable (_ ∧ _))

/-- The client makes calls, and the calls read the socket. -/
def clientParty (e : Env) : Client Ctx Op Sent Datagram where
  step op c c' := Step e c op c'
  takes := Op.datagram
  sent c := c.io.sent

section Parties

variable {ι : Type} {e : Env} {park : ServerPark ι} {i : ι} {p : Sent} {r : Datagram}

/-- A round of server `i`. -/
structure ServerRound (park : ServerPark ι) (i : ι) (p : Sent) (t t' : Exec) (r : Datagram) : Prop where
  running : t.execute ≠ 0
  addressed : SameHost p.dest (park.addr i)
  source : SameHost r.src (park.addr i)
  round : ∃ now, execRound (park.setup i) now p.bytes t = (t', r.bytes)

/-- The datagram is the response of server `i` to the request. -/
structure Answer (park : ServerPark ι) (i : ι) (p : Sent) (r : Datagram) : Prop where
  addressed : SameHost p.dest (park.addr i)
  source : SameHost r.src (park.addr i)
  round : ∃ now t, t.occur = resetOptionOccur ∧ (execRound (park.setup i) now p.bytes t).2 = r.bytes

theorem ServerRound.answer {t t' : Exec} (h : ServerRound park i p t t' r)
    (ht : t.occur = resetOptionOccur) : t'.occur = resetOptionOccur ∧ Answer park i p r := by
  obtain ⟨now, hround⟩ := h.round
  have hnext : (execRound (park.setup i) now p.bytes t).1 = t' := congrArg Prod.fst hround
  refine ⟨?_, h.addressed, h.source, now, t, ht, congrArg Prod.snd hround⟩
  rw [← hnext]
  rfl

/-- What has been sent stays in the list. -/
theorem sent_kept (e : Env) (p : Sent) : KeptByActs e fun c => p ∈ c.io.sent where
  act h hi := by
    obtain ⟨new, heq, -⟩ := h.frame.sent
    rw [heq]
    exact List.mem_append_right _ hi
  call h hi := h.silent.sent ▸ hi
  msg _ hi := hi

/-- The client has received only what the servers have sent, and the servers have answered only what
the client has sent. -/
def twoParties (he : e.ClockMono) (park : ServerPark ι) : Contract (clientParty e) (ServerRound park) where
  inv rs c := CtxOk c ∧ GrantLog e (· ∈ rs) c
  state _ t := t.occur = resetOptionOccur
  reply c r := ∃ i, ∃ p ∈ c.io.sent, Answer park i p r
  inv_cons r h := ⟨h.1, h.2.mono fun _ hd => List.mem_cons_of_mem r hd⟩
  step h hs ht := ⟨(hs.cases h.1).2, h.2.step he h.1 hs ht⟩
  serve {i p _ _ _ _} ht hp h := ⟨(h.answer ht).1, i, p, hp, (h.answer ht).2⟩
  later h hs hr := by
    obtain ⟨i, p, hp, hans⟩ := hr
    exact ⟨i, p, (sent_kept e p).step hs h.1 hp, hans⟩

end Parties

/-! ## What they agree on -/

/-- The flow has the mapping that the request asks for; for MAP the server has chosen the address. -/
structure Flow.AgreesWith (e : Env) (info : ServerSetup) (v : Flow) (q : MappingMsg) : Prop where
  operation : v.kd.operation = q.operation
  protocol : v.kd.protocol = q.protocol
  srcPort : v.kd.srcPort = q.srcPort
  nonce : q.version = 2 → v.kd.nonce = q.nonce
  dst : q.operation = opcodePeer → v.kd.dstPort = q.dstPort ∧ v.kd.dstIp = q.dstIp
  extIp : v.extIp = if q.operation = opcodeMap then info.extIp else q.extIp
  extPort : v.extPort = q.extPort
  lifetime : ∃ k, v.recvLifetime = min longMax ((e.clock k).tvSec + q.lifetime.toNat)

/-- Server `i` has found nothing wrong with the request `p` that was sent to it, and the flow, which is
one for this server, has the mapping. -/
structure Agreement {ι : Type} (e : Env) (park : ServerPark ι) (i : ι) (p : Sent) (v : Flow) : Prop where
  addressed : SameHost p.dest (park.addr i)
  server : v.kd.pcpServerIp = (pcpFillIn6Addr (.any, 0, 0) (park.addr i)).1
  wellFormed : WellFormedRequest (park.setup i).serverVersion (Buf.ofList p.bytes) p.bytes.length
  accepted : ∃ b, Buf.AgreeTo p.bytes.length (Buf.ofList p.bytes) b ∧
    (printPCPreq (park.setup i).serverVersion resetOptionOccur b p.bytes.length).code = resSuccess
  mapping : v.AgreesWith e (park.setup i) (readMapping (Buf.ofList p.bytes))

section Agree

variable {ι : Type} {e : Env} {park : ServerPark ι} {i : ι} {p : Sent} {r : Datagram} {v : Flow}

/-- The response of success to a request, as the client reads it. -/
theorem served_carries {cfg : Config} {info : ServerSetup} {req : List UInt8} {t : Int} {m : RecvMsg}
    (h : ServedWell info req r.bytes) (hparse : parseResponse cfg (receivedMsg r t) = (.success, m))
    (hmaps : m.kd.Maps) :
    m.Carries (if (readMapping (Buf.ofList req)).operation = opcodeMap then
      { readMapping (Buf.ofList req) with extIp := info.extIp } else readMapping (Buf.ofList req)) := by
  have hsmall : r.bytes.take pcpMaxLen = r.bytes :=
    List.take_of_length_le (h.length ▸ h.wellFormed.size.2.1)
  have hbuf : (receivedMsg r t).pcpMsgBuffer = Buf.ofList r.bytes := congrArg Buf.ofList hsmall
  have hlen : (receivedMsg r t).pcpMsgLen = req.length := by
    show (r.bytes.take pcpMaxLen).length = req.length
    rw [hsmall, h.length]
  have hver : Buf.ofList r.bytes 0 = 1 ∨ Buf.ofList r.bytes 0 = 2 := h.version ▸ h.wellFormed.version
  have hop : m.kd.operation = receivedOpcode (Buf.ofList r.bytes) := by
    rw [← hbuf]
    refine parseResponse_operation hparse ?_
    rw [hbuf]
    rcases hver with hver | hver <;> rw [hver] <;> decide
  have hresp : (readMapping (Buf.ofList r.bytes)).Maps := by
    refine ⟨hver, ?_⟩
    rcases hmaps with hm | hm
    · exact .inl (hop.symm.trans hm)
    · exact .inr (hop.symm.trans hm)
  have hreq : (readMapping (Buf.ofList req)).Maps := by
    refine ⟨h.wellFormed.version, ?_⟩
    have hoperation : (readMapping (Buf.ofList r.bytes)).operation =
        (readMapping (Buf.ofList req)).operation := h.opcode
    exact hoperation ▸ hresp.operation
  obtain ⟨hcarries, hoptions⟩ := parse_mapping hparse (hbuf ▸ hresp)
  rw [hbuf, hlen, h.version, h.opcode] at hoptions
  rw [← h.mapping hreq hoptions, ← hbuf]
  exact hcarries

/-- What a request says of the mapping. -/
def Request.mapping (q : Request) : MappingMsg :=
  { version := q.version
    operation := q.operation
    lifetime := q.lifetime
    nonce := q.nonce.getD ⟨0, 0, 0⟩
    protocol := q.protocol
    srcPort := q.srcPort
    extPort := q.extPort
    extIp := q.extIp
    dstPort := (q.peer.map (·.1)).getD 0
    dstIp := (q.peer.map (·.2)).getD .any }

theorem readMapping_eq {b : Buf} (h : b 1 &&& 0x7f = b 1) : readMapping b = (readRequest b).mapping := by
  have hop : receivedOpcode b = b 1 := h
  simp only [readMapping, readRequest, Request.mapping, hop]
  congr 1
  · split <;> rfl
  · split <;> rfl
  · split <;> rfl

theorem readMapping_request (cfg : Config) {version : UInt8} {f : Flow} (hv : version = 1 ∨ version = 2)
    (hop : f.kd.operation = opcodeMap ∨ f.kd.operation = opcodePeer) :
    readMapping (Buf.ofList (requestBytes cfg version f)) = (f.request version).mapping := by
  have hbyte : Buf.ofList (requestBytes cfg version f) 1 = f.kd.operation &&& 0x7f := rfl
  rw [readMapping_eq, requestBytes, withOptions, readRequest_ofList _ hv hop]
  rw [hbyte]
  rcases hop with hop | hop <;> rw [hop] <;> rfl

/-- What a client makes of the response to the request of a flow that a server accepts: for MAP it says
what the flow asks for with the address of the server, for PEER just what the flow asks for. -/
theorem exchange_carries {cfg cfg' : Config} {info : ServerSetup} {version : UInt8} {f : Flow} {t : Exec}
    {now time : Int} (hjudge : info.defaultResultCode = 255) (hoccur : t.occur = resetOptionOccur)
    (hv : version = 1 ∨ version = 2) (hop : f.kd.operation = opcodeMap ∨ f.kd.operation = opcodePeer)
    (hlen : (requestBytes cfg version f).length < pcpMaxLen) (hsupported : version ≤ info.serverVersion)
    (hpeer : f.kd.operation = opcodePeer → version = 2 ∧
      ¬ EndsMisplaced (requestOptions cfg f (requestOptionsAt version f.kd.operation)))
    (hr : r.bytes = (execRound info now (requestBytes cfg version f) t).2) :
    validatePcpMsg (receivedMsg r time) = true ∧
      ∃ m, parseResponse cfg' (receivedMsg r time) = (.success, m) ∧ m.recvResult = resSuccess ∧
        m.Carries (if f.kd.operation = opcodeMap then { (f.request version).mapping with extIp := info.extIp }
          else (f.request version).mapping) := by
  obtain ⟨hmin, -, hmod⟩ := requestBytes_size cfg hv hop
  have hstart := (requestOptionsAt_bounds version f.kd.operation).1
  have hn : 4 ≤ ((requestBytes cfg version f).take (pcpMaxLen - 1)).length := by
    rw [List.length_take]
    simp only [pcpMaxLen]
    omega
  have hcode : Buf.ofList r.bytes 3 = 0 := by
    rw [hr]
    refine (round_accepts hjudge hoccur hv hop).mpr ⟨hlen, ?_⟩
    exact (requests_accepted_iff cfg info.serverVersion hv hop).mpr ⟨hsupported, hpeer⟩ _
      (Buf.agreeTo_received _ _).symm
  have hserved : ServedWell info (requestBytes cfg version f) r.bytes := by
    rw [hr] at hcode ⊢
    exact execRound_success hjudge hoccur hn hcode
  have hreserved : Buf.ofList r.bytes 2 = 0 := by
    rw [hr]
    exact execRound_reserved hoccur hn
  have hread := readMapping_request cfg hv hop
  have hversion : Buf.ofList r.bytes 0 = version := hserved.version
  have hopcode : receivedOpcode (Buf.ofList r.bytes) = f.kd.operation :=
    hserved.opcode.trans (congrArg MappingMsg.operation hread)
  have hbit : Buf.ofList r.bytes 1 &&& 0x80 ≠ 0 := by
    rw [hr, execRound_bit hoccur hn]
    decide
  have hsmall : r.bytes.take pcpMaxLen = r.bytes := by
    refine List.take_of_length_le ?_
    rw [hserved.length]
    omega
  have hbuf : (receivedMsg r time).pcpMsgBuffer = Buf.ofList r.bytes := congrArg Buf.ofList hsmall
  have hlength : (receivedMsg r time).pcpMsgLen = (requestBytes cfg version f).length :=
    (congrArg List.length hsmall).trans hserved.length
  have hvalid : ValidResponse cfg' (receivedMsg r time).pcpMsgBuffer (receivedMsg r time).pcpMsgLen := by
    have hop' : Buf.ofList r.bytes 1 &&& 0x7f = f.kd.operation := hopcode
    rw [hbuf, hlength]
    simp only [ValidResponse, hversion, hop']
    refine ⟨hmod, by omega, Nat.le_of_lt hlen, ?_, fun _ => hbit, .inr ⟨hv, by omega, .inr ?_⟩⟩
    · rcases hv with hv | hv <;> rw [hv] <;> decide
    · rcases hv with hv | hv <;> rcases hop with hop | hop <;> rw [hv, hop] at hmin ⊢
      · exact .inl ⟨rfl, .inl ⟨rfl, hmin⟩⟩
      · exact .inr (.inl ⟨rfl, .inl ⟨rfl, hmin⟩⟩)
      · exact .inl ⟨rfl, .inr ⟨rfl, hmin⟩⟩
      · exact .inr (.inl ⟨rfl, .inr ⟨rfl, hmin⟩⟩)
  obtain ⟨hvalidate, hparsed⟩ := (accepted_iff cfg' (receivedMsg r time)).mpr hvalid
  have hparse : parseResponse cfg' (receivedMsg r time) =
      (.success, (parseResponse cfg' (receivedMsg r time)).2) := by
    rw [← hparsed]
  refine ⟨hvalidate, _, hparse, ?_, ?_⟩
  · rw [parseResponse_result hparse (by rw [hbuf]; exact hreserved), hbuf, hcode]
    rfl
  · have hoperation : (parseResponse cfg' (receivedMsg r time)).2.kd.operation = f.kd.operation := by
      rw [parseResponse_operation hparse, hbuf, hopcode]
      rw [hbuf, hversion]
      rcases hv with hv | hv <;> rw [hv] <;> decide
    have hcarries := served_carries hserved hparse (by rw [FlowKeyData.Maps, hoperation]; exact hop)
    rw [hread] at hcarries
    exact hcarries

theorem chosen_version (q : MappingMsg) (ip : In6Addr) :
    (if q.operation = opcodeMap then { q with extIp := ip } else q).version = q.version := by
  split <;> rfl

theorem RecvMsg.Carries.agrees {info : ServerSetup} {q : MappingMsg} {m : RecvMsg} {k : Nat}
    (h : m.Carries (if q.operation = opcodeMap then { q with extIp := info.extIp } else q))
    (hkd : v.kd = m.kd) (hmapping : v.mapping = m.grant) (htime : m.receivedTime = (e.clock k).tvSec) :
    v.AgreesWith e info q := by
  have hextIp : v.extIp = m.assignedExtIp := congrArg (·.1) hmapping
  have hextPort : v.extPort = m.assignedExtPort := congrArg (·.2.1) hmapping
  have hlife : v.recvLifetime = m.grant.2.2 := congrArg (·.2.2) hmapping
  have hmin : m.grant.2.2 = min longMax (m.receivedTime + m.recvLifetime.toNat) := by
    simp only [RecvMsg.grant]
    split <;> omega
  rw [hmin, htime] at hlife
  by_cases hop : q.operation = opcodeMap
  · rw [if_pos hop] at h
    refine ⟨hkd ▸ h.operation, hkd ▸ h.protocol, hkd ▸ h.srcPort, hkd ▸ h.nonce, hkd ▸ h.dst, ?_,
      hextPort.trans h.extPort, k, hlife.trans (by rw [h.lifetime])⟩
    rw [if_pos hop, hextIp, h.extIp]
  · rw [if_neg hop] at h
    refine ⟨hkd ▸ h.operation, hkd ▸ h.protocol, hkd ▸ h.srcPort, hkd ▸ h.nonce, hkd ▸ h.dst, ?_,
      hextPort.trans h.extPort, k, hlife.trans (by rw [h.lifetime])⟩
    rw [if_neg hop, hextIp, h.extIp]

/-- A mapping that was granted by an answer is one both agree on. -/
theorem Answer.agreement (h : Answer park i p r) (hjudge : (park.setup i).defaultResultCode = 255)
    (hg : GrantedIn e r v) (hmaps : v.kd.Maps) : Agreement e park i p v := by
  obtain ⟨now, t, hoccur, hround⟩ := h.round
  obtain ⟨m, ip, ⟨k, m₀, sv, scope, hparse, rfl, hsv⟩, hsucc, hkd, hmapping, hip⟩ := hg
  obtain ⟨hop, -, -, -, -, hserver, -⟩ := completeKey_fields sv scope m₀
  have hlength : r.bytes.length = min (pcpMaxLen - 1) p.bytes.length := by
    rw [← hround]
    exact execRound_length
  have hsmall : r.bytes.take pcpMaxLen = r.bytes := by
    refine List.take_of_length_le ?_
    simp only [pcpMaxLen] at hlength ⊢
    omega
  have hbuf : (receivedMsg r (e.clock k).tvSec).pcpMsgBuffer = Buf.ofList r.bytes :=
    congrArg Buf.ofList hsmall
  have hlen : 8 ≤ r.bytes.length := by
    have hparsed := parseResponse_length hparse
    have hreceived : (receivedMsg r (e.clock k).tvSec).pcpMsgLen = r.bytes.length :=
      congrArg List.length hsmall
    omega
  have hn : 4 ≤ (p.bytes.take (pcpMaxLen - 1)).length := by
    rw [List.length_take]
    omega
  -- the result code of the message is the byte that the server has written
  have hwell : ServedWell (park.setup i) p.bytes r.bytes := by
    have hreserved : Buf.ofList (execRound (park.setup i) now p.bytes t).2 2 = 0 :=
      execRound_reserved hoccur hn
    rw [hround] at hreserved
    have hresult := parseResponse_result hparse (by rw [hbuf]; exact hreserved)
    rw [hbuf] at hresult
    have hzero : (Buf.ofList r.bytes 3).toUInt32 = 0 := hresult.symm.trans hsucc
    have hcode : Buf.ofList r.bytes 3 = 0 := by
      apply UInt8.toNat_inj.mp
      have hnat := congrArg UInt32.toNat hzero
      simpa using hnat
    rw [← hround] at hcode ⊢
    exact execRound_success hjudge hoccur hn hcode
  have hm₀ : m₀.kd.Maps := by
    rw [hkd] at hmaps
    exact hmaps.imp hop.symm.trans hop.symm.trans
  have hcarries := (served_carries hwell hparse hm₀).completeKey sv scope
  have hversion : (completeKey sv scope m₀).recvVersion ≠ 0 := by
    have hver : (readMapping (Buf.ofList p.bytes)).version = 1 ∨
        (readMapping (Buf.ofList p.bytes)).version = 2 := hwell.wellFormed.version
    rw [hcarries.version, chosen_version]
    rcases hver with hver | hver <;> rw [hver] <;> decide
  rw [hip hversion] at hmapping
  have htime : (completeKey sv scope m₀).receivedTime = (e.clock k).tvSec := by
    have horigin := (parseResponse_origin e.cfg (receivedMsg r (e.clock k).tvSec)).receivedTime
    rw [hparse] at horigin
    exact horigin
  refine ⟨h.addressed, ?_, hwell.wellFormed, hwell.accepted, hcarries.agrees hkd hmapping htime⟩
  rw [hkd, hserver, hsv]
  exact h.source.1

/-- For every mapping that the client holds, however its requests and the responses to them were delayed,
reordered, repeated and lost, there is a request of it that a server has found nothing wrong with, and the
two have the same mapping. -/
theorem net_agreement [DecidableEq ι] (he : e.ClockMono)
    (hjudge : ∀ i, (park.setup i).defaultResultCode = 255) {n : Net Ctx Exec ι Datagram}
    (h : NetRuns (clientParty e) (ServerRound park) ⟨{}, fun i => .start (park.setup i), []⟩ n)
    {f : FlowId} (hf : (n.client.heap f).Holds) :
    ∃ i, ∃ p ∈ n.client.io.sent, Agreement e park i p (n.client.heap f) := by
  have hkept := h.contract (twoParties he park)
    ⟨⟨.empty, .empty⟩, fun _ => rfl, fun _ hr => by cases hr⟩
  obtain ⟨r, hr, hgranted⟩ := hkept.client.2.holds hf
  obtain ⟨i, p, hp, hanswer⟩ := hkept.replies r hr
  exact ⟨i, p, hp, hanswer.agreement (hjudge i) hgranted hf.1⟩

end Agree

def askingFlow : Flow :=
  { Flow.zero with
    kd := { FlowKeyData.zero with operation := opcodeMap, protocol := ipprotoTcp, srcPort := 80 }
    lifetime := 60
    pfailureOptionPresent := true }

theorem exchange_carries_map :
    let r : Datagram :=
      ⟨freshResponse twoShots 9 (requestBytes {} 2 askingFlow), .inet 0x0A000001 5351, .inet 0x0A000002 0⟩
    validatePcpMsg (receivedMsg r 10) = true ∧
      ∃ m, parseResponse {} (receivedMsg r 10) = (.success, m) ∧ m.recvResult = resSuccess ∧
        m.Carries { (askingFlow.request 2).mapping with extIp := twoShots.extIp } := by
  have hjudge : twoShots.defaultResultCode = 255 := rfl
  have hoccur : (Exec.start twoShots).occur = resetOptionOccur := rfl
  have hlen : (requestBytes {} 2 askingFlow).length < pcpMaxLen := by decide
  have hpeer : askingFlow.kd.operation = opcodePeer → (2 : UInt8) = 2 ∧
      ¬ EndsMisplaced (requestOptions {} askingFlow (requestOptionsAt 2 askingFlow.kd.operation)) :=
    fun h => absurd h (by decide)
  exact exchange_carries hjudge hoccur (.inr rfl) (.inl rfl) hlen (by decide) hpeer rfl

/-! ## One exchange -/

section Exchange

variable {ι : Type} [DecidableEq ι] {e : Env} {park : ServerPark ι} {i : ι} {p : Sent}

/-- The response of a server that has just been started. -/
def freshAnswer (park : ServerPark ι) (i : ι) (p : Sent) (now : Int) (dst : SockAddr) : Datagram :=
  ⟨freshResponse (park.setup i) now p.bytes, park.addr i, dst⟩

/-- The client asks without having received anything, a server answers, and the client takes that in. -/
theorem exchange_runs {c c' : Ctx} {now : Int} {dst : SockAddr} {op : Op}
    (hasks : Runs e (fun _ op => ∀ r ∈ op.datagram, r ∈ ([] : List Datagram)) {} c)
    (hp : p ∈ c.io.sent) (haddr : SameHost p.dest (park.addr i)) (hstep : Step e c op c')
    (hop : op.datagram = some (freshAnswer park i p now dst)) :
    ∃ n : Net Ctx Exec ι Datagram, n.client = c' ∧
      NetRuns (clientParty e) (ServerRound park) ⟨{}, fun i => .start (park.setup i), []⟩ n := by
  have hrunning : (Exec.start (park.setup i)).execute ≠ 0 := by
    simp only [Exec.start]
    split
    · rename_i hend
      exact fun h => hend (UInt8.toNat_inj.mp h)
    · exact Nat.one_ne_zero
  have hround : ServerRound park i p (.start (park.setup i))
      (execRound (park.setup i) now p.bytes (.start (park.setup i))).1 (freshAnswer park i p now dst) :=
    ⟨hrunning, haddr, ⟨rfl, rfl⟩, now, rfl⟩
  have hserves := NetStep.serve (P := clientParty e) (S := ServerRound park)
    (n := ⟨c, fun i => .start (park.setup i), []⟩) hp hround
  have hreceives := NetStep.client (P := clientParty e) (S := ServerRound park)
    (n := ⟨c, Function.update (fun i => .start (park.setup i)) i
      (execRound (park.setup i) now p.bytes (.start (park.setup i))).1, [freshAnswer park i p now dst]⟩) hstep
    fun r hr => List.mem_singleton.mpr (Option.some.inj (hr.symm.trans hop))
  have hasked : NetRuns (clientParty e) (ServerRound park) ⟨{}, fun i => .start (park.setup i), []⟩
    ⟨c, fun i => .start (park.setup i), []⟩ := .client hasks
  exact ⟨_, rfl, (hasked.trans (.single hserves trivial)).trans (.single hreceives trivial)⟩

end Exchange

def onePark : ServerPark Unit := ⟨fun _ => twoShots, fun _ => .inet 0x0A000001 5351⟩

/-- The client has sent its request. -/
def askingCtx : Ctx :=
  runTo (.calm {}) (fun _ op => ∀ r ∈ op.datagram, r ∈ ([] : List Datagram)) 12 {} waitingFlow

def askedFor : Sent := askingCtx.io.sent.head (by decide +kernel)

/-- It has received the answer. -/
def answeredCtx : Ctx :=
  stepTo (.calm {}) 12 askingCtx (.pulse (some (freshAnswer onePark () askedFor 9 (.inet 0x0A000002 0))) .zero)

theorem net_agreement_exchange :
    ∃ i, ∃ p ∈ answeredCtx.io.sent, Agreement (.calm {}) onePark i p (answeredCtx.heap 0) := by
  obtain ⟨n, hn, hruns⟩ := exchange_runs (Runs.runTo (by decide +kernel))
    (List.head_mem _ : askedFor ∈ askingCtx.io.sent)
    (by decide +kernel : SameHost askedFor.dest (onePark.addr ()))
    (Step.stepTo (by decide +kernel) : Step (.calm {}) askingCtx _ answeredCtx) rfl
  have hjudge : ∀ i, (onePark.setup i).defaultResultCode = 255 := fun _ => rfl
  have hholds : (answeredCtx.heap 0).Holds := ⟨by decide +kernel, by decide +kernel⟩
  rw [answeredCtx, ← hn] at hholds ⊢
  exact net_agreement calm_clock.1 hjudge hruns hholds

end LibPcp
