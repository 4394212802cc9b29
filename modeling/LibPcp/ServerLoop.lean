import LibPcp.Matching
import LibPcp.OwnBytes

/-!
# LibPcp.ServerLoop

The main loop of the test server (`execPCPServer` in `pcp_server.c`).

A round receives a request into the one buffer, judges it, rewrites it in place into the response and
sends back as many bytes as came in. The buffer, the options that have occurred and the number of rounds
left are all that goes from one round to the next. What the server prints is left out, and so is the
time it has altogether: an error of `recvfrom` ends the program.

* `execRound_own`: outside of `PeerV1Walked` the response depends on the request and the time alone.
* `execPCPServer_memoryless`: so the loop is a map over the requests, cut off at `end_after_recv`.
* `printPCPreq_success`, `createResponse_mapping`: what the response to a request for a mapping says.
-/

namespace LibPcp

open ByteBuffer

/-! ## The loop -/

/-- `server_info_t` without the log file and the time-out. -/
structure ServerSetup extends ServerInfo where
  endAfterRecv : UInt8
  defaultResultCode : UInt8
  deriving DecidableEq, Repr

/-- `execute`, `opt_occurence` and `buf`. -/
structure Exec where
  execute : Nat
  occur : OptionsOccur
  buf : Buf

/-- The result code of the response. -/
def ServerSetup.resultCode (info : ServerSetup) (judged : UInt32) : Int :=
  if info.defaultResultCode = 255 then judged.toNat else info.defaultResultCode.toNat

/-- A round of `while (execute)` for the datagram `req` at the time `now`: what is left for the next one,
and the response. -/
def execRound (info : ServerSetup) (now : Int) (req : List UInt8) (t : Exec) : Exec × List UInt8 :=
  let execute := if info.endAfterRecv ≠ 0 then t.execute - 1 else t.execute
  let received := req.take (pcpMaxLen - 1)
  let buf := t.buf.blit 0 received
  let pcpResultCode := (printPCPreq info.serverVersion t.occur buf received.length).code
  let buf := createResponse info.toServerInfo (info.resultCode pcpResultCode) now buf
  (⟨execute, resetOptionOccur, buf⟩, buf.slice 0 received.length)

def Exec.start (info : ServerSetup) : Exec :=
  ⟨if info.endAfterRecv ≠ 0 then info.endAfterRecv.toNat else 1, resetOptionOccur, .zero⟩

def execLoop (info : ServerSetup) : Exec → List (Int × List UInt8) → List (List UInt8)
  | _, [] => []
  | t, q :: qs =>
    if t.execute = 0 then []
    else (execRound info q.1 q.2 t).2 :: execLoop info (execRound info q.1 q.2 t).1 qs

/-- `execPCPServer`: the responses to the requests that arrive, each with its time. -/
def execPCPServer (info : ServerSetup) (reqs : List (Int × List UInt8)) : List (List UInt8) :=
  execLoop info (.start info) reqs

/-! ## One round by its own bytes -/

section Own

variable {info : ServerInfo} {code now : Int} {n : Nat} {b b' : Buf}

/-- The part of `create_response` before it looks at the result code. -/
def responseHeader (info : ServerInfo) (code now : Int) (b : Buf) : Buf :=
  let b := b.blit 2 [0]
  let b := b.blit 12 (List.replicate 12 0)
  let b := b.blit 1 [b 1 ||| 0x80]
  let b := b.blit 3 [UInt8.ofNat (code % 2 ^ 8).toNat]
  b.blit 8 (be32 (UInt32.ofNat ((now - info.epochTimeStart) % 2 ^ 32).toNat))

/-- The external address in the response to a MAP request. -/
def responseExtIp (info : ServerInfo) (b : Buf) : Buf :=
  if b 1 &&& 0x7f = opcodeMap then
    if b 0 = 1 then b.blit 32 info.extIp.bytes
    else if b 0 = 2 then b.blit 44 info.extIp.bytes
    else b
  else b

/-- The part of `create_response` after it, which writes at fixed places or not at all. -/
def responseBody (info : ServerInfo) (code : Int) (b : Buf) : Buf :=
  if code = (resUnsuppVersion.toNat : Int) then b.blit 0 [info.serverVersion]
  else
    let b := responseExtIp info b
    if b 1 &&& 0x7f = opcodeSadscp then b.blit 36 [(info.appBit <<< 7) ||| info.retDscp] else b

theorem createResponse_eq (info : ServerInfo) (code now : Int) (b : Buf) :
    createResponse info code now b = responseBody info code (responseHeader info code now b) := rfl

theorem responseHeader_agree (hn : 2 ≤ n) (h : Buf.AgreeTo n b b') :
    Buf.AgreeTo n (responseHeader info code now b) (responseHeader info code now b') := by
  have h₁ := (h.blit 2 [0]).blit 12 (List.replicate 12 0)
  simp only [responseHeader]
  rw [h₁ 1 (by omega)]
  exact ((h₁.blit 1 _).blit 3 _).blit 8 _

theorem responseExtIp_agree (hn : 2 ≤ n) (h : Buf.AgreeTo n b b') :
    Buf.AgreeTo n (responseExtIp info b) (responseExtIp info b') := by
  unfold responseExtIp
  rw [h 0 (by omega), h 1 (by omega)]
  split_ifs
  · exact h.blit 32 _
  · exact h.blit 44 _
  · exact h
  · exact h

theorem responseBody_agree (hn : 2 ≤ n) (h : Buf.AgreeTo n b b') :
    Buf.AgreeTo n (responseBody info code b) (responseBody info code b') := by
  have hmap := @responseExtIp_agree info _ _ _ hn h
  unfold responseBody
  dsimp only
  rw [hmap 1 (by omega)]
  split_ifs
  · exact h.blit 0 _
  · exact hmap.blit 36 _
  · exact hmap

/-- Of less than two bytes only the version can be rewritten. -/
theorem createResponse_short (info : ServerInfo) (code now : Int) (b : Buf) (hn : n < 2) :
    Buf.AgreeTo n (createResponse info code now b)
      (if code = (resUnsuppVersion.toNat : Int) then b.blit 0 [info.serverVersion] else b) := by
  have hheader : Buf.AgreeTo n (responseHeader info code now b) b := by
    simp only [responseHeader]
    refine (Buf.agreeTo_blit_above _ _ (by omega)).trans ?_
    refine (Buf.agreeTo_blit_above _ _ (by omega)).trans ?_
    intro i hi
    obtain rfl : i = 0 := by omega
    rfl
  rw [createResponse_eq, responseBody]
  by_cases hcode : code = (resUnsuppVersion.toNat : Int)
  · simp only [if_pos hcode]
    exact hheader.blit 0 _
  · simp only [if_neg hcode]
    refine Buf.AgreeTo.trans ?_ hheader
    have hmap : ∀ b, Buf.AgreeTo n (responseExtIp info b) b := by
      intro b
      unfold responseExtIp
      split_ifs
      · exact Buf.agreeTo_blit_above _ _ (by omega)
      · exact Buf.agreeTo_blit_above _ _ (by omega)
      · exact .refl n b
      · exact .refl n b
    split_ifs
    · exact (Buf.agreeTo_blit_above _ _ (by omega)).trans (hmap _)
    · exact hmap _

theorem createResponse_agree (h : Buf.AgreeTo n b b') :
    Buf.AgreeTo n (createResponse info code now b) (createResponse info code now b') := by
  by_cases hn : 2 ≤ n
  · exact responseBody_agree hn (responseHeader_agree hn h)
  · have h₁ := createResponse_short info code now b (Nat.not_le.mp hn)
    have h₂ := createResponse_short info code now b' (Nat.not_le.mp hn)
    refine (h₁.trans ?_).trans h₂.symm
    split_ifs
    · exact h.blit 0 _
    · exact h

/-- A request that does not get into the wrong part of the buffer is judged by its own bytes. -/
theorem printPCPreq_congr {version : UInt8} {occur : OptionsOccur}
    (hown : ¬ PeerV1Walked version b n) (h : Buf.AgreeTo n b b') :
    printPCPreq version occur b' n = printPCPreq version occur b n := by
  unfold printPCPreq
  by_cases hsize : n > pcpMaxLen ∨ n < 4 ∨ n % 4 ≠ 0
  · simp only [if_pos hsize]
  have hn : 4 ≤ n := by omega
  rw [if_neg hsize, if_neg hsize, ← h 0 (by omega), receivedOpcode_congr hn h]
  by_cases hver : b 0 > version
  · simp only [if_pos hver]
  · simp only [if_neg hver]
    have hsum : (sizeofRequest : Int) + ((n : Int) - sizeofRequest) = n := by omega
    refine (printRequest_ownBytes hn hsum fun h1 hop => ?_).same b' h
    by_contra hlong
    have hopt : ¬ ((n : Int) - sizeofRequest ≤ sizeofMapV1) := hlong
    exact hown ⟨h1, hop, UInt8.not_lt.mp hver, by omega, by omega⟩

end Own

/-- The response of a server that has just been started. -/
def freshResponse (info : ServerSetup) (now : Int) (req : List UInt8) : List UInt8 :=
  (execRound info now req (.start info)).2

/-- The request gets into the wrong part of the buffer. -/
def LooksBehind (info : ServerSetup) (req : List UInt8) : Prop :=
  PeerV1Walked info.serverVersion (Buf.ofList (req.take (pcpMaxLen - 1)))
    (req.take (pcpMaxLen - 1)).length

section Loop

variable {info : ServerSetup} {t : Exec}

theorem execRound_own (now : Int) {req : List UInt8} (hoccur : t.occur = resetOptionOccur)
    (hown : ¬ LooksBehind info req) : (execRound info now req t).2 = freshResponse info now req := by
  have hreceived : ∀ b : Buf, Buf.AgreeTo (req.take (pcpMaxLen - 1)).length
      (Buf.ofList (req.take (pcpMaxLen - 1))) (b.blit 0 (req.take (pcpMaxLen - 1))) :=
    fun b => (Buf.agreeTo_received b _).symm
  have hjudged : ∀ b : Buf, printPCPreq info.serverVersion resetOptionOccur
      (b.blit 0 (req.take (pcpMaxLen - 1))) (req.take (pcpMaxLen - 1)).length =
      printPCPreq info.serverVersion resetOptionOccur (Buf.ofList (req.take (pcpMaxLen - 1)))
        (req.take (pcpMaxLen - 1)).length := fun b => printPCPreq_congr hown (hreceived b)
  have hsame := (hreceived t.buf).symm.trans (hreceived (Exec.start info).buf)
  have hstart : (Exec.start info).occur = resetOptionOccur := rfl
  simp only [freshResponse, execRound]
  rw [hoccur, hstart, hjudged t.buf, hjudged (Exec.start info).buf]
  exact (createResponse_agree hsame).slice

/-- The rounds that are left. -/
def roundsLeft (info : ServerSetup) (t : Exec) (reqs : List (Int × List UInt8)) :
    List (Int × List UInt8) :=
  if info.endAfterRecv ≠ 0 then reqs.take t.execute else reqs

theorem roundsLeft_done (hstop : t.execute = 0) (hrun : info.endAfterRecv = 0 → t.execute ≠ 0)
    (reqs : List (Int × List UInt8)) : roundsLeft info t reqs = [] := by
  rw [roundsLeft, if_pos fun hend => hrun hend hstop, hstop]
  rfl

theorem roundsLeft_cons (hgo : t.execute ≠ 0) (q : Int × List UInt8) (qs : List (Int × List UInt8)) :
    roundsLeft info t (q :: qs) = q :: roundsLeft info (execRound info q.1 q.2 t).1 qs := by
  by_cases hend : info.endAfterRecv = 0
  · simp [roundsLeft, hend]
  · obtain ⟨k, hk⟩ := Nat.exists_eq_succ_of_ne_zero hgo
    have hnext : (execRound info q.1 q.2 t).1.execute = k := by simp [execRound, hend, hk]
    simp [roundsLeft, hend, hk, hnext]

/-- A server without a number of rounds does not end. -/
theorem execRound_runs (hrun : info.endAfterRecv = 0 → t.execute ≠ 0) (q : Int × List UInt8) :
    info.endAfterRecv = 0 → (execRound info q.1 q.2 t).1.execute ≠ 0 := by
  intro hend
  simpa [execRound, hend] using hrun hend

theorem roundsLeft_start (info : ServerSetup) (reqs : List (Int × List UInt8)) :
    roundsLeft info (.start info) reqs =
      if info.endAfterRecv = 0 then reqs else reqs.take info.endAfterRecv.toNat := by
  by_cases hend : info.endAfterRecv = 0
  · simp [roundsLeft, hend]
  · simp [roundsLeft, hend, Exec.start]

theorem Exec.start_runs (info : ServerSetup) : info.endAfterRecv = 0 → (Exec.start info).execute ≠ 0 := by
  intro hend
  simp [Exec.start, hend]

theorem execLoop_own (reqs : List (Int × List UInt8)) (hoccur : t.occur = resetOptionOccur)
    (hrun : info.endAfterRecv = 0 → t.execute ≠ 0) (hown : ∀ q ∈ reqs, ¬ LooksBehind info q.2) :
    execLoop info t reqs = (roundsLeft info t reqs).map fun q => freshResponse info q.1 q.2 := by
  induction reqs generalizing t with
  | nil => simp [execLoop, roundsLeft]
  | cons q qs ih =>
    by_cases hstop : t.execute = 0
    · rw [execLoop, if_pos hstop, roundsLeft_done hstop hrun]
      rfl
    · have hround := execRound_own (t := t) q.1 hoccur (hown q List.mem_cons_self)
      have hrest := ih (t := (execRound info q.1 q.2 t).1) rfl (execRound_runs hrun q)
        fun q' hq' => hown q' (List.mem_cons_of_mem q hq')
      rw [execLoop, if_neg hstop, roundsLeft_cons hstop, hround, hrest, List.map_cons]

/-- A server that is done after two requests. -/
def twoShots : ServerSetup :=
  { serverVersion := 2, extIp := .v4mapped 0x0a000001, appBit := 0, retDscp := 0, epochTimeStart := 0,
    endAfterRecv := 2, defaultResultCode := 255 }

def bareRequest (version opcode : UInt8) (n : Nat) : List UInt8 :=
  [version, opcode] ++ List.replicate (n - 2) 0

theorem bareRequest_own {version opcode : UInt8} {n : Nat} (hn : n ≤ 48) :
    ¬ LooksBehind twoShots (bareRequest version opcode n) := by
  rintro ⟨-, -, -, -, hwalked⟩
  simp only [sizeofRequest, sizeofMapV1, List.length_take, bareRequest, List.length_append,
    List.length_cons, List.length_nil, List.length_replicate] at hwalked
  omega

end Loop

/-! ## What a response says -/

/-- What a request for a mapping and the response to it have in common. -/
structure MappingMsg where
  version : UInt8
  operation : UInt8
  lifetime : UInt32
  nonce : Nonce
  protocol : UInt8
  srcPort : UInt16
  extPort : UInt16
  extIp : In6Addr
  dstPort : UInt16
  dstIp : In6Addr
  deriving DecidableEq, Repr

def readMapping (b : Buf) : MappingMsg :=
  let loc := requestFieldsAt (b 0)
  let peer := receivedOpcode b = opcodePeer
  { version := b 0
    operation := receivedOpcode b
    lifetime := b.u32 4
    nonce := if b 0 = 2 then readNonce b 24 else ⟨0, 0, 0⟩
    protocol := b loc
    srcPort := b.u16 (loc + 4)
    extPort := b.u16 (loc + 6)
    extIp := readIn6 b (loc + 8)
    dstPort := if peer then b.u16 (loc + 24) else 0
    dstIp := if peer then readIn6 b (loc + 28) else .any }

/-- The message is about a mapping and of a version that has all these fields. -/
structure MappingMsg.Maps (q : MappingMsg) : Prop where
  version : q.version = 1 ∨ q.version = 2
  operation : q.operation = opcodeMap ∨ q.operation = opcodePeer

section Fields

variable {info : ServerInfo} {code now : Int} {n : Nat} {b b' : Buf}

theorem readIn6_of_range (off : Nat) (h : ∀ i, off ≤ i → i < off + 16 → b' i = b i) :
    readIn6 b' off = readIn6 b off := by
  simp only [readIn6]
  rw [Buf.u32_congr off fun i hi hi' => h i (by omega) (by omega),
    Buf.u32_congr (off + 4) fun i hi hi' => h i (by omega) (by omega),
    Buf.u32_congr (off + 8) fun i hi hi' => h i (by omega) (by omega),
    Buf.u32_congr (off + 12) fun i hi hi' => h i (by omega) (by omega)]

theorem readNonce_of_range (off : Nat) (h : ∀ i, off ≤ i → i < off + 12 → b' i = b i) :
    readNonce b' off = readNonce b off := by
  simp only [readNonce]
  rw [Buf.u32_congr off fun i hi hi' => h i (by omega) (by omega),
    Buf.u32_congr (off + 4) fun i hi hi' => h i (by omega) (by omega),
    Buf.u32_congr (off + 8) fun i hi hi' => h i (by omega) (by omega)]

/-- The bytes that `readMapping` looks at, but for the flags of the opcode. -/
structure SameMapping (b b' : Buf) : Prop where
  version : b' 0 = b 0
  operation : receivedOpcode b' = receivedOpcode b
  lifetime : ∀ i, 4 ≤ i → i < 8 → b' i = b i
  fields : ∀ i, 24 ≤ i → i < requestOptionsAt (b 0) (receivedOpcode b) → b' i = b i

theorem readMapping_congr (h : SameMapping b b') : readMapping b' = readMapping b := by
  have hstart : 24 ≤ requestFieldsAt (b 0) := by
    unfold requestFieldsAt
    split <;> omega
  have hnonce : b 0 = 2 → requestFieldsAt (b 0) = 36 := fun h2 => if_pos h2
  have hend := h.fields
  simp only [requestOptionsAt] at hend
  have hlife := Buf.u32_congr 4 fun i hi hi' => h.lifetime i hi hi'
  simp only [readMapping, h.version, h.operation, hlife]
  generalize requestFieldsAt (b 0) = loc at hstart hnonce hend ⊢
  have hfield : ∀ i, 24 ≤ i → i < loc + 24 → b' i = b i := by
    intro i hi hi'
    refine hend i hi ?_
    split <;> omega
  rw [hfield loc hstart (by omega),
    Buf.u16_congr (loc + 4) fun i hi hi' => hfield i (by omega) (by omega),
    Buf.u16_congr (loc + 6) fun i hi hi' => hfield i (by omega) (by omega),
    readIn6_of_range (loc + 8) fun i hi hi' => hfield i (by omega) (by omega)]
  have hn : (if b 0 = 2 then readNonce b' 24 else ⟨0, 0, 0⟩) =
      if b 0 = 2 then readNonce b 24 else ⟨0, 0, 0⟩ := by
    refine ite_congr rfl (fun h2 => ?_) fun _ => rfl
    have hloc := hnonce h2
    exact readNonce_of_range 24 fun i hi hi' => hfield i (by omega) (by omega)
  rw [hn]
  by_cases hpeer : receivedOpcode b = opcodePeer
  · simp only [if_pos hpeer] at hend ⊢
    rw [Buf.u16_congr (loc + 24) fun i hi hi' => hend i (by omega) (by omega),
      readIn6_of_range (loc + 28) fun i hi hi' => hend i (by omega) (by omega)]
  · simp only [if_neg hpeer]

theorem sameMapping_of_agree (h : Buf.AgreeTo n b b')
    (hn : requestOptionsAt (b 0) (receivedOpcode b) ≤ n) : SameMapping b b' := by
  have hbound := (requestOptionsAt_bounds (b 0) (receivedOpcode b)).1
  refine ⟨(h 0 (by omega)).symm, receivedOpcode_congr (n := n) (by omega) h, fun i _ hi => ?_,
    fun i _ hi => ?_⟩
  · exact (h i (by omega)).symm
  · exact (h i (by omega)).symm

/-- The response bit is none of the opcode. -/
theorem opcode_response (x : UInt8) : (x ||| 0x80) &&& 0x7f = x &&& 0x7f := by
  apply UInt8.toBitVec_inj.mp
  exact BitVec.and_or_distrib_right.trans (BitVec.or_zero)

theorem responseHeader_same (info : ServerInfo) (code now : Int) (b : Buf) :
    SameMapping b (responseHeader info code now b) := by
  have hop : responseHeader info code now b 1 = b 1 ||| 0x80 := rfl
  refine ⟨rfl, ?_, fun i hi hi' => ?_, fun i hi _ => ?_⟩
  · rw [receivedOpcode, hop, opcode_response, receivedOpcode]
  · simp only [responseHeader]
    rw [Buf.blit_below _ _ (by omega), Buf.blit_above _ _ (by simp; omega),
      Buf.blit_above _ _ (by simp; omega), Buf.blit_below _ _ (by omega),
      Buf.blit_above _ _ (by simp; omega)]
  · simp only [responseHeader]
    rw [Buf.blit_above _ _ (by simp; omega), Buf.blit_above _ _ (by simp; omega),
      Buf.blit_above _ _ (by simp; omega), Buf.blit_above _ _ (by simp; omega),
      Buf.blit_above _ _ (by simp; omega)]

theorem readMapping_extIp (ip : In6Addr) (hop : receivedOpcode b = opcodeMap) :
    readMapping (b.blit (requestFieldsAt (b 0) + 8) ip.bytes) = { readMapping b with extIp := ip } := by
  have hlen : ip.bytes.length = 16 := rfl
  have hmap : ¬ opcodeMap = opcodePeer := by decide
  have hstart : 24 ≤ requestFieldsAt (b 0) := by
    unfold requestFieldsAt
    split <;> omega
  have hbelow : ∀ i, i < requestFieldsAt (b 0) + 8 →
      b.blit (requestFieldsAt (b 0) + 8) ip.bytes i = b i := fun i hi => Buf.blit_below b _ hi
  have hip : readIn6 (b.blit (requestFieldsAt (b 0) + 8) ip.bytes) (requestFieldsAt (b 0) + 8) = ip := by
    apply readIn6_of_slice
    rw [← hlen]
    exact Buf.slice_blit _ _ _
  have hver := hbelow 0 (by omega)
  have hopcode : receivedOpcode (b.blit (requestFieldsAt (b 0) + 8) ip.bytes) = opcodeMap := by
    rw [← hop, receivedOpcode, hbelow 1 (by omega), receivedOpcode]
  have hnonce : (if b 0 = 2 then readNonce (b.blit (requestFieldsAt (b 0) + 8) ip.bytes) 24
      else ⟨0, 0, 0⟩) = if b 0 = 2 then readNonce b 24 else ⟨0, 0, 0⟩ := by
    refine ite_congr rfl (fun h2 => ?_) fun _ => rfl
    have hloc : requestFieldsAt (b 0) = 36 := if_pos h2
    exact readNonce_of_range 24 fun i hi hi' => hbelow i (by omega)
  simp only [readMapping, hver, hopcode, hop, if_neg hmap, hip, hnonce]
  rw [hbelow _ (by omega), Buf.u32_congr 4 fun i hi hi' => hbelow i (by omega),
    Buf.u16_congr (requestFieldsAt (b 0) + 4) fun i hi hi' => hbelow i (by omega),
    Buf.u16_congr (requestFieldsAt (b 0) + 6) fun i hi hi' => hbelow i (by omega)]

/-- The response to a request for a mapping repeats it; for a MAP request the external address is the
one of the server. -/
theorem createResponse_mapping (hcode : code ≠ (resUnsuppVersion.toNat : Int))
    (hq : (readMapping b).Maps) :
    readMapping (createResponse info code now b) =
      if (readMapping b).operation = opcodeMap then { readMapping b with extIp := info.extIp }
      else readMapping b := by
  have hheader := responseHeader_same info code now b
  have hsame := readMapping_congr hheader
  have hver : b 0 = 1 ∨ b 0 = 2 := hq.version
  have hop : receivedOpcode b = opcodeMap ∨ receivedOpcode b = opcodePeer := hq.operation
  have hopcode : (readMapping b).operation = receivedOpcode b := rfl
  have hbody : ∀ b' : Buf, b' 1 &&& 0x7f = receivedOpcode b' := fun _ => rfl
  rw [createResponse_eq, responseBody, if_neg hcode, hopcode]
  rcases hop with hop | hop
  · have hmap : receivedOpcode (responseHeader info code now b) = opcodeMap := hheader.operation.trans hop
    have hext : responseExtIp info (responseHeader info code now b) =
        (responseHeader info code now b).blit
          (requestFieldsAt (responseHeader info code now b 0) + 8) info.extIp.bytes := by
      rw [responseExtIp, hbody, if_pos hmap, hheader.version]
      rcases hver with hver | hver <;> rw [hver] <;> rfl
    have hresp := readMapping_extIp info.extIp hmap
    rw [if_pos hop, hext]
    rw [hsame] at hresp
    have hop' : receivedOpcode ((responseHeader info code now b).blit
        (requestFieldsAt (responseHeader info code now b 0) + 8) info.extIp.bytes) = opcodeMap :=
      (congrArg MappingMsg.operation hresp).trans hop
    have hsadscp : ¬ opcodeMap = opcodeSadscp := by decide
    dsimp only
    rw [hbody, hop', if_neg hsadscp, hresp]
  · have hpeer : receivedOpcode (responseHeader info code now b) = opcodePeer :=
      hheader.operation.trans hop
    have hne : ¬ opcodePeer = opcodeMap := by decide
    have hsadscp : ¬ opcodePeer = opcodeSadscp := by decide
    have hext : responseExtIp info (responseHeader info code now b) = responseHeader info code now b := by
      rw [responseExtIp, hbody, if_neg (by rw [hpeer]; exact hne)]
    have hopcode' : ¬ receivedOpcode b = opcodeMap := by rw [hop]; exact hne
    rw [if_neg hopcode']
    dsimp only
    rw [hext, hbody, hpeer, if_neg hsadscp, hsame]

/-- Up to the external address a response is its header; only the version can be another one. -/
theorem createResponse_start {i : Nat} (hi : i < 32) (h : 0 < i ∨ code ≠ (resUnsuppVersion.toNat : Int)) :
    createResponse info code now b i = responseHeader info code now b i := by
  rw [createResponse_eq, responseBody]
  by_cases hcode : code = (resUnsuppVersion.toNat : Int)
  · rw [if_pos hcode]
    exact Buf.blit_above _ _ (h.resolve_right fun hne => hne hcode)
  have hext : responseExtIp info (responseHeader info code now b) i = responseHeader info code now b i := by
    unfold responseExtIp
    split_ifs
    · exact Buf.blit_below _ _ (by omega)
    · exact Buf.blit_below _ _ (by omega)
    · rfl
    · rfl
  rw [if_neg hcode]
  split_ifs
  · rw [Buf.blit_below _ _ (by omega), hext]
  · exact hext

end Fields

/-! ## What the server makes of a request -/

section Verdict

variable {version : UInt8} {occur : OptionsOccur} {req : Buf} {n : Nat}

/-- The result codes of `printPCPreq`. -/
def ServerCode (rc : UInt32) : Prop :=
  rc = resSuccess ∨ rc = resUnsuppVersion ∨ rc = resMalformedRequest ∨ rc = resMalformedOption

theorem ServerCode.lt {rc : UInt32} (h : ServerCode rc) : rc.toNat < 256 := by
  rcases h with rfl | rfl | rfl | rfl <;> decide

theorem optionResult_code (opcode code : UInt8) (occur : OptionsOccur) :
    ServerCode (optionResult opcode code occur) := by
  unfold optionResult ServerCode
  split_ifs <;> simp

theorem walkOptions_code {rc : UInt32} (h : ServerCode rc) (w : OptionWalk) :
    ServerCode (walkOptions req rc w).code := by
  induction w using walkOptions_induction req generalizing rc with
  | last w hw =>
    rw [walkOptions_end hw]
    exact h
  | next w hw ih =>
    rw [walkOptions_next hw]
    refine ih ?_
    rw [printPCPOptions_eq]
    cases knownSize (req w.processed) (req.u16 (w.processed + 2)).toNat with
    | none => exact .inl rfl
    | some k => exact optionResult_code _ _ _

theorem printOpcode_code (req : Buf) (size skip : Nat) (w : OptionWalk) :
    ServerCode (printOpcode req size skip w).code := by
  unfold printOpcode
  dsimp only
  split
  · exact .inr (.inr (.inr rfl))
  · exact walkOptions_code (.inl rfl) _

theorem printPCPreq_code (version : UInt8) (occur : OptionsOccur) (req : Buf) (n : Nat) :
    ServerCode (printPCPreq version occur req n).code := by
  unfold printPCPreq printRequest printSadscp
  split_ifs
  all_goals first
    | exact printOpcode_code _ _ _ _
    | exact walkOptions_code (.inl rfl) _
    | exact .inl rfl
    | exact .inr (.inl rfl)
    | exact .inr (.inr (.inl rfl))

/-- A request the server finds nothing wrong with. -/
structure WellFormedRequest (version : UInt8) (req : Buf) (n : Nat) : Prop where
  size : 4 ≤ n ∧ n ≤ pcpMaxLen ∧ n % 4 = 0
  supported : req 0 ≤ version
  version : req 0 = 1 ∨ req 0 = 2

theorem printPCPreq_success (h : (printPCPreq version occur req n).code = resSuccess) :
    WellFormedRequest version req n := by
  have hmalformed : ¬ resMalformedRequest = resSuccess := by decide
  have hunsupp : ¬ resUnsuppVersion = resSuccess := by decide
  unfold printPCPreq at h
  split_ifs at h with hsize hver
  · exact absurd h hmalformed
  · exact absurd h hunsupp
  refine ⟨by omega, UInt8.not_lt.mp hver, ?_⟩
  by_contra hne
  rw [not_or] at hne
  rw [printRequest, if_neg hne.1, if_neg hne.2] at h
  exact hunsupp h

end Verdict

/-! ## A response of success -/

section Success

variable {info : ServerSetup} {now : Int} {req : List UInt8} {t : Exec}

theorem execRound_length : (execRound info now req t).2.length = min (pcpMaxLen - 1) req.length := by
  simp [execRound]

/-- The verdict on the request in the buffer. -/
def Exec.judge (t : Exec) (info : ServerSetup) (req : List UInt8) : UInt32 :=
  (printPCPreq info.serverVersion resetOptionOccur (t.buf.blit 0 (req.take (pcpMaxLen - 1)))
    (req.take (pcpMaxLen - 1)).length).code

/-- The response is the request as it was rewritten in place. -/
theorem execRound_response (info : ServerSetup) (now : Int) (req : List UInt8)
    (hoccur : t.occur = resetOptionOccur) :
    Buf.AgreeTo (req.take (pcpMaxLen - 1)).length (Buf.ofList (execRound info now req t).2)
      (createResponse info.toServerInfo (info.resultCode (t.judge info req)) now
        (t.buf.blit 0 (req.take (pcpMaxLen - 1)))) := by
  rw [Exec.judge, ← hoccur]
  exact Buf.agreeTo_slice _ _

/-- Nothing is in the byte before the result code. -/
theorem execRound_reserved (hoccur : t.occur = resetOptionOccur)
    (hlen : 4 ≤ (req.take (pcpMaxLen - 1)).length) : Buf.ofList (execRound info now req t).2 2 = 0 := by
  rw [execRound_response info now req hoccur 2 (by omega), createResponse_start (by omega) (.inl (by omega))]
  rfl

theorem response_bit (x : UInt8) : (x ||| 0x80) &&& 0x80 = 0x80 := by
  apply UInt8.toBitVec_inj.mp
  ext i hi
  simpa using fun h => .inr h

theorem execRound_bit (hoccur : t.occur = resetOptionOccur)
    (hlen : 4 ≤ (req.take (pcpMaxLen - 1)).length) :
    Buf.ofList (execRound info now req t).2 1 &&& 0x80 = 0x80 := by
  rw [execRound_response info now req hoccur 1 (by omega), createResponse_start (by omega) (.inl (by omega))]
  exact response_bit _

/-- The one byte of the result code is the whole of it. -/
theorem execRound_accepts (hjudge : info.defaultResultCode = 255) (hoccur : t.occur = resetOptionOccur)
    (hlen : 4 ≤ (req.take (pcpMaxLen - 1)).length) :
    Buf.ofList (execRound info now req t).2 3 = 0 ↔ t.judge info req = resSuccess := by
  have hjudged : ServerCode (t.judge info req) := printPCPreq_code _ _ _ _
  have hbyte : Buf.ofList (execRound info now req t).2 3 =
      UInt8.ofNat (((t.judge info req).toNat : Int) % 2 ^ 8).toNat := by
    rw [execRound_response info now req hoccur 3 (by omega), createResponse_start (by omega) (.inl (by omega)),
      ServerSetup.resultCode, if_pos hjudge]
    rfl
  rw [hbyte]
  rcases hjudged with h | h | h | h <;> rw [h] <;> decide

/-- The request was fine, and the response is one to its mapping. -/
structure ServedWell (info : ServerSetup) (req resp : List UInt8) : Prop where
  length : resp.length = req.length
  wellFormed : WellFormedRequest info.serverVersion (Buf.ofList req) req.length
  accepted : ∃ b, Buf.AgreeTo req.length (Buf.ofList req) b ∧
    (printPCPreq info.serverVersion resetOptionOccur b req.length).code = resSuccess
  version : Buf.ofList resp 0 = Buf.ofList req 0
  opcode : receivedOpcode (Buf.ofList resp) = receivedOpcode (Buf.ofList req)
  mapping : (readMapping (Buf.ofList req)).Maps →
    requestOptionsAt (Buf.ofList req 0) (receivedOpcode (Buf.ofList req)) ≤ req.length →
    readMapping (Buf.ofList resp) =
      if (readMapping (Buf.ofList req)).operation = opcodeMap then
        { readMapping (Buf.ofList req) with extIp := info.extIp }
      else readMapping (Buf.ofList req)

theorem execRound_success (hjudge : info.defaultResultCode = 255) (hoccur : t.occur = resetOptionOccur)
    (hn : 4 ≤ (req.take (pcpMaxLen - 1)).length)
    (hcode : Buf.ofList (execRound info now req t).2 3 = 0) :
    ServedWell info req (execRound info now req t).2 := by
  have hrc := (execRound_accepts hjudge hoccur hn).mp hcode
  have hresp := execRound_response info now req hoccur
  have hb := (Buf.agreeTo_received t.buf (req.take (pcpMaxLen - 1))).symm
  have hlength := @execRound_length info now req t
  rw [hrc, ServerSetup.resultCode, if_pos hjudge] at hresp
  rw [Exec.judge] at hrc
  generalize (execRound info now req t).2 = resp at hcode hresp hlength
  generalize t.buf.blit 0 (req.take (pcpMaxLen - 1)) = b at hrc hresp hb
  have hne : ((resSuccess.toNat : Nat) : Int) ≠ (resUnsuppVersion.toNat : Int) := by decide
  have hwell := printPCPreq_success hrc
  have hall : req.take (pcpMaxLen - 1) = req := by
    have hmod := hwell.size.2.2
    rw [List.length_take] at hmod
    refine List.take_of_length_le ?_
    simp only [pcpMaxLen] at hmod ⊢
    omega
  rw [hall] at hb hresp hwell hn hrc
  have hversion : Buf.ofList resp 0 = Buf.ofList req 0 := by
    rw [hresp 0 (by omega), createResponse_start (by omega) (.inr hne), hb 0 (by omega)]
    rfl
  have hopcode : receivedOpcode (Buf.ofList resp) = receivedOpcode (Buf.ofList req) := by
    rw [receivedOpcode, hresp 1 (by omega), createResponse_start (by omega) (.inl (by omega))]
    exact (responseHeader_same _ _ _ b).operation.trans (receivedOpcode_congr hn hb)
  have hb0 := hb 0 (by omega)
  refine ⟨?_, ⟨hwell.size, hb0 ▸ hwell.supported, hb0 ▸ hwell.version⟩, ⟨b, hb, hrc⟩, hversion, hopcode,
    fun hmaps hoptions => ?_⟩
  · rw [hlength, ← List.length_take, hall]
  · have hsame : readMapping b = readMapping (Buf.ofList req) :=
      readMapping_congr (sameMapping_of_agree hb hoptions)
    have hmapping := @createResponse_mapping info.toServerInfo _ now b hne (hsame ▸ hmaps)
    rw [hsame] at hmapping
    rw [← hmapping]
    refine (readMapping_congr (sameMapping_of_agree hresp ?_)).symm
    rw [hversion, hopcode]
    exact hoptions

end Success

end LibPcp
