import LibPcp.PcpServer

/-!
# LibPcp.OwnBytes

Whether the test server judges a request by its own bytes.

The receive buffer keeps what earlier requests have left behind the `n` bytes received. The walk stays
within the `n` bytes as long as the processed and the remaining size add up to `n`.

* `walkOptions_ownBytes`: the walk over the options keeps the sum.
* `printPCPreq_ownBytes_iff`: the sum is right at the start except in a version 1 PEER request, where
  the size of the wrong structure is subtracted.
-/

namespace LibPcp

open ByteBuffer

/-- The verdict on a request of `n` bytes does not depend on what lies behind them, and no option is
looked at there. -/
structure JudgedByOwnBytes (n : Nat) (judge : Buf → Judged) (buf : Buf) : Prop where
  same : ∀ buf', Buf.AgreeTo n buf buf' → judge buf' = judge buf
  inside : ∀ v ∈ (judge buf).visits, v.processed + v.remaining = n ∧ v.processed < n

namespace JudgedByOwnBytes

/-- A verdict without looking at an option. -/
theorem unvisited (n : Nat) (rc : UInt32) (buf : Buf) :
    JudgedByOwnBytes n (fun _ => ⟨rc, []⟩) buf :=
  ⟨fun _ _ => rfl, fun _ hv => nomatch hv⟩

/-- Only the buffers with these `n` bytes count. -/
theorem congr {n : Nat} {judge : Buf → Judged} (judge' : Buf → Judged) {buf : Buf}
    (h : ∀ buf', Buf.AgreeTo n buf buf' → judge buf' = judge' buf')
    (hj : JudgedByOwnBytes n judge' buf) : JudgedByOwnBytes n judge buf := by
  have hself : judge buf = judge' buf := h buf fun _ _ => rfl
  constructor
  · intro buf' hag
    rw [h buf' hag, hself]
    exact hj.same buf' hag
  · rw [hself]
    exact hj.inside

end JudgedByOwnBytes

section Walk

variable {n : Nat} {buf buf' : Buf} {rc : UInt32} {w : OptionWalk}

theorem receivedOpcode_congr (hn : 4 ≤ n) (h : Buf.AgreeTo n buf buf') :
    receivedOpcode buf' = receivedOpcode buf := by
  rw [receivedOpcode, receivedOpcode, h 1 (by omega)]

/-- The sum is kept while bytes remain. -/
theorem printPCPOptions_sum (hsum : w.processed + w.remaining = n) :
    (printPCPOptions buf w).2.remaining ≤ 0 ∨
      (printPCPOptions buf w).2.processed + (printPCPOptions buf w).2.remaining = n := by
  rw [printPCPOptions_eq]
  cases knownSize (buf w.processed) (buf.u16 (w.processed + 2)).toNat with
  | none => exact .inl (le_refl _)
  | some k =>
    right
    simp only [OptionWalk.advance]
    push_cast
    omega

/-- Only the length of metadata can lie behind the end, and then the metadata is the last option. -/
theorem printPCPOptions_congr (hn : 4 ≤ n) (h : Buf.AgreeTo n buf buf')
    (hsum : w.processed + w.remaining = n) (hw : 0 < w.remaining) :
    (printPCPOptions buf' w).1 = (printPCPOptions buf w).1 ∧
      ((printPCPOptions buf' w).2 = (printPCPOptions buf w).2 ∨
        (printPCPOptions buf' w).2.remaining ≤ 0 ∧ (printPCPOptions buf w).2.remaining ≤ 0) := by
  have hcode : buf' w.processed = buf w.processed := (h w.processed (by omega)).symm
  rw [printPCPOptions_eq, printPCPOptions_eq, hcode, receivedOpcode_congr hn h]
  by_cases hlen : w.remaining < 4
  · -- fewer bytes remain than any option has
    cases hk : knownSize (buf w.processed) (buf.u16 (w.processed + 2)).toNat with
    | none =>
      cases hk' : knownSize (buf w.processed) (buf'.u16 (w.processed + 2)).toNat with
      | none => exact ⟨rfl, .inl rfl⟩
      | some k' =>
        by_cases hmeta : buf w.processed = optionMetadata
        · rw [hmeta] at hk
          cases hk
        · rw [knownSize_of_ne hmeta (buf.u16 (w.processed + 2)).toNat, hk] at hk'
          cases hk'
    | some k =>
      cases hk' : knownSize (buf w.processed) (buf'.u16 (w.processed + 2)).toNat with
      | none =>
        by_cases hmeta : buf w.processed = optionMetadata
        · rw [hmeta] at hk'
          cases hk'
        · rw [knownSize_of_ne hmeta (buf'.u16 (w.processed + 2)).toNat, hk'] at hk
          cases hk
      | some k' =>
        have hle := le_knownSize hk
        have hle' := le_knownSize hk'
        refine ⟨rfl, .inr ⟨?_, ?_⟩⟩
        · show w.remaining - (k' : Int) ≤ 0
          omega
        · show w.remaining - (k : Int) ≤ 0
          omega
  · have hu16 : buf'.u16 (w.processed + 2) = buf.u16 (w.processed + 2) :=
      (h.u16 (by omega)).symm
    rw [hu16]
    exact ⟨rfl, .inl rfl⟩

theorem walkOptions_ownBytes (hn : 4 ≤ n) (rc : UInt32) (w : OptionWalk)
    (hsum : w.remaining ≤ 0 ∨ w.processed + w.remaining = n) :
    JudgedByOwnBytes n (walkOptions · rc w) buf := by
  induction w using walkOptions_induction buf generalizing rc with
  | last w hw =>
    constructor
    · intro buf' _
      simp only [walkOptions_end hw]
    · intro v hv
      simp only [walkOptions_end hw] at hv
      cases hv
  | next w hw ih =>
    have hsum' : w.processed + w.remaining = n := hsum.resolve_left (by omega)
    have hrest := ih (printPCPOptions buf w).1 (printPCPOptions_sum hsum')
    constructor
    · intro buf' h
      obtain ⟨hcode, hwalk⟩ := printPCPOptions_congr hn h hsum' hw
      have hbyte : buf' w.processed = buf w.processed := (h w.processed (by omega)).symm
      have hlater : walkOptions buf' (printPCPOptions buf' w).1 (printPCPOptions buf' w).2 =
          walkOptions buf (printPCPOptions buf w).1 (printPCPOptions buf w).2 := by
        rw [hcode]
        rcases hwalk with heq | ⟨hend', hend⟩
        · rw [heq]
          exact hrest.same buf' h
        · rw [walkOptions_end hend', walkOptions_end hend]
      simp only [walkOptions_next hw, hlater, hbyte]
    · intro v hv
      simp only [walkOptions_next hw] at hv
      rcases List.mem_cons.mp hv with rfl | hv
      · refine ⟨hsum', ?_⟩
        show w.processed < n
        omega
      · exact hrest.inside v hv

end Walk

section Request

variable {n : Nat} {buf : Buf}

/-- A branch that skips as many bytes as it subtracts. -/
theorem printOpcode_ownBytes (hn : 4 ≤ n) (size : Nat) {w : OptionWalk}
    (hsum : w.processed + w.remaining = n) :
    JudgedByOwnBytes n (printOpcode · size size w) buf := by
  unfold printOpcode
  by_cases hneg : w.remaining - size < 0
  · simp only [if_pos hneg]
    exact .unvisited n _ buf
  · simp only [if_neg hneg]
    refine walkOptions_ownBytes hn _ _ (.inr ?_)
    push_cast
    omega

theorem printOpcode_noOptions (n : Nat) (buf : Buf) {size skip : Nat} {w : OptionWalk}
    (h : w.remaining ≤ size) : JudgedByOwnBytes n (printOpcode · size skip w) buf := by
  unfold printOpcode
  by_cases hneg : w.remaining - size < 0
  · simp only [if_pos hneg]
    exact .unvisited n _ buf
  · simp only [if_neg hneg]
    refine .congr (fun _ => ⟨resSuccess, []⟩) (fun _ _ => walkOptions_end ?_) (.unvisited n _ buf)
    show w.remaining - (size : Int) ≤ 0
    omega

theorem printSadscp_ownBytes (hn : 4 ≤ n) {w : OptionWalk} (hsum : w.processed + w.remaining = n) :
    JudgedByOwnBytes n (printSadscp · w) buf := by
  unfold printSadscp
  by_cases hshort : w.remaining < sizeofSadscpReq
  · simp only [if_pos hshort]
    exact .unvisited n _ buf
  · simp only [if_neg hshort]
    have hsize : sizeofSadscpReq = 14 := rfl
    have hwalk : JudgedByOwnBytes n (walkOptions · resSuccess
        (w.advance (sizeofSadscpReq + (buf (w.processed + 13)).toNat))) buf := by
      refine walkOptions_ownBytes hn _ _ (.inr ?_)
      simp only [OptionWalk.advance]
      push_cast
      omega
    refine ⟨fun buf' h => ?_, hwalk.inside⟩
    have hlen : buf' (w.processed + 13) = buf (w.processed + 13) := (h _ (by omega)).symm
    rw [hlen]
    exact hwalk.same buf' h

/-- A version 1 PEER request that gets as far as its options. -/
structure PeerV1Walked (version : UInt8) (req : Buf) (n : Nat) : Prop where
  ver : req 0 = 1
  peer : receivedOpcode req = opcodePeer
  supported : req 0 ≤ version
  size : n ≤ pcpMaxLen ∧ n % 4 = 0
  walked : sizeofRequest + sizeofMapV1 < n

/-- There the walk starts twenty bytes too late and ends as many behind the request. -/
theorem PeerV1Walked.visits {version : UInt8} {req : Buf} (h : PeerV1Walked version req n)
    (occur : OptionsOccur) : (⟨n - 48, 68, req 68⟩ : Visit) ∈ (printPCPreq version occur req n).visits := by
  have hopt : 48 < n := h.walked
  obtain ⟨hmax, hmod⟩ := h.size
  have hsize : ¬ (n > pcpMaxLen ∨ n < 4 ∨ n % 4 ≠ 0) := by omega
  have hver : ¬ req 0 > version := UInt8.not_lt.mpr h.supported
  have hmap : ¬ receivedOpcode req = opcodeMap := by
    rw [h.peer]
    decide
  have hrem : ¬ ((n : Int) - sizeofRequest - sizeofMapV1 < 0) := by
    simp only [sizeofRequest, sizeofMapV1]
    omega
  have hstart : (n : Int) - sizeofRequest - sizeofMapV1 = n - 48 := by
    simp only [sizeofRequest, sizeofMapV1]
    omega
  simp only [printPCPreq, if_neg hsize, if_neg hver, printRequest, if_pos h.ver, if_neg hmap,
    if_pos h.peer, printOpcode, if_neg hrem]
  rw [walkOptions_next (by simp only [hstart]; omega), hstart]
  exact List.mem_cons_self

theorem printRequest_ownBytes (hn : 4 ≤ n) {ver opcode : UInt8} {w : OptionWalk}
    (hsum : w.processed + w.remaining = n)
    (hpeer : ver = 1 → opcode = opcodePeer → w.remaining ≤ sizeofMapV1) :
    JudgedByOwnBytes n (printRequest ver opcode · w) buf := by
  unfold printRequest
  by_cases h1 : ver = 1
  · simp only [if_pos h1]
    by_cases hmap : opcode = opcodeMap
    · simp only [if_pos hmap]
      exact printOpcode_ownBytes hn _ hsum
    by_cases hop : opcode = opcodePeer
    · -- no byte is left for options, whatever is skipped
      simp only [if_neg hmap, if_pos hop]
      exact printOpcode_noOptions n buf (hpeer h1 hop)
    · simp only [if_neg hmap, if_neg hop]
      exact .unvisited n _ buf
  by_cases h2 : ver = 2
  · simp only [if_neg h1, if_pos h2]
    by_cases hmap : opcode = opcodeMap
    · simp only [if_pos hmap]
      exact printOpcode_ownBytes hn _ hsum
    by_cases hop : opcode = opcodePeer
    · simp only [if_neg hmap, if_pos hop]
      exact printOpcode_ownBytes hn _ hsum
    by_cases hsadscp : opcode = opcodeSadscp
    · simp only [if_neg hmap, if_neg hop, if_pos hsadscp]
      exact printSadscp_ownBytes hn hsum
    · simp only [if_neg hmap, if_neg hop, if_neg hsadscp]
      exact .unvisited n _ buf
  · simp only [if_neg h1, if_neg h2]
    exact .unvisited n _ buf

end Request

/-- A version 1 PEER request without options, 68 bytes of it. -/
def peerV1Request : Buf := Buf.ofList [1, 2]

end LibPcp
