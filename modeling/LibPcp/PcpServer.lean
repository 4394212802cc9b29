import LibPcp.MsgBuild

/-!
# LibPcp.PcpServer

The request check of the test server `pcp_server.c`: `printPCPreq` and `print_PCP_options`. What they
print is left out, and so is the copy of the metadata that is made for printing only.

`printPCPreq` also records the options it comes to, each with the sizes at that point. The receive
buffer is a total map: what lies behind the received bytes is left from earlier requests.

* `printPCPOptions_eq`: one option by its code: its result, its size and what is remembered of it.
* `walkOptions_next`, `walkOptions_end`: the loop over the options, one step at a time.
-/

namespace LibPcp

open ByteBuffer

/-! ## Sizes of the structures -/

def sizeofRequest : Nat := 24
def sizeofMapV1 : Nat := 24
def sizeofPeerV1 : Nat := 44
def sizeofMapV2 : Nat := 36
def sizeofPeerV2 : Nat := 56
def sizeofSadscpReq : Nat := 14
def sizeofOptionsHdr : Nat := 4
def sizeofThirdPartyOption : Nat := 20
def sizeofPreferFailOption : Nat := 4
def sizeofFilterOption : Nat := 24
def sizeofFlowPriorityOption : Nat := 8
def sizeofLocationOption : Nat := 4 + maxGeoStr
def sizeofUseridOption : Nat := 4 + maxUserId
def sizeofDeviceidOption : Nat := 4 + maxDeviceId

/-! ## One option -/

/-- `options_occur_t`. -/
structure OptionsOccur where
  thirdPartyOccur : Bool
  pfailureOccur : Bool
  deriving DecidableEq, Repr

/-- `reset_option_occur`. -/
def resetOptionOccur : OptionsOccur := ⟨false, false⟩

/-- `remainingSize`, `processedSize` and `opt_occ`. -/
structure OptionWalk where
  remaining : Int
  processed : Nat
  occur : OptionsOccur
  deriving DecidableEq, Repr

/-- Past `n` bytes. -/
def OptionWalk.advance (w : OptionWalk) (n : Nat) : OptionWalk :=
  { w with remaining := w.remaining - n, processed := w.processed + n }

def receivedOpcode (buf : Buf) : UInt8 := buf 1 &&& 0x7F

/-- `print_PCP_options`: the result code and the sizes after the option. -/
def printPCPOptions (buf : Buf) (w : OptionWalk) : UInt32 × OptionWalk :=
  let opcode := receivedOpcode buf
  let code := buf w.processed
  if code = optionThirdParty then
    (if w.occur.thirdPartyOccur then resMalformedOption else resSuccess,
      { w with occur := { w.occur with thirdPartyOccur := true } }.advance sizeofThirdPartyOption)
  else if code = optionPrefFail then
    let rc := if opcode ≠ opcodeMap then resMalformedRequest else resSuccess
    (if w.occur.pfailureOccur then resMalformedOption else rc,
      { w with occur := { w.occur with pfailureOccur := true } }.advance sizeofPreferFailOption)
  else if code = optionFilter then
    (if opcode ≠ opcodeMap then resMalformedRequest else resSuccess, w.advance sizeofFilterOption)
  else if code = optionFlowPriority then (resSuccess, w.advance sizeofFlowPriorityOption)
  else if code = optionMetadata then
    (resSuccess, w.advance (sizeofOptionsHdr + (buf.u16 (w.processed + 2)).toNat))
  else if code = optionLocation then (resSuccess, w.advance sizeofLocationOption)
  else if code = optionUserid then (resSuccess, w.advance sizeofUseridOption)
  else if code = optionDeviceid then (resSuccess, w.advance sizeofDeviceidOption)
  else (resSuccess, { w with remaining := 0 })

/-! ## The loop over the options -/

/-- An option the loop comes to. -/
structure Visit where
  remaining : Int
  processed : Nat
  code : UInt8
  deriving DecidableEq, Repr

/-- The result code and the options visited. -/
structure Judged where
  code : UInt32
  visits : List Visit
  deriving DecidableEq, Repr

/-- `while (remainingSize > 0)`, for a number of rounds. -/
def optionsLoop (buf : Buf) : Nat → UInt32 → OptionWalk → Judged
  | 0, rc, _ => ⟨rc, []⟩
  | rounds + 1, rc, w =>
    if 0 < w.remaining then
      let r := printPCPOptions buf w
      let rest := optionsLoop buf rounds r.1 r.2
      ⟨rest.code, ⟨w.remaining, w.processed, buf w.processed⟩ :: rest.visits⟩
    else ⟨rc, []⟩

/-- Every option takes four bytes at least, so there are not more rounds than bytes. -/
def walkOptions (buf : Buf) (rc : UInt32) (w : OptionWalk) : Judged :=
  optionsLoop buf w.remaining.toNat rc w

/-- A branch of `printPCPreq`: `size` is subtracted from `remainingSize`, `skip` is added to
`processedSize`. -/
def printOpcode (buf : Buf) (size skip : Nat) (w : OptionWalk) : Judged :=
  let remaining := w.remaining - size
  if remaining < 0 then ⟨resMalformedOption, []⟩
  else walkOptions buf resSuccess { w with remaining := remaining, processed := w.processed + skip }

/-- The branch of an SADSCP request. -/
def printSadscp (buf : Buf) (w : OptionWalk) : Judged :=
  if w.remaining < sizeofSadscpReq then ⟨resMalformedRequest, []⟩
  else walkOptions buf resSuccess
    (w.advance (sizeofSadscpReq + (buf (w.processed + 13)).toNat))

/-- The branches of the two versions. -/
def printRequest (ver opcode : UInt8) (req : Buf) (w : OptionWalk) : Judged :=
  if ver = 1 then
    if opcode = opcodeMap then printOpcode req sizeofMapV1 sizeofMapV1 w
    else if opcode = opcodePeer then
      -- the size of the MAP structure is subtracted here, too
      printOpcode req sizeofMapV1 sizeofPeerV1 w
    else ⟨resSuccess, []⟩
  else if ver = 2 then
    if opcode = opcodeMap then printOpcode req sizeofMapV2 sizeofMapV2 w
    else if opcode = opcodePeer then printOpcode req sizeofPeerV2 sizeofPeerV2 w
    else if opcode = opcodeSadscp then printSadscp req w
    else ⟨resSuccess, []⟩
  else ⟨resUnsuppVersion, []⟩

/-- `printPCPreq`. -/
def printPCPreq (version : UInt8) (occur : OptionsOccur) (req : Buf) (reqSize : Nat) : Judged :=
  if reqSize > pcpMaxLen ∨ reqSize < 4 ∨ reqSize % 4 ≠ 0 then ⟨resMalformedRequest, []⟩
  else if req 0 > version then ⟨resUnsuppVersion, []⟩
  else
    printRequest (req 0) (receivedOpcode req) req ⟨reqSize - sizeofRequest, sizeofRequest, occur⟩

/-! ## Options by code -/

/-- The size of an option the server knows; metadata says its own. -/
def knownSize (code : UInt8) (len : Nat) : Option Nat :=
  if code = optionThirdParty then some sizeofThirdPartyOption
  else if code = optionPrefFail then some sizeofPreferFailOption
  else if code = optionFilter then some sizeofFilterOption
  else if code = optionFlowPriority then some sizeofFlowPriorityOption
  else if code = optionMetadata then some (sizeofOptionsHdr + len)
  else if code = optionLocation then some sizeofLocationOption
  else if code = optionUserid then some sizeofUseridOption
  else if code = optionDeviceid then some sizeofDeviceidOption
  else none

/-- The result code of an option after the ones in `occur`. -/
def optionResult (opcode code : UInt8) (occur : OptionsOccur) : UInt32 :=
  if code = optionThirdParty then if occur.thirdPartyOccur then resMalformedOption else resSuccess
  else if code = optionPrefFail then
    if occur.pfailureOccur then resMalformedOption
    else if opcode ≠ opcodeMap then resMalformedRequest else resSuccess
  else if code = optionFilter then if opcode ≠ opcodeMap then resMalformedRequest else resSuccess
  else resSuccess

/-- What is remembered of an option. -/
def OptionsOccur.see (occur : OptionsOccur) (code : UInt8) : OptionsOccur :=
  ⟨occur.thirdPartyOccur || code == optionThirdParty, occur.pfailureOccur || code == optionPrefFail⟩

section Options

variable {buf : Buf} {w : OptionWalk} {code : UInt8} {rc : UInt32} {len k : Nat}

theorem le_knownSize (h : knownSize code len = some k) : 4 ≤ k := by
  unfold knownSize at h
  split_ifs at h
  all_goals
    cases h
    first
    | decide
    | exact Nat.le_add_right 4 len

/-- Only metadata has a size that depends on the length in its header. -/
theorem knownSize_of_ne (h : code ≠ optionMetadata) (len' : Nat) :
    knownSize code len = knownSize code len' := by
  simp only [knownSize, if_neg h]

theorem printPCPOptions_eq (buf : Buf) (w : OptionWalk) : printPCPOptions buf w =
    match knownSize (buf w.processed) (buf.u16 (w.processed + 2)).toNat with
    | some k => (optionResult (receivedOpcode buf) (buf w.processed) w.occur,
        { w with occur := w.occur.see (buf w.processed) }.advance k)
    | none => (resSuccess, { w with remaining := 0 }) := by
  unfold printPCPOptions knownSize optionResult OptionsOccur.see
  generalize buf w.processed = code
  by_cases h1 : code = optionThirdParty
  · simp [h1, optionThirdParty, optionPrefFail]
  by_cases h2 : code = optionPrefFail
  · simp [h2, optionThirdParty, optionPrefFail]
  simp only [if_neg h1, if_neg h2, beq_eq_false_iff_ne.mpr h1, beq_eq_false_iff_ne.mpr h2,
    Bool.or_false]
  split_ifs <;> rfl

/-- After an option fewer bytes remain, and none after an unknown one. -/
theorem printPCPOptions_remaining (hw : 0 < w.remaining) :
    (printPCPOptions buf w).2.remaining < w.remaining := by
  rw [printPCPOptions_eq]
  cases h : knownSize (buf w.processed) (buf.u16 (w.processed + 2)).toNat with
  | none => exact hw
  | some k =>
    have hk := le_knownSize h
    show w.remaining - (k : Int) < w.remaining
    omega

theorem optionsLoop_enough : ∀ {rounds rounds' : Nat} {rc : UInt32} {w : OptionWalk},
    w.remaining.toNat ≤ rounds → w.remaining.toNat ≤ rounds' →
    optionsLoop buf rounds rc w = optionsLoop buf rounds' rc w := by
  intro rounds
  induction rounds with
  | zero =>
    intro rounds' rc w hr _
    have hend : ¬ 0 < w.remaining := by omega
    cases rounds' with
    | zero => rfl
    | succ rounds' => simp only [optionsLoop, if_neg hend]
  | succ rounds ih =>
    intro rounds' rc w hr hr'
    by_cases hw : 0 < w.remaining
    · have hless : (printPCPOptions buf w).2.remaining < w.remaining := printPCPOptions_remaining hw
      obtain ⟨m, rfl⟩ : ∃ m, rounds' = m + 1 := ⟨rounds' - 1, by omega⟩
      simp only [optionsLoop, if_pos hw]
      rw [ih (by omega) (by omega : _ ≤ m)]
    · cases rounds' with
      | zero => simp only [optionsLoop, if_neg hw]
      | succ rounds' => simp only [optionsLoop, if_neg hw]

theorem walkOptions_end (hw : w.remaining ≤ 0) : walkOptions buf rc w = ⟨rc, []⟩ := by
  have hzero : w.remaining.toNat = 0 := by omega
  rw [walkOptions, hzero, optionsLoop]

theorem walkOptions_next (hw : 0 < w.remaining) : walkOptions buf rc w =
    ⟨(walkOptions buf (printPCPOptions buf w).1 (printPCPOptions buf w).2).code,
      ⟨w.remaining, w.processed, buf w.processed⟩ ::
        (walkOptions buf (printPCPOptions buf w).1 (printPCPOptions buf w).2).visits⟩ := by
  have hless : (printPCPOptions buf w).2.remaining < w.remaining := printPCPOptions_remaining hw
  obtain ⟨m, hm⟩ : ∃ m, w.remaining.toNat = m + 1 := ⟨w.remaining.toNat - 1, by omega⟩
  rw [walkOptions, hm, optionsLoop, if_pos hw]
  simp only [walkOptions]
  rw [optionsLoop_enough (by omega) (le_refl _)]

/-- Induction along the options of a request. -/
theorem walkOptions_induction (buf : Buf) {P : OptionWalk → Prop} (last : ∀ w, w.remaining ≤ 0 → P w)
    (next : ∀ w, 0 < w.remaining → P (printPCPOptions buf w).2 → P w) (w : OptionWalk) : P w := by
  generalize hn : w.remaining.toNat = n
  induction n using Nat.strongRecOn generalizing w with
  | ind n ih =>
    by_cases hw : 0 < w.remaining
    · have hless : (printPCPOptions buf w).2.remaining < w.remaining := printPCPOptions_remaining hw
      exact next w hw (ih _ (by omega) _ rfl)
    · exact last w (Int.not_lt.mp hw)

end Options

end LibPcp
