import LibPcp.PcpServer
import LibPcp.Tlv

/-!
# LibPcp.OptionFaults

Whether the test server forgets that an option was out of place.

The result of the last option visited is the result of the request, so a fault counts only if no option
follows it.

* `walkOptions_known`: the walk over options the server knows, as a walk over a list.
* `walkOptions_unknown`: an option it does not know ends the walk with success.
* `printPCPreq_faults_iff`: a fault is reported exactly when it is in the last option and nothing the
  server takes for an option comes behind it.
-/

namespace LibPcp

open ByteBuffer

/-! ## Lists of options -/

/-- The server knows the option. -/
def Known (t : Tlv) : Prop := (knownSize t.code t.data.length).isSome

instance (t : Tlv) : Decidable (Known t) := inferInstanceAs (Decidable (_ = true))

/-- An option with as much data as the server's structure for it has. -/
structure Complete (t : Tlv) : Prop where
  fits : t.data.length < 2 ^ 16
  size : ∀ k, knownSize t.code t.data.length = some k → k = t.bytes.length

/-- What is remembered of a list of options. -/
def occurOf (ts : List Tlv) : OptionsOccur :=
  ⟨ts.any (·.code == optionThirdParty), ts.any (·.code == optionPrefFail)⟩

/-- An option that is out of place after the options `pre`. -/
inductive Faulty (opcode : UInt8) (pre : List Tlv) (t : Tlv) : Prop where
  | repeatedThirdParty (code : t.code = optionThirdParty) (earlier : ∃ t' ∈ pre, t'.code = optionThirdParty)
  | repeatedPrefFail (code : t.code = optionPrefFail) (earlier : ∃ t' ∈ pre, t'.code = optionPrefFail)
  | prefFailOutsideMap (code : t.code = optionPrefFail) (opcode : opcode ≠ opcodeMap)
  | filterOutsideMap (code : t.code = optionFilter) (opcode : opcode ≠ opcodeMap)

def HasFault (opcode : UInt8) (ts : List Tlv) : Prop :=
  ∃ pre t post, ts = pre ++ t :: post ∧ Faulty opcode pre t

/-- The result after a list of options: the one of the last option. -/
def lastResult (opcode : UInt8) : List Tlv → UInt32 → List Tlv → UInt32
  | _, rc, [] => rc
  | pre, _, t :: ts => lastResult opcode (pre ++ [t]) (optionResult opcode t.code (occurOf pre)) ts

section Lists

variable {opcode : UInt8} {pre ts : List Tlv} {t : Tlv}

theorem occurOf_see : (occurOf pre).see t.code = occurOf (pre ++ [t]) := by
  simp [occurOf, OptionsOccur.see]

theorem optionResult_ne_success_iff :
    optionResult opcode t.code (occurOf pre) ≠ resSuccess ↔ Faulty opcode pre t := by
  have hmem : ∀ code, (pre.any (·.code == code) = true) ↔ ∃ t' ∈ pre, t'.code = code := by
    simp
  constructor
  · intro hne
    unfold optionResult occurOf at hne
    split_ifs at hne with h1 h2 h3 h4 h5 h6 h7
    · exact .repeatedThirdParty h1 ((hmem _).mp h2)
    · exact absurd rfl hne
    · exact .repeatedPrefFail h3 ((hmem _).mp h4)
    · exact .prefFailOutsideMap h3 h5
    · exact absurd rfl hne
    · exact .filterOutsideMap h6 h7
    · exact absurd rfl hne
    · exact absurd rfl hne
  · intro hf
    have hres : resMalformedOption ≠ resSuccess := by decide
    have hreq : resMalformedRequest ≠ resSuccess := by decide
    have h21 : optionPrefFail ≠ optionThirdParty := by decide
    cases hf with
    | repeatedThirdParty code earlier =>
      have hseen : (occurOf pre).thirdPartyOccur = true := (hmem _).mpr earlier
      simpa [optionResult, code, hseen] using hres
    | repeatedPrefFail code earlier =>
      have hseen : (occurOf pre).pfailureOccur = true := (hmem _).mpr earlier
      simpa [optionResult, code, hseen, h21] using hres
    | prefFailOutsideMap code hop =>
      by_cases hseen : (occurOf pre).pfailureOccur = true
      · simpa [optionResult, code, hseen, h21] using hres
      · simpa [optionResult, code, hseen, h21, hop] using hreq
    | filterOutsideMap code hop =>
      have h31 : optionFilter ≠ optionThirdParty := by decide
      have h32 : optionFilter ≠ optionPrefFail := by decide
      simpa [optionResult, code, h31, h32, hop] using hreq

theorem lastResult_concat (rc : UInt32) : lastResult opcode pre rc (ts ++ [t]) =
    optionResult opcode t.code (occurOf (pre ++ ts)) := by
  induction ts generalizing pre rc with
  | nil => simp [lastResult]
  | cons t' ts ih =>
    rw [List.cons_append, lastResult, ih, List.append_assoc]
    rfl

theorem first_unknown (h : ¬ ∀ t ∈ ts, Known t) :
    ∃ known u post, ts = known ++ u :: post ∧ (∀ t ∈ known, Known t) ∧ ¬ Known u := by
  induction ts with
  | nil => exact absurd (fun _ ht => nomatch ht) h
  | cons t ts ih =>
    by_cases ht : Known t
    · obtain ⟨known, u, post, rfl, hknown, hu⟩ := ih fun hall => h fun t' ht' =>
        (List.mem_cons.mp ht').elim (fun heq => heq ▸ ht) (hall t')
      exact ⟨t :: known, u, post, rfl, List.forall_mem_cons.mpr ⟨ht, hknown⟩, hu⟩
    · exact ⟨[], t, ts, rfl, fun _ ht' => (nomatch ht'), ht⟩

end Lists

/-! ## The walk -/

section Walk

variable {buf : Buf} {w : OptionWalk} {t : Tlv} {ts pre : List Tlv} {rc : UInt32}

theorem header_of_slice {off : Nat} (h : buf.slice off t.bytes.length = t.bytes)
    (hlen : t.data.length < 2 ^ 16) :
    buf off = t.code ∧ (buf.u16 (off + 2)).toNat = t.data.length := by
  have hsplit : buf.slice off (2 + (2 + t.data.length)) =
      [t.code, t.reserved] ++ (be16 (UInt16.ofNat t.data.length) ++ t.data) := by
    have hsum : 2 + (2 + t.data.length) = t.bytes.length := by
      rw [Tlv.bytes_length]
      omega
    rw [hsum, h]
    simp [Tlv.bytes]
  obtain ⟨hcodes, hrest⟩ := Buf.slice_split hsplit rfl
  obtain ⟨hlength, -⟩ := Buf.slice_split hrest rfl
  refine ⟨Buf.get_of_slice hcodes (i := 0) (by simp), ?_⟩
  rw [Buf.u16_of_slice hlength, UInt16.toNat_ofNat']
  exact Nat.mod_eq_of_lt hlen

theorem printPCPOptions_known (h : buf.slice w.processed t.bytes.length = t.bytes) (hc : Complete t)
    (hk : Known t) : printPCPOptions buf w =
      (optionResult (receivedOpcode buf) t.code w.occur,
        { w with occur := w.occur.see t.code }.advance t.bytes.length) := by
  obtain ⟨hcode, hlen⟩ := header_of_slice h hc.fits
  obtain ⟨k, hsize⟩ := Option.isSome_iff_exists.mp hk
  rw [printPCPOptions_eq, hcode, hlen, hsize, ← hc.size k hsize]

theorem printPCPOptions_unknown (h : buf.slice w.processed t.bytes.length = t.bytes)
    (hc : Complete t) (hu : ¬ Known t) :
    printPCPOptions buf w = (resSuccess, { w with remaining := 0 }) := by
  obtain ⟨hcode, hlen⟩ := header_of_slice h hc.fits
  rw [printPCPOptions_eq, hcode, hlen, Option.not_isSome_iff_eq_none.mp hu]

/-- The walk over known options comes to the end of them with the result of the last one. -/
theorem walkOptions_known (rest : List UInt8) (hts : ∀ t ∈ ts, Complete t ∧ Known t)
    (hbytes : buf.slice w.processed ((Tlv.bytesAll ts).length + rest.length) =
      Tlv.bytesAll ts ++ rest)
    (hoccur : w.occur = occurOf pre) (hlen : ((Tlv.bytesAll ts).length : Int) ≤ w.remaining) :
    (walkOptions buf rc w).code = (walkOptions buf (lastResult (receivedOpcode buf) pre rc ts)
      ⟨w.remaining - (Tlv.bytesAll ts).length, w.processed + (Tlv.bytesAll ts).length,
        occurOf (pre ++ ts)⟩).code := by
  induction ts generalizing w pre rc with
  | nil =>
    obtain ⟨remaining, processed, occur⟩ := w
    simp only at hoccur
    simp [lastResult, hoccur]
  | cons t ts ih =>
    obtain ⟨⟨hc, hk⟩, hrest⟩ := List.forall_mem_cons.mp hts
    have hsum : (Tlv.bytesAll (t :: ts)).length + rest.length =
        t.bytes.length + ((Tlv.bytesAll ts).length + rest.length) := by
      rw [Tlv.bytesAll_cons, List.length_append, Nat.add_assoc]
    rw [hsum, Tlv.bytesAll_cons, List.append_assoc] at hbytes
    obtain ⟨hhead, htail⟩ := Buf.slice_split hbytes rfl
    have htotal : ((Tlv.bytesAll (t :: ts)).length : Int) = t.bytes.length + (Tlv.bytesAll ts).length := by
      rw [Tlv.bytesAll_cons, List.length_append]
      push_cast
      rfl
    have hpos : 0 < w.remaining := by
      rw [Tlv.bytes_length] at htotal
      omega
    have hstep := printPCPOptions_known hhead hc hk
    have hocc : (printPCPOptions buf w).2.occur = occurOf (pre ++ [t]) := by
      rw [hstep, ← occurOf_see, ← hoccur]
      rfl
    rw [walkOptions_next hpos]
    simp only
    rw [hstep] at hocc ⊢
    rw [ih hrest htail hocc (by simp only [OptionWalk.advance]; omega)]
    simp only [OptionWalk.advance, lastResult, hoccur, List.append_assoc, List.singleton_append,
      Tlv.bytesAll_cons, List.length_append]
    congr 3
    · omega
    · omega

end Walk

/-! ## Requests -/

/-- Where the options of a MAP or a PEER request start. -/
def optionsStart (ver opcode : UInt8) : Nat :=
  if opcode = opcodeMap then sizeofRequest + if ver = 1 then sizeofMapV1 else sizeofMapV2
  else sizeofRequest + if ver = 1 then sizeofPeerV1 else sizeofPeerV2

/-- How many bytes more the server takes for options. -/
def overrun (ver opcode : UInt8) : Nat :=
  if ver = 1 ∧ opcode = opcodePeer then sizeofPeerV1 - sizeofMapV1 else 0

/-- A MAP or PEER request of version 1 or 2 with the complete options `opts`. -/
structure OptionsRequest (req : Buf) (n : Nat) (opts : List Tlv) : Prop where
  version : req 0 = 1 ∨ req 0 = 2
  opcode : receivedOpcode req = opcodeMap ∨ receivedOpcode req = opcodePeer
  size : n = optionsStart (req 0) (receivedOpcode req) + (Tlv.bytesAll opts).length
  bytes : req.slice (optionsStart (req 0) (receivedOpcode req)) (Tlv.bytesAll opts).length =
    Tlv.bytesAll opts
  complete : ∀ t ∈ opts, Complete t

section Requests

variable {version : UInt8} {req : Buf} {n : Nat} {opts : List Tlv}

theorem optionsStart_bounds (ver opcode : UInt8) :
    48 ≤ optionsStart ver opcode ∧ optionsStart ver opcode ≤ 80 := by
  unfold optionsStart sizeofRequest sizeofMapV1 sizeofMapV2 sizeofPeerV1 sizeofPeerV2
  split_ifs <;> exact ⟨by decide, by decide⟩

/-- The bytes left behind the request do not make it another one. -/
theorem OptionsRequest.congr (h : OptionsRequest req n opts) {req' : Buf}
    (hag : Buf.AgreeTo n req req') :
    OptionsRequest req' n opts ∧ req' 0 = req 0 ∧ receivedOpcode req' = receivedOpcode req := by
  have hstart := optionsStart_bounds (req 0) (receivedOpcode req)
  have hsize := h.size
  have h0 : req' 0 = req 0 := (hag 0 (by omega)).symm
  have hop : receivedOpcode req' = receivedOpcode req := by
    rw [receivedOpcode, receivedOpcode, hag 1 (by omega)]
  refine ⟨⟨h0 ▸ h.version, hop ▸ h.opcode, ?_, ?_, h.complete⟩, h0, hop⟩
  · rw [h0, hop]
    exact hsize
  · rw [h0, hop, ← h.bytes]
    simp only [Buf.slice_length]
    exact Buf.slice_congr fun i hi => (hag _ (by omega)).symm

/-- A request that is not refused before is judged by the walk. -/
theorem printPCPreq_walk (h : OptionsRequest req n opts) (hsize : ¬ (n > pcpMaxLen ∨ n % 4 ≠ 0))
    (hver : ¬ version < req 0) (occur : OptionsOccur) : (printPCPreq version occur req n).code =
      (walkOptions req resSuccess ⟨overrun (req 0) (receivedOpcode req) + (Tlv.bytesAll opts).length,
        optionsStart (req 0) (receivedOpcode req), occur⟩).code := by
  have hstart := optionsStart_bounds (req 0) (receivedOpcode req)
  have hlen := h.size
  have hsize' : ¬ (n > pcpMaxLen ∨ n < 4 ∨ n % 4 ≠ 0) := by omega
  rw [printPCPreq, if_neg hsize', if_neg hver]
  have hbranch : ∀ {size skip : Nat} {w : OptionWalk}, optionsStart (req 0) (receivedOpcode req) =
      w.processed + skip → w.remaining - size =
        (overrun (req 0) (receivedOpcode req) : Int) + (Tlv.bytesAll opts).length →
      printOpcode req size skip w = walkOptions req resSuccess
        ⟨overrun (req 0) (receivedOpcode req) + (Tlv.bytesAll opts).length,
          optionsStart (req 0) (receivedOpcode req), w.occur⟩ := by
    intro size skip w hskip hrem
    rw [printOpcode, if_neg (by omega), hrem, hskip]
  congr 1
  rcases h.version with hv | hv <;> rcases h.opcode with hop | hop
  all_goals
    rw [hv, hop] at hlen hbranch ⊢
    refine hbranch rfl ?_
    simp [optionsStart, overrun, sizeofRequest, sizeofMapV1, sizeofMapV2, sizeofPeerV1, sizeofPeerV2,
      opcodeMap, opcodePeer] at hlen ⊢
    omega

/-- An option that the server does not know makes it forget the ones before and ignore the rest. -/
theorem walkOptions_unknown (h : OptionsRequest req n opts) (hu : ¬ ∀ t ∈ opts, Known t)
    {w : OptionWalk} (hstart : w.processed = optionsStart (req 0) (receivedOpcode req))
    (hrem : ((Tlv.bytesAll opts).length : Int) ≤ w.remaining) (hoccur : w.occur = occurOf []) :
    (walkOptions req resSuccess w).code = resSuccess := by
  obtain ⟨known, u, post, rfl, hknown, hunknown⟩ := first_unknown hu
  have hbytes := h.bytes
  rw [← hstart, Tlv.bytesAll_append, List.length_append] at hbytes
  rw [Tlv.bytesAll_append, List.length_append, Tlv.bytesAll_cons, List.length_append,
    Tlv.bytes_length] at hrem
  have hcomplete : ∀ t ∈ known, Complete t ∧ Known t := fun t ht =>
    ⟨h.complete t (List.mem_append_left _ ht), hknown t ht⟩
  rw [walkOptions_known _ hcomplete hbytes hoccur (by omega)]
  obtain ⟨-, htail⟩ := Buf.slice_split hbytes rfl
  rw [Tlv.bytesAll_cons, List.length_append] at htail
  obtain ⟨hhead, -⟩ := Buf.slice_split htail rfl
  rw [walkOptions_next (by simp only; omega), printPCPOptions_unknown hhead
    (h.complete u (List.mem_append_right _ List.mem_cons_self)) hunknown, walkOptions_end (le_refl _)]

/-- With known options only, the result is the one of the last option, unless more bytes are taken for
options. -/
theorem printPCPreq_known (h : OptionsRequest req n opts) (hsize : ¬ (n > pcpMaxLen ∨ n % 4 ≠ 0))
    (hver : ¬ version < req 0) (hk : ∀ t ∈ opts, Known t) :
    (printPCPreq version resetOptionOccur req n).code =
      (walkOptions req (lastResult (receivedOpcode req) [] resSuccess opts)
        ⟨overrun (req 0) (receivedOpcode req), n, occurOf opts⟩).code := by
  have hbytes := h.bytes
  rw [printPCPreq_walk h hsize hver, walkOptions_known []
    (fun t ht => ⟨h.complete t ht, hk t ht⟩) (by simpa using hbytes) (show _ = occurOf [] from rfl) (by simp), ← h.size,
    List.nil_append]
  simp only [Int.add_sub_cancel]

theorem printPCPreq_unknown (h : OptionsRequest req n opts) (hsize : ¬ (n > pcpMaxLen ∨ n % 4 ≠ 0))
    (hver : ¬ version < req 0) (hu : ¬ ∀ t ∈ opts, Known t) :
    (printPCPreq version resetOptionOccur req n).code = resSuccess := by
  rw [printPCPreq_walk h hsize hver]
  exact walkOptions_unknown h hu rfl (by simp) rfl

end Requests

/-! ## Faults -/

/-- A fault among the options is reported, whatever lies behind the request. -/
def ReportsFaults (version : UInt8) (req : Buf) (n : Nat) (opts : List Tlv) : Prop :=
  HasFault (receivedOpcode req) opts → ∀ req', Buf.AgreeTo n req req' →
    (printPCPreq version resetOptionOccur req' n).code ≠ resSuccess

/-- There is no fault, the request is refused before its options are read, or the fault is in the last
option and the server looks at all of them and at nothing else. -/
inductive FaultCounts (version : UInt8) (req : Buf) (n : Nat) (opts : List Tlv) : Prop where
  | none (sound : ¬ HasFault (receivedOpcode req) opts)
  | size (refused : n > pcpMaxLen ∨ n % 4 ≠ 0)
  | version (refused : version < req 0)
  | last (ends : ¬ (req 0 = 1 ∧ receivedOpcode req = opcodePeer)) (known : ∀ t ∈ opts, Known t)
      {pre : List Tlv} {t : Tlv} (opts : opts = pre ++ [t]) (faulty : Faulty (receivedOpcode req) pre t)

section Faults

variable {version : UInt8} {req : Buf} {n : Nat} {opts : List Tlv}

/-- The request with nothing left behind it. -/
def cleared (req : Buf) (n : Nat) : Buf := fun i => if i < n then req i else 0

theorem agree_cleared (req : Buf) (n : Nat) : Buf.AgreeTo n req (cleared req n) := fun i hi => by
  rw [cleared, if_pos hi]

theorem faultCounts_reports (h : OptionsRequest req n opts) (hc : FaultCounts version req n opts) :
    ReportsFaults version req n opts := by
  intro hfault req' hag
  obtain ⟨h', h0, hop⟩ := h.congr hag
  cases hc with
  | none sound => exact absurd hfault sound
  | size refused =>
    rw [printPCPreq, if_pos (by omega)]
    decide
  | version refused =>
    rw [← h0] at refused
    rw [printPCPreq]
    split_ifs
    · decide
    · decide
  | last ends known hopts faulty =>
    by_cases hsize : n > pcpMaxLen ∨ n % 4 ≠ 0
    · rw [printPCPreq, if_pos (by omega)]
      decide
    by_cases hver : version < req' 0
    · rw [printPCPreq]
      split_ifs
      · decide
      · decide
    have hover : overrun (req' 0) (receivedOpcode req') = 0 := by
      rw [h0, hop]
      exact if_neg ends
    rw [printPCPreq_known h' hsize hver known, hover, walkOptions_end (le_refl _), hop, hopts]
    simp only
    rw [lastResult_concat]
    exact optionResult_ne_success_iff.mpr faulty

/-- Otherwise the fault goes unreported: an unknown option, an option that is in its place or an empty
byte behind the request is the last the server looks at. -/
theorem reports_faultCounts (h : OptionsRequest req n opts) (hr : ReportsFaults version req n opts) :
    FaultCounts version req n opts := by
  by_contra hno
  have hfault : HasFault (receivedOpcode req) opts := by
    by_contra hsound
    exact hno (.none hsound)
  have hsize : ¬ (n > pcpMaxLen ∨ n % 4 ≠ 0) := fun hs => hno (.size hs)
  have hver : ¬ version < req 0 := fun hv => hno (.version hv)
  by_cases hk : ∀ t ∈ opts, Known t
  · by_cases hpeer : req 0 = 1 ∧ receivedOpcode req = opcodePeer
    · -- twenty more bytes are taken for options, and an empty byte is the first of them
      obtain ⟨h', h0, hop⟩ := h.congr (agree_cleared req n)
      have hover : overrun (req 0) (receivedOpcode req) = 20 := if_pos hpeer
      have hzero : cleared req n n = 0 := if_neg (Nat.lt_irrefl n)
      refine hr hfault _ (agree_cleared req n) ?_
      rw [printPCPreq_known h' hsize (h0 ▸ hver) hk, h0, hop, hover, walkOptions_next (by simp),
        printPCPOptions_eq]
      simp only [hzero]
      exact congrArg Judged.code (walkOptions_end (le_refl _))
    · obtain ⟨pre, t, post, hopts, hfaulty⟩ := hfault
      have hne : opts ≠ [] := by simp [hopts]
      obtain ⟨init, last, rfl⟩ : ∃ init last, opts = init ++ [last] :=
        ⟨_, _, (List.dropLast_append_getLast hne).symm⟩
      have hover : overrun (req 0) (receivedOpcode req) = 0 := if_neg hpeer
      refine hno (.last hpeer hk rfl (optionResult_ne_success_iff.mp fun hok => ?_))
      refine hr ⟨pre, t, post, hopts, hfaulty⟩ req (fun _ _ => rfl) ?_
      rw [printPCPreq_known h hsize hver hk, hover, walkOptions_end (le_refl _), lastResult_concat]
      exact hok
  · exact hr hfault req (fun _ _ => rfl) (printPCPreq_unknown h hsize hver hk)

/-- The server reports a fault among the options exactly when nothing it takes for an option comes
behind the faulty one. -/
theorem printPCPreq_faults_iff (h : OptionsRequest req n opts) :
    ReportsFaults version req n opts ↔ FaultCounts version req n opts :=
  ⟨reports_faultCounts h, faultCounts_reports h⟩

end Faults

/-! ## Requests with a fault -/

/-- A version 2 PEER request with the given options. -/
def peerV2Request (opts : List Tlv) : Buf := (Buf.ofList [2, 2]).blit 80 (Tlv.bytesAll opts)

/-- A prefer-failure option, which is for MAP requests only. -/
def prefFail : Tlv := ⟨optionPrefFail, 0, []⟩

/-- A flow priority option. -/
def flowPriority : Tlv := ⟨optionFlowPriority, 0, [0, 0, 0, 0]⟩

theorem prefFail_complete : Complete prefFail := ⟨by decide, fun _ hk => (Option.some.inj hk).symm⟩

theorem flowPriority_complete : Complete flowPriority :=
  ⟨by decide, fun _ hk => (Option.some.inj hk).symm⟩

theorem printPCPreq_faults_iff_last :
    ReportsFaults 2 (peerV2Request [flowPriority, prefFail]) 92 [flowPriority, prefFail] := by
  have h : OptionsRequest (peerV2Request [flowPriority, prefFail]) 92 [flowPriority, prefFail] :=
    ⟨by decide, by decide, by decide, by decide,
      List.forall_mem_cons.mpr ⟨flowPriority_complete, List.forall_mem_cons.mpr
        ⟨prefFail_complete, fun _ ht => nomatch ht⟩⟩⟩
  have hlast : [flowPriority, prefFail] = [flowPriority] ++ [prefFail] := rfl
  exact (printPCPreq_faults_iff h).mpr (.last (by decide) (by decide) hlast
    (.prefFailOutsideMap rfl (by decide)))

/-- The same options in the other order: the request is accepted. -/
theorem printPCPreq_fault_forgotten :
    ¬ ∀ (version : UInt8) (req : Buf) (n : Nat) (opts : List Tlv), OptionsRequest req n opts →
      ReportsFaults version req n opts := by
  intro hall
  have h : OptionsRequest (peerV2Request [prefFail, flowPriority]) 92 [prefFail, flowPriority] :=
    ⟨by decide, by decide, by decide, by decide,
      List.forall_mem_cons.mpr ⟨prefFail_complete, List.forall_mem_cons.mpr
        ⟨flowPriority_complete, fun _ ht => nomatch ht⟩⟩⟩
  have hfault : HasFault opcodePeer [prefFail, flowPriority] :=
    ⟨[], prefFail, [flowPriority], rfl, .prefFailOutsideMap rfl (by decide)⟩
  have hne := hall 2 _ 92 _ h hfault (peerV2Request [prefFail, flowPriority]) fun _ _ => rfl
  revert hne
  decide

end LibPcp
