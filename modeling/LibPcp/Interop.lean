import LibPcp.OptionFaults
import LibPcp.ServerLoop

/-!
# LibPcp.Interop

Whether the test server accepts what the client sends.

The client writes every option at most once and with all its data, so the server walks over the options
one by one. In a PEER request a filter or a prefer-failure option is out of place for the server, which
remembers that only of the last option.

* `requestOptions_pairwise`: only metadata can be in a request more than once.
* `request_options`: the request of a flow as a list of complete options.
* `requests_accepted_iff`: which requests are accepted whatever the buffer held before.
* `rounds_accept_iff`: the same for a round of the server, which takes in one byte less than a request
  can have.
-/

namespace LibPcp

open ByteBuffer

/-! ## The options of a flow -/

section Options

variable {cfg : Config} {f : Flow} {cur : Nat} {t : Tlv}

/-- The options before the metadata, in their order. -/
def fixedCodes : List UInt8 :=
  [optionFlowPriority, optionFilter, optionPrefFail, optionThirdParty, optionDeviceid, optionUserid,
    optionLocation]

theorem fixedCodes_nodup : fixedCodes.Nodup := by decide

theorem enabled_sublist (p : Prop) [Decidable p] (t : Tlv) :
    ((if p then [t] else []).map (·.code)).Sublist [t.code] := by
  split
  · exact .refl _
  · exact List.nil_sublist _

theorem fixedOptions_codes (cfg : Config) (f : Flow) :
    ((fixedOptions cfg f).map (·.code)).Sublist fixedCodes := by
  have hsub := (((((enabled_sublist (cfg.flowPriority && f.flowpOptionPresent) (flowpTlv f)).append
    (enabled_sublist f.filterOptionPresent (filterTlv f))).append
    (enabled_sublist f.pfailureOptionPresent preferFailureTlv)).append
    (enabled_sublist f.thirdPartyOptionPresent (thirdPartyTlv f))).append
    (enabled_sublist (cfg.experimental ∧ f.deviceid.toList.head? ≠ some 0) (deviceidTlv f))).append
    (enabled_sublist (cfg.experimental ∧ f.userid.toList.head? ≠ some 0) (useridTlv f)) |>.append
    (enabled_sublist (cfg.experimental ∧ f.location.toList.head? ≠ some 0) (locationTlv f))
  simp only [fixedOptions, List.map_append]
  exact hsub

/-- An option with the size of the server's structure. -/
theorem sized_complete (k : Nat) (hlen : 4 + t.data.length = k) (hk : k < 2 ^ 16)
    (hknown : ∀ len, knownSize t.code len = some k) : Complete t ∧ Known t := by
  refine ⟨⟨by omega, fun k' hk' => ?_⟩, ?_⟩
  · rw [hknown] at hk'
    rw [Tlv.bytes_length, hlen]
    exact (Option.some.inj hk').symm
  · rw [Known, hknown]
    rfl

theorem fixedOptions_complete (h : t ∈ fixedOptions cfg f) : Complete t ∧ Known t := by
  have hone : ∀ {p : Prop} [Decidable p] {u : Tlv}, t ∈ (if p then [u] else []) → t = u := by
    intro p _ u ht
    split at ht
    · exact List.mem_singleton.mp ht
    · cases ht
  simp only [fixedOptions, List.mem_append] at h
  rcases h with (((((h | h) | h) | h) | h) | h) | h <;> rw [hone h]
  · exact sized_complete sizeofFlowPriorityOption rfl (by decide) fun _ => rfl
  · exact sized_complete sizeofFilterOption rfl (by decide) fun _ => rfl
  · exact sized_complete sizeofPreferFailOption rfl (by decide) fun _ => rfl
  · exact sized_complete sizeofThirdPartyOption rfl (by decide) fun _ => rfl
  · exact sized_complete sizeofDeviceidOption (by rw [deviceidTlv, Vector.length_toList]; rfl) (by decide)
      fun _ => rfl
  · exact sized_complete sizeofUseridOption (by rw [useridTlv, Vector.length_toList]; rfl) (by decide)
      fun _ => rfl
  · exact sized_complete sizeofLocationOption (by rw [locationTlv, Vector.length_toList]; rfl) (by decide)
      fun _ => rfl

theorem requestOptions_complete (hcur : cur ≤ 80) :
    ∀ t ∈ requestOptions cfg f cur, Complete t ∧ Known t := by
  intro t ht
  have hdata := requestOptions_data cfg f hcur t ht
  simp only [requestOptions, List.mem_append] at ht
  rcases ht with ht | ht
  · exact fixedOptions_complete ht
  · split at ht
    · obtain ⟨md, -, rfl⟩ := List.mem_map.mp ht
      have hknown : knownSize (mdTlv md).code (mdTlv md).data.length =
          some (4 + (mdTlv md).data.length) := rfl
      refine ⟨⟨hdata, fun k hk => ?_⟩, ?_⟩
      · rw [hknown] at hk
        rw [Tlv.bytes_length]
        exact (Option.some.inj hk).symm
      · rw [Known, hknown]
        rfl
    · cases ht

/-- Only metadata can be in a request more than once. -/
theorem requestOptions_pairwise (cfg : Config) (f : Flow) (cur : Nat) :
    (requestOptions cfg f cur).Pairwise fun t t' => t.code = t'.code → t.code = optionMetadata := by
  have hmeta : ∀ t ∈ (if cfg.experimental then
      (fittingMd (cur + (Tlv.bytesAll (fixedOptions cfg f)).length) f.mdVals).map mdTlv else []),
      t.code = optionMetadata := by
    intro t ht
    split at ht
    · obtain ⟨md, -, rfl⟩ := List.mem_map.mp ht
      rfl
    · cases ht
  refine List.pairwise_append.mpr ⟨?_, ?_, fun t _ t' ht' heq => heq.trans (hmeta t' ht')⟩
  · have hnodup := fixedCodes_nodup.sublist (fixedOptions_codes cfg f)
    exact (List.pairwise_map.mp hnodup).imp fun hne heq => absurd heq hne
  · exact List.pairwise_of_forall_mem_list fun t ht _ _ _ => hmeta t ht

end Options

/-! ## The request of a flow -/

/-- The last option is one that the server wants in MAP requests only. -/
def EndsMisplaced (opts : List Tlv) : Prop :=
  ∃ pre t, opts = pre ++ [t] ∧ (t.code = optionFilter ∨ t.code = optionPrefFail)

section Request

variable {cfg : Config} {f : Flow} {version opcode : UInt8} {opts : List Tlv}

/-- Options that do not repeat are out of place only outside of MAP requests. -/
theorem lastResult_success_iff
    (hpw : opts.Pairwise fun t t' => t.code = t'.code → t.code = optionMetadata) :
    lastResult opcode [] resSuccess opts = resSuccess ↔ ¬ (opcode ≠ opcodeMap ∧ EndsMisplaced opts) := by
  rcases List.eq_nil_or_concat opts with rfl | ⟨init, last, rfl⟩
  · have hnone : ¬ EndsMisplaced [] := fun ⟨pre, t, heq, _⟩ => by simp at heq
    simp [lastResult, hnone]
  rw [List.concat_eq_append] at hpw ⊢
  have honce : ∀ code, code ≠ optionMetadata → last.code = code → ¬ ∃ t ∈ init, t.code = code := by
    rintro code hcode hlast ⟨t, ht, hsame⟩
    have hmeta := (List.pairwise_append.mp hpw).2.2 t ht last List.mem_cons_self (hsame.trans hlast.symm)
    exact hcode (hsame.symm.trans hmeta)
  have hfaulty : Faulty opcode init last ↔ opcode ≠ opcodeMap ∧ EndsMisplaced (init ++ [last]) := by
    constructor
    · intro hf
      cases hf with
      | repeatedThirdParty code earlier => exact absurd earlier (honce _ (by decide) code)
      | repeatedPrefFail code earlier => exact absurd earlier (honce _ (by decide) code)
      | prefFailOutsideMap code hop => exact ⟨hop, init, last, rfl, .inr code⟩
      | filterOutsideMap code hop => exact ⟨hop, init, last, rfl, .inl code⟩
    · rintro ⟨hop, pre, t, heq, hcode⟩
      obtain ⟨rfl, hlast⟩ := List.append_inj' heq rfl
      obtain rfl : last = t := by simpa using hlast
      exact hcode.elim (.filterOutsideMap · hop) (.prefFailOutsideMap · hop)
  rw [lastResult_concat, ← hfaulty, ← optionResult_ne_success_iff]
  simp

theorem optionsStart_eq (hv : version = 1 ∨ version = 2) (hop : opcode = opcodeMap ∨ opcode = opcodePeer) :
    optionsStart version opcode = requestOptionsAt version opcode := by
  rcases hv with rfl | rfl <;> rcases hop with rfl | rfl <;> decide

/-- The options of the request are the ones of the flow, and the server reads them where they are. -/
theorem request_options (cfg : Config) (hv : version = 1 ∨ version = 2)
    (hop : f.kd.operation = opcodeMap ∨ f.kd.operation = opcodePeer) :
    OptionsRequest (Buf.ofList (requestBytes cfg version f)) (requestBytes cfg version f).length
      (requestOptions cfg f (requestOptionsAt version f.kd.operation)) := by
  have hlen := structBytes_length hv hop
  have hstart := optionsStart_eq hv hop
  have hcur := (requestOptionsAt_bounds version f.kd.operation).2.1
  have hbytes : requestBytes cfg version f = headerBytes version f ++ structBytes version f ++
      Tlv.bytesAll (requestOptions cfg f (requestOptionsAt version f.kd.operation)) := by
    rw [requestBytes, withOptions, hlen]
  have h0 : Buf.ofList (requestBytes cfg version f) 0 = version := rfl
  have h1 : receivedOpcode (Buf.ofList (requestBytes cfg version f)) = f.kd.operation := by
    have hmask : f.kd.operation &&& 0x7f = f.kd.operation := by
      rcases hop with hop | hop <;> rw [hop] <;> rfl
    have hbyte : Buf.ofList (requestBytes cfg version f) 1 = f.kd.operation &&& 0x7f := rfl
    rw [receivedOpcode, hbyte, hmask, hmask]
  refine ⟨h0 ▸ hv, h1 ▸ hop, ?_, ?_, fun t ht => (requestOptions_complete hcur t ht).1⟩
  · rw [h0, h1, hstart, hbytes, List.length_append, hlen]
  · rw [h0, h1, hstart, hbytes]
    have hmid := Buf.slice_ofList_mid (headerBytes version f ++ structBytes version f)
      (Tlv.bytesAll (requestOptions cfg f (requestOptionsAt version f.kd.operation))) []
    rw [List.append_nil, hlen] at hmid
    exact hmid

theorem requestBytes_size (cfg : Config) (hv : version = 1 ∨ version = 2)
    (hop : f.kd.operation = opcodeMap ∨ f.kd.operation = opcodePeer) :
    requestOptionsAt version f.kd.operation ≤ (requestBytes cfg version f).length ∧
      (requestBytes cfg version f).length ≤ pcpMaxLen ∧ (requestBytes cfg version f).length % 4 = 0 := by
  obtain ⟨hmin, hmax, hmod⟩ := requestOptionsAt_bounds version f.kd.operation
  have hopts := requestOptions_length cfg f hmax
  rw [requestBytes, withOptions, structBytes_length hv hop, List.length_append, structBytes_length hv hop]
  omega

end Request

/-! ## The verdict -/

section Verdict

variable {cfg : Config} {f : Flow} {version : UInt8} {info : ServerSetup} {server : UInt8} {b : Buf}

/-- The server walks over the options of the flow, and on over the bytes it takes for options, too. -/
theorem printPCPreq_request (hv : version = 1 ∨ version = 2)
    (hop : f.kd.operation = opcodeMap ∨ f.kd.operation = opcodePeer) (hsupported : version ≤ server)
    (hag : Buf.AgreeTo (requestBytes cfg version f).length (Buf.ofList (requestBytes cfg version f)) b) :
    receivedOpcode b = f.kd.operation ∧
      (printPCPreq server resetOptionOccur b (requestBytes cfg version f).length).code =
        (walkOptions b (lastResult f.kd.operation [] resSuccess
            (requestOptions cfg f (requestOptionsAt version f.kd.operation)))
          ⟨overrun version f.kd.operation, (requestBytes cfg version f).length,
            occurOf (requestOptions cfg f (requestOptionsAt version f.kd.operation))⟩).code := by
  have hencoded := request_options cfg hv hop
  obtain ⟨hreq, h0, h1⟩ := hencoded.congr hag
  have hversion : b 0 = version := h0
  have hopcode : receivedOpcode b = f.kd.operation := by
    have hmask : f.kd.operation &&& 0x7f &&& 0x7f = f.kd.operation := by
      rcases hop with hop | hop <;> rw [hop] <;> rfl
    exact h1.trans hmask
  have hsize := requestBytes_size cfg hv hop
  have hsize' : ¬ ((requestBytes cfg version f).length > pcpMaxLen ∨
      (requestBytes cfg version f).length % 4 ≠ 0) := by omega
  have hver : ¬ server < b 0 := by
    rw [hversion]
    exact UInt8.not_lt.mpr hsupported
  have hcur := (requestOptionsAt_bounds version f.kd.operation).2.1
  refine ⟨hopcode, ?_⟩
  rw [printPCPreq_known hreq hsize' hver fun t ht => (requestOptions_complete hcur t ht).2, hopcode, hversion]

/-- The options end where the server takes them to end. -/
theorem printPCPreq_request_end (hv : version = 1 ∨ version = 2)
    (hop : f.kd.operation = opcodeMap ∨ f.kd.operation = opcodePeer) (hsupported : version ≤ server)
    (hend : ¬ (version = 1 ∧ f.kd.operation = opcodePeer))
    (hag : Buf.AgreeTo (requestBytes cfg version f).length (Buf.ofList (requestBytes cfg version f)) b) :
    (printPCPreq server resetOptionOccur b (requestBytes cfg version f).length).code = resSuccess ↔
      ¬ (f.kd.operation ≠ opcodeMap ∧
        EndsMisplaced (requestOptions cfg f (requestOptionsAt version f.kd.operation))) := by
  have hover : overrun version f.kd.operation = 0 := if_neg hend
  rw [(printPCPreq_request hv hop hsupported hag).2, hover, walkOptions_end (le_refl _)]
  exact lastResult_success_iff (requestOptions_pairwise cfg f _)

/-- A filter option left behind a PEER request of version 1 is taken for one of its options. -/
theorem printPCPreq_request_leftover (cfg : Config) (hop : f.kd.operation = opcodePeer) (hsupported : 1 ≤ server) :
    (printPCPreq server resetOptionOccur
      ((Buf.ofList (requestBytes cfg 1 f)).blit (requestBytes cfg 1 f).length [optionFilter])
      (requestBytes cfg 1 f).length).code = resMalformedRequest := by
  have hag := (Buf.agreeTo_blit_above (Buf.ofList (requestBytes cfg 1 f)) [optionFilter]
    (le_refl (requestBytes cfg 1 f).length)).symm
  have hcode : (Buf.ofList (requestBytes cfg 1 f)).blit (requestBytes cfg 1 f).length [optionFilter]
      (requestBytes cfg 1 f).length = optionFilter := 
    Buf.blit_inside (i := 0) _ [optionFilter] (by decide)
  obtain ⟨hopcode, hjudged⟩ := printPCPreq_request (.inl rfl) (.inr hop) hsupported hag
  have hover : overrun 1 f.kd.operation = 20 := by
    rw [hop]
    rfl
  have hknown : ∀ len, knownSize optionFilter len = some 24 := fun _ => rfl
  have hwrong : ∀ occur, optionResult opcodePeer optionFilter occur = resMalformedRequest := fun _ => rfl
  rw [hjudged, hover, walkOptions_next (show (0 : Int) < 20 by decide), printPCPOptions_eq, hcode, hknown, hopcode, hop, hwrong]
  exact congrArg Judged.code (walkOptions_end (by simp only [OptionWalk.advance]; omega))

theorem printPCPreq_unsupported {req : Buf} {n : Nat} {occur : OptionsOccur} (h : server < req 0) :
    (printPCPreq server occur req n).code ≠ resSuccess := by
  unfold printPCPreq
  split_ifs
  · decide
  · decide

/-- The request of a flow is accepted whatever lies behind it exactly when the server knows its version,
and, for PEER, it is one of version 2 without a filter or a prefer-failure option at the end. -/
theorem requests_accepted_iff (cfg : Config) (server : UInt8) (hv : version = 1 ∨ version = 2)
    (hop : f.kd.operation = opcodeMap ∨ f.kd.operation = opcodePeer) :
    (∀ b, Buf.AgreeTo (requestBytes cfg version f).length (Buf.ofList (requestBytes cfg version f)) b →
      (printPCPreq server resetOptionOccur b (requestBytes cfg version f).length).code = resSuccess) ↔
      version ≤ server ∧ (f.kd.operation = opcodePeer → version = 2 ∧
        ¬ EndsMisplaced (requestOptions cfg f (requestOptionsAt version f.kd.operation))) := by
  have hne : opcodePeer ≠ opcodeMap := by decide
  constructor
  · intro hall
    have hsupported : version ≤ server := by
      by_contra hver
      exact printPCPreq_unsupported (UInt8.not_le.mp hver) (hall _ (.refl _ _))
    refine ⟨hsupported, fun hpeer => ?_⟩
    have h2 : version = 2 := by
      by_contra h2
      obtain rfl := hv.resolve_right h2
      have hleft := printPCPreq_request_leftover cfg hpeer hsupported
      rw [hall _ (Buf.agreeTo_blit_above _ _ (le_refl _)).symm] at hleft
      exact absurd hleft (by decide)
    refine ⟨h2, fun hend => ?_⟩
    have hlate : ¬ (version = 1 ∧ f.kd.operation = opcodePeer) := by
      rw [h2]
      exact fun h => absurd h.1 (by decide)
    exact (printPCPreq_request_end hv hop hsupported hlate (.refl _ _)).mp (hall _ (.refl _ _))
      ⟨hpeer ▸ hne, hend⟩
  · rintro ⟨hsupported, hpeer⟩ b hag
    have hlate : ¬ (version = 1 ∧ f.kd.operation = opcodePeer) := by
      rintro ⟨h1, hp⟩
      exact absurd (h1.symm.trans (hpeer hp).1) (by decide)
    refine (printPCPreq_request_end hv hop hsupported hlate hag).mpr ?_
    rintro ⟨hmap, hend⟩
    exact (hpeer (hop.resolve_left hmap)).2 hend

/-- Any bytes can lie behind a request. -/
theorem received_of_agree {l : List UInt8} (h : Buf.AgreeTo l.length (Buf.ofList l) b) : b.blit 0 l = b := by
  funext i
  by_cases hi : i < l.length
  · rw [Buf.agreeTo_received b l i hi, h i hi]
  · exact Buf.blit_above b l (by omega)

/-- A round of the server takes in one byte less than a request can have, and then judges a part of it. -/
theorem judge_request (hv : version = 1 ∨ version = 2)
    (hop : f.kd.operation = opcodeMap ∨ f.kd.operation = opcodePeer) (t : Exec) :
    t.judge info (requestBytes cfg version f) = resSuccess ↔
      (requestBytes cfg version f).length < pcpMaxLen ∧
        (printPCPreq info.serverVersion resetOptionOccur (t.buf.blit 0 (requestBytes cfg version f))
          (requestBytes cfg version f).length).code = resSuccess := by
  obtain ⟨-, hmax, -⟩ := requestBytes_size cfg hv hop
  by_cases hlen : (requestBytes cfg version f).length < pcpMaxLen
  · have hall : (requestBytes cfg version f).take (pcpMaxLen - 1) = requestBytes cfg version f :=
      List.take_of_length_le (by omega)
    rw [Exec.judge, hall]
    exact ⟨fun h => ⟨hlen, h⟩, fun h => h.2⟩
  · have hcut : ((requestBytes cfg version f).take (pcpMaxLen - 1)).length = 1099 := by
      rw [List.length_take]
      simp only [pcpMaxLen] at hlen hmax ⊢
      omega
    refine ⟨fun h => ?_, fun h => absurd h.1 hlen⟩
    have hwell := (printPCPreq_success h).size.2.2
    rw [hcut] at hwell
    omega

theorem round_accepts {now : Int} {t : Exec} (hjudge : info.defaultResultCode = 255)
    (hoccur : t.occur = resetOptionOccur) (hv : version = 1 ∨ version = 2)
    (hop : f.kd.operation = opcodeMap ∨ f.kd.operation = opcodePeer) :
    Buf.ofList (execRound info now (requestBytes cfg version f) t).2 3 = 0 ↔
      (requestBytes cfg version f).length < pcpMaxLen ∧
        (printPCPreq info.serverVersion resetOptionOccur (t.buf.blit 0 (requestBytes cfg version f))
          (requestBytes cfg version f).length).code = resSuccess := by
  obtain ⟨hmin, -, -⟩ := requestBytes_size cfg hv hop
  have hstart := (requestOptionsAt_bounds version f.kd.operation).1
  refine (execRound_accepts hjudge hoccur ?_).trans (judge_request hv hop t)
  rw [List.length_take]
  simp only [pcpMaxLen]
  omega

/-- In every round, whatever earlier ones have left, the server answers the request of a flow with success
exactly when it knows the version, the request has not the greatest length there can be, and, for PEER,
it is one of version 2 without a filter or a prefer-failure option at the end. -/
theorem rounds_accept_iff (cfg : Config) (hjudge : info.defaultResultCode = 255)
    (hv : version = 1 ∨ version = 2) (hop : f.kd.operation = opcodeMap ∨ f.kd.operation = opcodePeer) :
    (∀ t now, t.occur = resetOptionOccur →
      Buf.ofList (execRound info now (requestBytes cfg version f) t).2 3 = 0) ↔
      (requestBytes cfg version f).length < pcpMaxLen ∧ version ≤ info.serverVersion ∧
        (f.kd.operation = opcodePeer → version = 2 ∧
          ¬ EndsMisplaced (requestOptions cfg f (requestOptionsAt version f.kd.operation))) := by
  rw [← requests_accepted_iff cfg info.serverVersion hv hop]
  constructor
  · intro hall
    have hround := fun b : Buf => (round_accepts (t := ⟨1, resetOptionOccur, b⟩) hjudge rfl hv hop).mp
      (hall _ 0 rfl)
    refine ⟨(hround .zero).1, fun b hag => ?_⟩
    have hcode := (hround b).2
    rwa [received_of_agree hag] at hcode
  · rintro ⟨hlen, hall⟩ t now hoccur
    exact (round_accepts hjudge hoccur hv hop).mpr ⟨hlen, hall _ (Buf.agreeTo_received _ _).symm⟩

end Verdict

/-- A PEER flow with a filter. -/
def filteredPeer : Flow :=
  { Flow.zero with
    kd := { FlowKeyData.zero with operation := opcodePeer, protocol := ipprotoTcp, srcPort := 80 }
    filterOptionPresent := true }

/-- It is not accepted, since filters belong to MAP requests. -/
theorem rounds_accept_iff_filter : ¬ ∀ t now, t.occur = resetOptionOccur →
    Buf.ofList (execRound twoShots now (requestBytes {} 2 filteredPeer) t).2 3 = 0 := by
  intro hall
  obtain ⟨-, -, hpeer⟩ := (rounds_accept_iff {} rfl (.inr rfl) (.inr rfl)).mp hall
  exact (hpeer rfl).2 ⟨[], _, rfl, .inl rfl⟩

end LibPcp
