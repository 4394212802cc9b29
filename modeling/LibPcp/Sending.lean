import LibPcp.Fresh

/-!
# LibPcp.Sending

What the success of `pcp_flow_send_msg` means.

The function takes a buffer as the sign of a message. `build_natpmp_msg` reports what NAT-PMP has no
request for by a positive code, which `build_pcp_msg` does not take for an error: the buffer stays, with
no bytes in it, and the loop around `sendto` is done before it starts.

* `Expressible`: the requests a version of the protocol has.
* `Delivered`: a message that has been sent.
* `sent_means_delivered_iff`: when success means that.
-/

namespace LibPcp

open ByteBuffer

/-- The protocol of the given version has a request for the flow. An announcement is a bare header, the
same in every version of PCP. -/
def Expressible (cfg : Config) (version : UInt8) (f : Flow) : Prop :=
  if version = 0 then
    f.kd.operation = opcodeAnnounce ∨
      (f.kd.operation = opcodeMap ∧ (f.kd.protocol = ipprotoTcp ∨ f.kd.protocol = ipprotoUdp))
  else
    f.kd.operation = opcodeAnnounce ∨
      (version ≤ pcpMaxSupportedVersion ∧ (f.kd.operation = opcodeMap ∨ f.kd.operation = opcodePeer)) ∨
      (version = 2 ∧ cfg.sadscp ∧ f.kd.operation = opcodeSadscp)

instance (cfg : Config) (version : UInt8) (f : Flow) : Decidable (Expressible cfg version f) :=
  inferInstanceAs (Decidable (if version = 0 then _ else _))

/-- The opcode of the flow's request, with the response bit off. -/
def requestOpcode (version : UInt8) (f : Flow) : UInt8 :=
  if version = 0 then
    if f.kd.operation = opcodeAnnounce then natpmpOpcodeAnnounce
    else if f.kd.protocol = ipprotoTcp then natpmpOpcodeMapTcp else natpmpOpcodeMapUdp
  else f.kd.operation &&& 0x7f

/-! ## Encoding -/

section Encode

variable {cfg : Config} {version : UInt8} {f : Flow}

theorem version_cases (h : version ≤ pcpMaxSupportedVersion) : version = 0 ∨ version = 1 ∨ version = 2 := by
  have hlt : version.toNat ≤ 2 := UInt8.le_iff_toNat_le.mp h
  have hofNat : UInt8.ofNat version.toNat = version := UInt8.ofNat_toNat
  have hcases : version.toNat = 0 ∨ version.toNat = 1 ∨ version.toNat = 2 := by omega
  rcases hcases with h | h | h <;> rw [h] at hofNat
  · exact .inl hofNat.symm
  · exact .inr (.inl hofNat.symm)
  · exact .inr (.inr hofNat.symm)

/-- PCP frees the buffer exactly for what it cannot express. -/
theorem encodeMsg_pcp (hv : version ≠ 0) (b : Buf) :
    encodeMsg cfg version f b = none ↔ ¬ Expressible cfg version f := by
  have hopcodes : opcodeMap ≠ opcodePeer ∧ opcodeSadscp ≠ opcodePeer ∧ opcodeSadscp ≠ opcodeMap ∧
      opcodeAnnounce ≠ opcodePeer ∧ opcodeAnnounce ≠ opcodeMap ∧ opcodeAnnounce ≠ opcodeSadscp := by
    decide
  have htwo : (1 : UInt8) ≤ pcpMaxSupportedVersion ∧ (2 : UInt8) ≤ pcpMaxSupportedVersion := by decide
  have hbody : ∀ g : Option Cursor, (version = 1 ∨ version = 2 → g ≠ none) →
      (version ≠ 1 → version ≠ 2 → g = none) → (g = none ↔ ¬ version ≤ pcpMaxSupportedVersion) := by
    intro g h₁ h₂
    constructor
    · intro hg hle
      rcases version_cases hle with h | h | h
      · exact hv h
      · exact h₁ (.inl h) hg
      · exact h₁ (.inr h) hg
    · exact fun hn => h₂ (fun h => hn (h ▸ htwo.1)) fun h => hn (h ▸ htwo.2)
  rw [encodeMsg, if_neg hv, Expressible, if_neg hv, buildBody]
  generalize buildHeader version f b = b₀
  split
  · rename_i hop
    rw [hbody _ (fun h => by rcases h with rfl | rfl <;> simp [buildPcpPeer])
      (fun h₁ h₂ => by simp [buildPcpPeer, h₁, h₂])]
    rw [hop]
    simp [hopcodes.1.symm, hopcodes.2.1.symm, hopcodes.2.2.2.1.symm]
  · split
    · rename_i hop
      rw [hbody _ (fun h => by rcases h with rfl | rfl <;> simp [buildPcpMap])
        (fun h₁ h₂ => by simp [buildPcpMap, h₁, h₂])]
      rw [hop]
      simp [hopcodes.2.2.1.symm, hopcodes.2.2.2.2.1.symm]
    · rename_i hp hm
      split
      · rename_i hsad
        rw [hsad.2]
        simp only [buildPcpSadscp, hsad.1, hopcodes.2.1, hopcodes.2.2.1, hopcodes.2.2.2.2.2.symm]
        by_cases h2 : version = 2 <;> simp [h2]
      · rename_i hsad
        split
        · rename_i ha
          simp [ha]
        · rename_i ha
          simp only [true_iff, not_or, not_and]
          exact ⟨ha, fun _ => ⟨hm, hp⟩, fun _ h₁ h₂ => hsad ⟨h₁, h₂⟩⟩

/-- The message starts with the version and the opcode of the request. -/
structure Encodes (version : UInt8) (f : Flow) (bytes : List UInt8) : Prop where
  nonempty : 0 < bytes.length
  ver : bytes[0]? = some version
  opcode : bytes[1]? = some (requestOpcode version f)

theorem encodes_slice {b : Buf} {len : Nat} (hlen : 2 ≤ len) (h₀ : b 0 = version)
    (h₁ : b 1 = requestOpcode version f) : Encodes version f (b.slice 0 len) := by
  have hget : ∀ i, i < len → (b.slice 0 len)[i]? = some (b i) := by
    intro i hi
    rw [List.getElem?_eq_getElem (by rw [Buf.slice_length]; exact hi)]
    simp [Buf.slice]
  refine ⟨by rw [Buf.slice_length]; omega, ?_, ?_⟩
  · rw [hget 0 (by omega), h₀]
  · rw [hget 1 (by omega), h₁]

theorem buildHeader_opcode (version : UInt8) (f : Flow) :
    buildHeader version f .zero 1 = f.kd.operation &&& 0x7f := by
  simp only [buildHeader]
  rw [Buf.blit_below _ _ (by omega), Buf.blit_below _ _ (by omega)]
  refine (Buf.blit_inside (i := 0) _ [_] (by simp)).trans ?_
  rw [Buf.blit_above _ _ (by simp)]
  exact UInt8.zero_or

theorem encodeMsg_encodes {b : Buf} {len : Nat} (h : encodeMsg cfg version f .zero = some (b, len))
    (hx : Expressible cfg version f) : Encodes version f (b.slice 0 len) := by
  unfold encodeMsg at h
  split at h
  · rename_i hv
    subst hv
    rw [Expressible, if_pos rfl] at hx
    unfold buildNatpmpMsg at h
    split at h
    rename_i ret b₁ len₁ hbuild
    by_cases ha : f.kd.operation = opcodeAnnounce
    · rw [if_pos ha] at hbuild
      cases hbuild
      cases h
      refine encodes_slice (Nat.le_refl _) ?_ ?_
      · rw [Buf.blit_below _ _ (by omega)]
        exact Buf.blit_inside (i := 0) _ [_] (by simp)
      · rw [requestOpcode, if_pos rfl, if_pos ha]
        exact Buf.blit_inside (i := 0) _ [_] (by simp)
    · obtain ⟨hm, hp⟩ := hx.resolve_left ha
      rw [if_neg ha, if_pos hm, if_pos hp] at hbuild
      cases hbuild
      cases h
      refine encodes_slice (by decide) ?_ ?_
      · rw [Buf.blit_below _ _ (by omega), Buf.blit_below _ _ (by omega),
          Buf.blit_below _ _ (by omega)]
        exact Buf.blit_inside (i := 0) _ [_] (by simp)
      · rw [requestOpcode, if_pos rfl, if_neg ha, Buf.blit_below _ _ (by omega),
          Buf.blit_below _ _ (by omega), Buf.blit_below _ _ (by omega), Buf.blit_above _ _ (by simp)]
        exact Buf.blit_inside (i := 0) _ [_] (by simp)
  · rename_i hv
    obtain ⟨-, hag, hlen⟩ := buildBody_within h
    refine encodes_slice (by omega) ?_ ?_
    · rw [hag 0 (by omega)]
      exact (buildHeader_spec version f .zero).1
    · rw [hag 1 (by omega), requestOpcode, if_neg hv]
      exact buildHeader_opcode version f

/-- NAT-PMP leaves a buffer without a message. -/
theorem encodeMsg_natpmp (hx : ¬ Expressible cfg 0 f) (b : Buf) :
    encodeMsg cfg 0 f b = some (b, f.pcpMsgLen) := by
  rw [Expressible, if_pos rfl, not_or, not_and, not_or] at hx
  rw [encodeMsg, if_pos rfl, buildNatpmpMsg, if_neg hx.1]
  by_cases hm : f.kd.operation = opcodeMap
  · rw [if_pos hm, if_neg (not_or.mpr (hx.2 hm))]
    rfl
  · rw [if_neg hm]
    rfl

end Encode

/-! ## Transmission -/

/-- The bytes of the datagrams `new`, newest first, in the order they were sent. -/
def bytesOf (new : List Sent) : List UInt8 := (new.reverse.map Sent.bytes).flatten

/-- A loop that reports success has handed over everything from its cursor on. -/
theorem sendLoop_accepted {e : Env} {mk : List UInt8 → Sent} (hmk : ∀ l, (mk l).bytes = l) (b : Buf)
    {len : Nat} (n k : Nat) (hk : k ≤ len) {io io' : Io} (h : sendLoop e mk b len n k io = (true, io')) :
    ∃ new, io'.sent = new ++ io.sent ∧ bytesOf new = b.slice (len - k) k := by
  induction n generalizing k io with
  | zero =>
    simp only [sendLoop, Prod.mk.injEq, beq_iff_eq] at h
    obtain ⟨rfl, rfl⟩ := h
    exact ⟨[], rfl, rfl⟩
  | succ n ih =>
    simp only [sendLoop] at h
    split at h
    · rename_i hz
      cases h
      exact ⟨[], rfl, by rw [hz]; rfl⟩
    · split at h
      · cases h
      · rename_i hpos
        generalize hret : (min (e.sendto io.sends) (k : Int)).toNat = r at h
        have hr : r ≤ k := by omega
        obtain ⟨new, hnew, hbytes⟩ := ih (k - r) (by omega) h
        refine ⟨new ++ [mk (b.slice (len - k) r)], ?_, ?_⟩
        · rw [hnew, List.append_assoc]
          rfl
        · have hsplit := Buf.slice_append b (len - k) r (k - r)
          rw [Nat.add_sub_cancel' hr] at hsplit
          have hoff : len - (k - r) = len - k + r := by omega
          rw [hsplit, ← hoff, ← hbytes]
          simp [bytesOf, hmk]

/-- The flow's request has been sent to the server `s`, all of it. -/
structure Delivered (e : Env) (id : FlowId) (i : Nat) (s : Server) (f : Flow) (io io' : Io) : Prop where
  sent : ∃ new bytes, io'.sent = new ++ io.sent ∧ (∀ p ∈ new, p.For id i s) ∧
    freshMsg e.cfg s.pcpVersion f = some bytes ∧ Encodes s.pcpVersion f bytes ∧ bytesOf new = bytes

/-- Success is a delivery, and what the version has no request for is an error that leaves no
message. -/
structure SendsFaithfully (e : Env) (id : FlowId) (i : Nat) (s : Server) (f : Flow) (io : Io) : Prop where
  success : (pcpFlowSendMsg e id i s f io).1 = true →
    Delivered e id i s f io (pcpFlowSendMsg e id i s f io).2.2
  error : ¬ Expressible e.cfg s.pcpVersion f →
    (pcpFlowSendMsg e id i s f io).1 = false ∧ (pcpFlowSendMsg e id i s f io).2.1.Clean

section Send

variable {e : Env} {id : FlowId} {i : Nat} {s : Server} {f : Flow} {io : Io}

theorem expressible_clear {version : UInt8} :
    Expressible e.cfg version f.clearMsgBuf ↔ Expressible e.cfg version f := Iff.rfl

/-- With a message to send, success is a delivery. -/
theorem delivered_of_sent {b : Buf} {l k : Nat}
    (hprep : preparedMsg e s f io = (f.setMsg (some b) l, { io with callocs := k }))
    (henc : encodeMsg e.cfg s.pcpVersion f.clearMsgBuf .zero = some (b, l))
    (hx : Expressible e.cfg s.pcpVersion f) (hok : (pcpFlowSendMsg e id i s f io).1 = true) :
    Delivered e id i s f io (pcpFlowSendMsg e id i s f io).2.2 := by
  have hspec := (pcpFlowSendMsg_spec e id i s f io).2.2
  rw [pcpFlowSendMsg_eq, hprep] at hok hspec ⊢
  simp only [Flow.setMsg] at hok hspec ⊢
  generalize hmk : sentRecord id i s { f with pcpMsgBuffer := some b, pcpMsgLen := l } = mk at hok hspec ⊢
  have hbytes : ∀ m, (mk m).bytes = m := by
    intro m
    subst hmk
    rfl
  rcases hloop : sendLoop e mk b l l l { io with callocs := k } with ⟨ok, io'⟩
  rw [hloop] at hok hspec
  cases ok with
  | false => cases hok
  | true =>
    obtain ⟨new, hnew, hall⟩ := sendLoop_accepted hbytes b l l (Nat.le_refl _) hloop
    rw [Nat.sub_self] at hall
    have hstart : Encodes s.pcpVersion f.clearMsgBuf (b.slice 0 l) :=
      encodeMsg_encodes henc (expressible_clear.mpr hx)
    refine ⟨new, b.slice 0 l, hnew, ?_, ?_, ⟨hstart.nonempty, hstart.ver, hstart.opcode⟩, hall⟩
    · obtain ⟨new', hnew', hfor⟩ := hspec
      have hsame : new' = new := List.append_cancel_right (hnew'.symm.trans hnew)
      rw [← hsame]
      exact hfor
    · rw [freshMsg, henc]
      rfl

/-- A flow without a message, or with one made for it before, is sent faithfully unless NAT-PMP has no
request for it and there is memory for the buffer. -/
theorem sent_means_delivered_iff (e : Env) (id : FlowId) (i : Nat) (s : Server) (f : Flow) (io : Io)
    (hp : Prepared e.cfg s.pcpVersion f) :
    SendsFaithfully e id i s f io ↔
      (s.pcpVersion = 0 → ¬ Expressible e.cfg 0 f → e.calloc io.callocs = false) := by
  obtain ⟨b, l, k, hprep, hnone, hsome, hcalloc⟩ := preparedMsg_fresh s io hp
  -- NAT-PMP makes a message of no bytes of what it cannot express
  have hempty : s.pcpVersion = 0 → ¬ Expressible e.cfg 0 f →
      encodeMsg e.cfg s.pcpVersion f.clearMsgBuf .zero = some (.zero, 0) := by
    intro hv hx
    rw [hv]
    exact encodeMsg_natpmp (expressible_clear.not.mpr hx) .zero
  have hclean : s.pcpVersion = 0 → ¬ Expressible e.cfg 0 f → f.Clean := by
    intro hv hx
    rcases hp with h | ⟨b, -, hpos, henc⟩
    · exact h
    · rw [hempty hv hx, Option.some.injEq, Prod.mk.injEq] at henc
      exact absurd hpos (by rw [← henc.2]; exact Nat.lt_irrefl 0)
  constructor
  · intro h hv hx
    by_contra hmem
    rw [Bool.not_eq_false] at hmem
    have herr := (h.error (hv ▸ hx)).1
    have hf := hclean hv hx
    have hbuild : preparedMsg e s f io = (f.setMsg (some .zero) 0, { io with callocs := io.callocs + 1 }) := by
      have henc := hempty hv hx
      rw [hf.clearMsgBuf] at henc
      rw [preparedMsg, if_pos (.inr hf.2), buildPcpMsg_some, hf.1]
      dsimp only
      rw [if_pos hmem, henc]
      rfl
    rw [pcpFlowSendMsg_eq, hbuild] at herr
    cases herr
  · intro hcond
    -- so a message is made of what can be expressed only
    have hmade : b ≠ none → Expressible e.cfg s.pcpVersion f := by
      intro hb
      obtain ⟨b, rfl⟩ := Option.ne_none_iff_exists'.mp hb
      by_contra hx
      by_cases hv : s.pcpVersion = 0
      · have hfalse := hcond hv (hv ▸ hx)
        rw [hcalloc (hclean hv (hv ▸ hx)) (by simp)] at hfalse
        cases hfalse
      · have henc := hsome b rfl
        rw [(encodeMsg_pcp hv _).mpr (expressible_clear.not.mpr hx)] at henc
        cases henc
    refine ⟨fun hok => ?_, fun hx => ?_⟩
    · cases b with
      | none =>
        rw [pcpFlowSendMsg_eq, hprep] at hok
        cases hok
      | some b => exact delivered_of_sent hprep (hsome b rfl) (hmade (by simp)) hok
    · cases b with
      | none =>
        rw [pcpFlowSendMsg_eq, hprep]
        exact ⟨rfl, rfl, hnone rfl⟩
      | some b => exact absurd (hmade (by simp)) hx

end Send

/-- A mapping of the given operation and protocol, and a NAT-PMP server. -/
def natpmpServer : Server := { Server.zero with pcpVersion := 0, serverState := .waitIo }

def plainFlow (operation protocol : UInt8) : Flow :=
  { Flow.zero with kd := { FlowKeyData.zero with operation := operation, protocol := protocol } }

theorem sent_means_delivered_iff_tcp :
    SendsFaithfully (.calm {}) 0 0 natpmpServer (plainFlow opcodeMap ipprotoTcp) {} :=
  (sent_means_delivered_iff (.calm {}) 0 0 natpmpServer (plainFlow opcodeMap ipprotoTcp) {}
    (.inl ⟨rfl, rfl⟩)).mpr fun _ hx => absurd (by decide) hx

/-- A PEER request to a NAT-PMP server is reported as sent, and nothing is sent. -/
theorem peer_over_natpmp_not_sent :
    ¬ SendsFaithfully (.calm {}) 0 0 natpmpServer (plainFlow opcodePeer ipprotoTcp) {} ∧
      (pcpFlowSendMsg (.calm {}) 0 0 natpmpServer (plainFlow opcodePeer ipprotoTcp) {}).1 = true ∧
      (pcpFlowSendMsg (.calm {}) 0 0 natpmpServer (plainFlow opcodePeer ipprotoTcp) {}).2.2.sent = [] := by
  have hok : (pcpFlowSendMsg (.calm {}) 0 0 natpmpServer (plainFlow opcodePeer ipprotoTcp) {}).1 = true := by
    decide
  refine ⟨fun h => ?_, hok, by decide⟩
  rw [(h.error (by decide)).1] at hok
  cases hok

end LibPcp
