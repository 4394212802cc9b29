import LibPcp.MsgEncode
import LibPcp.Reach

/-!
# LibPcp.Closing

What a closed flow asks for.

Every request carries the lifetime its flow has at that moment: the message a flow keeps from a send
that failed is dropped whenever the lifetime changes (`MsgOk`). Closing a flow sets its lifetime to
zero, but only in the states in which it also has something to send. `closed_flow_asks_for_nothing`
follows the flows that were in such a state through whatever comes later.

`Env.SendWhole` is how datagram sockets behave: a datagram is sent whole or not at all.
-/

namespace LibPcp

open ByteBuffer LabelledSteps

/-! ## The lifetime in a request -/

/-- The lifetime a request asks for: the last word of a NAT-PMP mapping request, else the second word
of the PCP header. A NAT-PMP announcement has none. -/
def requestedLifetime (bytes : List UInt8) : Option UInt32 :=
  if Buf.ofList bytes 0 = 0 then
    if 12 ≤ bytes.length then some ((Buf.ofList bytes).u32 8) else none
  else if 8 ≤ bytes.length then some ((Buf.ofList bytes).u32 4) else none

/-- The first `n` bytes of `b`. -/
theorem ofList_slice_agree (b : Buf) (n : Nat) : Buf.AgreeTo n (Buf.ofList (b.slice 0 n)) b := by
  intro i hi
  rw [Buf.ofList_get (by rw [Buf.slice_length]; exact hi)]
  simp [Buf.slice]

/-- What a part of an encoder does at a cursor: it moves on by at most `k` and leaves the bytes before
the cursor alone. -/
def Within (k : Nat) (g : Cursor → Cursor) : Prop :=
  ∀ c, (g c).2 ≤ c.2 + k ∧ Buf.AgreeTo c.2 (g c).1 c.1 ∧ c.2 ≤ (g c).2

theorem Within.comp {k l : Nat} {g h : Cursor → Cursor} (hg : Within k g) (hh : Within l h) :
    Within (k + l) fun c => h (g c) := by
  intro c
  obtain ⟨h₁, h₂, h₃⟩ := hg c
  obtain ⟨h₄, h₅, h₆⟩ := hh (g c)
  refine ⟨by dsimp only; omega, fun i hi => ?_, Nat.le_trans h₃ h₆⟩
  exact (h₅ i (Nat.lt_of_lt_of_le hi h₃)).trans (h₂ i hi)

theorem Within.writeIf {k : Nat} {g : Cursor → Cursor} (hg : Within k g) (p : Prop) [Decidable p] :
    Within k (Tlv.writeIf p g) := by
  intro c
  unfold Tlv.writeIf
  split
  · exact hg c
  · exact ⟨Nat.le_add_right _ _, fun _ _ => rfl, Nat.le_refl _⟩

theorem addFilterOption_within (f : Flow) : Within 24 (addFilterOption f) := by
  intro c
  refine ⟨Nat.le_refl _, fun i hi => ?_, Nat.le_add_right _ _⟩
  simp only [addFilterOption]
  repeat rw [Buf.blit_below _ _ (by omega)]

theorem addPreferFailureOption_within : Within 4 addPreferFailureOption := by
  intro c
  refine ⟨Nat.le_refl _, fun i hi => ?_, Nat.le_add_right _ _⟩
  simp only [addPreferFailureOption]
  repeat rw [Buf.blit_below _ _ (by omega)]

theorem addThirdPartyOption_within (f : Flow) : Within 20 (addThirdPartyOption f) := by
  intro c
  refine ⟨Nat.le_refl _, fun i hi => ?_, Nat.le_add_right _ _⟩
  simp only [addThirdPartyOption]
  repeat rw [Buf.blit_below _ _ (by omega)]

theorem addFlowpOption_within (f : Flow) : Within 8 (addFlowpOption f) := by
  intro c
  refine ⟨Nat.le_refl _, fun i hi => ?_, Nat.le_add_right _ _⟩
  simp only [addFlowpOption]
  repeat rw [Buf.blit_below _ _ (by omega)]

theorem addStringOption_within (code : UInt8) (len : UInt16) (str : List UInt8) :
    Within (4 + str.length) (addStringOption code len str) := by
  intro c
  refine ⟨by simp only [addStringOption]; omega, fun i hi => ?_, ?_⟩
  · simp only [addStringOption]
    repeat rw [Buf.blit_below _ _ (by omega)]
  · simp only [addStringOption]
    omega

/-- Metadata never moves the cursor past the end of the buffer. -/
theorem addMdOptions_within (mds : List MdVal) (c : Cursor) :
    (addMdOptions mds c).2 ≤ max c.2 pcpMaxLen ∧ Buf.AgreeTo c.2 (addMdOptions mds c).1 c.1 ∧
      c.2 ≤ (addMdOptions mds c).2 := by
  induction mds generalizing c with
  | nil => exact ⟨Nat.le_max_left _ _, fun _ _ => rfl, Nat.le_refl _⟩
  | cons md mds ih =>
    have hone : (if md.val.length ≠ 0 then addMdOption md c else c).2 ≤ max c.2 pcpMaxLen ∧
        Buf.AgreeTo c.2 (if md.val.length ≠ 0 then addMdOption md c else c).1 c.1 ∧
        c.2 ≤ (if md.val.length ≠ 0 then addMdOption md c else c).2 := by
      split
      · unfold addMdOption
        dsimp only
        split
        · exact ⟨Nat.le_max_left _ _, fun _ _ => rfl, Nat.le_refl _⟩
        · refine ⟨by dsimp only; omega, fun i hi => ?_, by dsimp only; omega⟩
          dsimp only
          repeat rw [Buf.blit_below _ _ (by omega)]
      · exact ⟨Nat.le_max_left _ _, fun _ _ => rfl, Nat.le_refl _⟩
    obtain ⟨h₁, h₂, h₃⟩ := hone
    obtain ⟨h₄, h₅, h₆⟩ := ih (if md.val.length ≠ 0 then addMdOption md c else c)
    refine ⟨?_, fun i hi => ?_, Nat.le_trans h₃ h₆⟩
    · exact Nat.le_trans h₄ (Nat.max_le.mpr ⟨h₁, Nat.le_max_right _ _⟩)
    · exact (h₅ i (Nat.lt_of_lt_of_le hi h₃)).trans (h₂ i hi)

theorem addFixedOptions_within (cfg : Config) (f : Flow) : Within 644 (addFixedOptions cfg f) := by
  have hd : Within (4 + f.deviceid.toList.length) (addDeviceidOption f) :=
    addStringOption_within _ _ _
  have hu : Within (4 + f.userid.toList.length) (addUseridOption f) := addStringOption_within _ _ _
  have hl : Within (4 + f.location.toList.length) (addLocationOption f) :=
    addStringOption_within _ _ _
  rw [Vector.length_toList] at hd hu hl
  exact ((((((((addFlowpOption_within f).writeIf _).comp ((addFilterOption_within f).writeIf _)).comp
    (addPreferFailureOption_within.writeIf _)).comp
    ((addThirdPartyOption_within f).writeIf _)).comp
    (hd.writeIf _)).comp (hu.writeIf _)).comp (hl.writeIf _))

/-- The options leave everything before them alone and end within the buffer. -/
theorem buildPcpOptions_within (cfg : Config) (f : Flow) (c : Cursor) (hc : c.2 ≤ 293) :
    (buildPcpOptions cfg f c).2 ≤ pcpMaxLen ∧ Buf.AgreeTo c.2 (buildPcpOptions cfg f c).1 c.1 ∧
      c.2 ≤ (buildPcpOptions cfg f c).2 := by
  have hmax : pcpMaxLen = 1100 := rfl
  obtain ⟨h₁, h₂, h₃⟩ := addFixedOptions_within cfg f c
  rw [buildPcpOptions_chain]
  unfold Tlv.writeIf
  split
  · obtain ⟨h₄, h₅, h₆⟩ := addMdOptions_within f.mdVals (addFixedOptions cfg f c)
    refine ⟨Nat.le_trans h₄ (Nat.max_le.mpr ⟨by omega, Nat.le_refl _⟩), fun i hi => ?_,
      Nat.le_trans h₃ h₆⟩
    exact (h₅ i (Nat.lt_of_lt_of_le hi h₃)).trans (h₂ i hi)
  · exact ⟨by omega, h₂, h₃⟩

/-- The part of a request after its header. -/
theorem buildBody_within {cfg : Config} {version : UInt8} {f : Flow} {b b' : Buf} {len : Nat}
    (h : buildBody cfg version f b = some (b', len)) :
    len ≤ pcpMaxLen ∧ Buf.AgreeTo 24 b' b ∧ 24 ≤ len := by
  have hopt : ∀ {b₀ : Buf} {cur : Nat}, 24 ≤ cur → cur ≤ 293 → Buf.AgreeTo 24 b₀ b →
      some (buildPcpOptions cfg f (b₀, cur)) = some (b', len) →
      len ≤ pcpMaxLen ∧ Buf.AgreeTo 24 b' b ∧ 24 ≤ len := by
    intro b₀ cur hlo hhi hag heq
    obtain ⟨h₁, h₂, h₃⟩ := buildPcpOptions_within cfg f (b₀, cur) hhi
    rw [Option.some.inj heq] at h₁ h₂ h₃
    refine ⟨h₁, fun i hi => ?_, Nat.le_trans hlo h₃⟩
    exact (h₂ i (Nat.lt_of_lt_of_le hi hlo)).trans (hag i hi)
  unfold buildBody at h
  split at h
  · simp only [buildPcpPeer] at h
    split at h
    · refine hopt (by omega) (by omega) (fun i hi => ?_) h
      repeat rw [Buf.blit_below _ _ (by omega)]
    · split at h
      · refine hopt (by omega) (by omega) (fun i hi => ?_) h
        repeat rw [Buf.blit_below _ _ (by omega)]
      · cases h
  · split at h
    · simp only [buildPcpMap] at h
      split at h
      · refine hopt (by omega) (by omega) (fun i hi => ?_) h
        repeat rw [Buf.blit_below _ _ (by omega)]
      · split at h
        · refine hopt (by omega) (by omega) (fun i hi => ?_) h
          repeat rw [Buf.blit_below _ _ (by omega)]
        · cases h
    · split at h
      · simp only [buildPcpSadscp] at h
        split at h
        · have hlt := (f.appNameLength + UInt8.ofNat ((4 - (f.appNameLength.toNat + 2) % 4) % 4)).toNat_lt
          refine hopt (by omega) (by omega) (fun i hi => ?_) h
          cases f.sadscpAppName with
          | none =>
            dsimp only
            repeat rw [Buf.blit_below _ _ (by omega)]
          | some name =>
            dsimp only
            repeat rw [Buf.blit_below _ _ (by omega)]
        · cases h
      · split at h
        · cases h
          exact ⟨by decide, fun _ _ => rfl, Nat.le_refl _⟩
        · cases h

theorem buildHeader_spec (version : UInt8) (f : Flow) (b : Buf) :
    buildHeader version f b 0 = version ∧ (buildHeader version f b).u32 4 = f.lifetime := by
  constructor
  · simp only [buildHeader]
    rw [Buf.blit_below _ _ (by omega), Buf.blit_below _ _ (by omega), Buf.blit_below _ _ (by omega)]
    exact Buf.blit_inside (i := 0) b [version] (by simp)
  · refine Buf.u32_of_slice ?_
    simp only [buildHeader]
    rw [Buf.slice_congr fun i hi => Buf.blit_below _ _ (by omega)]
    exact Buf.slice_blit _ 4 (be32 f.lifetime)

/-- A message carries the lifetime of its flow, if it carries one at all. -/
def Carries (b : Buf) (len : Nat) (lifetime : UInt32) : Prop :=
  ∀ l ∈ requestedLifetime (b.slice 0 len), l = lifetime

/-- The buffer after the five writes of a NAT-PMP mapping request. -/
theorem natpmpMap_carries (b : Buf) (op : UInt8) (lifetime : UInt32) (src ext : UInt16) :
    Carries (((((b.blit 1 [op]).blit 0 [0]).blit 8 (be32 lifetime)).blit 4 (be16 src)).blit 6
      (be16 ext)) 12 lifetime := by
  generalize hb : ((((b.blit 1 [op]).blit 0 [0]).blit 8 (be32 lifetime)).blit 4 (be16 src)).blit 6
    (be16 ext) = b'
  have h0 : b' 0 = 0 := by
    rw [← hb, Buf.blit_below _ _ (by omega), Buf.blit_below _ _ (by omega),
      Buf.blit_below _ _ (by omega)]
    exact Buf.blit_inside (i := 0) _ [0] (by simp)
  have h8 : b'.u32 8 = lifetime := by
    refine Buf.u32_of_slice ?_
    rw [← hb, Buf.slice_congr fun i hi => Buf.blit_above _ _ (by simp only [be16_length]; omega),
      Buf.slice_congr fun i hi => Buf.blit_above _ _ (by simp only [be16_length]; omega)]
    exact Buf.slice_blit _ 8 (be32 lifetime)
  have hag := ofList_slice_agree b' 12
  intro l hl
  simp only [requestedLifetime, Buf.slice_length, Nat.le_refl] at hl
  rw [if_pos (by rw [hag 0 (by omega)]; exact h0), if_pos trivial, hag.u32 (by omega), h8] at hl
  exact (Option.some.inj hl).symm

theorem pcp_carries {b : Buf} {len : Nat} {lifetime : UInt32} (hlen : 24 ≤ len) (h0 : b 0 ≠ 0)
    (h4 : b.u32 4 = lifetime) : Carries b len lifetime := by
  have hag := ofList_slice_agree b len
  intro l hl
  simp only [requestedLifetime, Buf.slice_length] at hl
  rw [if_neg (by rw [hag 0 (by omega)]; exact h0), if_pos (by omega), hag.u32 (by omega), h4] at hl
  exact (Option.some.inj hl).symm

theorem announcement_carries (b : Buf) (lifetime : UInt32) : Carries b 2 lifetime := by
  intro l hl
  simp only [requestedLifetime, Buf.slice_length] at hl
  split at hl <;> simp at hl

/-- What `build_pcp_msg` puts into a buffer. The length is kept when a NAT-PMP request cannot be
made. -/
theorem encodeMsg_carries {cfg : Config} {version : UInt8} {f : Flow} {b b' : Buf} {len : Nat}
    (h : encodeMsg cfg version f b = some (b', len)) :
    len = f.pcpMsgLen ∨ (0 < len ∧ len ≤ pcpMaxLen ∧ Carries b' len f.lifetime) := by
  unfold encodeMsg at h
  split at h
  · unfold buildNatpmpMsg at h
    split at h
    rename_i ret b₁ len₁ hbuild
    split at h
    · cases h
    · simp only [Option.some.injEq, Prod.mk.injEq] at h
      obtain ⟨rfl, rfl⟩ := h
      split at hbuild
      · cases hbuild
        exact .inr ⟨by decide, by decide, announcement_carries _ _⟩
      · split at hbuild
        · split at hbuild
          · cases hbuild
            exact .inr ⟨by decide, by decide, natpmpMap_carries b _ _ _ _⟩
          · cases hbuild
            exact .inl rfl
        · cases hbuild
          exact .inl rfl
  · rename_i hv
    obtain ⟨h₁, h₂, h₃⟩ := buildBody_within h
    obtain ⟨hv0, hl4⟩ := buildHeader_spec version f b
    refine .inr ⟨by omega, h₁, pcp_carries h₃ ?_ ?_⟩
    · rw [h₂ 0 (by omega), hv0]
      exact hv
    · rw [h₂.u32 (by omega), hl4]

/-! ## Messages of flows -/

/-- A datagram is sent whole or not at all. -/
def Env.SendWhole (e : Env) : Prop := ∀ i, e.sendto i ≤ 0 ∨ (pcpMaxLen : Int) ≤ e.sendto i

/-- The message a flow keeps carries the flow's lifetime. -/
structure MsgOk (v : Flow) : Prop where
  none : v.pcpMsgBuffer = none → v.pcpMsgLen = 0
  some : ∀ b, v.pcpMsgBuffer = some b →
    0 < v.pcpMsgLen ∧ v.pcpMsgLen ≤ pcpMaxLen ∧ Carries b v.pcpMsgLen v.lifetime

theorem MsgOk.cleared {v : Flow} (hb : v.pcpMsgBuffer = .none) (hl : v.pcpMsgLen = 0) : MsgOk v :=
  ⟨fun _ => hl, fun b h => by rw [hb] at h; cases h⟩

theorem MsgOk.edit {v w : Flow} (h : MsgOk v) (hw : v.Edit w) : MsgOk w := by
  rcases hw.buf with ⟨hb, hl⟩ | ⟨hb, hl⟩
  · refine ⟨fun hn => ?_, fun b hs => ?_⟩
    · rw [hl]
      exact h.none (hb ▸ hn)
    · rw [hl, hw.lifetime]
      exact h.some b (hb ▸ hs)
  · exact .cleared hb hl

/-- The message about to be sent is empty or carries the lifetime. -/
theorem preparedMsg_carries (e : Env) (s : Server) {f : Flow} (io : Io) (h : MsgOk f) :
    ∃ b l k, preparedMsg e s f io = (f.setMsg b l, { io with callocs := k }) ∧
      (b = none → l = 0) ∧
      ∀ b', b = some b' → l = 0 ∨ (0 < l ∧ l ≤ pcpMaxLen ∧ Carries b' l f.lifetime) := by
  unfold preparedMsg
  split
  · rename_i hneed
    have hb : f.pcpMsgBuffer = none := by
      cases hb : f.pcpMsgBuffer with
      | none => rfl
      | some b =>
        have hpos := (h.some b hb).1
        rcases hneed with hn | hz
        · rw [hb] at hn
          cases hn
        · exact absurd hz (Nat.ne_of_gt hpos)
    have hz := h.none hb
    rw [buildPcpMsg_some, hb]
    dsimp only
    split
    · cases henc : encodeMsg e.cfg s.pcpVersion f .zero with
      | none => exact ⟨none, 0, _, rfl, fun _ => rfl, fun b' hb' => by cases hb'⟩
      | some r =>
        obtain ⟨b', l⟩ := r
        refine ⟨some b', l, _, rfl, by simp, fun b'' hb'' => ?_⟩
        cases hb''
        exact (encodeMsg_carries henc).imp_left fun hl => hl.trans hz
    · refine ⟨none, 0, io.callocs + 1, ?_, fun _ => rfl, fun b' hb' => by cases hb'⟩
      rw [← hb, ← hz]
      rfl
  · refine ⟨f.pcpMsgBuffer, f.pcpMsgLen, io.callocs, rfl, h.none, fun b' hb' => ?_⟩
    exact .inr (h.some b' hb')

/-- Requests of the flow `id` that ask for the given lifetime. -/
def Asks (id : FlowId) (lifetime : UInt32) (p : Sent) : Prop :=
  p.flow = id ∧ ∀ l ∈ requestedLifetime p.bytes, l = lifetime

section Send

variable {e : Env} (he : e.SendWhole)
include he

/-- The loop around `sendto` makes one datagram, or none. -/
theorem sendLoop_whole (mk : List UInt8 → Sent) (b : Buf) {len : Nat} (hlen : len ≤ pcpMaxLen)
    (io : Io) :
    io.SentWith (· = mk (b.slice 0 len)) (sendLoop e mk b len len len io).2 ∧
      ((sendLoop e mk b len len len io).1 = false → 0 < len ∧ e.sendto io.sends ≤ 0) := by
  cases len with
  | zero => exact ⟨.refl io, by simp [sendLoop]⟩
  | succ n =>
    rw [sendLoop]
    dsimp only
    rw [if_neg (Nat.succ_ne_zero n)]
    rcases he io.sends with hneg | hall
    · rw [if_pos (by omega)]
      exact ⟨.of_eq rfl, fun _ => ⟨Nat.succ_pos n, hneg⟩⟩
    · have hmin : min (e.sendto io.sends) ((n + 1 : Nat) : Int) = ((n + 1 : Nat) : Int) := by omega
      rw [hmin, if_neg (by omega), Int.toNat_natCast, Nat.sub_self]
      have hdone : ∀ io' : Io, sendLoop e mk b (n + 1) n 0 io' = (true, io') := by
        intro io'
        cases n <;> rfl
      rw [hdone]
      exact ⟨⟨[_], rfl, fun p hp => List.mem_singleton.mp hp⟩, by simp⟩

theorem pcpFlowSendMsg_asks (id : FlowId) (i : Nat) (s : Server) {f : Flow} (io : Io) (h : MsgOk f) :
    MsgOk (pcpFlowSendMsg e id i s f io).2.1 ∧
      io.SentWith (Asks id f.lifetime) (pcpFlowSendMsg e id i s f io).2.2 := by
  obtain ⟨b, l, k, hprep, hnone, hsome⟩ := preparedMsg_carries e s io h
  rw [pcpFlowSendMsg_eq, hprep]
  cases b with
  | none =>
    refine ⟨.cleared rfl (hnone rfl), .of_eq rfl⟩
  | some b =>
    have hl : l ≤ pcpMaxLen := by
      rcases hsome b rfl with rfl | ⟨-, hl, -⟩
      · exact Nat.zero_le _
      · exact hl
    have hcarries : Carries b l f.lifetime := by
      rcases hsome b rfl with rfl | ⟨-, -, hc⟩
      · intro x hx
        simp [requestedLifetime, Buf.slice] at hx
      · exact hc
    generalize hmk : sentRecord id i s (f.setMsg (some b) l) = mk
    have hasks : Asks id f.lifetime (mk (b.slice 0 l)) := by
      subst hmk
      exact ⟨rfl, hcarries⟩
    obtain ⟨hsent, hfail⟩ := sendLoop_whole he mk b hl { io with callocs := k }
    simp only [Flow.setMsg]
    rcases hloop : sendLoop e mk b l l l { io with callocs := k } with ⟨ok, io'⟩
    rw [hloop] at hsent hfail
    have hsent' : io.SentWith (Asks id f.lifetime) io' :=
      Io.SentWith.trans (.of_eq rfl) (hsent.mono fun p hp => hp ▸ hasks)
    cases ok with
    | true => exact ⟨.cleared rfl rfl, hsent'⟩
    | false =>
      refine ⟨⟨by simp, fun b' hb' => ?_⟩, hsent'⟩
      cases hb'
      exact ⟨(hfail rfl).1, hl, hcarries⟩

end Send

theorem takeSuccess_msg (cfg : Config) (m : RecvMsg) (f : Flow) :
    (takeSuccess cfg m f).pcpMsgBuffer = f.pcpMsgBuffer ∧
      (takeSuccess cfg m f).pcpMsgLen = f.pcpMsgLen := by
  unfold takeSuccess
  dsimp only
  repeat' split
  all_goals exact ⟨rfl, rfl⟩

theorem FlowMoves.asks {x : FlowEnv} {r r' : Flow × Io} (h : FlowMoves x r r')
    (he : x.env.SendWhole) (hr : MsgOk r.1) :
    MsgOk r'.1 ∧ r.2.SentWith (Asks x.id r.1.lifetime) r'.2 := by
  induction h with
  | refl => exact ⟨hr, .refl _⟩
  | @tail a b hmoves hmove ih =>
    have hlife : a.1.lifetime = r.1.lifetime := (FlowMoves.frame hmoves).kept.lifetime
    obtain ⟨hm, hs⟩ := ih
    cases hmove with
    | edit h => exact ⟨hm.edit h, hs⟩
    | clock hsent ht => exact ⟨hm, hs.trans (.of_eq hsent)⟩
    | send f io hsrv =>
      obtain ⟨h₁, h₂⟩ := pcpFlowSendMsg_asks he x.id f.pcpServerIndx _ io hm
      refine ⟨h₁, hs.trans (h₂.mono fun p hp => ?_)⟩
      rw [← hlife]
      exact hp
    | take hmsg =>
      obtain ⟨hb, hl⟩ := takeSuccess_msg x.env.cfg _ _
      refine ⟨⟨fun hn => ?_, fun b hsome => ?_⟩, hs⟩
      · rw [hl]
        exact hm.none (hb ▸ hn)
      · rw [hl, (takeSuccess_kept _ _ _).lifetime]
        exact hm.some b (hb ▸ hsome)

/-! ## Acts -/

/-- Requests that ask for the lifetime their flow has in `c`. -/
def AsksIn (c : Ctx) (p : Sent) : Prop :=
  ∀ l ∈ requestedLifetime p.bytes, l = (c.heap p.flow).lifetime

section Acts

variable {e : Env} {c c' : Ctx}

theorem msgOk_update (hm : ∀ f, MsgOk (c.heap f)) {f : FlowId} {v : Flow} (hv : MsgOk v) (g : FlowId) :
    MsgOk (Function.update c.heap f v g) := by
  by_cases hg : g = f
  · subst hg
    rw [Function.update_self]
    exact hv
  · rw [Function.update_of_ne hg]
    exact hm g

theorem handleFlowEvent_asks (he : e.SendWhole) (hm : ∀ f, MsgOk (c.heap f)) (f : FlowId)
    (ev : FlowEvent) (m : Option RecvMsg) (hev : ev ≠ .msgSent) :
    (∀ g, MsgOk ((handleFlowEvent e c f ev m).heap g)) ∧
      c.io.SentWith (AsksIn c) (handleFlowEvent e c f ev m).io := by
  obtain ⟨h₁, h₂⟩ := (flowStep_moves (c.flowEnv e f m) (c.heap f) c.io hev).asks he (hm f)
  refine ⟨fun g => ?_, ?_⟩
  · rw [handleFlowEvent_heap]
    exact msgOk_update hm h₁ g
  · rw [handleFlowEvent_io]
    refine h₂.mono fun p hp l hl => ?_
    obtain ⟨hflow, hall⟩ := hp
    change p.flow = f at hflow
    rw [hflow]
    exact hall l hl

theorem alignTimer_msgOk {v : Flow} (h : MsgOk v) : MsgOk (alignTimer v) := ⟨h.none, h.some⟩

theorem Act.asks {s : Nat} {k : ActKind} (h : Act e s k c c') (he : e.SendWhole)
    (hm : ∀ f, MsgOk (c.heap f)) : (∀ f, MsgOk (c'.heap f)) ∧ c.io.SentWith (AsksIn c) c'.io := by
  cases h with
  | tick c => exact ⟨hm, .of_eq rfl⟩
  | server c v h hp => exact ⟨hm, .of_eq rfl⟩
  | reset c f r ho => exact ⟨msgOk_update hm ⟨(hm f).none, (hm f).some⟩, .of_eq rfl⟩
  | putBack c f ho => exact ⟨msgOk_update hm ⟨(hm f).none, (hm f).some⟩, .of_eq rfl⟩
  | event c f ev ho hev => exact handleFlowEvent_asks he hm f ev none hev.ne_msgSent
  | align k c f hk ht => exact ⟨msgOk_update hm (alignTimer_msgOk (hm f)), .of_eq rfl⟩
  | expire k c f hk ht =>
    have hm' : ∀ g, MsgOk ((c.tick.modFlow f alignTimer).heap g) :=
      msgOk_update hm (alignTimer_msgOk (hm f))
    obtain ⟨h₁, h₂⟩ := handleFlowEvent_asks he hm' f .flowTimedout none (by simp)
    refine ⟨h₁, Io.SentWith.trans (.of_eq rfl) (h₂.mono fun p hp l hl => ?_)⟩
    rw [hp l hl]
    by_cases hf : p.flow = f
    · rw [hf]
      simp [Ctx.modFlow, alignTimer]
    · simp [Ctx.modFlow, hf]
  | response c f ho => exact handleFlowEvent_asks he hm f _ _ (by simp)
  | extAddr c a => exact ⟨hm, .of_eq rfl⟩
  | version c n => exact ⟨hm, .of_eq rfl⟩
  | reveal c f h => exact ⟨hm, .of_eq rfl⟩
  | announce c =>
    rcases createNatpmpAnnMsg_cases e c s with h | ⟨fl, -, -, -, ⟨hb, hl⟩, -, -, h⟩
    · rw [h]
      exact ⟨hm, .of_eq rfl⟩
    · rw [h]
      refine ⟨fun g => ?_, .of_eq rfl⟩
      have hfl : MsgOk fl := .cleared hb hl
      have hnew := msgOk_update (f := c.heapTop) hm hfl
      simp only [pcpDbAddFlow, Ctx.modFlow, Ctx.setFlow_heap]
      by_cases hg : g = c.heapTop
      · subst hg
        rw [Function.update_self]
        exact .cleared (by simp [Ctx.modServer, hb]) (by simp [Ctx.modServer, hl])
      · rw [Function.update_of_ne hg]
        exact hnew g

/-- Since `io₀` nothing but lifetime zero has been asked for by the flows `C`, nor will be. -/
structure AskNothing (C : List FlowId) (io₀ : Io) (c : Ctx) : Prop where
  msg : ∀ f, MsgOk (c.heap f)
  zero : ∀ g ∈ C, g < c.heapTop ∧ (c.heap g).lifetime = 0
  sent : io₀.SentWith (fun p => p.flow ∈ C → ∀ l ∈ requestedLifetime p.bytes, l = 0) c.io

variable {C : List FlowId} {io₀ : Io}

theorem Acts.askNothing {s : Nat} {K : List ActKind} (h : Acts e s K c c') (he : e.SendWhole)
    (ha : AskNothing C io₀ c) : AskNothing C io₀ c' := by
  refine h.invariant (I := AskNothing C io₀) (fun k a b hi hk hact => ?_) ha
  obtain ⟨hmsg, hsent⟩ := hact.asks he hi.msg
  refine ⟨hmsg, fun g hg => ?_, hi.sent.trans (hsent.mono fun p hp hpC l hl => ?_)⟩
  · obtain ⟨hlt, hz⟩ := hi.zero g hg
    exact ⟨Nat.lt_of_lt_of_le hlt hact.frame.heapTop, (hact.frame.flow g hlt).lifetime.trans hz⟩
  · rw [hp l hl]
    exact (hi.zero _ hpC).2

end Acts

/-! ## Calls -/

section Calls

variable {e : Env} {c c' : Ctx} {C : List FlowId} {io₀ : Io}

theorem lifetime_update {f : FlowId} {v : Flow} (hv : v.lifetime = 0 ∨ v.lifetime = (c.heap f).lifetime)
    {g : FlowId} (hg : (c.heap g).lifetime = 0) : (Function.update c.heap f v g).lifetime = 0 := by
  by_cases hgf : g = f
  · subst hgf
    rw [Function.update_self]
    exact hv.elim id fun h => h.trans hg
  · rw [Function.update_of_ne hgf]
    exact hg

/-- One flow is replaced by one with a sound message. -/
theorem AskNothing.setFlow (ha : AskNothing C io₀ c) {f : FlowId} {v : Flow} (hm : MsgOk v)
    (hv : v.lifetime = 0 ∨ v.lifetime = (c.heap f).lifetime) : AskNothing C io₀ (c.setFlow f v) :=
  ⟨msgOk_update ha.msg hm, fun g hg => ⟨(ha.zero g hg).1, lifetime_update hv (ha.zero g hg).2⟩,
    ha.sent⟩

theorem markUpdated_msgOk (t : Timeval) (v : Flow) : MsgOk (markUpdated t v) := .cleared rfl rfl

/-- Marking a flow as updated drops its message. -/
theorem AskNothing.flowUpdated (hm : ∀ g, g ≠ f → MsgOk (c.heap g))
    (hz : ∀ g ∈ C, g < c.heapTop ∧ (c.heap g).lifetime = 0)
    (hs : io₀.SentWith (fun p => p.flow ∈ C → ∀ l ∈ requestedLifetime p.bytes, l = 0) c.io) :
    AskNothing C io₀ (pcpFlowUpdated e c f) := by
  refine ⟨fun g => ?_, fun g hg => ?_, ?_⟩
  · rw [pcpFlowUpdated_heap]
    by_cases hgf : g = f
    · subst hgf
      rw [Function.update_self]
      exact markUpdated_msgOk _ _
    · rw [Function.update_of_ne hgf]
      exact hm g hgf
  · rw [pcpFlowUpdated_heap, pcpFlowUpdated_heapTop]
    have hlife : (markUpdated (e.now c.io) (c.heap f)).lifetime = (c.heap f).lifetime := rfl
    exact ⟨(hz g hg).1, lifetime_update (.inr hlife) (hz g hg).2⟩
  · rw [pcpFlowUpdated_io]
    exact hs.trans (.of_eq rfl)

theorem CallAct.askNothing {k : CallKind} (h : CallAct e k c c') (ha : AskNothing C io₀ c)
    (hk : ∀ f, k = .update f → f ∉ C) : AskNothing C io₀ c' := by
  cases h with
  | env h =>
    have hsent := h.sent
    rw [h.eq]
    exact ⟨ha.msg, ha.zero, ha.sent.trans (.of_eq hsent)⟩
  | array | fresh | again => exact ⟨ha.msg, ha.zero, ha.sent⟩
  | create c s fl io hl h hs ht =>
    refine ⟨fun g => ?_, fun g hg => ?_, ha.sent.trans (.of_eq hs)⟩
    · rw [addNewFlow_heap]
      split
      · exact .cleared h.pcpMsgBuffer h.pcpMsgLen
      · exact ha.msg g
    · obtain ⟨hlt, hz⟩ := ha.zero g hg
      rw [addNewFlow_heap, if_neg (Nat.ne_of_lt hlt)]
      exact ⟨Nat.lt_succ_of_lt hlt, hz⟩
  | link c p f => exact ha.setFlow ⟨(ha.msg p).none, (ha.msg p).some⟩ (.inr rfl)
  | update c f v h =>
    refine AskNothing.flowUpdated (fun g hg => ?_) (fun g hg => ?_) ha.sent
    · rw [Ctx.setFlow_heap, Function.update_of_ne hg]
      exact ha.msg g
    · have hne : g ≠ f := by
        rintro rfl
        exact hk g rfl hg
      rw [Ctx.setFlow_heap, Function.update_of_ne hne]
      exact ha.zero g hg
  | close c f h =>
    refine AskNothing.flowUpdated (fun g hg => ?_) (fun g hg => ⟨(ha.zero g hg).1, ?_⟩) ha.sent
    · rw [Ctx.modFlow, Ctx.setFlow_heap, Function.update_of_ne hg]
      exact ha.msg g
    · exact lifetime_update (.inl rfl) (ha.zero g hg).2
  | fail c f h => exact ha.setFlow ⟨(ha.msg f).none, (ha.msg f).some⟩ (.inr rfl)
  | delete c f =>
    have hd := pcpDeleteFlowIntern_deleted c f
    refine ⟨fun g => ?_, fun g hg => ?_, ?_⟩
    · obtain ⟨_, hk⟩ := hd.heap g
      rw [hk]
      exact ⟨(ha.msg g).none, (ha.msg g).some⟩
    · obtain ⟨_, hk⟩ := hd.heap g
      rw [hk, hd.heapTop]
      exact ha.zero g hg
    · rw [hd.io]
      exact ha.sent

theorem CallActs.askNothing {K : CallKind → Prop} (h : CallActs e K c c') (ha : AskNothing C io₀ c)
    (hK : ∀ f, K (.update f) → f ∉ C) : AskNothing C io₀ c' :=
  h.invariant (I := AskNothing C io₀)
    (fun _ _ _ hi hk hact => hact.askNothing hi fun f hf => hK f (hf ▸ hk)) ha

end Calls

/-! ## Runs -/

section Runs

variable {e : Env} {c c' : Ctx} {C : List FlowId} {io₀ : Io}

theorem Micro.askNothing {l : MicroOp} (h : Micro e l c c') (hl : l.isPulse = true)
    (he : e.SendWhole) (hc : CtxOk c) (ha : AskNothing C io₀ c) : AskNothing C io₀ c' := by
  have hrecv : ∀ {dg r c₁}, acceptMsg e (readMsg e c dg) = (r, c₁) → AskNothing C io₀ c₁ := by
    intro dg r c₁ h
    obtain ⟨⟨m, rfl⟩, -⟩ := received_eq h
    exact ⟨ha.msg, ha.zero, ha.sent⟩
  cases h with
  | call hp h => cases hl
  | close hlive => cases hl
  | quiet => exact ⟨ha.msg, ha.zero, ha.sent⟩
  | drop h => exact hrecv h
  | recv h => exact (recv_acts h hc).1.askNothing he (hrecv h)
  | fire hlive hd => exact (fire_acts (hc.wf _) hlive.2).askNothing he ha
  | @settle s c hlive hd =>
    have hset : Acts e s [.own] c (LibPcp.settle s c) := settle_acts
    exact hset.askNothing he ha

/-- The flows whose options a call changes. -/
def Op.updated (e : Env) (c : Ctx) (op : Op) : List FlowId :=
  ((op.setter e).map fun p => c.chain p.1).getD []

theorem Op.mem_updated {op : Op} {f : FlowId} (h : op.kinds e c (.update f)) : f ∈ op.updated e c := by
  cases op with
  | addServer | addGws | newFlow | learnDscp | closeFlow | pulse => exact h.elim
  | deleteFlow g =>
    obtain ⟨_, -, hg⟩ := h
    cases hg
  | setFlowChangeCb b => cases h
  | setLifetime | set3rdPartyOpt | setFilterOpt | setPreferFailureOpt | setUserid | setLocation
  | setDeviceid | addMd | setFlowp => exact h

theorem Step.askNothing {op : Op} (h : Step e c op c') (he : e.SendWhole) (hc : CtxOk c)
    (hop : ∀ g ∈ op.updated e c, g ∉ C) (ha : AskNothing C io₀ c) : AskNothing C io₀ c' := by
  refine h.keeps hc ha (fun _ hacts => ?_) (fun f dg _ _ => ?_)
    fun l a b hl hok hi hm => hm.askNothing hl he hok hi
  · exact hacts.askNothing ha fun f hf => hop f (Op.mem_updated hf)
  · refine (closeChain_acts f).askNothing ha fun g hg => ?_
    obtain ⟨_, -, hg⟩ := hg
    cases hg

/-- The message every flow keeps carries its lifetime, in every context the client can be in. -/
theorem Reachable.msgOk (he : e.SendWhole) (h : Reachable e c) (f : FlowId) : MsgOk (c.heap f) := by
  have hall : CtxOk c ∧ ∀ f, MsgOk (c.heap f) := by
    refine Steps.invariant (I := fun a => CtxOk a ∧ ∀ f, MsgOk (a.heap f))
      (fun op a b ha _ hs => ⟨(hs.cases ha.1).2, ?_⟩) h ⟨.empty, fun _ => .cleared rfl rfl⟩
    have h₀ : AskNothing [] a.io a := ⟨ha.2, by simp, .refl _⟩
    exact (hs.askNothing he ha.1 (by simp) h₀).msg
  exact hall.2 f

/-- Closing a flow with something to send, or whose lifetime is zero already, leaves it with lifetime
zero. -/
def Closes (c : Ctx) (f : FlowId) : Prop :=
  (c.heap f).state.isInactive = false ∨ (c.heap f).lifetime = 0

instance (c : Ctx) (f : FlowId) : Decidable (Closes c f) := inferInstanceAs (Decidable (_ ∨ _))

theorem pcpCloseFlowIntern_heap (e : Env) (c : Ctx) (f : FlowId) :
    ∃ v, (pcpCloseFlowIntern e c f).heap = Function.update c.heap f v ∧
      (Closes c f → v.lifetime = 0) := by
  rw [pcpCloseFlowIntern_eq]
  cases hi : (c.heap f).state.isInactive with
  | true =>
    have hf : ((failFlow c f).heap f).state.isInactive = true := by
      simp [failFlow, Ctx.modFlow, FlowState.isInactive]
    simp only [if_true, hf, Bool.not_true, Bool.false_eq_true, if_false]
    refine ⟨{ c.heap f with state := .failed }, ?_, fun hcl => ?_⟩
    · simp [failFlow, Ctx.modFlow]
    · exact hcl.resolve_left (by simp [hi])
  | false =>
    have hf : ((zeroLifetime e c f).heap f).state.isInactive = false := by
      rw [zeroLifetime_heap, Function.update_self, markUpdated_state]
      simp only [hi]
      rfl
    simp only [Bool.false_eq_true, if_false, hf, Bool.not_false, if_true]
    rw [zeroLifetime_heap, zeroLifetime_heap, Function.update_idem]
    exact ⟨_, rfl, fun _ => rfl⟩

theorem Closes.step {f g : FlowId} (h : Closes c g) : Closes (pcpCloseFlowIntern e c f) g := by
  obtain ⟨v, hheap, hz⟩ := pcpCloseFlowIntern_heap e c f
  unfold Closes
  rw [hheap]
  by_cases hg : g = f
  · subst hg
    rw [Function.update_self]
    exact .inr (hz h)
  · rw [Function.update_of_ne hg]
    exact h

/-- After `pcp_close_flow` the flows of the chain have lifetime zero. -/
theorem closeFold_zero {l : List FlowId} (hl : ∀ g ∈ l, Closes c g) :
    ∀ g, g ∈ l ∨ (c.heap g).lifetime = 0 →
      ((l.foldl (pcpCloseFlowIntern e) c).heap g).lifetime = 0 := by
  induction l generalizing c with
  | nil => exact fun g hg => hg.resolve_left (by simp)
  | cons f l ih =>
    intro g hg
    obtain ⟨v, hheap, hz⟩ := pcpCloseFlowIntern_heap e c f
    have hzero : v.lifetime = 0 := hz (hl f List.mem_cons_self)
    refine ih (fun g hg => (hl g (List.mem_cons_of_mem f hg)).step) g ?_
    rw [hheap]
    rcases hg with hg | hg
    · rcases List.mem_cons.mp hg with rfl | hg
      · exact .inr (by rw [Function.update_self]; exact hzero)
      · exact .inl hg
    · exact .inr (lifetime_update (.inl hzero) hg)

/-- A flow closed while it had something to send asks for nothing but lifetime zero afterwards,
whatever happens, until the application changes it again. -/
theorem closed_flow_asks_for_nothing {c₁ c₂ : Ctx} {f : FlowId} {dg : Option Datagram}
    (he : e.SendWhole) (hc : Reachable e c) (hcl : ∀ g ∈ c.chain f, Closes c g)
    (h : Step e c (.closeFlow f dg) c₁)
    (hrun : Runs e (fun a op => ∀ g ∈ op.updated e a, g ∉ c.chain f) c₁ c₂) :
    c.io.SentWith (fun p => p.flow ∈ c.chain f → ∀ l ∈ requestedLifetime p.bytes, l = 0) c₂.io := by
  have hok := hc.ctxOk
  have hstart : (∀ g ∈ c.chain f, g ∈ c.allFlows) →
      AskNothing (c.chain f) c.io (closeChain e c f) := by
    intro hlive
    have h₀ : AskNothing [] c.io c := ⟨hc.msgOk he, by simp, .refl _⟩
    have h₁ : AskNothing [] c.io (closeChain e c f) := (closeChain_acts f).askNothing h₀ (by simp)
    have hsilent := (closeChain_acts (e := e) (c := c) f).silent
    refine ⟨h₁.msg, fun g hg => ⟨?_, closeFold_zero hcl g (.inl hg)⟩, .of_eq hsilent.sent⟩
    exact Nat.lt_of_lt_of_le ((hok.wf 0).alloc (hlive g hg)) hsilent.heapTop
  have h₁ : AskNothing (c.chain f) c.io c₁ := by
    cases (h.cases hok).1 with
    | call hp _ _ => cases hp
    | close hlive hl hm ht =>
      have hok₁ := (closeChain_acts (e := e) (c := c) f).ctxOk hok
      have hmid := hm.askNothing hl.isPulse he hok₁ (hstart hlive)
      refine (ht.invariant (I := fun a => CtxOk a ∧ AskNothing (c.chain f) c.io a)
        (fun l a b ha hl hm => ?_) ⟨hm.ctxOk hl.isPulse hok₁, hmid⟩).2
      have hp := MicroOp.isPulse_of_isTimer hl
      exact ⟨hm.ctxOk hp ha.1, hm.askNothing hp he ha.1 ha.2⟩
  have h₂ : CtxOk c₂ ∧ AskNothing (c.chain f) c.io c₂ :=
    hrun.invariant (I := fun a => CtxOk a ∧ AskNothing (c.chain f) c.io a)
      (fun op a b ha hop hs => ⟨(hs.cases ha.1).2, hs.askNothing he ha.1 hop ha.2⟩)
      ⟨(h.cases hok).2, h₁⟩
  exact h₂.2.sent

end Runs

/-! ## A flow that is closed too early -/

/-- The server answers the first request with `ADDRESS_MISMATCH`, so the flow has failed. -/
def failedFlow : List Op :=
  [.addServer (.inet 0x0A000001 0) 2, .newFlow (.inet 0x0A000002 80) none none 6 60,
   .pulse none .zero, .pulse (some (announceResponse 12)) .zero]

/-- The flow is closed while it has failed. When the server is heard of again, every flow is sent
again, and this one still asks for its 60 seconds. -/
theorem closed_flow_comes_back : ∃ e c f dg c₁ c₂, e.SendWhole ∧ Reachable e c ∧
    Step e c (.closeFlow f dg) c₁ ∧
    Runs e (fun a op => ∀ g ∈ op.updated e a, g ∉ c.chain f) c₁ c₂ ∧
    ¬ c.io.SentWith (fun p => p.flow ∈ c.chain f → ∀ l ∈ requestedLifetime p.bytes, l = 0) c₂.io := by
  let e := Env.calm {}
  let c := runTo e (fun _ _ => True) 12 {} failedFlow
  let c₁ := stepTo e 12 c (.closeFlow 0 none)
  let P : Ctx → Op → Prop := fun a op => ∀ g ∈ op.updated e a, g ∉ c.chain 0
  let c₂ := runTo e P 12 c₁ [.pulse (some (announceResponse 0)) .zero]
  refine ⟨e, c, 0, none, c₁, c₂, fun _ => .inr (le_refl _), Runs.runTo ?_, Step.stepTo ?_,
    Runs.runTo ?_, fun h => ?_⟩
  · decide +kernel
  · decide +kernel
  · decide +kernel
  · have hbad : ∃ p ∈ c.io.sentSince c₂.io, p.flow ∈ c.chain 0 ∧
        requestedLifetime p.bytes = some 60 := by decide +kernel
    obtain ⟨p, hp, hpc, hl⟩ := hbad
    have h0 := h.of_mem hp hpc 60 hl
    cases h0

theorem closed_flow_asks_for_nothing_waiting :
    let e := Env.calm {}
    let c := runTo e (fun _ _ => True) 12 {} waitingFlow
    let c₁ := stepTo e 12 c (.closeFlow 0 none)
    let c₂ := runTo e (fun a op => ∀ g ∈ op.updated e a, g ∉ c.chain 0) 12 c₁
      [.pulse (some (announceResponse 12)) .zero, .pulse (some (announceResponse 0)) .zero]
    (∀ g ∈ c.chain 0, Closes c g) ∧
      c.io.SentWith (fun p => p.flow ∈ c.chain 0 → ∀ l ∈ requestedLifetime p.bytes, l = 0) c₂.io := by
  intro e c c₁ c₂
  have hcl : ∀ g ∈ c.chain 0, Closes c g := by decide +kernel
  refine ⟨hcl, closed_flow_asks_for_nothing (fun _ => .inr (le_refl _)) (Runs.runTo ?_) hcl
    (Step.stepTo ?_) (Runs.runTo ?_)⟩
  · decide +kernel
  · decide +kernel
  · decide +kernel

end LibPcp
