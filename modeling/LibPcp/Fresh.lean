import LibPcp.Closing

/-!
# LibPcp.Fresh

What is sent for a flow is what `build_pcp_msg` would make of the flow at that moment.

A flow keeps its message when the socket refuses it. Every way out of a failed transmission frees it,
but for one: when the response of a flow has revealed a restart, `fhndl_send` ignores that flow, and a
renewal that was refused before leaves its message behind (`RefusedRenewal`).

* `renewPhase_fresh`, `sendPhase_fresh`: one transmission, from a flow whose message is current.
* `requests_are_fresh`: every datagram of a run.
-/

namespace LibPcp

open ByteBuffer LabelledSteps

/-- What `build_pcp_msg` makes of the flow when it has no message. -/
def freshMsg (cfg : Config) (version : UInt8) (f : Flow) : Option (List UInt8) :=
  (encodeMsg cfg version f.clearMsgBuf .zero).map fun r => r.1.slice 0 r.2

/-- `pcp_msg_buffer` is `NULL` and `pcp_msg_len` is 0. -/
def Flow.Clean (f : Flow) : Prop := f.pcpMsgBuffer = none ∧ f.pcpMsgLen = 0

instance (f : Flow) : Decidable f.Clean :=
  decidable_of_iff (f.pcpMsgBuffer.isNone ∧ f.pcpMsgLen = 0) (by simp [Flow.Clean])

/-- The flow has no message, or the one that would be made now. -/
def Prepared (cfg : Config) (version : UInt8) (f : Flow) : Prop :=
  f.Clean ∨ ∃ b, f.pcpMsgBuffer = some b ∧ 0 < f.pcpMsgLen ∧
    encodeMsg cfg version f.clearMsgBuf .zero = some (b, f.pcpMsgLen)

/-- `g` is `f` but for what no message depends on. -/
def SameRequest (f g : Flow) : Prop :=
  g = { f with
    state := g.state, timeout := g.timeout, resendTimeout := g.resendTimeout
    retryCount := g.retryCount, pcpMsgBuffer := g.pcpMsgBuffer, pcpMsgLen := g.pcpMsgLen }

section Request

variable {cfg : Config} {version : UInt8} {f g h : Flow}

theorem SameRequest.trans (h₁ : SameRequest f g) (h₂ : SameRequest g h) : SameRequest f h := by
  unfold SameRequest at h₁ h₂ ⊢
  rw [h₂, h₁]

theorem SameRequest.encode (h : SameRequest f g) :
    encodeMsg cfg version g.clearMsgBuf .zero = encodeMsg cfg version f.clearMsgBuf .zero := by
  rw [h]
  rfl

theorem SameRequest.freshMsg (h : SameRequest f g) :
    freshMsg cfg version g = freshMsg cfg version f := by
  rw [LibPcp.freshMsg, LibPcp.freshMsg, h.encode]

theorem Prepared.same (hp : Prepared cfg version f) (h : SameRequest f g)
    (hb : g.pcpMsgBuffer = f.pcpMsgBuffer) (hl : g.pcpMsgLen = f.pcpMsgLen) :
    Prepared cfg version g := by
  rcases hp with ⟨h₁, h₂⟩ | ⟨b, h₁, h₂, h₃⟩
  · exact .inl ⟨hb.trans h₁, hl.trans h₂⟩
  · refine .inr ⟨b, hb.trans h₁, hl ▸ h₂, ?_⟩
    rw [h.encode, hl]
    exact h₃

theorem Flow.Clean.clearMsgBuf (h : f.Clean) : f.clearMsgBuf = f := by
  unfold Flow.clearMsgBuf
  rw [← h.1, ← h.2]

end Request

/-! ## One transmission -/

section Send

variable {e : Env}

/-- The message `pcp_flow_send_msg` sends is the one that would be made now. -/
theorem preparedMsg_fresh (s : Server) {f : Flow} (io : Io) (h : Prepared e.cfg s.pcpVersion f) :
    ∃ b l k, preparedMsg e s f io = (f.setMsg b l, { io with callocs := k }) ∧
      (b = none → l = 0) ∧
      (∀ b', b = some b' → encodeMsg e.cfg s.pcpVersion f.clearMsgBuf .zero = some (b', l)) ∧
      (f.Clean → b ≠ none → e.calloc io.callocs = true) := by
  unfold preparedMsg
  rcases h with h | ⟨b, hb, hl, henc⟩
  · rw [if_pos (.inl (by rw [h.1]; rfl)), buildPcpMsg_some, h.1]
    dsimp only
    split
    · rename_i hcalloc
      cases henc : encodeMsg e.cfg s.pcpVersion f .zero with
      | none => exact ⟨none, 0, _, rfl, fun _ => rfl, by simp, by simp⟩
      | some r =>
        obtain ⟨b, l⟩ := r
        refine ⟨some b, l, _, rfl, by simp, fun b' hb' => ?_, fun _ _ => hcalloc⟩
        cases hb'
        rw [h.clearMsgBuf]
        exact henc
    · refine ⟨none, 0, io.callocs + 1, ?_, fun _ => rfl, by simp, by simp⟩
      rw [← h.1, ← h.2]
      rfl
  · rw [if_neg (by simp [hb, Nat.ne_of_gt hl])]
    refine ⟨f.pcpMsgBuffer, f.pcpMsgLen, io.callocs, rfl, by simp [hb], fun b' hb' => ?_, fun hc => ?_⟩
    · rw [hb] at hb'
      cases hb'
      exact henc
    · rw [hc.1] at hb
      cases hb

/-- A datagram of the flow `id` with the message the flow stands for. -/
def FreshFor (cfg : Config) (id : FlowId) (s : Server) (f : Flow) (p : Sent) : Prop :=
  p.flow = id ∧ freshMsg cfg s.pcpVersion f = some p.bytes

theorem FreshFor.same {cfg : Config} {id : FlowId} {s : Server} {f g : Flow} {p : Sent}
    (hp : FreshFor cfg id s g p) (h : SameRequest f g) : FreshFor cfg id s f p :=
  ⟨hp.1, h.freshMsg ▸ hp.2⟩

theorem pcpFlowSendMsg_fresh (he : e.SendWhole) (id : FlowId) (i : Nat) (s : Server) {f : Flow} (io : Io)
    (h : Prepared e.cfg s.pcpVersion f) {ok : Bool} {f' : Flow} {io' : Io}
    (hr : pcpFlowSendMsg e id i s f io = (ok, f', io')) :
    SameRequest f f' ∧ io.SentWith (FreshFor e.cfg id s f) io' ∧ (ok = true → f'.Clean) ∧
      (ok = false → Prepared e.cfg s.pcpVersion f' ∧
        (f.Clean → ¬ f'.Clean → e.calloc io.callocs = true ∧ e.sendto io.sends ≤ 0)) ∧
      f'.state = f.state ∧ f'.timeout = f.timeout := by
  obtain ⟨b, l, k, hprep, hnone, hsome, hcalloc⟩ := preparedMsg_fresh s io h
  rw [pcpFlowSendMsg_eq, hprep] at hr
  cases b with
  | none =>
    cases hr
    have hclean : (f.setMsg none l).Clean := ⟨rfl, hnone rfl⟩
    exact ⟨rfl, .of_eq rfl, by simp, fun _ => ⟨.inl hclean, fun _ hn => absurd hclean hn⟩, rfl, rfl⟩
  | some b =>
    have henc := hsome b rfl
    have hl : l ≤ pcpMaxLen := by
      rcases encodeMsg_carries henc with rfl | ⟨-, hl, -⟩
      · exact Nat.zero_le _
      · exact hl
    generalize hmk : sentRecord id i s (f.setMsg (some b) l) = mk at hr
    have hfresh : FreshFor e.cfg id s f (mk (b.slice 0 l)) := by
      subst hmk
      refine ⟨rfl, ?_⟩
      rw [freshMsg, henc]
      rfl
    obtain ⟨hsent, hfail⟩ := sendLoop_whole he mk b hl { io with callocs := k }
    simp only [Flow.setMsg] at hr
    rcases hloop : sendLoop e mk b l l l { io with callocs := k } with ⟨ok', io₁⟩
    rw [hloop] at hsent hfail hr
    have hsent' : io.SentWith (FreshFor e.cfg id s f) io₁ :=
      Io.SentWith.trans (.of_eq rfl) (hsent.mono fun p hp => hp ▸ hfresh)
    cases ok' with
    | true =>
      cases hr
      exact ⟨rfl, hsent', fun _ => ⟨rfl, rfl⟩, by simp, rfl, rfl⟩
    | false =>
      cases hr
      obtain ⟨hpos, hneg⟩ := hfail rfl
      refine ⟨rfl, hsent'.trans (.of_eq rfl), by simp, fun _ => ⟨?_, fun hc _ => ?_⟩, rfl, rfl⟩
      · exact .inr ⟨b, rfl, hpos, henc⟩
      · exact ⟨hcalloc hc (by simp), hneg⟩

end Send

/-! ## Events of a flow -/

/-- What has been sent for the flow since `io` is current. -/
def SentFresh (x : FlowEnv) (f : Flow) (io io' : Io) : Prop :=
  io.SentWith (fun p => ∃ s, x.server = some s ∧ FreshFor x.env.cfg x.id s f p) io'

def PreparedFor (x : FlowEnv) (f : Flow) : Prop :=
  ∀ s, x.server = some s → Prepared x.env.cfg s.pcpVersion f

/-- A renewal that the socket refused and whose message stays. -/
structure LeftBehind (x : FlowEnv) (f : Flow) (io : Io) (f' : Flow) : Prop where
  restart : ∃ s, x.server = some s ∧ s.restartFlowMsg = some x.id
  same : SameRequest f f'
  prepared : PreparedFor x f'
  state : f'.state = .waitForLifetimeRenew
  timeout : f'.timeout = f.timeout
  refused : f.Clean → x.env.calloc io.callocs = true ∧ x.env.sendto io.sends ≤ 0

section Phases

variable {x : FlowEnv} {f : Flow} (io : Io)

theorem SentFresh.same {g : Flow} {io io' : Io} (hsent : SentFresh x g io io') (h : SameRequest f g) :
    SentFresh x f io io' :=
  hsent.mono fun _ ⟨s, hs, hp⟩ => ⟨s, hs, hp.same h⟩

theorem SentFresh.of_server {g : Flow} {io io' : Io} {s : Server} (hs : x.server = some s)
    (hsent : io.SentWith (FreshFor x.env.cfg x.id s g) io') (h : SameRequest f g) :
    SentFresh x f io io' :=
  hsent.mono fun _ hp => ⟨s, hs, hp.same h⟩

theorem failPhase_clean (f : Flow) : (failPhase x f io).1.Clean ∧ (failPhase x f io).2 = io := by
  unfold failPhase fhndlClearTimeouts
  cases x.msg with
  | none => exact ⟨⟨rfl, rfl⟩, rfl⟩
  | some m => exact ⟨⟨rfl, rfl⟩, rfl⟩

theorem waitPhase_clean (h : f.Clean) :
    (waitPhase x f io).1.Clean ∧ (waitPhase x f io).2.sent = io.sent := by
  have hev := fhndlWaitresp_event x { f with state := .waitResp } io
  have hclean : (fhndlWaitresp x { f with state := .waitResp } io).2.1.Clean := h
  have hio : (fhndlWaitresp x { f with state := .waitResp } io).2.2 = io.tick := rfl
  unfold waitPhase
  rcases hw : fhndlWaitresp x { f with state := .waitResp } io with ⟨ev, f', io'⟩
  rw [hw] at hev hclean hio
  cases hio
  rcases hev with hev | hev
  all_goals cases hev
  · obtain ⟨h₁, h₂⟩ := failPhase_clean (x := x) io.tick f'
    have h₃ : (failPhase x f' io.tick).2.sent = io.sent := by
      rw [h₂]
      rfl
    exact ⟨h₁, h₃⟩
  · exact ⟨hclean, rfl⟩

variable (he : x.env.SendWhole)
include he

theorem sendPhase_fresh (hp : PreparedFor x f) :
    (∃ s, x.server = some s ∧ s.restartFlowMsg = some x.id ∧
        sendPhase x f io = ({ f with state := .waitForLifetimeRenew }, io)) ∨
      ((sendPhase x f io).1.Clean ∧ SentFresh x f io (sendPhase x f io).2) := by
  unfold sendPhase
  rcases fhndlSend_cases x { f with state := .send } io with
    ⟨-, h⟩ | ⟨s, hs, ⟨hr, h⟩ | ⟨-, ⟨⟨f', io'⟩, hsend, h⟩ | ⟨f', io', hsend, h⟩⟩⟩
  · obtain ⟨h₁, h₂⟩ := failPhase_clean (x := x) io { f with state := .send }
    rw [h]
    refine .inr ⟨h₁, ?_⟩
    simp only [afterSend, h₂]
    exact .refl io
  · rw [h]
    exact .inl ⟨s, hs, hr, rfl⟩
  · have hprep : Prepared x.env.cfg s.pcpVersion { f with state := .send } :=
      (hp s hs).same rfl rfl rfl
    obtain ⟨-, hsent, -, -, -⟩ := pcpFlowSendMsg_fresh he _ _ s io hprep hsend
    obtain ⟨h₁, h₂⟩ := failPhase_clean (x := x) io' f'
    rw [h]
    refine .inr ⟨h₁, ?_⟩
    simp only [afterSend, h₂]
    exact .of_server hs hsent rfl
  · have hprep : Prepared x.env.cfg s.pcpVersion { f with state := .send } :=
      (hp s hs).same rfl rfl rfl
    obtain ⟨-, hsent, hclean, -, -⟩ := pcpFlowSendMsg_fresh he _ _ s io hprep hsend
    rw [h]
    have hclean' : (armResend x { f' with resendTimeout := x.env.cfg.retxIrt } io').1.Clean := hclean rfl
    obtain ⟨h₁, h₂⟩ := waitPhase_clean (x := x)
      (armResend x { f' with resendTimeout := x.env.cfg.retxIrt } io').2 hclean'
    exact .inr ⟨h₁, (SentFresh.of_server hs hsent rfl).trans (.of_eq h₂)⟩

theorem resendPhase_fresh (hp : PreparedFor x f) :
    (resendPhase x f io).1.Clean ∧ SentFresh x f io (resendPhase x f io).2 := by
  have hsame : SameRequest f (countRetry x.env.cfg { f with state := .send }) := by
    unfold countRetry
    split <;> rfl
  have hprep : ∀ s, x.server = some s →
      Prepared x.env.cfg s.pcpVersion (countRetry x.env.cfg { f with state := .send }) := by
    intro s hs
    refine (hp s hs).same hsame ?_ ?_ <;> (unfold countRetry; split <;> rfl)
  unfold resendPhase
  rcases fhndlResend_cases x { f with state := .send } io with
    ⟨-, h⟩ | ⟨s, hs, ⟨-, h⟩ | ⟨-, ⟨⟨f', io'⟩, hsend, h⟩ | ⟨f', io', hsend, h⟩⟩⟩
  · obtain ⟨h₁, h₂⟩ := failPhase_clean (x := x) io { f with state := .send }
    rw [h]
    refine ⟨h₁, ?_⟩
    simp only [afterSend, h₂]
    exact .refl io
  · obtain ⟨h₁, h₂⟩ := failPhase_clean (x := x) io (countRetry x.env.cfg { f with state := .send })
    rw [h]
    refine ⟨h₁, ?_⟩
    simp only [afterSend, h₂]
    exact .refl io
  · obtain ⟨-, hsent, -, -, -⟩ := pcpFlowSendMsg_fresh he _ _ s io (hprep s hs) hsend
    obtain ⟨h₁, h₂⟩ := failPhase_clean (x := x) io' f'
    rw [h]
    refine ⟨h₁, ?_⟩
    simp only [afterSend, h₂]
    exact .of_server hs hsent hsame
  · obtain ⟨-, hsent, hclean, -, -⟩ := pcpFlowSendMsg_fresh he _ _ s io (hprep s hs) hsend
    rw [h]
    generalize hrt : pcpRt x.env.cfg f'.resendTimeout (x.env.rand io'.rands) = rt
    have hclean' : (armResend x { f' with resendTimeout := rt }
        { io' with rands := io'.rands + 1 }).1.Clean := hclean rfl
    obtain ⟨h₁, h₂⟩ := waitPhase_clean (x := x) (armResend x { f' with resendTimeout := rt }
      { io' with rands := io'.rands + 1 }).2 hclean'
    exact ⟨h₁, (SentFresh.of_server hs hsent hsame).trans (.of_eq h₂)⟩

theorem renewPhase_fresh (hp : PreparedFor x f) :
    SentFresh x f io (renewPhase x f io).2 ∧
      ((renewPhase x f io).1.Clean ∨ LeftBehind x f io (renewPhase x f io).1) := by
  unfold renewPhase
  rcases fhndlSendRenew_cases x { f with state := .sendRenew } io with
    ⟨hn, h⟩ | ⟨s, hs, ⟨⟨f', io'⟩, hsend, h⟩ | ⟨f', io', hsend, h⟩⟩
  · rw [h]
    have hprep : PreparedFor x { f with state := .sendRenew } := fun s hs => (hp s hs).same rfl rfl rfl
    rcases sendPhase_fresh io he hprep with ⟨s, hs, -⟩ | ⟨h₁, h₂⟩
    · rw [hn] at hs
      cases hs
    · exact ⟨h₂.same rfl, .inl h₁⟩
  · have hprep : Prepared x.env.cfg s.pcpVersion { f with state := .sendRenew } :=
      (hp s hs).same rfl rfl rfl
    obtain ⟨hsame, hsent, -, hfail, -, htime⟩ := pcpFlowSendMsg_fresh he _ _ s io hprep hsend
    obtain ⟨hprep', hrefused⟩ := hfail rfl
    have hsame' : SameRequest f f' := SameRequest.trans (g := { f with state := .sendRenew }) rfl hsame
    have hsent' : SentFresh x f io io' := .of_server hs hsent rfl
    have hp' : PreparedFor x f' := by
      intro s' hs'
      rw [hs] at hs'
      cases hs'
      exact hprep'
    rw [h]
    dsimp only
    rcases sendPhase_fresh io' he hp' with ⟨s', hs', hr, heq⟩ | ⟨h₁, h₂⟩
    · rw [heq]
      refine ⟨hsent', ?_⟩
      by_cases hc : f'.Clean
      · exact .inl hc
      · refine .inr ⟨⟨s', hs', hr⟩, hsame'.trans rfl, fun s hs => (hp' s hs).same rfl rfl rfl, rfl,
          htime, fun hf => hrefused hf hc⟩
    · exact ⟨hsent'.trans (h₂.same hsame'), .inl h₁⟩
  · have hprep : Prepared x.env.cfg s.pcpVersion { f with state := .sendRenew } :=
      (hp s hs).same rfl rfl rfl
    obtain ⟨hsame, hsent, hclean, -, -⟩ := pcpFlowSendMsg_fresh he _ _ s io hprep hsend
    have hsame' : SameRequest f f' := SameRequest.trans (g := { f with state := .sendRenew }) rfl hsame
    have hsent' : SentFresh x f io io' := .of_server hs hsent rfl
    rcases h with ⟨-, h⟩ | ⟨-, h⟩
    · have hc : ({ f' with timeout := x.env.now io' } : Flow).Clean := hclean rfl
      rw [h]
      dsimp only
      rcases sendPhase_fresh io'.tick he (f := { f' with timeout := x.env.now io' })
        (fun _ _ => .inl hc) with ⟨s', -, -, heq⟩ | ⟨h₁, h₂⟩
      · rw [heq]
        exact ⟨hsent', .inl hc⟩
      · exact ⟨hsent'.trans (h₂.same (hsame'.trans rfl)), .inl h₁⟩
    · rw [h]
      exact ⟨hsent', .inl (hclean rfl)⟩

/-- An event from a flow without a message: what is sent is current, and a message stays only after a
refused renewal. -/
theorem flowStep_fresh {ev : FlowEvent} (hev : ev ≠ .msgSent) (hc : f.Clean) :
    SentFresh x f io (flowStep x ev f io).2 ∧
      ((flowStep x ev f io).1.Clean ∨
        (nextState f.state ev = some .sendRenew ∧ LeftBehind x f io (flowStep x ev f io).1)) := by
  have hp : PreparedFor x f := fun _ _ => .inl hc
  rw [flowStep_eq x f io hev]
  split
  · exact ⟨.refl io, .inl hc⟩
  · rename_i next hn
    cases next with
    | idle => exact ⟨.refl io, .inl hc⟩
    | waitForServerInit =>
      unfold flowPhase fhndlClearTimeouts
      cases x.msg with
      | none => exact ⟨.refl io, .inl ⟨rfl, rfl⟩⟩
      | some m => exact ⟨.refl io, .inl ⟨rfl, rfl⟩⟩
    | send =>
      simp only [flowPhase]
      split
      · obtain ⟨h₁, h₂⟩ := resendPhase_fresh io he hp
        exact ⟨h₂, .inl h₁⟩
      · rcases sendPhase_fresh io he hp with ⟨s, -, -, heq⟩ | ⟨h₁, h₂⟩
        · rw [heq]
          exact ⟨.refl io, .inl hc⟩
        · exact ⟨h₂, .inl h₁⟩
    | waitResp =>
      obtain ⟨h₁, h₂⟩ := waitPhase_clean (x := x) io hc
      exact ⟨.of_eq h₂, .inl h₁⟩
    | waitAfterShortLifeError =>
      unfold flowPhase fhndlShortlifeerror
      cases x.msg with
      | none => exact ⟨.refl io, .inl hc⟩
      | some m => exact ⟨.of_eq rfl, .inl hc⟩
    | waitForLifetimeRenew =>
      simp only [flowPhase]
      split
      · unfold fhndlReceivedSuccess
        cases x.msg with
        | none => exact ⟨.refl io, .inl hc⟩
        | some m =>
          obtain ⟨hb, hl⟩ := takeSuccess_msg x.env.cfg m { f with state := .waitForLifetimeRenew }
          exact ⟨.of_eq rfl, .inl ⟨hb.trans hc.1, hl.trans hc.2⟩⟩
      · exact ⟨.refl io, .inl hc⟩
    | sendRenew =>
      obtain ⟨h₁, h₂⟩ := renewPhase_fresh io he hp
      exact ⟨h₁, h₂.imp_right fun h => ⟨hn, h⟩⟩
    | failed =>
      obtain ⟨h₁, h₂⟩ := failPhase_clean (x := x) io f
      exact ⟨by simp only [flowPhase, h₂]; exact .refl io, .inl h₁⟩

end Phases

/-! ## Runs -/

/-- The datagrams sent during the call. -/
def Handled.datagrams (h : Handled) : List Sent :=
  h.after.sent.take (h.after.sent.length - h.before.sent.length)

/-- A datagram made of what the flow and its server were when the event was handled. -/
structure Handled.Current (e : Env) (h : Handled) (p : Sent) : Prop where
  flow : p.flow = h.flow
  fresh : ∃ sv, h.server = some sv ∧ freshMsg e.cfg sv.pcpVersion h.old = some p.bytes

/-- The socket refuses the renewal of the flow whose response revealed a restart of its server, while
the restart is still to be dealt with. -/
structure Handled.RefusedRenewal (e : Env) (h : Handled) : Prop where
  restart : ∃ sv, h.server = some sv ∧ sv.restartFlowMsg = some h.flow
  renewal : nextState h.old.state h.ev = some .sendRenew
  calloc : e.calloc h.before.callocs = true
  sendto : e.sendto h.before.sends ≤ 0

/-- No flow has a message, each event sent only what was current at it, and all that was sent belongs to
an event. -/
structure UpToDate (e : Env) (c : Ctx) : Prop where
  clean : ∀ f, (c.heap f).Clean
  current : ∀ h ∈ c.handled, ∀ p ∈ h.datagrams, h.Current e p
  sent : ∀ p ∈ c.io.sent, ∃ h ∈ c.handled, p ∈ h.datagrams

section Runs

variable {e : Env} {c c' : Ctx}

/-- Flows change, but neither do their messages nor what has been sent. -/
theorem UpToDate.congr (hu : UpToDate e c) (hheap : ∀ f, (c'.heap f).Clean)
    (hsent : c'.io.sent = c.io.sent) (hlog : c'.handled = c.handled) : UpToDate e c' := by
  refine ⟨hheap, ?_, fun p hp => ?_⟩
  · rw [hlog]
    exact hu.current
  · rw [hlog]
    exact hu.sent p (hsent ▸ hp)

theorem clean_update (hc : ∀ f, (c.heap f).Clean) {f : FlowId} {v : Flow} (hv : v.Clean) (g : FlowId) :
    (Function.update c.heap f v g).Clean := by
  by_cases hg : g = f
  · subst hg
    rw [Function.update_self]
    exact hv
  · rw [Function.update_of_ne hg]
    exact hc g

theorem handledEvent_datagrams {f : FlowId} {ev : FlowEvent} {m : Option RecvMsg} {new : List Sent}
    (hnew : (handleFlowEvent e c f ev m).io.sent = new ++ c.io.sent) :
    (handledEvent e c f ev m).datagrams = new := by
  rw [handleFlowEvent_io] at hnew
  simp only [Handled.datagrams, handledEvent]
  rw [hnew, List.length_append, Nat.add_sub_cancel, List.take_left]

theorem handleFlowEvent_upToDate (he : e.SendWhole) {f : FlowId} {ev : FlowEvent} {m : Option RecvMsg}
    (hev : ev ≠ .msgSent) (hu : UpToDate e c) (hn : ¬ (handledEvent e c f ev m).RefusedRenewal e) :
    UpToDate e (handleFlowEvent e c f ev m) := by
  obtain ⟨⟨new, hnew, hfresh⟩, hclean⟩ :=
    flowStep_fresh (x := c.flowEnv e f m) c.io he hev (hu.clean f)
  have hc : (flowStep (c.flowEnv e f m) ev (c.heap f) c.io).1.Clean := by
    refine hclean.resolve_right ?_
    rintro ⟨hrow, hleft⟩
    obtain ⟨hcalloc, hsend⟩ := hleft.refused (hu.clean f)
    exact hn ⟨hleft.restart, hrow, hcalloc, hsend⟩
  have hsent : (handleFlowEvent e c f ev m).io.sent = new ++ c.io.sent := by
    rw [handleFlowEvent_io]
    exact hnew
  have hdg := handledEvent_datagrams hsent
  refine ⟨fun g => ?_, fun h hm p hp => ?_, fun p hp => ?_⟩
  · rw [handleFlowEvent_heap]
    exact clean_update hu.clean hc g
  · rw [handleFlowEvent_handled] at hm
    rcases List.mem_cons.mp hm with rfl | hm
    · rw [hdg] at hp
      obtain ⟨s, hs, hflow, hmsg⟩ := hfresh p hp
      exact ⟨hflow, s, hs, hmsg⟩
    · exact hu.current h hm p hp
  · rw [hsent] at hp
    rw [handleFlowEvent_handled]
    rcases List.mem_append.mp hp with hp | hp
    · exact ⟨_, List.mem_cons_self, hdg ▸ hp⟩
    · obtain ⟨h, hm, hmem⟩ := hu.sent p hp
      exact ⟨h, List.mem_cons_of_mem _ hm, hmem⟩

/-- As long as no renewal of that kind has been refused. -/
def UpToDateUnless (e : Env) (c : Ctx) : Prop :=
  (∀ h ∈ c.handled, ¬ h.RefusedRenewal e) → UpToDate e c

theorem event_upToDate (he : e.SendWhole) {f : FlowId} {ev : FlowEvent} {m : Option RecvMsg}
    (hev : ev ≠ .msgSent) (hu : UpToDateUnless e c) :
    UpToDateUnless e (handleFlowEvent e c f ev m) := by
  intro hn
  rw [handleFlowEvent_handled] at hn
  exact handleFlowEvent_upToDate he hev (hu fun h hm => hn h (List.mem_cons_of_mem _ hm))
    (hn _ List.mem_cons_self)

/-- A change outside of `handle_flow_event` that adds no message. -/
theorem UpToDateUnless.congr (hu : UpToDateUnless e c)
    (hheap : (∀ f, (c.heap f).Clean) → ∀ f, (c'.heap f).Clean)
    (hsent : c'.io.sent = c.io.sent) (hlog : c'.handled = c.handled) : UpToDateUnless e c' := by
  intro hn
  rw [hlog] at hn
  exact (hu hn).congr (hheap (hu hn).clean) hsent hlog

theorem Flow.Touched.clean {v w : Flow} (h : v.Touched w) (hc : v.Clean) : w.Clean := by
  cases h with
  | same | align | reset | putBack => exact hc
  | announce _ hst hmsg => exact hmsg

theorem Flow.Called.clean {v w : Flow} (h : Flow.Called e c v w) (hc : v.Clean) : w.Clean := by
  cases h with
  | link | fail => exact hc
  | create b h => exact ⟨h.pcpMsgBuffer, h.pcpMsgLen⟩
  | update h => exact ⟨rfl, rfl⟩

theorem Reachable.upToDate (he : e.SendWhole) (h : Reachable e c) : UpToDateUnless e c := by
  have hkept : KeptByEvents e (UpToDateUnless e) :=
    { event := fun hev hu => event_upToDate he hev hu
      unheard := fun h hu => hu.congr (fun hc f => (h.flow f).clean (hc f)) h.sent h.handled
      call := fun hlog hsent hflow hu => hu.congr (fun hc f => (hflow f).clean (hc f)) hsent hlog }
  exact hkept.kept.reachable h fun _ => ⟨fun _ => ⟨rfl, rfl⟩, by simp, by simp⟩

end Runs

/-- Every datagram an event of the run has sent is what `build_pcp_msg` would have made at that event of
its flow and of its server, nothing is sent but by events, and between calls no flow has a message, unless
a renewal was refused while the flow had a restart to answer for. -/
theorem requests_are_fresh {e : Env} {c : Ctx} (he : e.SendWhole) (h : Reachable e c)
    (hn : ∀ h ∈ c.handled, ¬ h.RefusedRenewal e) :
    (∀ h ∈ c.handled, ∀ p ∈ h.datagrams, p.flow = h.flow ∧
      ∃ sv, h.server = some sv ∧ freshMsg e.cfg sv.pcpVersion h.old = some p.bytes) ∧
    (∀ p ∈ c.io.sent, ∃ h ∈ c.handled, p ∈ h.datagrams) ∧
    ∀ f, (c.heap f).pcpMsgBuffer = none ∧ (c.heap f).pcpMsgLen = 0 := by
  have hu := h.upToDate he hn
  refine ⟨fun h hm p hp => ?_, hu.sent, hu.clean⟩
  have hcur := hu.current h hm p hp
  exact ⟨hcur.flow, hcur.fresh⟩

theorem requests_are_fresh_waiting :
    let c := runTo (.calm {}) (fun _ _ => True) 12 {} waitingFlow
    c.io.sent.length = 1 ∧ (c.heap 0).pcpMsgBuffer = none := by
  intro c
  have hwhole : (Env.calm {}).SendWhole := fun _ => .inr (Int.le_refl _)
  have hreach : Reachable (.calm {}) c := Runs.runTo (by decide +kernel)
  have hn : ∀ h ∈ c.handled, ¬ h.RefusedRenewal (.calm {}) :=
    fun h _ hr => absurd hr.sendto (show ¬ (pcpMaxLen : Int) ≤ 0 by decide)
  exact ⟨by decide +kernel, ((requests_are_fresh hwhole hreach hn).2.2 0).1⟩

/-! ## A renewal that is refused -/

/-- The socket refuses the second datagram, and the clock goes back by a second after that. -/
def slipEnv : Env :=
  { Env.calm {} with
    clock := fun i => if i < 21 then ⟨1000, 0⟩ else if i < 37 then ⟨999, 0⟩ else ⟨1030, 0⟩
    sendto := fun i => if i = 1 then -1 else pcpMaxLen }

/-- The second answer has a lifetime of a second and reveals a restart; the renewal that is due at once
is refused. -/
def afterRefusal : Ctx :=
  runTo slipEnv (fun _ _ => True) 12 {}
    (waitingFlow ++ [.pulse (some (mapResponse 0 60 1000 0x0B000001)) .zero,
      .pulse (some (mapResponse 0 1 5 0x0B000001)) .zero])

/-- The third answer brings another external address, and the next renewal is due. -/
def afterRenewal : Ctx :=
  stepTo slipEnv 12 afterRefusal (.pulse (some (mapResponse 0 60 5 0x0B000002)) .zero)

theorem slipEnv_sendWhole : slipEnv.SendWhole := by
  intro i
  change (if i = 1 then (-1 : Int) else _) ≤ 0 ∨ (_ ≤ if i = 1 then (-1 : Int) else _)
  split
  · exact .inl (by decide)
  · exact .inr (Int.le_refl _)

theorem afterRefusal_reachable : Reachable slipEnv afterRefusal := Runs.runTo (by decide +kernel)

theorem afterRenewal_reachable : Reachable slipEnv afterRenewal := by
  have hstep : Step slipEnv afterRefusal (.pulse (some (mapResponse 0 60 5 0x0B000002)) .zero)
      afterRenewal := Step.stepTo (by decide +kernel)
  exact Steps.trans afterRefusal_reachable (.single hstep trivial)

/-- The last byte of the external address: in the datagram of the newest call, and in a new message. -/
theorem afterRenewal_newest :
    (afterRenewal.handled.head?.map fun h => (h.datagrams.map fun p => p.bytes.getLast?,
      h.server.map fun sv => (freshMsg slipEnv.cfg sv.pcpVersion h.old).map List.getLast?)) =
      some ([some 1], some (some (some 2))) := by
  decide +kernel

/-- The flow keeps the refused message when the pulse returns, and sends it when it has another
external address. -/
theorem stale_request :
    slipEnv.SendWhole ∧ Reachable slipEnv afterRefusal ∧ Reachable slipEnv afterRenewal ∧
      (afterRefusal.heap 0).pcpMsgBuffer.isSome = true ∧
      ∃ h ∈ afterRenewal.handled, ∃ p ∈ h.datagrams, ∃ sv, h.server = some sv ∧
        freshMsg slipEnv.cfg sv.pcpVersion h.old ≠ some p.bytes := by
  refine ⟨slipEnv_sendWhole, afterRefusal_reachable, afterRenewal_reachable, by decide +kernel, ?_⟩
  obtain ⟨h, hhead, hval⟩ := Option.map_eq_some_iff.mp afterRenewal_newest
  simp only [Prod.mk.injEq, Option.map_eq_some_iff, List.map_eq_singleton_iff] at hval
  obtain ⟨⟨p, hp, hbyte⟩, sv, hsv, bytes, hfresh, hnew⟩ := hval
  refine ⟨h, List.mem_of_head? hhead, p, by simp [hp], sv, hsv, fun heq => ?_⟩
  rw [hfresh, Option.some.injEq] at heq
  rw [heq, hbyte] at hnew
  simp at hnew

end LibPcp
