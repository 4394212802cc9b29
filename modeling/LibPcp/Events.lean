import LibPcp.Retries

/-!
# LibPcp.Events

How far one event takes a flow.

The loop of `handle_flow_event` feeds the event a handler returns back into the tables. `flowCalls` lists
the handlers it runs; `handlersLeft` and `sendsLeft` bound what is still to come after a handler has
returned an event, and every round lowers them (`round_left`).

* `handleFlowEvent_bounded`: at most four handlers and two transmissions, a message where one is read,
  and the states an event can end in.
* `response_resolves_iff`: the result codes that end an exchange.
-/

namespace LibPcp

/-! ## The handlers of one event -/

/-- A call of a transition handler: which one, and what it is given. -/
structure HandlerCall where
  handler : FlowHandler
  flow : Flow
  io : Io

/-- The calls the loop of `handle_flow_event` makes, in their order. -/
def flowCalls (x : FlowEnv) : Nat → FlowState → FlowEvent → Flow → Io → List HandlerCall
  | 0, _, _, _, _ => []
  | n + 1, cur, ev, f, io =>
    match nextState cur ev with
    | none => []
    | some next =>
      match transHandler cur next with
      | none => []
      | some h =>
        ⟨h, { f with state := next }, io⟩ ::
          match h.run x { f with state := next } io with
          | (.none, _) => []
          | (ev', f', io') => flowCalls x n next ev' f' io'

/-- How often the call reaches `pcp_flow_send_msg`. -/
def HandlerCall.sends (x : FlowEnv) (k : HandlerCall) : Nat :=
  match k.handler, x.server with
  | .send, some s => if s.restartFlowMsg = some x.id then 0 else 1
  | .resend, some _ => if RetriesUsed x.env.cfg k.flow then 0 else 1
  | .sendRenew, some _ => 1
  | _, _ => 0

def sendCount (x : FlowEnv) (l : List HandlerCall) : Nat := (l.map (HandlerCall.sends x)).sum

/-- The handler reads the received message. -/
def FlowHandler.ReadsMsg (h : FlowHandler) : Prop := h = .shortlifeerror ∨ h = .receivedSuccess

/-! ## What is left after an event -/

def handlersLeft : FlowState → FlowEvent → Nat
  | .send, .ignored | .sendRenew, .msgSent => 0
  | .waitResp, .failed | .send, .failed => 1
  | .send, .msgSent => 2
  | .sendRenew, .failed => 3
  | _, _ => 4

def sendsLeft : FlowState → FlowEvent → Nat
  | .waitResp, .failed | .send, .failed | .send, .ignored | .send, .msgSent | .sendRenew, .msgSent => 0
  | .sendRenew, .failed => 1
  | _, _ => 2

/-- What a handler is good for at most. -/
def FlowHandler.maxSends : FlowHandler → Nat
  | .send | .resend | .sendRenew => 1
  | _ => 0

theorem HandlerCall.sends_le (x : FlowEnv) (k : HandlerCall) : k.sends x ≤ k.handler.maxSends := by
  unfold HandlerCall.sends
  cases k.handler <;> cases x.server <;> dsimp only [FlowHandler.maxSends]
  all_goals first
    | exact Nat.le_refl _
    | exact Nat.zero_le _
    | split <;> decide

/-- The events a handler can return besides `fev_none`. -/
def FlowHandler.returns : FlowHandler → List FlowEvent
  | .waitresp => [.failed]
  | .send => [.failed, .ignored, .msgSent]
  | .resend | .sendRenew => [.failed, .msgSent]
  | .shortlifeerror | .receivedSuccess | .clearTimeouts => []

theorem FlowHandler.run_event (h : FlowHandler) (x : FlowEnv) (f : Flow) (io : Io) :
    (h.run x f io).1 = .none ∨ (h.run x f io).1 ∈ h.returns := by
  cases h with
  | waitresp =>
    rcases fhndlWaitresp_event x f io with h | h
    · exact .inr (by simp [FlowHandler.run, FlowHandler.returns, h])
    · exact .inl h
  | resend =>
    rcases fhndlResend_event x f io with h | h <;>
      exact .inr (by simp [FlowHandler.run, FlowHandler.returns, h])
  | send =>
    rcases fhndlSend_event x f io with h | h | h <;>
      exact .inr (by simp [FlowHandler.run, FlowHandler.returns, h])
  | sendRenew =>
    rcases fhndlSendRenew_event x f io with h | h <;>
      exact .inr (by simp [FlowHandler.run, FlowHandler.returns, h])
  | shortlifeerror =>
    left
    simp only [FlowHandler.run, fhndlShortlifeerror]
    cases x.msg <;> rfl
  | receivedSuccess =>
    left
    simp only [FlowHandler.run, fhndlReceivedSuccess]
    cases x.msg <;> rfl
  | clearTimeouts => exact .inl rfl

/-- A round from `cur` with `ev` that runs `h` for the state `next`. -/
structure Round (cur : FlowState) (ev : FlowEvent) (next : FlowState) (h : FlowHandler) : Prop where
  handlers : 1 ≤ handlersLeft cur ev
  sends : h.maxSends ≤ sendsLeft cur ev
  response : h = .shortlifeerror ∨ h = .receivedSuccess → ev.isRes
  left : ∀ ev' ∈ h.returns, handlersLeft next ev' + 1 ≤ handlersLeft cur ev ∧
    sendsLeft next ev' + h.maxSends ≤ sendsLeft cur ev ∧ ev'.isRes = false

instance (cur : FlowState) (ev : FlowEvent) (next : FlowState) (h : FlowHandler) :
    Decidable (Round cur ev next h) :=
  decidable_of_iff
    ((1 ≤ handlersLeft cur ev ∧ h.maxSends ≤ sendsLeft cur ev ∧
        (h = .shortlifeerror ∨ h = .receivedSuccess → ev.isRes)) ∧
      ∀ ev' ∈ h.returns, handlersLeft next ev' + 1 ≤ handlersLeft cur ev ∧
        sendsLeft next ev' + h.maxSends ≤ sendsLeft cur ev ∧ ev'.isRes = false)
    ⟨fun ⟨⟨h₁, h₂, h₃⟩, h₄⟩ => ⟨h₁, h₂, h₃, h₄⟩, fun ⟨h₁, h₂, h₃, h₄⟩ => ⟨⟨h₁, h₂, h₃⟩, h₄⟩⟩

/-- Every round lowers what is left. -/
theorem round_left {cur next : FlowState} {ev : FlowEvent} {h : FlowHandler}
    (hn : nextState cur ev = some next) (ht : transHandler cur next = some h) :
    Round cur ev next h := by
  obtain ⟨r, hr, -, heq⟩ := nextState_row hn
  have htable : ∀ r ∈ flowEventsSm, nextState cur r.2.1 = some r.2.2 →
      ∀ h ∈ transHandler cur r.2.2, Round cur r.2.1 r.2.2 h := by
    cases cur <;> decide
  have hround := htable r hr
  rw [heq] at hround
  exact hround hn h ht

section Calls

variable (x : FlowEnv)

theorem flowCalls_left (n : Nat) (cur : FlowState) (ev : FlowEvent) (f : Flow) (io : Io) :
    (flowCalls x n cur ev f io).length ≤ handlersLeft cur ev ∧
      sendCount x (flowCalls x n cur ev f io) ≤ sendsLeft cur ev := by
  induction n generalizing cur ev f io with
  | zero => exact ⟨Nat.zero_le _, Nat.zero_le _⟩
  | succ n ih =>
    rw [flowCalls]
    split
    · exact ⟨Nat.zero_le _, Nat.zero_le _⟩
    · rename_i next hn
      split
      · exact ⟨Nat.zero_le _, Nat.zero_le _⟩
      · rename_i h ht
        have hround := round_left hn ht
        have hk := HandlerCall.sends_le x ⟨h, { f with state := next }, io⟩
        have hev := h.run_event x { f with state := next } io
        simp only [sendCount, List.length_cons, List.map_cons, List.sum_cons]
        split
        · exact ⟨hround.handlers, Nat.le_trans hk hround.sends⟩
        · rename_i ev' f' io' hne heq
          rw [heq] at hev
          obtain ⟨h₁, h₂, -⟩ := hround.left ev' (hev.resolve_left hne)
          obtain ⟨ih₁, ih₂⟩ := ih next ev' f' io'
          simp only [sendCount] at ih₂
          exact ⟨by omega, by dsimp only at hk; omega⟩

/-- Only a response leads to a handler that reads one, and only in the first round. -/
theorem flowCalls_msg (n : Nat) (cur : FlowState) (ev : FlowEvent) (f : Flow) (io : Io) :
    ∀ k ∈ flowCalls x n cur ev f io, k.handler.ReadsMsg → ev.isRes := by
  induction n generalizing cur ev f io with
  | zero => intro k hk; cases hk
  | succ n ih =>
    intro k hk hr
    rw [flowCalls] at hk
    split at hk
    · cases hk
    · rename_i next hn
      split at hk
      · cases hk
      · rename_i h ht
        have hround := round_left hn ht
        have hev := h.run_event x { f with state := next } io
        rcases List.mem_cons.mp hk with rfl | hk
        · exact hround.response hr
        · split at hk
          · cases hk
          · rename_i ev' f' io' hne heq
            rw [heq] at hev
            obtain ⟨-, -, h₃⟩ := hround.left ev' (hev.resolve_left hne)
            rw [ih next ev' f' io' k hk hr] at h₃
            cases h₃

theorem flowLoop_phase (n : Nat) (cur : FlowState) (ev : FlowEvent) (f : Flow) (io : Io) :
    flowLoop x (n + 5) cur ev f io =
      some (match nextState cur ev with
        | none => (f, io)
        | some next => flowPhase x cur next f io) := by
  by_cases hev : ev = .msgSent
  · -- no caller starts with this event: it is the one `fhndl_send` returns
    subst hev
    cases cur with
    | send => exact flowLoop_send_msgSent x (n + 3) f io
    | idle | waitForServerInit | waitResp | waitAfterShortLifeError | waitForLifetimeRenew
    | sendRenew | failed => rfl
  · exact flowLoop_total x n cur ev f io hev

end Calls

/-- The states an event that has a row in the table ends in. -/
def FlowState.Resting (st : FlowState) : Prop :=
  st = .waitForServerInit ∨ st.Active

/-- What `handle_flow_event` promises: the loop returns, whatever the bound is beyond five rounds, and
it has made at most four calls. -/
theorem handleFlowEvent_bounded (e : Env) (c : Ctx) (f : FlowId) (ev : FlowEvent) (m : Option RecvMsg)
    (hm : ∀ code, ev = .res code → m.isSome) :
    (∀ n, flowLoop (c.flowEnv e f m) (n + 5) (c.heap f).state ev (c.heap f) c.io =
      some ((handleFlowEvent e c f ev m).heap f, (handleFlowEvent e c f ev m).io)) ∧
    (∀ n, (flowCalls (c.flowEnv e f m) n (c.heap f).state ev (c.heap f) c.io).length ≤ 4 ∧
      sendCount (c.flowEnv e f m) (flowCalls (c.flowEnv e f m) n (c.heap f).state ev (c.heap f) c.io) ≤ 2 ∧
      ∀ k ∈ flowCalls (c.flowEnv e f m) n (c.heap f).state ev (c.heap f) c.io,
        k.handler.ReadsMsg → m.isSome) ∧
    (nextState (c.heap f).state ev ≠ none → ((handleFlowEvent e c f ev m).heap f).state.Resting) := by
  have hheap : (handleFlowEvent e c f ev m).heap f =
      (flowStep (c.flowEnv e f m) ev (c.heap f) c.io).1 := by
    rw [handleFlowEvent_heap, Function.update_self]
  have hloop := fun n => flowLoop_phase (c.flowEnv e f m) n (c.heap f).state ev (c.heap f) c.io
  have hstep : flowStep (c.flowEnv e f m) ev (c.heap f) c.io =
      match nextState (c.heap f).state ev with
      | none => (c.heap f, c.io)
      | some next => flowPhase (c.flowEnv e f m) (c.heap f).state next (c.heap f) c.io := by
    rw [flowStep, hloop 0]
    rfl
  refine ⟨fun n => ?_, fun n => ⟨?_, ?_, fun k hk hr => ?_⟩, fun hrow => ?_⟩
  · rw [hloop n, hheap, handleFlowEvent_io, hstep]
  · have hle := (flowCalls_left (c.flowEnv e f m) n (c.heap f).state ev (c.heap f) c.io).1
    exact Nat.le_trans hle (by unfold handlersLeft; split <;> decide)
  · have hle := (flowCalls_left (c.flowEnv e f m) n (c.heap f).state ev (c.heap f) c.io).2
    exact Nat.le_trans hle (by unfold sendsLeft; split <;> decide)
  · have hres := flowCalls_msg (c.flowEnv e f m) n _ ev _ _ k hk hr
    cases ev with
    | res code => exact hm code rfl
    | flowTimedout | serverInitialized | send | msgSent | failed | none | serverRestarted | ignored =>
      cases hres
  · rw [hheap, hstep]
    cases hn : nextState (c.heap f).state ev with
    | none => exact absurd hn hrow
    | some next =>
      rcases flowPhase_state (c.flowEnv e f m) (c.heap f) c.io (nextState_cases hn).1 with h | ⟨-, h⟩
      · exact .inr h
      · exact .inl h

theorem handleFlowEvent_bounded_success :
    let c := runTo (.calm {}) (fun _ _ => True) 12 {} waitingFlow
    nextState (c.heap 0).state (.res resSuccess) = some .waitForLifetimeRenew ∧
      ((handleFlowEvent (.calm {}) c 0 (.res resSuccess) (some c.msg)).heap 0).state.Resting := by
  intro c
  have hrow : nextState (c.heap 0).state (.res resSuccess) = some .waitForLifetimeRenew := by
    decide +kernel
  refine ⟨hrow, (handleFlowEvent_bounded (.calm {}) c 0 (.res resSuccess) (some c.msg) ?_).2.2 ?_⟩
  · exact fun _ _ => rfl
  · rw [hrow]
    simp

/-! ## Responses to a request -/

/-- The result codes with a row for a flow that waits for its answer. -/
theorem nextState_response (code : UInt32) :
    nextState .waitResp (.res code) ≠ none ↔
      code ≤ resExcessiveRemotePeers ∧ code ≠ resMalformedOption := by
  constructor
  · intro hrow
    obtain ⟨next, hn⟩ := Option.ne_none_iff_exists'.mp hrow
    obtain ⟨r, hr, -, heq⟩ := nextState_row hn
    have htable : ∀ r ∈ flowEventsSm, r.2.1.isRes = true →
        ∃ n ∈ List.range 14, n ≠ 6 ∧ r.2.1 = .res (UInt32.ofNat n) := by
      decide
    have hrange : ∀ n ∈ List.range 14, n ≠ 6 →
        UInt32.ofNat n ≤ resExcessiveRemotePeers ∧ UInt32.ofNat n ≠ resMalformedOption := by
      decide
    obtain ⟨n, hn₁, hn₂, hcode⟩ := htable r hr (by rw [heq]; rfl)
    rw [heq] at hcode
    cases hcode
    exact hrange n hn₁ hn₂
  · rintro ⟨hle, hne⟩
    have htable : ∀ n < 14, n ≠ 6 → nextState .waitResp (.res (UInt32.ofNat n)) ≠ none := by decide
    have hcode : UInt32.ofNat code.toNat = code := UInt32.ofNat_toNat
    rw [← hcode]
    refine htable code.toNat ?_ fun h => hne ?_
    · exact Nat.lt_succ_of_le (UInt32.le_iff_toNat_le.mp hle)
    · rw [← hcode, h]
      rfl

/-- A response with a row leaves its result code. -/
theorem flowStep_recvResult {x : FlowEnv} {m : RecvMsg} {f : Flow} (io : Io) (hm : x.msg = some m)
    (hst : f.state = .waitResp) {code : UInt32} (hrow : nextState .waitResp (.res code) ≠ none) :
    (flowStep x (.res code) f io).1.recvResult = m.recvResult := by
  rw [flowStep_eq x f io (by simp), hst]
  cases hn : nextState .waitResp (.res code) with
  | none => exact absurd hn hrow
  | some next =>
    obtain ⟨r, hr, hcur, heq⟩ := nextState_row hn
    have htable : ∀ r ∈ flowEventsSm, (r.1 = some .waitResp ∨ r.1 = none) → r.2.1.isRes = true →
        r.2.2 ∈ [.waitForLifetimeRenew, .waitForServerInit, .waitAfterShortLifeError, .failed] := by
      decide
    have hnext := htable r hr hcur (by rw [heq]; rfl)
    rw [heq] at hnext
    simp only [List.mem_cons, List.not_mem_nil, or_false] at hnext
    rcases hnext with rfl | rfl | rfl | rfl
    · simp only [flowPhase, true_or, if_true, fhndlReceivedSuccess, hm, takeSuccess]
    · simp only [flowPhase, fhndlClearTimeouts, hm, Flow.clearMsgBuf]
    · simp only [flowPhase, fhndlShortlifeerror, hm]
    · simp only [flowPhase, failPhase, fhndlClearTimeouts, hm, Flow.clearMsgBuf]

/-- Matching looks at the flows and leaves them alone. -/
theorem matchRcvdMsg_kept (c : Ctx) (s : Nat) :
    (matchRcvdMsg c s).2.heap = c.heap ∧ (matchRcvdMsg c s).2.io = c.io ∧
      (matchRcvdMsg c s).2.msg.recvResult = c.msg.recvResult := by
  unfold matchRcvdMsg
  dsimp only
  repeat' split
  all_goals exact ⟨rfl, rfl, rfl⟩

/-- A flow that waits for the answer and gets one is done with it if and only if the result code is one
that the table knows. -/
theorem response_resolves_iff (e : Env) (c : Ctx) (s : Nat) (f : FlowId)
    (hmatch : (matchRcvdMsg c s).1 = some f) (hst : (c.heap f).state = .waitResp) :
    (((serverProcessRcvdPcpMsg e c s).2.heap f).state ≠ .waitResp ∧
        ((serverProcessRcvdPcpMsg e c s).2.heap f).recvResult = c.msg.recvResult) ↔
      c.msg.recvResult ≤ resExcessiveRemotePeers ∧ c.msg.recvResult ≠ resMalformedOption := by
  obtain ⟨hheap, hio, hres⟩ := matchRcvdMsg_kept c s
  rcases hm : matchRcvdMsg c s with ⟨found, c₁⟩
  rw [hm] at hmatch hheap hio hres
  dsimp only at hmatch hheap hio hres
  subst hmatch
  have hst₁ : (c₁.heap f).state = .waitResp := by rw [hheap]; exact hst
  have hproc : (serverProcessRcvdPcpMsg e c s).2.heap f =
      (flowStep (c₁.flowEnv e f (some c₁.msg)) (.res c₁.msg.recvResult) (c₁.heap f) c₁.io).1 := by
    rw [serverProcessRcvdPcpMsg, hm]
    exact (congrFun (handleFlowEvent_heap ..) f).trans (Function.update_self ..)
  rw [hproc, ← nextState_response, ← hres]
  constructor
  · rintro ⟨hleft, -⟩ hnone
    refine hleft ?_
    rw [flowStep_eq _ _ _ (by simp), hst₁, hnone]
    exact hst₁
  · intro hrow
    exact ⟨flowStep_answered _ _ _ hst₁ hrow, flowStep_recvResult _ rfl hst₁ hrow⟩

/-- The context in which the answer with result code `result` to the request of `waitingFlow` is
processed. -/
def answeredWith (result : UInt8) : Ctx :=
  (acceptMsg (.calm {}) (readMsg (.calm {}) (runTo (.calm {}) (fun _ _ => True) 12 {} waitingFlow)
    (mapResponse result 60 1000 0x0B000001))).2

theorem response_resolves_iff_quota :
    (matchRcvdMsg (answeredWith 10) 0).1 = some 0 ∧ ((answeredWith 10).heap 0).state = .waitResp ∧
      ((serverProcessRcvdPcpMsg (.calm {}) (answeredWith 10) 0).2.heap 0).state ≠ .waitResp := by
  have hmatch : (matchRcvdMsg (answeredWith 10) 0).1 = some 0 := by decide +kernel
  have hst : ((answeredWith 10).heap 0).state = .waitResp := by decide +kernel
  refine ⟨hmatch, hst, ((response_resolves_iff _ _ 0 0 hmatch hst).mpr ?_).1⟩
  decide +kernel

/-- `MALFORMED_OPTION` has an event and no row: the request stays unanswered. -/
theorem malformed_option_unresolved :
    (matchRcvdMsg (answeredWith 6) 0).1 = some 0 ∧ ((answeredWith 6).heap 0).state = .waitResp ∧
      ¬ (((serverProcessRcvdPcpMsg (.calm {}) (answeredWith 6) 0).2.heap 0).state ≠ .waitResp ∧
        ((serverProcessRcvdPcpMsg (.calm {}) (answeredWith 6) 0).2.heap 0).recvResult =
          (answeredWith 6).msg.recvResult) := by
  decide +kernel

end LibPcp
