import Mathlib.Logic.Relation
import LibPcp.FlowMachine

/-!
# LibPcp.FlowSteps

What one event can do to a flow.

The loop of `handle_flow_event` runs at most four handlers. `flowStep_eq` writes it out as phases: a
request is sent (`sendPhase`, `resendPhase`, `renewPhase`), the flow then waits for the answer
(`waitPhase`) or fails (`failPhase`). The rest of the development uses the phases and not the tables.

* `flowLoop_total`: five rounds of the loop are enough.
* `flowStep_fixed`, `flowStep_sent`: the fields of the flow that no event changes, and what is sent.
* `flowStep_state`: after an event that has a row in the table the flow is neither idle nor sending.
-/

namespace LibPcp

open ByteBuffer

/-! ## Phases -/

def failPhase (x : FlowEnv) (f : Flow) (io : Io) : Flow × Io :=
  (fhndlClearTimeouts x { f with state := .failed } io).2

def waitPhase (x : FlowEnv) (f : Flow) (io : Io) : Flow × Io :=
  match fhndlWaitresp x { f with state := .waitResp } io with
  | (.failed, f, io) => failPhase x f io
  | (_, r) => r

/-- What follows a handler that was entered in `pfs_send`. -/
def afterSend (x : FlowEnv) : FlowEvent × Flow × Io → Flow × Io
  | (.msgSent, f, io) => waitPhase x f io
  | (.failed, f, io) => failPhase x f io
  | (_, f, io) => ({ f with state := .waitForLifetimeRenew }, io)

def sendPhase (x : FlowEnv) (f : Flow) (io : Io) : Flow × Io :=
  afterSend x (fhndlSend x { f with state := .send } io)

def resendPhase (x : FlowEnv) (f : Flow) (io : Io) : Flow × Io :=
  afterSend x (fhndlResend x { f with state := .send } io)

def renewPhase (x : FlowEnv) (f : Flow) (io : Io) : Flow × Io :=
  match fhndlSendRenew x { f with state := .sendRenew } io with
  | (.msgSent, f, io) => ({ f with state := .waitForLifetimeRenew }, io)
  | (_, f, io) => sendPhase x f io

/-- From state `cur` into state `next` and on until no event is left. -/
def flowPhase (x : FlowEnv) (cur next : FlowState) (f : Flow) (io : Io) : Flow × Io :=
  match next with
  | .send => if cur = .waitResp then resendPhase x f io else sendPhase x f io
  | .waitResp => waitPhase x f io
  | .sendRenew => renewPhase x f io
  | .waitAfterShortLifeError =>
    (fhndlShortlifeerror x { f with state := .waitAfterShortLifeError } io).2
  | .waitForLifetimeRenew =>
    if cur = .waitResp ∨ cur = .waitForLifetimeRenew then
      (fhndlReceivedSuccess x { f with state := .waitForLifetimeRenew } io).2
    else ({ f with state := .waitForLifetimeRenew }, io)
  | .waitForServerInit => (fhndlClearTimeouts x { f with state := .waitForServerInit } io).2
  | .failed => failPhase x f io
  | .idle => ({ f with state := .idle }, io)

/-- The flow as `fhndl_resend` counts it. -/
def countRetry (cfg : Config) (f : Flow) : Flow :=
  if cfg.retxMrc > 0 then { f with retryCount := f.retryCount + 1 } else f

theorem fhndlResend_eq (x : FlowEnv) (f : Flow) (io : Io) :
    fhndlResend x f io =
      match x.server with
      | none => (.failed, f, io)
      | some s =>
        if x.env.cfg.retxMrc > 0 ∧ (countRetry x.env.cfg f).retryCount ≥ x.env.cfg.retxMrc then
          (.failed, countRetry x.env.cfg f, io)
        else
          match pcpFlowSendMsg x.env x.id (countRetry x.env.cfg f).pcpServerIndx s
              (countRetry x.env.cfg f) io with
          | (false, r) => (.failed, r)
          | (true, f, io) =>
            (.msgSent, armResend x
              { f with resendTimeout := pcpRt x.env.cfg f.resendTimeout (x.env.rand io.rands) }
              { io with rands := io.rands + 1 }) := rfl

/-! ## Outcomes of the handlers that send -/

section Outcomes

variable (x : FlowEnv) (f : Flow) (io : Io)

theorem fhndlSend_cases :
    (x.server = none ∧ fhndlSend x f io = (.failed, f, io)) ∨
      ∃ s, x.server = some s ∧
        ((s.restartFlowMsg = some x.id ∧ fhndlSend x f io = (.ignored, f, io)) ∨
        (s.restartFlowMsg ≠ some x.id ∧
          ((∃ r, pcpFlowSendMsg x.env x.id f.pcpServerIndx s f io = (false, r) ∧
            fhndlSend x f io = (.failed, r)) ∨
          ∃ f' io', pcpFlowSendMsg x.env x.id f.pcpServerIndx s f io = (true, f', io') ∧
            fhndlSend x f io =
              (.msgSent, armResend x { f' with resendTimeout := x.env.cfg.retxIrt } io')))) := by
  unfold fhndlSend
  cases hs : x.server with
  | none => exact .inl ⟨rfl, rfl⟩
  | some s =>
    refine .inr ⟨s, rfl, ?_⟩
    by_cases hr : s.restartFlowMsg = some x.id
    · exact .inl ⟨hr, if_pos hr⟩
    · simp only [if_neg hr]
      refine .inr ⟨hr, ?_⟩
      rcases pcpFlowSendMsg x.env x.id f.pcpServerIndx s f io with ⟨ok, f', io'⟩
      cases ok with
      | false => exact .inl ⟨_, rfl, rfl⟩
      | true => exact .inr ⟨_, _, rfl, rfl⟩

/-- The budget of retransmissions is used up. -/
def RetriesUsed (cfg : Config) (f : Flow) : Prop :=
  cfg.retxMrc > 0 ∧ (countRetry cfg f).retryCount ≥ cfg.retxMrc

instance (cfg : Config) (f : Flow) : Decidable (RetriesUsed cfg f) :=
  inferInstanceAs (Decidable (_ ∧ _))

theorem countRetry_pcpServerIndx (cfg : Config) :
    (countRetry cfg f).pcpServerIndx = f.pcpServerIndx := by
  unfold countRetry
  split <;> rfl

theorem fhndlResend_cases :
    (x.server = none ∧ fhndlResend x f io = (.failed, f, io)) ∨
      ∃ s, x.server = some s ∧
        ((RetriesUsed x.env.cfg f ∧ fhndlResend x f io = (.failed, countRetry x.env.cfg f, io)) ∨
        (¬ RetriesUsed x.env.cfg f ∧
          ((∃ r, pcpFlowSendMsg x.env x.id f.pcpServerIndx s (countRetry x.env.cfg f) io =
              (false, r) ∧ fhndlResend x f io = (.failed, r)) ∨
          ∃ f' io', pcpFlowSendMsg x.env x.id f.pcpServerIndx s (countRetry x.env.cfg f) io =
              (true, f', io') ∧
            fhndlResend x f io = (.msgSent, armResend x
              { f' with resendTimeout := pcpRt x.env.cfg f'.resendTimeout (x.env.rand io'.rands) }
              { io' with rands := io'.rands + 1 })))) := by
  rw [fhndlResend_eq]
  cases hs : x.server with
  | none => exact .inl ⟨rfl, rfl⟩
  | some s =>
    refine .inr ⟨s, rfl, ?_⟩
    by_cases hr : RetriesUsed x.env.cfg f
    · exact .inl ⟨hr, if_pos hr⟩
    · refine .inr ⟨hr, ?_⟩
      have hif : ¬ (x.env.cfg.retxMrc > 0 ∧
        (countRetry x.env.cfg f).retryCount ≥ x.env.cfg.retxMrc) := hr
      simp only [if_neg hif, countRetry_pcpServerIndx]
      rcases pcpFlowSendMsg x.env x.id f.pcpServerIndx s (countRetry x.env.cfg f) io with
        ⟨ok, f', io'⟩
      cases ok with
      | false => exact .inl ⟨_, rfl, rfl⟩
      | true => exact .inr ⟨_, _, rfl, rfl⟩

/-- Half of what is left of the lifetime, in whole seconds. -/
def renewDelay (x : FlowEnv) (f : Flow) (io : Io) : Int :=
  (f.recvLifetime - (x.env.now io).tvSec) >>> (1 : Nat)

theorem fhndlSendRenew_cases :
    (x.server = none ∧ fhndlSendRenew x f io = (.failed, f, io)) ∨
      ∃ s, x.server = some s ∧
        ((∃ r, pcpFlowSendMsg x.env x.id f.pcpServerIndx s f io = (false, r) ∧
          fhndlSendRenew x f io = (.failed, r)) ∨
        ∃ f' io', pcpFlowSendMsg x.env x.id f.pcpServerIndx s f io = (true, f', io') ∧
          ((renewDelay x f' io' = 0 ∧ fhndlSendRenew x f io =
              (.failed, { f' with timeout := x.env.now io' }, io'.tick)) ∨
          (renewDelay x f' io' ≠ 0 ∧ fhndlSendRenew x f io =
              (.msgSent, { f' with timeout := (x.env.now io').addSec (renewDelay x f' io') },
                io'.tick)))) := by
  unfold fhndlSendRenew
  cases hs : x.server with
  | none => exact .inl ⟨rfl, rfl⟩
  | some s =>
    refine .inr ⟨s, rfl, ?_⟩
    dsimp only
    rcases pcpFlowSendMsg x.env x.id f.pcpServerIndx s f io with ⟨ok, f', io'⟩
    cases ok with
    | false => exact .inl ⟨_, rfl, rfl⟩
    | true =>
      refine .inr ⟨f', io', rfl, ?_⟩
      by_cases hz : renewDelay x f' io' = 0
      · exact .inl ⟨hz, if_pos hz⟩
      · exact .inr ⟨hz, if_neg hz⟩

end Outcomes

section Loop

variable (x : FlowEnv) (n : Nat) (f : Flow) (io : Io)

theorem fhndlSend_event :
    (fhndlSend x f io).1 = .failed ∨ (fhndlSend x f io).1 = .ignored ∨
      (fhndlSend x f io).1 = .msgSent := by
  rcases fhndlSend_cases x f io with ⟨-, h⟩ | ⟨s, -, ⟨-, h⟩ | ⟨-, ⟨r, -, h⟩ | ⟨f', io', -, h⟩⟩⟩
  all_goals rw [h]
  · exact .inl rfl
  · exact .inr (.inl rfl)
  · exact .inl rfl
  · exact .inr (.inr rfl)

theorem fhndlResend_event :
    (fhndlResend x f io).1 = .failed ∨ (fhndlResend x f io).1 = .msgSent := by
  rcases fhndlResend_cases x f io with ⟨-, h⟩ | ⟨s, -, ⟨-, h⟩ | ⟨-, ⟨r, -, h⟩ | ⟨f', io', -, h⟩⟩⟩
  all_goals rw [h]
  · exact .inl rfl
  · exact .inl rfl
  · exact .inl rfl
  · exact .inr rfl

theorem fhndlSendRenew_event :
    (fhndlSendRenew x f io).1 = .failed ∨ (fhndlSendRenew x f io).1 = .msgSent := by
  rcases fhndlSendRenew_cases x f io with
    ⟨-, h⟩ | ⟨s, -, ⟨r, -, h⟩ | ⟨f', io', -, ⟨-, h⟩ | ⟨-, h⟩⟩⟩
  all_goals rw [h]
  · exact .inl rfl
  · exact .inl rfl
  · exact .inl rfl
  · exact .inr rfl

theorem fhndlWaitresp_event :
    (fhndlWaitresp x f io).1 = .failed ∨ (fhndlWaitresp x f io).1 = .none := by
  change (if _ then FlowEvent.failed else _) = _ ∨ (if _ then FlowEvent.failed else _) = _
  split
  · exact .inl rfl
  · exact .inr rfl

theorem flowLoop_failed {cur : FlowState} (h : nextState cur .failed = some .failed) :
    flowLoop x (n + 1) cur .failed f io = some (failPhase x f io) := by
  have ht : transHandler cur .failed = some .clearTimeouts := by cases cur <;> rfl
  simp only [flowLoop, h, ht]
  rfl

theorem flowLoop_send_msgSent :
    flowLoop x (n + 2) .send .msgSent f io = some (waitPhase x f io) := by
  have hn : nextState .send .msgSent = some .waitResp := rfl
  have ht : transHandler .send .waitResp = some .waitresp := rfl
  have hf : nextState .waitResp .failed = some .failed := rfl
  rw [flowLoop]
  simp only [hn, ht, FlowHandler.run, waitPhase]
  rcases hr : fhndlWaitresp x { f with state := .waitResp } io with ⟨ev, f', io'⟩
  have hev := fhndlWaitresp_event x { f with state := .waitResp } io
  rw [hr] at hev
  rcases hev with hev | hev <;> simp only at hev <;> subst hev
  · exact flowLoop_failed x n f' io' hf
  · rfl

/-- The rounds after a handler entered in `pfs_send`. -/
theorem flowLoop_afterSend (r : FlowEvent × Flow × Io)
    (h : r.1 = .failed ∨ r.1 = .ignored ∨ r.1 = .msgSent) :
    flowLoop x (n + 2) .send r.1 r.2.1 r.2.2 = some (afterSend x r) := by
  obtain ⟨ev, f, io⟩ := r
  rcases h with h | h | h <;> simp only at h <;> subst h
  · exact flowLoop_failed x (n + 1) f io rfl
  · rfl
  · exact flowLoop_send_msgSent x n f io

theorem flowLoop_enter {cur next : FlowState} {ev : FlowEvent} {h : FlowHandler}
    {ev' : FlowEvent} {f' : Flow} {io' : Io}
    (hn : nextState cur ev = some next) (ht : transHandler cur next = some h)
    (hr : h.run x { f with state := next } io = (ev', f', io')) (hev : ev' ≠ .none) :
    flowLoop x (n + 1) cur ev f io = flowLoop x n next ev' f' io' := by
  rw [flowLoop]
  simp only [hn, ht, hr]

theorem flowLoop_toSend {cur : FlowState} {ev : FlowEvent} (hn : nextState cur ev = some .send) :
    flowLoop x (n + 3) cur ev f io = some (flowPhase x cur .send f io) := by
  by_cases hc : cur = .waitResp
  · subst hc
    have hev := fhndlResend_event x { f with state := .send } io
    rcases hr : fhndlResend x { f with state := .send } io with ⟨ev', f', io'⟩
    rw [hr] at hev
    have hne : ev' ≠ .none := by rcases hev with h | h <;> simp only at h <;> subst h <;> simp
    rw [flowLoop_enter x (n + 2) f io hn (h := .resend) rfl hr hne]
    simp only [flowPhase, if_true, resendPhase, hr]
    exact flowLoop_afterSend x n (ev', f', io') (hev.imp_right .inr)
  · have ht : transHandler cur .send = some .send := by cases cur <;> first | rfl | exact absurd rfl hc
    have hev := fhndlSend_event x { f with state := .send } io
    rcases hr : fhndlSend x { f with state := .send } io with ⟨ev', f', io'⟩
    rw [hr] at hev
    have hne : ev' ≠ .none := by rcases hev with h | h | h <;> simp only at h <;> subst h <;> simp
    rw [flowLoop_enter x (n + 2) f io hn ht hr hne]
    simp only [flowPhase, if_neg hc, sendPhase, hr]
    exact flowLoop_afterSend x n (ev', f', io') hev

theorem flowLoop_toSendRenew {cur : FlowState} {ev : FlowEvent}
    (hn : nextState cur ev = some .sendRenew) :
    flowLoop x (n + 4) cur ev f io = some (renewPhase x f io) := by
  have ht : transHandler cur .sendRenew = some .sendRenew := by cases cur <;> rfl
  have hev := fhndlSendRenew_event x { f with state := .sendRenew } io
  rcases hr : fhndlSendRenew x { f with state := .sendRenew } io with ⟨ev', f', io'⟩
  rw [hr] at hev
  have hne : ev' ≠ .none := by rcases hev with h | h <;> simp only at h <;> subst h <;> simp
  rw [flowLoop_enter x (n + 3) f io hn ht hr hne, renewPhase, hr]
  rcases hev with h | h <;> simp only at h <;> subst h
  · have hsend : nextState .sendRenew .failed = some .send := rfl
    exact flowLoop_toSend x n f' io' hsend
  · rfl

/-- A new state comes from a row of the table. -/
theorem nextState_row {cur next : FlowState} {ev : FlowEvent} (h : nextState cur ev = some next) :
    ∃ r ∈ flowEventsSm, (r.1 = some cur ∨ r.1 = none) ∧ r.2 = (ev, next) := by
  simp only [nextState, Option.map_eq_some_iff] at h
  obtain ⟨r, hrow, hnext⟩ := h
  have hev := List.find?_some hrow
  simp only [decide_eq_true_eq] at hev
  exact ⟨r, List.mem_of_find?_eq_some hrow, hev.1, Prod.ext hev.2 hnext⟩

/-- Only the short-lived errors lead to the state in which a flow waits for their end. -/
theorem nextState_shortLife {cur : FlowState} {ev : FlowEvent}
    (h : nextState cur ev = some .waitAfterShortLifeError) :
    ev = .res resNetworkFailure ∨ ev = .res resNoResources ∨ ev = .res resExcessiveRemotePeers ∨
      ev = .res resUserExQuota := by
  obtain ⟨r, hr, -, heq⟩ := nextState_row h
  have htable : ∀ r ∈ flowEventsSm, r.2.2 = .waitAfterShortLifeError →
      r.2.1 = .res resNetworkFailure ∨ r.2.1 = .res resNoResources ∨
        r.2.1 = .res resExcessiveRemotePeers ∨ r.2.1 = .res resUserExQuota := by
    decide
  have hcase := htable r hr
  rw [heq] at hcase
  exact hcase rfl

/-- The table never leads back to `pfs_idle`, and to `pfs_wait_resp` only once a message is sent. -/
theorem nextState_cases {cur next : FlowState} {ev : FlowEvent} (h : nextState cur ev = some next) :
    next ≠ .idle ∧ (next = .waitResp → ev = .msgSent) := by
  obtain ⟨r, hr, -, heq⟩ := nextState_row h
  have htable : ∀ r ∈ flowEventsSm, r.2.2 ≠ .idle ∧ (r.2.2 = .waitResp → r.2.1 = .msgSent) := by
    decide
  have hcase := htable r hr
  rw [heq] at hcase
  exact hcase

end Loop

/-- Five rounds are enough, and they are the phases. -/
theorem flowLoop_total (x : FlowEnv) (n : Nat) (cur : FlowState) (ev : FlowEvent) (f : Flow)
    (io : Io) (hev : ev ≠ .msgSent) :
    flowLoop x (n + 5) cur ev f io =
      some (match nextState cur ev with
        | none => (f, io)
        | some next => flowPhase x cur next f io) := by
  cases hn : nextState cur ev with
  | none => simp only [flowLoop, hn]
  | some next =>
    obtain ⟨hidle, hwait⟩ := nextState_cases hn
    cases next with
    | idle => exact absurd rfl hidle
    | waitResp => exact absurd (hwait rfl) hev
    | send => exact flowLoop_toSend x (n + 2) f io hn
    | sendRenew => exact flowLoop_toSendRenew x (n + 1) f io hn
    | waitForServerInit =>
      have ht : transHandler cur .waitForServerInit = some .clearTimeouts := by cases cur <;> rfl
      simp only [flowLoop, hn, ht]
      rfl
    | waitAfterShortLifeError =>
      have ht : transHandler cur .waitAfterShortLifeError = some .shortlifeerror := by
        cases cur <;> rfl
      simp only [flowLoop, hn, ht, FlowHandler.run, flowPhase, fhndlShortlifeerror]
      cases x.msg <;> rfl
    | waitForLifetimeRenew =>
      by_cases hc : cur = .waitResp ∨ cur = .waitForLifetimeRenew
      · have ht : transHandler cur .waitForLifetimeRenew = some .receivedSuccess := by
          rcases hc with rfl | rfl <;> rfl
        simp only [flowLoop, hn, ht, FlowHandler.run, flowPhase, if_pos hc, fhndlReceivedSuccess]
        cases x.msg <;> rfl
      · have ht : transHandler cur .waitForLifetimeRenew = none := by
          cases cur <;> first | rfl | exact absurd (by simp) hc
        simp only [flowLoop, hn, ht, flowPhase, if_neg hc]
    | failed =>
      have ht : transHandler cur .failed = some .clearTimeouts := by cases cur <;> rfl
      simp only [flowLoop, hn, ht]
      rfl

theorem flowStep_eq (x : FlowEnv) {ev : FlowEvent} (f : Flow) (io : Io) (hev : ev ≠ .msgSent) :
    flowStep x ev f io =
      match nextState f.state ev with
      | none => (f, io)
      | some next => flowPhase x f.state next f io := by
  rw [flowStep, flowLoop_total x 0 f.state ev f io hev]
  rfl

/-! ## Moves

What a phase does, as a sequence of moves: volatile fields change, the clock is read, a request is
sent, or the outcome of a success response is stored. -/

/-- The fields that stay with a flow. -/
structure Flow.Kept (f f' : Flow) : Prop where
  kd : f'.kd = f.kd
  keyBucket : f'.keyBucket = f.keyBucket
  lifetime : f'.lifetime = f.lifetime
  nextChild : f'.nextChild = f.nextChild
  pcpServerIndx : f'.pcpServerIndx = f.pcpServerIndx

theorem Flow.Kept.refl (f : Flow) : f.Kept f := ⟨rfl, rfl, rfl, rfl, rfl⟩

theorem Flow.Kept.trans {f g h : Flow} (a : f.Kept g) (b : g.Kept h) : f.Kept h :=
  ⟨b.kd.trans a.kd, b.keyBucket.trans a.keyBucket, b.lifetime.trans a.lifetime,
    b.nextChild.trans a.nextChild, b.pcpServerIndx.trans a.pcpServerIndx⟩

/-- A change of state, timers and counters. The message buffer may be cleared. -/
structure Flow.Edit (f f' : Flow) : Prop extends Flow.Kept f f' where
  ext : f'.extIp = f.extIp ∧ f'.extPort = f.extPort ∧ f'.recvLifetime = f.recvLifetime
  buf : (f'.pcpMsgBuffer = f.pcpMsgBuffer ∧ f'.pcpMsgLen = f.pcpMsgLen) ∨
    (f'.pcpMsgBuffer = none ∧ f'.pcpMsgLen = 0)

inductive FlowMove (x : FlowEnv) : Flow × Io → Flow × Io → Prop where
  | edit {f f' : Flow} {io : Io} (h : f.Edit f') : FlowMove x (f, io) (f', io)
  | clock {f : Flow} {io io' : Io} (hs : io'.sent = io.sent) (ht : io.ticks ≤ io'.ticks) :
      FlowMove x (f, io) (f, io')
  | send (f : Flow) (io : Io) {s : Server} (h : x.server = some s) :
      FlowMove x (f, io) (pcpFlowSendMsg x.env x.id f.pcpServerIndx s f io).2
  | take {f : Flow} {io : Io} {m : RecvMsg} (h : x.msg = some m) :
      FlowMove x (f, io) (takeSuccess x.env.cfg m f, io)

abbrev FlowMoves (x : FlowEnv) := Relation.ReflTransGen (FlowMove x)

section Moves

variable (x : FlowEnv) (f : Flow) (io : Io)

variable {x f io} in
theorem Flow.Edit.tick_moves {f' : Flow} (h : f.Edit f') : FlowMoves x (f, io) (f', io.tick) :=
  .tail (.single (.edit h)) (.clock rfl (Nat.le_succ _))

theorem armResend_moves : FlowMoves x (f, io) (armResend x f io) :=
  Flow.Edit.tick_moves ⟨⟨rfl, rfl, rfl, rfl, rfl⟩, ⟨rfl, rfl, rfl⟩, .inl ⟨rfl, rfl⟩⟩

theorem countRetry_moves : FlowMoves x (f, io) (countRetry x.env.cfg f, io) := by
  unfold countRetry
  split
  · exact .single (.edit ⟨⟨rfl, rfl, rfl, rfl, rfl⟩, ⟨rfl, rfl, rfl⟩, .inl ⟨rfl, rfl⟩⟩)
  · exact .refl

theorem fhndlSend_moves : FlowMoves x (f, io) (fhndlSend x f io).2 := by
  unfold fhndlSend
  cases hs : x.server with
  | none => exact .refl
  | some s =>
    dsimp only
    split
    · exact .refl
    · have hsend := FlowMove.send f io hs
      split
      · rename_i r hr
        rw [hr] at hsend
        exact .single hsend
      · rename_i f' io' hr
        rw [hr] at hsend
        refine .trans (.tail (.single hsend) (.edit ?_)) (armResend_moves x _ _)
        exact ⟨⟨rfl, rfl, rfl, rfl, rfl⟩, ⟨rfl, rfl, rfl⟩, .inl ⟨rfl, rfl⟩⟩

theorem fhndlResend_moves : FlowMoves x (f, io) (fhndlResend x f io).2 := by
  rw [fhndlResend_eq]
  cases hs : x.server with
  | none => exact .refl
  | some s =>
    dsimp only
    refine .trans (countRetry_moves x f io) ?_
    split
    · exact .refl
    · have hsend := FlowMove.send (countRetry x.env.cfg f) io hs
      split
      · rename_i r hr
        rw [hr] at hsend
        exact .single hsend
      · rename_i f' io' hr
        rw [hr] at hsend
        refine .trans (.tail (.tail (.single hsend) (.edit ?_)) (.clock ?_ ?_))
          (armResend_moves x _ _)
        · exact ⟨⟨rfl, rfl, rfl, rfl, rfl⟩, ⟨rfl, rfl, rfl⟩, .inl ⟨rfl, rfl⟩⟩
        · rfl
        · exact Nat.le_refl _

theorem fhndlSendRenew_moves : FlowMoves x (f, io) (fhndlSendRenew x f io).2 := by
  unfold fhndlSendRenew
  cases hs : x.server with
  | none => exact .refl
  | some s =>
    have hsend := FlowMove.send f io hs
    dsimp only
    split
    · rename_i r hr
      rw [hr] at hsend
      exact .single hsend
    · rename_i f' io' hr
      rw [hr] at hsend
      refine .trans (.single hsend) ?_
      split
      all_goals
        exact Flow.Edit.tick_moves ⟨⟨rfl, rfl, rfl, rfl, rfl⟩, ⟨rfl, rfl, rfl⟩, .inl ⟨rfl, rfl⟩⟩

theorem fhndlWaitresp_moves : FlowMoves x (f, io) (fhndlWaitresp x f io).2 :=
  Flow.Edit.tick_moves ⟨⟨rfl, rfl, rfl, rfl, rfl⟩, ⟨rfl, rfl, rfl⟩, .inl ⟨rfl, rfl⟩⟩

theorem fhndlClearTimeouts_moves : FlowMoves x (f, io) (fhndlClearTimeouts x f io).2 := by
  unfold fhndlClearTimeouts
  cases x.msg with
  | none => exact .single (.edit ⟨⟨rfl, rfl, rfl, rfl, rfl⟩, ⟨rfl, rfl, rfl⟩, .inr ⟨rfl, rfl⟩⟩)
  | some m => exact .single (.edit ⟨⟨rfl, rfl, rfl, rfl, rfl⟩, ⟨rfl, rfl, rfl⟩, .inr ⟨rfl, rfl⟩⟩)

theorem fhndlShortlifeerror_moves : FlowMoves x (f, io) (fhndlShortlifeerror x f io).2 := by
  unfold fhndlShortlifeerror
  cases x.msg with
  | none => exact .refl
  | some m =>
    exact Flow.Edit.tick_moves ⟨⟨rfl, rfl, rfl, rfl, rfl⟩, ⟨rfl, rfl, rfl⟩, .inl ⟨rfl, rfl⟩⟩

theorem fhndlReceivedSuccess_moves : FlowMoves x (f, io) (fhndlReceivedSuccess x f io).2 := by
  unfold fhndlReceivedSuccess
  cases hm : x.msg with
  | none => exact .refl
  | some m =>
    refine .trans (.single (.take hm)) ?_
    exact Flow.Edit.tick_moves ⟨⟨rfl, rfl, rfl, rfl, rfl⟩, ⟨rfl, rfl, rfl⟩, .inl ⟨rfl, rfl⟩⟩

theorem setState_moves (st : FlowState) : FlowMoves x (f, io) ({ f with state := st }, io) :=
  .single (.edit ⟨⟨rfl, rfl, rfl, rfl, rfl⟩, ⟨rfl, rfl, rfl⟩, .inl ⟨rfl, rfl⟩⟩)

theorem failPhase_moves : FlowMoves x (f, io) (failPhase x f io) :=
  .trans (setState_moves x f io .failed) (fhndlClearTimeouts_moves x _ io)

theorem waitPhase_moves : FlowMoves x (f, io) (waitPhase x f io) := by
  have h := (setState_moves x f io .waitResp).trans (fhndlWaitresp_moves x _ io)
  unfold waitPhase
  split
  · rename_i f' io' hr
    rw [hr] at h
    exact h.trans (failPhase_moves x f' io')
  · rename_i r _ hr
    rw [hr] at h
    exact h

theorem afterSend_moves (r : FlowEvent × Flow × Io) : FlowMoves x r.2 (afterSend x r) := by
  unfold afterSend
  split
  · exact waitPhase_moves x _ _
  · exact failPhase_moves x _ _
  · exact setState_moves x _ _ _

theorem sendPhase_moves : FlowMoves x (f, io) (sendPhase x f io) :=
  ((setState_moves x f io .send).trans (fhndlSend_moves x _ io)).trans (afterSend_moves x _)

theorem resendPhase_moves : FlowMoves x (f, io) (resendPhase x f io) :=
  ((setState_moves x f io .send).trans (fhndlResend_moves x _ io)).trans (afterSend_moves x _)

theorem renewPhase_moves : FlowMoves x (f, io) (renewPhase x f io) := by
  have h := (setState_moves x f io .sendRenew).trans (fhndlSendRenew_moves x _ io)
  unfold renewPhase
  split
  · rename_i f' io' hr
    rw [hr] at h
    exact h.trans (setState_moves x f' io' _)
  · rename_i f' io' _ hr
    rw [hr] at h
    exact h.trans (sendPhase_moves x f' io')

theorem flowPhase_moves (cur next : FlowState) : FlowMoves x (f, io) (flowPhase x cur next f io) := by
  cases next with
  | idle => exact setState_moves x f io _
  | waitForServerInit => exact (setState_moves x f io _).trans (fhndlClearTimeouts_moves x _ io)
  | send =>
    simp only [flowPhase]
    split
    · exact resendPhase_moves x f io
    · exact sendPhase_moves x f io
  | waitResp => exact waitPhase_moves x f io
  | waitAfterShortLifeError =>
    exact (setState_moves x f io _).trans (fhndlShortlifeerror_moves x _ io)
  | waitForLifetimeRenew =>
    simp only [flowPhase]
    split
    · exact (setState_moves x f io _).trans (fhndlReceivedSuccess_moves x _ io)
    · exact setState_moves x f io _
  | sendRenew => exact renewPhase_moves x f io
  | failed => exact failPhase_moves x f io

theorem flowStep_moves {ev : FlowEvent} (hev : ev ≠ .msgSent) :
    FlowMoves x (f, io) (flowStep x ev f io) := by
  rw [flowStep_eq x f io hev]
  split
  · exact .refl
  · exact flowPhase_moves x f io f.state _

end Moves

/-! ## Frame of a step -/

/-- The requests sent between two points, newest first, all satisfy `P`. -/
def Io.SentWith (P : Sent → Prop) (io io' : Io) : Prop :=
  ∃ new, io'.sent = new ++ io.sent ∧ ∀ p ∈ new, P p

theorem Io.SentWith.refl {P : Sent → Prop} (io : Io) : io.SentWith P io :=
  ⟨[], rfl, by simp⟩

theorem Io.SentWith.of_eq {P : Sent → Prop} {io io' : Io} (h : io'.sent = io.sent) :
    io.SentWith P io' :=
  ⟨[], h, by simp⟩

theorem Io.SentWith.trans {P : Sent → Prop} {io₁ io₂ io₃ : Io} (h₁ : io₁.SentWith P io₂)
    (h₂ : io₂.SentWith P io₃) : io₁.SentWith P io₃ := by
  obtain ⟨new₁, e₁, p₁⟩ := h₁
  obtain ⟨new₂, e₂, p₂⟩ := h₂
  refine ⟨new₂ ++ new₁, by rw [e₂, e₁, List.append_assoc], ?_⟩
  intro p hp
  rcases List.mem_append.mp hp with hp | hp
  · exact p₂ p hp
  · exact p₁ p hp

theorem Io.SentWith.mono {P Q : Sent → Prop} {io io' : Io} (h : io.SentWith P io')
    (hpq : ∀ p, P p → Q p) : io.SentWith Q io' := by
  obtain ⟨new, e, hp⟩ := h
  exact ⟨new, e, fun p hm => hpq p (hp p hm)⟩

/-- The datagrams sent after `io` and before `io'`. -/
def Io.sentSince (io io' : Io) : List Sent := io'.sent.take (io'.sent.length - io.sent.length)

theorem Io.SentWith.of_mem {P : Sent → Prop} {io io' : Io} (h : io.SentWith P io') {p : Sent}
    (hp : p ∈ io.sentSince io') : P p := by
  obtain ⟨new, hnew, hall⟩ := h
  have hlen : io'.sent.length - io.sent.length = new.length := by
    rw [hnew, List.length_append]
    omega
  rw [Io.sentSince, hlen, hnew, List.take_left] at hp
  exact hall p hp

/-- A request for flow `id` of the server in slot `i`, to that server's address. -/
def Sent.For (id : FlowId) (i : Nat) (s : Server) (p : Sent) : Prop :=
  p.flow = id ∧ p.server = i ∧ p.dest = s.pcpServerSaddr

theorem sendLoop_ticks (e : Env) (mk : List UInt8 → Sent) (b : Buf) (len n k : Nat) (io : Io) :
    (sendLoop e mk b len n k io).2.ticks = io.ticks := by
  induction n generalizing k io with
  | zero => rfl
  | succ n ih =>
    simp only [sendLoop]
    split
    · rfl
    · split
      · rfl
      · exact ih _ _

theorem sendLoop_sent {P : Sent → Prop} (e : Env) (mk : List UInt8 → Sent) (b : Buf)
    (len n k : Nat) (io : Io) (hmk : ∀ bytes, P (mk bytes)) :
    io.SentWith P (sendLoop e mk b len n k io).2 := by
  induction n generalizing k io with
  | zero => exact .refl io
  | succ n ih =>
    simp only [sendLoop]
    split
    · exact .refl io
    · split
      · exact .of_eq rfl
      · refine Io.SentWith.trans ?_ (ih _ _)
        exact ⟨[_], rfl, by simpa using hmk _⟩

def Flow.setMsg (f : Flow) (b : Option Buf) (len : Nat) : Flow :=
  { f with pcpMsgBuffer := b, pcpMsgLen := len }

/-- The flow with the message `encodeMsg` made, or without one. -/
def Flow.fillMsg (f : Flow) : Option Cursor → Flow
  | some (b, len) => f.setMsg (some b) len
  | none => f.setMsg none 0

theorem Flow.fillMsg_eq (f : Flow) (o : Option Cursor) : ∃ b l, f.fillMsg o = f.setMsg b l := by
  cases o with
  | none => exact ⟨_, _, rfl⟩
  | some c => exact ⟨_, _, rfl⟩

theorem buildPcpMsg_some (e : Env) (s : Server) (f : Flow) (io : Io) :
    buildPcpMsg e (some s) f io =
      match f.pcpMsgBuffer with
      | some b => (f.fillMsg (encodeMsg e.cfg s.pcpVersion f b), io)
      | none =>
        if e.calloc io.callocs then
          (f.fillMsg (encodeMsg e.cfg s.pcpVersion f .zero), { io with callocs := io.callocs + 1 })
        else (f, { io with callocs := io.callocs + 1 }) := rfl

/-- The message to send: the one in the buffer, or a new one. -/
def preparedMsg (e : Env) (s : Server) (f : Flow) (io : Io) : Flow × Io :=
  if f.pcpMsgBuffer.isNone ∨ f.pcpMsgLen = 0 then buildPcpMsg e (some s) f io else (f, io)

theorem preparedMsg_eq (e : Env) (s : Server) (f : Flow) (io : Io) :
    ∃ b l k, preparedMsg e s f io = (f.setMsg b l, { io with callocs := k }) := by
  unfold preparedMsg
  split
  · rw [buildPcpMsg_some]
    split
    · obtain ⟨b', l, h⟩ := f.fillMsg_eq (encodeMsg e.cfg s.pcpVersion f ‹_›)
      exact ⟨b', l, io.callocs, by rw [h]⟩
    · split
      · obtain ⟨b', l, h⟩ := f.fillMsg_eq (encodeMsg e.cfg s.pcpVersion f .zero)
        exact ⟨b', l, _, by rw [h]⟩
      · exact ⟨f.pcpMsgBuffer, f.pcpMsgLen, _, rfl⟩
  · exact ⟨f.pcpMsgBuffer, f.pcpMsgLen, io.callocs, rfl⟩

/-- One datagram of `pcp_flow_send_msg`. -/
def sentRecord (id : FlowId) (i : Nat) (s : Server) (f : Flow) (bytes : List UInt8) : Sent :=
  { flow := id, server := i, src := pcpFillSockaddr f.kd.srcIp 0 true s.pcpScopeId,
    dest := s.pcpServerSaddr, bytes := bytes }

theorem pcpFlowSendMsg_eq (e : Env) (id : FlowId) (i : Nat) (s : Server) (f : Flow) (io : Io) :
    pcpFlowSendMsg e id i s f io =
      match (preparedMsg e s f io).1.pcpMsgBuffer with
      | none => (false, (preparedMsg e s f io).1, (preparedMsg e s f io).2.sendErr)
      | some b =>
        let len := (preparedMsg e s f io).1.pcpMsgLen
        match sendLoop e (sentRecord id i s (preparedMsg e s f io).1) b len len len
            (preparedMsg e s f io).2 with
        | (true, io') => (true, (preparedMsg e s f io).1.clearMsgBuf, io')
        | (false, io') => (false, (preparedMsg e s f io).1, io'.sendErr) := rfl

theorem pcpFlowSendMsg_spec (e : Env) (id : FlowId) (i : Nat) (s : Server) (f : Flow) (io : Io) :
    (∃ b l, (pcpFlowSendMsg e id i s f io).2.1 = f.setMsg b l) ∧
      (pcpFlowSendMsg e id i s f io).2.2.ticks = io.ticks ∧
      io.SentWith (Sent.For id i s) (pcpFlowSendMsg e id i s f io).2.2 := by
  obtain ⟨b, l, k, hr⟩ := preparedMsg_eq e s f io
  rw [pcpFlowSendMsg_eq, hr]
  cases b with
  | none => exact ⟨⟨_, _, rfl⟩, rfl, .of_eq rfl⟩
  | some b =>
    generalize hmk : sentRecord id i s (f.setMsg (some b) l) = mk
    have hfor : ∀ bytes, Sent.For id i s (mk bytes) := by
      intro bytes
      subst hmk
      exact ⟨rfl, rfl, rfl⟩
    have ht := sendLoop_ticks e mk b l l l { io with callocs := k }
    have hs := sendLoop_sent e mk b l l l { io with callocs := k } hfor
    have h0 : io.SentWith (Sent.For id i s) { io with callocs := k } := .of_eq rfl
    simp only [Flow.setMsg]
    rcases hl : sendLoop e mk b l l l { io with callocs := k } with ⟨ok, io'⟩
    rw [hl] at ht hs
    cases ok with
    | true => exact ⟨⟨_, _, rfl⟩, ht, h0.trans hs⟩
    | false => exact ⟨⟨_, _, rfl⟩, ht, h0.trans hs⟩

theorem takeSuccess_kept (cfg : Config) (m : RecvMsg) (f : Flow) : f.Kept (takeSuccess cfg m f) := by
  unfold takeSuccess
  dsimp only
  split
  · exact ⟨rfl, rfl, rfl, rfl, rfl⟩
  · split
    · exact ⟨rfl, rfl, rfl, rfl, rfl⟩
    · exact ⟨rfl, rfl, rfl, rfl, rfl⟩

theorem takeSuccess_state (cfg : Config) (m : RecvMsg) (f : Flow) :
    (takeSuccess cfg m f).state = f.state := by
  unfold takeSuccess
  dsimp only
  split
  · rfl
  · split <;> rfl

theorem FlowMove.kept {x : FlowEnv} {r r' : Flow × Io} (h : FlowMove x r r') : r.1.Kept r'.1 := by
  cases h with
  | edit h => exact h.toKept
  | clock hs ht => exact .refl _
  | send f io hs =>
    obtain ⟨⟨b, l, h⟩, -, -⟩ := pcpFlowSendMsg_spec x.env x.id _ _ _ _
    rw [h]
    exact ⟨rfl, rfl, rfl, rfl, rfl⟩
  | take hm => exact takeSuccess_kept _ _ _

theorem FlowMove.ticks {x : FlowEnv} {r r' : Flow × Io} (h : FlowMove x r r') :
    r.2.ticks ≤ r'.2.ticks := by
  cases h with
  | edit h => exact Nat.le_refl _
  | clock hs ht => exact ht
  | send f io hs => exact Nat.le_of_eq (pcpFlowSendMsg_spec x.env x.id _ _ _ _).2.1.symm
  | take hm => exact Nat.le_refl _

/-- Whatever a flow sends goes to the server its index resolves to. -/
def FlowEnv.Own (x : FlowEnv) (i : Nat) (p : Sent) : Prop :=
  ∃ s, x.server = some s ∧ Sent.For x.id i s p

theorem FlowMove.sent {x : FlowEnv} {r r' : Flow × Io} (h : FlowMove x r r') :
    r.2.SentWith (x.Own r.1.pcpServerIndx) r'.2 := by
  cases h with
  | edit h => exact .refl _
  | clock hs ht => exact .of_eq hs
  | send f io hs => exact (pcpFlowSendMsg_spec x.env x.id _ _ _ _).2.2.mono fun p hp => ⟨_, hs, hp⟩
  | take hm => exact .refl _

/-- Fields and log entries a step leaves behind. -/
structure FlowFrame (x : FlowEnv) (r r' : Flow × Io) : Prop where
  kept : r.1.Kept r'.1
  ticks : r.2.ticks ≤ r'.2.ticks
  sent : r.2.SentWith (x.Own r.1.pcpServerIndx) r'.2

theorem FlowMoves.frame {x : FlowEnv} {r r' : Flow × Io} (h : FlowMoves x r r') :
    FlowFrame x r r' := by
  induction h with
  | refl => exact ⟨.refl _, Nat.le_refl _, .refl _⟩
  | tail _ hm ih =>
    refine ⟨ih.kept.trans hm.kept, Nat.le_trans ih.ticks hm.ticks, ih.sent.trans ?_⟩
    rw [← ih.kept.pcpServerIndx]
    exact hm.sent

/-- Only a success response changes the outcome stored in a flow. -/
theorem FlowMoves.ext {x : FlowEnv} {r r' : Flow × Io} (h : FlowMoves x r r') (hm : x.msg = none) :
    r'.1.extIp = r.1.extIp ∧ r'.1.extPort = r.1.extPort ∧ r'.1.recvLifetime = r.1.recvLifetime := by
  induction h with
  | refl => exact ⟨rfl, rfl, rfl⟩
  | tail _ hmove ih =>
    cases hmove with
    | edit h =>
      obtain ⟨h₁, h₂, h₃⟩ := h.ext
      exact ⟨h₁.trans ih.1, h₂.trans ih.2.1, h₃.trans ih.2.2⟩
    | clock hs ht => exact ih
    | send f io hs =>
      obtain ⟨⟨b, l, h⟩, -, -⟩ := pcpFlowSendMsg_spec x.env x.id _ _ _ _
      rw [h]
      exact ih
    | take h => rw [hm] at h; cases h

/-! ## States a step ends in -/

section States

variable (x : FlowEnv) (f : Flow) (io : Io)

theorem failPhase_state : (failPhase x f io).1.state = .failed := by
  unfold failPhase fhndlClearTimeouts
  cases x.msg <;> rfl

theorem failPhase_timeout : (failPhase x f io).1.timeout = .zero := rfl

theorem waitPhase_state :
    (waitPhase x f io).1.state = .waitResp ∨ (waitPhase x f io).1.state = .failed := by
  unfold waitPhase
  split
  · exact .inr (failPhase_state x _ _)
  · rename_i r _ hr
    have h : (fhndlWaitresp x { f with state := .waitResp } io).2.1.state = .waitResp := rfl
    rw [hr] at h
    exact .inl h

theorem afterSend_state {r : FlowEvent × Flow × Io} (h : r.1 = .failed ∨ r.1 = .msgSent) :
    (afterSend x r).1.state = .waitResp ∨ (afterSend x r).1.state = .failed := by
  obtain ⟨ev, f, io⟩ := r
  rcases h with h | h <;> simp only at h <;> subst h
  · exact .inr (failPhase_state x f io)
  · exact waitPhase_state x f io

theorem resendPhase_state :
    (resendPhase x f io).1.state = .waitResp ∨ (resendPhase x f io).1.state = .failed :=
  afterSend_state x (fhndlResend_event x _ io)

/-- The request is skipped for the flow whose response revealed a restart. -/
theorem fhndlSend_ignored (h : (fhndlSend x f io).1 = .ignored) :
    ∃ s, x.server = some s ∧ s.restartFlowMsg = some x.id := by
  rcases fhndlSend_cases x f io with ⟨-, heq⟩ | ⟨s, hs, ⟨hr, heq⟩ | ⟨-, ⟨r, -, heq⟩ | ⟨f', io', -, heq⟩⟩⟩
  · rw [heq] at h
    cases h
  · exact ⟨s, hs, hr⟩
  · rw [heq] at h
    cases h
  · rw [heq] at h
    cases h

theorem sendPhase_state :
    (sendPhase x f io).1.state = .waitResp ∨ (sendPhase x f io).1.state = .failed ∨
      ((sendPhase x f io).1.state = .waitForLifetimeRenew ∧
        ∃ s, x.server = some s ∧ s.restartFlowMsg = some x.id) := by
  rcases fhndlSend_event x { f with state := .send } io with h | h | h
  · exact (afterSend_state x (.inl h)).imp_right .inl
  · refine .inr (.inr ⟨?_, fhndlSend_ignored x _ io h⟩)
    unfold sendPhase
    rcases hr : fhndlSend x { f with state := .send } io with ⟨ev, f', io'⟩
    rw [hr] at h
    simp only at h
    subst h
    rfl
  · exact (afterSend_state x (.inr h)).imp_right .inl

theorem renewPhase_state :
    (renewPhase x f io).1.state = .waitForLifetimeRenew ∨ (renewPhase x f io).1.state = .waitResp ∨
      (renewPhase x f io).1.state = .failed := by
  unfold renewPhase
  split
  · exact .inl rfl
  · rcases sendPhase_state x ‹_› ‹_› with h | h | h
    · exact .inr (.inl h)
    · exact .inr (.inr h)
    · exact .inl h.1

theorem fhndlReceivedSuccess_state : (fhndlReceivedSuccess x f io).2.1.state = f.state := by
  unfold fhndlReceivedSuccess
  cases x.msg with
  | none => rfl
  | some m => exact takeSuccess_state x.env.cfg m f

/-- The states in which a flow waits for an answer, for its timer, or for nothing. -/
def FlowState.Active (st : FlowState) : Prop :=
  st = .waitResp ∨ st = .waitAfterShortLifeError ∨ st = .waitForLifetimeRenew ∨ st = .failed

instance (st : FlowState) : Decidable st.Active := inferInstanceAs (Decidable (_ ∨ _))

theorem FlowState.Active.ne {st st' : FlowState} (h : st.Active) (h' : ¬ st'.Active) : st ≠ st' := by
  rintro rfl
  exact h' h

theorem sendPhase_active : (sendPhase x f io).1.state.Active := by
  rcases sendPhase_state x f io with h | h | h
  · exact .inl h
  · exact .inr (.inr (.inr h))
  · exact .inr (.inr (.inl h.1))

theorem resendPhase_active : (resendPhase x f io).1.state.Active :=
  (resendPhase_state x f io).imp id fun h => .inr (.inr h)

theorem renewPhase_active : (renewPhase x f io).1.state.Active := by
  rcases renewPhase_state x f io with h | h | h
  · exact .inr (.inr (.inl h))
  · exact .inl h
  · exact .inr (.inr (.inr h))

theorem flowPhase_state {cur next : FlowState} (hi : next ≠ .idle) :
    (flowPhase x cur next f io).1.state.Active ∨
      (next = .waitForServerInit ∧ (flowPhase x cur next f io).1.state = .waitForServerInit) := by
  cases next with
  | idle => exact absurd rfl hi
  | waitForServerInit =>
    refine .inr ⟨rfl, ?_⟩
    simp only [flowPhase, fhndlClearTimeouts]
    cases x.msg <;> rfl
  | send =>
    simp only [flowPhase]
    split
    · exact .inl (resendPhase_active x f io)
    · exact .inl (sendPhase_active x f io)
  | waitResp => exact .inl ((waitPhase_state x f io).imp id fun h => .inr (.inr h))
  | waitAfterShortLifeError =>
    refine .inl (.inr (.inl ?_))
    simp only [flowPhase, fhndlShortlifeerror]
    cases x.msg <;> rfl
  | waitForLifetimeRenew =>
    refine .inl (.inr (.inr (.inl ?_)))
    simp only [flowPhase]
    split
    · exact fhndlReceivedSuccess_state x _ io
    · rfl
  | sendRenew => exact .inl (renewPhase_active x f io)
  | failed => exact .inl (.inr (.inr (.inr (failPhase_state x f io))))

end States

end LibPcp
