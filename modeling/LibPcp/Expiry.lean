import LibPcp.Renewal

/-!
# LibPcp.Expiry

Renewals of mappings that have expired.

`fhndl_send_renew` arms the timer at half of the time that is left, and takes only a half of zero as the
end of the mapping. Past the expiry the half is negative: the timer is set to the past and the flow is
reported as succeeded for as long as that goes on.

* `RenewalInTime`: what a processed renewal timer leaves.
* `renewal_inTime_iff`: when it does.
-/

namespace LibPcp

/-- The flow is not reported as succeeded any more, or its next renewal is later than `now` and before
its expiry. -/
def RenewalInTime (now : Timeval) (v : Flow) : Prop :=
  v.state ≠ .waitForLifetimeRenew ∨
    (now.us < v.timeout.us ∧ v.timeout.us < v.recvLifetime * 1000000)

instance (now : Timeval) (v : Flow) : Decidable (RenewalInTime now v) :=
  inferInstanceAs (Decidable (_ ∨ _))

/-- The socket takes the renewal request. -/
def RenewalSent (x : FlowEnv) (v : Flow) (io : Io) : Prop :=
  ∃ s ∈ x.server, (pcpFlowSendMsg x.env x.id v.pcpServerIndx s { v with state := .sendRenew } io).1 = true

/-- The response of the flow has revealed a restart that is still to be processed. -/
def RevealsRestart (x : FlowEnv) : Prop := ∃ s ∈ x.server, s.restartFlowMsg = some x.id

/-! ## Sending does not depend on the timer -/

theorem preparedMsg_timer (e : Env) (s : Server) (f : Flow) (t : Timeval) (io : Io) :
    preparedMsg e s { f with timeout := t } io =
      ({ (preparedMsg e s f io).1 with timeout := t }, (preparedMsg e s f io).2) := by
  have henc : ∀ b, encodeMsg e.cfg s.pcpVersion { f with timeout := t } b =
      encodeMsg e.cfg s.pcpVersion f b := fun _ => rfl
  have hfill : ∀ o, ({ f with timeout := t } : Flow).fillMsg o = { f.fillMsg o with timeout := t } := by
    intro o
    cases o <;> rfl
  unfold preparedMsg
  dsimp only
  split
  · rw [buildPcpMsg_some, buildPcpMsg_some]
    dsimp only
    split
    · rw [henc, hfill]
    · split
      · rw [henc, hfill]
      · rfl
  · rfl

theorem pcpFlowSendMsg_timer (e : Env) (id : FlowId) (i : Nat) (s : Server) (f : Flow) (t : Timeval)
    (io : Io) : (pcpFlowSendMsg e id i s { f with timeout := t } io).1 =
      (pcpFlowSendMsg e id i s f io).1 := by
  rw [pcpFlowSendMsg_eq, pcpFlowSendMsg_eq, preparedMsg_timer]
  dsimp only
  have hmk : sentRecord id i s { (preparedMsg e s f io).1 with timeout := t } =
      sentRecord id i s (preparedMsg e s f io).1 := rfl
  rw [hmk]
  generalize preparedMsg e s f io = r
  cases r.1.pcpMsgBuffer with
  | none => rfl
  | some b =>
    dsimp only
    rcases sendLoop e (sentRecord id i s r.1) b r.1.pcpMsgLen r.1.pcpMsgLen r.1.pcpMsgLen r.2 with ⟨ok, io'⟩
    cases ok <;> rfl

/-! ## One renewal -/

section Renew

variable (x : FlowEnv) (f : Flow) (io : Io)

/-- The timer of a renewal that is sent in time. -/
theorem inTime_of_left {now : Timeval} {v : Flow} (hn : now.Normal) (ht : v.timeout = now.addSec
    ((v.recvLifetime - now.tvSec) >>> (1 : Nat))) :
    (now.us < v.timeout.us ∧ v.timeout.us < v.recvLifetime * 1000000) ↔
      2 ≤ v.recvLifetime - now.tvSec := by
  rw [ht, Timeval.us_addSec, Int.shiftRight_eq_div_pow]
  simp only [Timeval.Normal, Timeval.us] at *
  omega

/-- A flow that `fhndl_send` ignores keeps its timer. -/
theorem sendPhase_inTime {now : Timeval} (ht : f.timeout.us ≤ now.us) :
    RenewalInTime now (sendPhase x f io).1 ↔ ¬ RevealsRestart x := by
  constructor
  · rintro h ⟨s, hs, hr⟩
    have hs : x.server = some s := hs
    have heq : sendPhase x f io = ({ f with state := .waitForLifetimeRenew }, io) := by
      simp only [sendPhase, fhndlSend, hs, hr, if_true, afterSend]
    rw [heq] at h
    rcases h with h | h
    · exact h rfl
    · exact absurd h.1 (Int.not_lt.mpr ht)
  · intro hr
    left
    rcases sendPhase_state x f io with h | h | ⟨-, s, hs, hrs⟩
    · rw [h]
      decide
    · rw [h]
      decide
    · exact absurd ⟨s, hs, hrs⟩ hr

theorem renewPhase_inTime_iff (hn : (x.env.now io).Normal)
    (ht : f.timeout.us ≤ (x.env.now io).us) :
    RenewalInTime (x.env.now io) (renewPhase x f io).1 ↔
      (RenewalSent x f io → 0 ≤ secondsLeft x f io) ∧
        (RevealsRestart x → RenewalSent x f io ∧ 2 ≤ secondsLeft x f io) := by
  unfold renewPhase
  rcases fhndlSendRenew_cases x { f with state := .sendRenew } io with
    ⟨hs, h⟩ | ⟨s, hs, ⟨⟨f', io'⟩, hsend, h⟩ | ⟨f', io', hsend, hdelay⟩⟩
  · -- no server: neither condition says anything, and the flow fails
    have hnone : ∀ P : Server → Prop, ¬ ∃ s ∈ x.server, P s := by
      rintro P ⟨s, hs', -⟩
      rw [hs] at hs'
      cases hs'
    rw [h]
    dsimp only
    refine (sendPhase_inTime x { f with state := .sendRenew } io ht).trans ⟨fun _ => ?_, fun _ => hnone _⟩
    exact ⟨fun hsent => absurd hsent (hnone _), fun hr => absurd hr (hnone _)⟩
  · have hsent : ¬ RenewalSent x f io := by
      rintro ⟨s', hs', hok⟩
      rw [hs] at hs'
      cases hs'
      rw [hsend] at hok
      cases hok
    obtain ⟨⟨b, l, rfl⟩, -⟩ := pcpFlowSendMsg_counters hsend
    rw [h]
    dsimp only
    refine (sendPhase_inTime x (({ f with state := .sendRenew } : Flow).setMsg b l) io' ht).trans ?_
    exact ⟨fun hr => ⟨fun h => absurd h hsent, fun h => absurd h hr⟩, fun hc hr => hsent (hc.2 hr).1⟩
  · have hsent : RenewalSent x f io := ⟨s, hs, by rw [hsend]⟩
    obtain ⟨⟨b, l, rfl⟩, hticks, -⟩ := pcpFlowSendMsg_counters hsend
    have hnow : x.env.now io' = x.env.now io := congrArg x.env.clock hticks
    have hleft : renewDelay x (({ f with state := .sendRenew } : Flow).setMsg b l) io' =
        secondsLeft x f io >>> (1 : Nat) := by
      rw [renewDelay, hnow]
      rfl
    rw [hleft, hnow] at hdelay
    rcases hdelay with ⟨hz, h⟩ | ⟨hz, h⟩
    · rw [h]
      dsimp only
      rw [Int.shiftRight_eq_div_pow] at hz
      refine (sendPhase_inTime x { ({ f with state := .sendRenew } : Flow).setMsg b l with
        timeout := x.env.now io } io'.tick (Int.le_refl _)).trans ?_
      constructor
      · exact fun hr => ⟨fun _ => by omega, fun h => absurd h hr⟩
      · intro hc hr
        have h2 := (hc.2 hr).2
        omega
    · rw [h]
      dsimp only
      have hiff := inTime_of_left (v := { ({ f with state := .sendRenew } : Flow).setMsg b l with
        timeout := (x.env.now io).addSec (secondsLeft x f io >>> (1 : Nat)), state := .waitForLifetimeRenew })
        hn rfl
      rw [Int.shiftRight_eq_div_pow] at hz
      have hleft2 : RenewalInTime (x.env.now io)
          { ({ f with state := .sendRenew } : Flow).setMsg b l with
            timeout := (x.env.now io).addSec (secondsLeft x f io >>> (1 : Nat)),
            state := .waitForLifetimeRenew } ↔ 2 ≤ secondsLeft x f io :=
        ⟨fun h => hiff.mp (h.resolve_left fun h => h rfl), fun h => .inr (hiff.mpr h)⟩
      refine hleft2.trans ⟨fun h2 => ⟨fun _ => by omega, fun _ => ⟨hsent, h2⟩⟩, fun hc => ?_⟩
      have h0 := hc.1 hsent
      omega

end Renew

/-! ## `check_flow_timeout` -/

section Check

variable {e : Env} {c : Ctx} {f : FlowId}

theorem alignTimer_inTime {now : Timeval} {v : Flow} :
    RenewalInTime now (alignTimer v) ↔ RenewalInTime now v := by
  simp only [RenewalInTime, alignTimer, us_timevalAlign]

/-- The rest of `check_flow_timeout` does not touch the flow but to align its timer. -/
theorem checkFlowTimeout_inTime {now : Timeval} (s : Nat) (hz : (c.heap f).timeout.isZero = false)
    (hdue : (c.heap f).timeout.us ≤ (e.now c.io).us) :
    RenewalInTime now ((checkFlowTimeout e s c f).heap f) ↔
      RenewalInTime now (flowStep (c.flowEnv e f none) .flowTimedout (alignTimer (c.heap f)) c.io.tick).1 := by
  have hfire : (fireTimer e c f).heap f =
      (flowStep (c.flowEnv e f none) .flowTimedout (alignTimer (c.heap f)) c.io.tick).1 := by
    have hself : (c.tick.modFlow f alignTimer).heap f = alignTimer (c.heap f) := Function.update_self ..
    have henv : (c.tick.modFlow f alignTimer).flowEnv e f none = c.flowEnv e f none := by
      rw [Ctx.flowEnv, hself]
      rfl
    rw [fireTimer, if_pos hdue, handleFlowEvent_heap, Function.update_self, hself, henv]
    rfl
  rw [checkFlowTimeout_eq, if_neg (by simp [hz]), ← hfire]
  unfold lowerTimeout
  split
  · rfl
  · have hself : (((fireTimer e c f).modFlow f alignTimer).setNextTimeout s (nearestTimeout
        ((fireTimer e c f).pcpServers s).nextTimeout (timerLeft (fireTimer e c f) f (e.now c.io)))).heap f =
        alignTimer ((fireTimer e c f).heap f) := Function.update_self ..
    rw [hself]
    exact alignTimer_inTime

theorem RevealsRestart.server {m : Option RecvMsg} (h : RevealsRestart (c.flowEnv e f m)) :
    (c.pcpServers (c.heap f).pcpServerIndx).restartFlowMsg = some f := by
  obtain ⟨v, hv, hr⟩ := h
  have hv : serverOf c (c.heap f).pcpServerIndx = some v := hv
  rw [← (serverOf_eq_some hv).2]
  exact hr

theorem renewalSent_align (x : FlowEnv) (v : Flow) (io : Io) :
    RenewalSent x (alignTimer v) io ↔ RenewalSent x v io := by
  have heq : ∀ s, (pcpFlowSendMsg x.env x.id v.pcpServerIndx s { alignTimer v with state := .sendRenew }
      io).1 = (pcpFlowSendMsg x.env x.id v.pcpServerIndx s { v with state := .sendRenew } io).1 :=
    fun s => pcpFlowSendMsg_timer x.env x.id _ s { v with state := .sendRenew } _ io
  constructor
  · rintro ⟨s, hs, h⟩
    exact ⟨s, hs, (heq s).symm.trans h⟩
  · rintro ⟨s, hs, h⟩
    exact ⟨s, hs, (heq s).trans h⟩

/-- A renewal timer that has run out at `now` is processed. What is left is a mapping that is renewed in
time or none, if and only if the mapping has not expired when its renewal is sent; a flow that reveals
a restart needs two seconds more, and the socket. -/
theorem renewal_inTime_iff (e : Env) (s : Nat) (c : Ctx) (f : FlowId) (now : Timeval) (hn : now.Normal)
    (hnow : e.clock c.io.ticks = now) (hstill : e.clock (c.io.ticks + 1) = now)
    (hst : (c.heap f).state = .waitForLifetimeRenew) (hz : (c.heap f).timeout.isZero = false)
    (hdue : (c.heap f).timeout.us ≤ now.us) :
    RenewalInTime now ((checkFlowTimeout e s c f).heap f) ↔
      (RenewalSent (c.flowEnv e f none) (c.heap f) c.io.tick →
        now.tvSec ≤ (c.heap f).recvLifetime) ∧
      (RevealsRestart (c.flowEnv e f none) → RenewalSent (c.flowEnv e f none) (c.heap f) c.io.tick ∧
        now.tvSec + 2 ≤ (c.heap f).recvLifetime) := by
  have hread : (c.flowEnv e f none).env.now c.io.tick = now := hstill
  have hstep : flowStep (c.flowEnv e f none) .flowTimedout (alignTimer (c.heap f)) c.io.tick =
      renewPhase (c.flowEnv e f none) (alignTimer (c.heap f)) c.io.tick :=
    flowStep_timedout _ _ _ hst
  have halign : (alignTimer (c.heap f)).timeout.us ≤ now.us := by
    simp only [alignTimer, us_timevalAlign]
    exact hdue
  have hphase := renewPhase_inTime_iff (c.flowEnv e f none) (alignTimer (c.heap f)) c.io.tick
    (by rw [hread]; exact hn) (by rw [hread]; exact halign)
  rw [hread, renewalSent_align] at hphase
  have hleft : secondsLeft (c.flowEnv e f none) (alignTimer (c.heap f)) c.io.tick =
      (c.heap f).recvLifetime - now.tvSec := by
    rw [secondsLeft, hread]
    rfl
  rw [hleft] at hphase
  rw [checkFlowTimeout_inTime s hz (by rw [Env.now, hnow]; exact hdue), hstep, hphase]
  constructor
  · rintro ⟨h₁, h₂⟩
    exact ⟨fun h => by have := h₁ h; omega, fun h => ⟨(h₂ h).1, by have := (h₂ h).2; omega⟩⟩
  · rintro ⟨h₁, h₂⟩
    exact ⟨fun h => by have := h₁ h; omega, fun h => ⟨(h₂ h).1, by have := (h₂ h).2; omega⟩⟩

end Check

/-- The clock of a host that is asleep from the success of `waitingFlow` until the second `wake`. -/
def asleepEnv (wake : Int) : Env :=
  { Env.calm {} with clock := fun i => if i < 16 then ⟨1000, 0⟩ else ⟨wake, 0⟩ }

/-- A mapping that expires at second 1060. -/
def mappedUntil1060 (wake : Int) : Ctx :=
  runTo (asleepEnv wake) (fun _ _ => True) 12 {}
    (waitingFlow ++ [.pulse (some (mapResponse 0 60 1000 0x0B000001)) .zero])

theorem renewal_inTime_iff_half :
    RenewalInTime ⟨1030, 0⟩ ((checkFlowTimeout (asleepEnv 1030) 0 (mappedUntil1060 1030) 0).heap 0) := by
  refine (renewal_inTime_iff (asleepEnv 1030) 0 (mappedUntil1060 1030) 0 ⟨1030, 0⟩ ⟨by decide, by decide⟩
    (by decide +kernel) (by decide +kernel) (by decide +kernel) (by decide +kernel)
    (by decide +kernel)).mpr ⟨fun _ => by decide +kernel, ?_⟩
  intro hr
  have hnone : ((mappedUntil1060 1030).pcpServers
      ((mappedUntil1060 1030).heap 0).pcpServerIndx).restartFlowMsg = none := by
    decide +kernel
  have hsome := hr.server
  rw [hnone] at hsome
  cases hsome

/-- The host wakes up after the expiry: the renewal is sent and the timer is set to the past. -/
theorem expired_mapping_kept :
    (mappedUntil1060 2000).io.ticks = 16 ∧
      ((mappedUntil1060 2000).heap 0).state = .waitForLifetimeRenew ∧
      ((mappedUntil1060 2000).heap 0).recvLifetime = 1060 ∧
      ((mappedUntil1060 2000).heap 0).timeout = ⟨1030, 0⟩ ∧
      ¬ RenewalInTime ⟨2000, 0⟩ ((checkFlowTimeout (asleepEnv 2000) 0 (mappedUntil1060 2000) 0).heap 0) := by
  decide +kernel

end LibPcp
