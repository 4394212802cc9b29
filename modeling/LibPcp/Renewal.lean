import Mathlib.Data.Nat.Log
import LibPcp.Retries

/-!
# LibPcp.Renewal

When a mapping is renewed.

A success with expiry `E` arms the timer at half of the time that is left, and so does every renewal
request, until less than two seconds are left; then the renewal is followed by a fresh request in the
same event. `fhndl_send` ignores the flow whose response has revealed a restart, so that flow can be
left in the renewal state without either.

* `renewPhase_cases`: one renewal.
* `Reachable.linked`: between two events of a flow its renewal timer stays as it is.
* `renewal_schedule`: the renewals after a success, in any run.
-/

namespace LibPcp

/-- What `gettimeofday` promises about the microseconds. -/
def Env.ClockNormal (e : Env) : Prop := ∀ i, (e.clock i).Normal

/-! ## One renewal -/

/-- `fhndl_send` has sent the request at the reading of the clock after the one of the renewal, and the
flow goes on to wait for its answer. -/
def SendsFresh (x : FlowEnv) (io : Io) (r : Flow × Io) : Prop :=
  ∃ s f₁ io₁ f₂ io₂, x.server = some s ∧ f₁.state = .send ∧ io₁.ticks = io.ticks + 1 ∧
    pcpFlowSendMsg x.env x.id f₁.pcpServerIndx s f₁ io₁ = (true, f₂, io₂) ∧
    fhndlSend x f₁ io₁ = (.msgSent, armResend x { f₂ with resendTimeout := x.env.cfg.retxIrt } io₂) ∧
    r = afterSend x (fhndlSend x f₁ io₁)

section Events

variable (x : FlowEnv) (f : Flow) (io : Io)

/-- The seconds that are left of the mapping when the timer is processed. -/
def secondsLeft (x : FlowEnv) (f : Flow) (io : Io) : Int := f.recvLifetime - (x.env.now io).tvSec

theorem sendPhase_outcome {s : Server} (hs : x.server = some s) (hr : s.restartFlowMsg ≠ some x.id) :
    io.sendErrs < (sendPhase x f io).2.sendErrs ∨
      (io.ticks < (sendPhase x f io).2.ticks ∧ (sendPhase x f io).2.sendErrs = io.sendErrs ∧ ∃ f' io',
        pcpFlowSendMsg x.env x.id f.pcpServerIndx s { f with state := .send } io = (true, f', io') ∧
        fhndlSend x { f with state := .send } io =
          (.msgSent, armResend x { f' with resendTimeout := x.env.cfg.retxIrt } io')) := by
  unfold sendPhase
  rcases fhndlSend_cases x { f with state := .send } io with
    ⟨hn, -⟩ | ⟨s', hs', ⟨hr', -⟩ | ⟨-, ⟨⟨f', io'⟩, hsend, h⟩ | ⟨f', io', hsend, h⟩⟩⟩
  · rw [hs] at hn
    cases hn
  · rw [hs] at hs'
    cases hs'
    exact absurd hr' hr
  · obtain ⟨-, -, -, herr⟩ := pcpFlowSendMsg_counters hsend
    left
    rw [h]
    simp only [afterSend, (failPhase_spec x f' io').2.2]
    rw [herr]
    exact Nat.lt_succ_self _
  · rw [hs] at hs'
    cases hs'
    obtain ⟨-, hticks, -, herr⟩ := pcpFlowSendMsg_counters hsend
    refine .inr ⟨?_, ?_, f', io', hsend, h⟩
    · rw [h]
      have hwait := (waitPhase_moves x
        (armResend x { f' with resendTimeout := x.env.cfg.retxIrt } io').1 io'.tick).frame.ticks
      exact Nat.lt_of_lt_of_le (Nat.lt_succ_of_le (Nat.le_of_eq hticks.symm)) hwait
    · rw [h]
      exact (waitPhase_spec x _ _).2.1.trans herr

/-- A renewal whose requests are all sent: the timer is armed at half of what is left, or there is too
little left and a fresh request is sent. -/
theorem renewPhase_cases {s : Server} (hs : x.server = some s) (hr : s.restartFlowMsg ≠ some x.id)
    (herr : (renewPhase x f io).2.sendErrs = io.sendErrs) :
    (secondsLeft x f io / 2 ≠ 0 ∧ (renewPhase x f io).1.state = .waitForLifetimeRenew ∧
        (renewPhase x f io).1.recvLifetime = f.recvLifetime ∧
        (renewPhase x f io).1.timeout = (x.env.now io).addSec (secondsLeft x f io / 2) ∧
        io.ticks < (renewPhase x f io).2.ticks) ∨
      (secondsLeft x f io / 2 = 0 ∧ (renewPhase x f io).1.state ≠ .waitForLifetimeRenew ∧
        SendsFresh x io (renewPhase x f io) ∧ io.ticks + 1 < (renewPhase x f io).2.ticks) := by
  have hdelay : ∀ b l {io' : Io}, io'.ticks = io.ticks →
      renewDelay x (({ f with state := .sendRenew } : Flow).setMsg b l) io' =
        secondsLeft x f io / 2 := by
    intro b l io' hio
    rw [renewDelay, secondsLeft, Env.now, Env.now, hio, Int.shiftRight_eq_div_pow]
    rfl
  unfold renewPhase at herr ⊢
  rcases fhndlSendRenew_cases x { f with state := .sendRenew } io with
    ⟨hn, -⟩ | ⟨s', hs', ⟨⟨f', io'⟩, hsend, h⟩ | ⟨f', io', hsend, ⟨hz, h⟩ | ⟨hz, h⟩⟩⟩
  · rw [hs] at hn
    cases hn
  · obtain ⟨-, -, -, herr'⟩ := pcpFlowSendMsg_counters hsend
    rw [h] at herr
    dsimp only at herr
    rcases sendPhase_outcome x f' io' hs hr with hlt | ⟨-, heq, -⟩
    · simp only [Bool.false_eq_true, if_false] at herr'
      omega
    · simp only [Bool.false_eq_true, if_false] at herr'
      omega
  · obtain ⟨⟨b, l, rfl⟩, hticks, -, herr'⟩ := pcpFlowSendMsg_counters hsend
    rw [hdelay b l hticks] at hz
    rw [h] at herr ⊢
    dsimp only at herr ⊢
    generalize hf₁ : ({ ({ f with state := .sendRenew } : Flow).setMsg b l with
      timeout := x.env.now io' } : Flow) = f₁ at herr ⊢
    have htick : io'.tick.ticks = io.ticks + 1 := congrArg (· + 1) hticks
    have hstate : (sendPhase x f₁ io'.tick).1.state ≠ .waitForLifetimeRenew := by
      rcases sendPhase_state x f₁ io'.tick with h' | h' | ⟨-, s', hs', hr'⟩
      · rw [h']
        decide
      · rw [h']
        decide
      · rw [hs] at hs'
        cases hs'
        exact absurd hr' hr
    rcases sendPhase_outcome x f₁ io'.tick hs hr with hlt | ⟨hlt, -, f₂, io₂, hsend', hsnd⟩
    · have herr₂ : io'.tick.sendErrs = io'.sendErrs := rfl
      simp only [if_true] at herr'
      omega
    · rw [htick] at hlt
      exact .inr ⟨hz, hstate, ⟨s, { f₁ with state := .send }, io'.tick, f₂, io₂, hs, rfl, htick,
        hsend', hsnd, rfl⟩, hlt⟩
  · obtain ⟨⟨b, l, rfl⟩, hticks, -, -⟩ := pcpFlowSendMsg_counters hsend
    have hnow : x.env.now io' = x.env.now io := congrArg x.env.clock hticks
    rw [hdelay b l hticks] at hz h
    rw [h, hnow]
    exact .inl ⟨hz, rfl, rfl, rfl, by simp only [Io.tick]; omega⟩

theorem flowStep_timedout (hst : f.state = .waitForLifetimeRenew) :
    flowStep x .flowTimedout f io = renewPhase x f io := by
  rw [flowStep_eq x f io (by simp), hst]
  rfl

/-- Without a server nothing is sent and the flow fails. -/
theorem renewPhase_noServer (hs : x.server = none) : (renewPhase x f io).1.state = .failed := by
  unfold renewPhase
  simp only [fhndlSendRenew, hs, sendPhase, fhndlSend, afterSend]
  exact failPhase_state x _ io

theorem sendPhase_ignored (h : (sendPhase x f io).1.state = .waitForLifetimeRenew) :
    sendPhase x f io = ({ f with state := .waitForLifetimeRenew }, io) := by
  rcases sendPhase_state x f io with h' | h' | ⟨-, s, hs, hr⟩
  · rw [h'] at h
    cases h
  · rw [h'] at h
    cases h
  · simp only [sendPhase, fhndlSend, hs, hr, if_true, afterSend]

/-- An event that is neither an answer nor a timeout leaves the timer alone, if it leaves the flow in
the renewal state. -/
theorem flowStep_stays {ev : FlowEvent} (hst : f.state = .waitForLifetimeRenew)
    (hev : ev ≠ .msgSent) (hres : ev.isRes = false) (hto : ev ≠ .flowTimedout)
    (hnew : (flowStep x ev f io).1.state = .waitForLifetimeRenew) :
    (flowStep x ev f io).1.timeout = f.timeout ∧
      (flowStep x ev f io).1.recvLifetime = f.recvLifetime := by
  rw [flowStep_eq x f io hev, hst] at hnew ⊢
  have hsend : (sendPhase x f io).1.state = .waitForLifetimeRenew →
      (sendPhase x f io).1.timeout = f.timeout ∧
        (sendPhase x f io).1.recvLifetime = f.recvLifetime := by
    intro h
    rw [sendPhase_ignored x f io h]
    exact ⟨rfl, rfl⟩
  cases ev with
  | flowTimedout => exact absurd rfl hto
  | msgSent => exact absurd rfl hev
  | res code => cases hres
  | send | failed | serverRestarted => exact hsend hnew
  | serverInitialized | none | ignored => exact ⟨rfl, rfl⟩

theorem takeSuccess_recvLifetime (cfg : Config) (m : RecvMsg) :
    (takeSuccess cfg m f).recvLifetime =
      if (m.recvLifetime.toNat : Int) > longMax - m.receivedTime then longMax
      else m.receivedTime + m.recvLifetime.toNat := by
  unfold takeSuccess
  dsimp only
  generalize (if (m.recvLifetime.toNat : Int) > longMax - m.receivedTime then longMax
    else m.receivedTime + m.recvLifetime.toNat) = t
  repeat' split
  all_goals rfl

/-- The timer is armed at half of what is left of the lifetime. -/
theorem flowStep_success {m : RecvMsg} (hm : x.msg = some m) (hl : m.recvLifetime ≠ 0)
    (hst : f.state = .waitResp ∨ f.state = .waitForLifetimeRenew) :
    (flowStep x (.res resSuccess) f io).1.recvLifetime ≤ m.receivedTime + m.recvLifetime.toNat ∧
      (flowStep x (.res resSuccess) f io).1.timeout =
        (x.env.now io).addSec (secondsLeft x (flowStep x (.res resSuccess) f io).1 io / 2) := by
  have hstep : flowStep x (.res resSuccess) f io =
      (fhndlReceivedSuccess x { f with state := .waitForLifetimeRenew } io).2 := by
    rw [flowStep_eq x f io (by simp)]
    rcases hst with hst | hst
    · rw [hst]
      rfl
    · rw [hst]
      rfl
  have hexp : ∀ v, (takeSuccess x.env.cfg m v).recvLifetime ≤
      m.receivedTime + m.recvLifetime.toNat := by
    intro v
    rw [takeSuccess_recvLifetime]
    split <;> omega
  rw [hstep]
  simp only [fhndlReceivedSuccess, hm, if_neg hl, secondsLeft, Int.shiftRight_eq_div_pow]
  exact ⟨hexp _, rfl⟩

end Events

/-! ## The log of a run -/

def Handled.flowEnv (e : Env) (h : Handled) : FlowEnv :=
  { env := e, id := h.flow, server := h.server, msg := h.msg }

/-- The flow `w` waits to be renewed and has the expiry and the timer of `v`. -/
structure Flow.Renews (v w : Flow) : Prop where
  state : v.state = .waitForLifetimeRenew
  expiry : v.recvLifetime = w.recvLifetime
  timer : v.timeout.us = w.timeout.us

/-- The most recent event of the flow. -/
def lastEvent (f : FlowId) (l : List Handled) : Option Handled := l.find? (·.flow = f)

theorem lastEvent_same {f : FlowId} {h : Handled} (hf : h.flow = f) (l : List Handled) :
    lastEvent f (h :: l) = some h := by
  simp [lastEvent, hf]

theorem lastEvent_other {f : FlowId} {h : Handled} (hf : h.flow ≠ f) (l : List Handled) :
    lastEvent f (h :: l) = lastEvent f l := by
  simp [lastEvent, hf]

/-- Every entry is a step of its flow, which is renewed from where its last event left it. -/
def LinkedLog (e : Env) : List Handled → Prop
  | [] => True
  | h :: pre =>
    (h.new, h.after) = flowStep (h.flowEnv e) h.ev h.old h.before ∧ h.ev ≠ .msgSent ∧
      (h.old.state = .waitForLifetimeRenew →
        ∃ h', lastEvent h.flow pre = some h' ∧ h'.new.Renews h.old) ∧ LinkedLog e pre

structure Linked (e : Env) (c : Ctx) : Prop where
  heap : ∀ f, (c.heap f).state = .waitForLifetimeRenew →
    ∃ h, lastEvent f c.handled = some h ∧ h.new.Renews (c.heap f)
  log : LinkedLog e c.handled

section Runs

variable {e : Env} {c c' : Ctx}

theorem handleFlowEvent_linked {f : FlowId} {ev : FlowEvent} {m : Option RecvMsg} (hev : ev ≠ .msgSent)
    (hl : Linked e c) : Linked e (handleFlowEvent e c f ev m) := by
  refine ⟨fun g hg => ?_, ?_⟩
  · rw [handleFlowEvent_handled]
    rw [handleFlowEvent_heap] at hg ⊢
    by_cases hgf : g = f
    · subst hgf
      rw [Function.update_self] at hg ⊢
      exact ⟨_, lastEvent_same rfl _, hg, rfl, rfl⟩
    · rw [Function.update_of_ne hgf] at hg ⊢
      rw [lastEvent_other (Ne.symm hgf)]
      exact hl.heap g hg
  · rw [handleFlowEvent_handled]
    exact ⟨rfl, hev, hl.heap f, hl.log⟩

theorem Linked.congr (hl : Linked e c) (hlog : c'.handled = c.handled)
    (hheap : ∀ f, (c'.heap f).state = .waitForLifetimeRenew → (c.heap f).Renews (c'.heap f)) :
    Linked e c' := by
  refine ⟨fun f hf => ?_, hlog ▸ hl.log⟩
  have hr := hheap f hf
  obtain ⟨h, hlast, hrenews⟩ := hl.heap f hr.state
  rw [hlog]
  exact ⟨h, hlast, hrenews.state, hrenews.expiry.trans hr.expiry, hrenews.timer.trans hr.timer⟩

theorem Flow.Touched.renews {v w : Flow} (h : v.Touched w) (hw : w.state = .waitForLifetimeRenew) :
    v.Renews w := by
  cases h with
  | same | reset => exact ⟨hw, rfl, rfl⟩
  | align => exact ⟨hw, rfl, (us_timevalAlign _).symm⟩
  | putBack => cases hw
  | announce _ hst hmsg =>
    rw [hst] at hw
    cases hw

theorem Flow.Called.renews {v w : Flow} (h : Flow.Called e c v w)
    (hw : w.state = .waitForLifetimeRenew) : v.Renews w := by
  obtain ⟨b, n, rfl⟩ := h.linked (by rw [hw]; rfl) (by rw [hw]; decide)
  exact ⟨hw, rfl, rfl⟩

theorem Reachable.linked (h : Reachable e c) : Linked e c := by
  have hkept : KeptByEvents e (Linked e) :=
    { event := fun hev hl => handleFlowEvent_linked hev hl
      unheard := fun h hl => hl.congr h.handled fun f => (h.flow f).renews
      call := fun hlog _ hflow hl => hl.congr hlog fun f => (hflow f).renews }
  refine hkept.kept.reachable h ⟨fun f hf => ?_, trivial⟩
  cases hf

end Runs

/-! ## The schedule -/

/-- A success response `m` with a lifetime, handled between its arrival and the expiry it gives. -/
structure Handled.Answers (e : Env) (m : RecvMsg) (g : Handled) : Prop where
  ev : g.ev = .res resSuccess
  state : g.old.state = .waitResp ∨ g.old.state = .waitForLifetimeRenew
  msg : g.msg = some m
  lifetime : m.recvLifetime ≠ 0
  arrived : m.receivedTime ≤ (e.clock g.before.ticks).tvSec
  valid : (e.clock g.before.ticks).tvSec < g.new.recvLifetime

/-- An event of a flow that waits to be renewed before `expiry`: no answer, every request is sent, and a
timer is processed when it is due and before the expiry. -/
structure Handled.OnTime (e : Env) (expiry : Int) (h : Handled) : Prop where
  state : h.old.state = .waitForLifetimeRenew
  quiet : h.ev.isRes = false
  sent : h.after.sendErrs = h.before.sendErrs
  due : h.ev = .flowTimedout → h.old.timeout.us ≤ (e.clock h.before.ticks).us
  valid : h.ev = .flowTimedout → ∀ i, h.before.ticks ≤ i → i < h.after.ticks →
    (e.clock i).tvSec < expiry

/-- And when a timer is processed, the flow is not the one that has revealed a restart. -/
structure Handled.Renewing (e : Env) (expiry : Int) (h : Handled) : Prop
    extends Handled.OnTime e expiry h where
  restart : h.ev = .flowTimedout → ∀ s, h.server = some s → s.restartFlowMsg ≠ some h.flow

/-- The events that armed a timer, the success first of all. -/
def armed (g : Handled) (mid : List Handled) : List Handled :=
  mid.filter (fun h => h.flow = g.flow ∧ h.ev = .flowTimedout ∧ h.new.state = .waitForLifetimeRenew) ++
    [g]

/-- The renewals in `mid`, the part of the log after the success `g` with lifetime `lifetime`. -/
structure Schedule (e : Env) (g : Handled) (lifetime : Nat) (mid : List Handled) : Prop where
  count : timeouts g.flow mid ≤ Nat.clog 2 lifetime + 1
  below : ∀ h ∈ armed g mid, h.new.timeout.tvSec < g.new.recvLifetime
  increasing : ((armed g mid).map (·.new.timeout.us)).Pairwise (· > ·)
  fresh : ∀ h ∈ mid, h.flow = g.flow → h.ev = .flowTimedout → h.server ≠ none →
    (2 ≤ g.new.recvLifetime - (e.clock h.before.ticks).tvSec ∧
        h.new.state = .waitForLifetimeRenew) ∨
      SendsFresh (h.flowEnv e) h.before (h.new, h.after) ∧
        (e.clock (h.before.ticks + 1)).tvSec < g.new.recvLifetime

/-- The timer of a flow whose last event is `h`, and how many more renewals there can be. -/
structure Pending (g : Handled) (lifetime : Nat) (mid : List Handled) (h : Handled) (t : Timeval) :
    Prop where
  expiry : h.new.recvLifetime = g.new.recvLifetime
  normal : t.Normal
  timer : t.us = h.new.timeout.us
  below : t.tvSec < g.new.recvLifetime
  count : timeouts g.flow mid + Nat.clog 2 (g.new.recvLifetime - t.tvSec).toNat ≤ Nat.clog 2 lifetime
  latest : ∀ h ∈ armed g mid, h.new.timeout.us ≤ t.us

/-- Half of at least two seconds is one doubling less. -/
theorem clog_halve {r : Int} (hr : 2 ≤ r) :
    Nat.clog 2 (r - r / 2).toNat + 1 ≤ Nat.clog 2 r.toNat := by
  have hhalf : (r.toNat + 2 - 1) / 2 = (r - r / 2).toNat := by omega
  rw [Nat.clog_of_two_le (n := r.toNat) (by omega) (by omega), hhalf]

theorem Timeval.Normal.sec_le {t u : Timeval} (ht : t.Normal) (hu : u.Normal) (h : t.us ≤ u.us) :
    t.tvSec ≤ u.tvSec := by
  simp only [Timeval.Normal, Timeval.us] at *
  omega

section Schedules

variable {e : Env} {g h : Handled} {lifetime : Nat} {mid rest : List Handled}

/-- Right after the success. -/
theorem Handled.Answers.start {m : RecvMsg} (hg : g.Answers e m) (he : e.ClockNormal)
    (hstep : (g.new, g.after) = flowStep (g.flowEnv e) g.ev g.old g.before) :
    Schedule e g m.recvLifetime.toNat [] ∧ Pending g m.recvLifetime.toNat [] g g.new.timeout := by
  obtain ⟨hexp, htimer⟩ := flowStep_success (g.flowEnv e) g.old g.before hg.msg hg.lifetime hg.state
  rw [← hg.ev, ← hstep] at hexp htimer
  dsimp only at hexp htimer
  have harrived := hg.arrived
  have hvalid := hg.valid
  have hsec : g.new.timeout.tvSec = (e.clock g.before.ticks).tvSec +
      (g.new.recvLifetime - (e.clock g.before.ticks).tvSec) / 2 := congrArg Timeval.tvSec htimer
  have hbelow : g.new.timeout.tvSec < g.new.recvLifetime := by omega
  have hnormal : g.new.timeout.Normal := by
    rw [htimer]
    exact he g.before.ticks
  refine ⟨⟨Nat.zero_le _, ?_, ?_, by simp⟩, ⟨rfl, hnormal, rfl, hbelow, ?_, ?_⟩⟩
  · intro h hm
    rw [List.mem_singleton.mp hm]
    exact hbelow
  · exact List.pairwise_singleton _ _
  · rw [show timeouts g.flow [] = 0 from rfl, Nat.zero_add]
    exact Nat.clog_mono_right 2 (by omega)
  · intro h hm
    rw [List.mem_singleton.mp hm]

/-- An event that arms no timer and is no timeout. -/
theorem Schedule.cons_other (hs : Schedule e g lifetime mid)
    (hh : h.flow ≠ g.flow ∨ h.ev ≠ .flowTimedout) :
    Schedule e g lifetime (h :: mid) ∧ armed g (h :: mid) = armed g mid ∧
      timeouts g.flow (h :: mid) = timeouts g.flow mid := by
  have harmed : armed g (h :: mid) = armed g mid := by
    rcases hh with hh | hh
    · simp [armed, hh]
    · simp [armed, hh]
  have hcount : timeouts g.flow (h :: mid) = timeouts g.flow mid := by
    rcases hh with hh | hh
    · simp [timeouts, hh]
    · simp [timeouts, hh]
  refine ⟨⟨hcount ▸ hs.count, harmed ▸ hs.below, harmed ▸ hs.increasing, ?_⟩, harmed, hcount⟩
  intro h' hm hf hev
  rcases List.mem_cons.mp hm with rfl | hm
  · rcases hh with hh | hh
    · exact absurd hf hh
    · exact absurd hev hh
  · exact hs.fresh h' hm hf hev

/-- A timeout after which the flow waits to be renewed no longer. -/
theorem Schedule.cons_left (hs : Schedule e g lifetime mid)
    (hle : timeouts g.flow (h :: mid) ≤ Nat.clog 2 lifetime + 1)
    (hst : h.new.state ≠ .waitForLifetimeRenew)
    (hfresh : h.server ≠ none → SendsFresh (h.flowEnv e) h.before (h.new, h.after) ∧
      (e.clock (h.before.ticks + 1)).tvSec < g.new.recvLifetime) :
    Schedule e g lifetime (h :: mid) := by
  have harmed : armed g (h :: mid) = armed g mid := by simp [armed, hst]
  refine ⟨hle, harmed ▸ hs.below, harmed ▸ hs.increasing, fun h' hm hf hev hn => ?_⟩
  rcases List.mem_cons.mp hm with rfl | hm
  · exact .inr (hfresh hn)
  · exact hs.fresh h' hm hf hev hn

/-- A timeout that arms the next timer. -/
theorem Schedule.cons_armed (hs : Schedule e g lifetime mid)
    (hle : timeouts g.flow (h :: mid) ≤ Nat.clog 2 lifetime + 1) (hflow : h.flow = g.flow)
    (hev : h.ev = .flowTimedout) (hst : h.new.state = .waitForLifetimeRenew)
    (htwo : 2 ≤ g.new.recvLifetime - (e.clock h.before.ticks).tvSec)
    (hbelow : h.new.timeout.tvSec < g.new.recvLifetime)
    (hlater : ∀ h' ∈ armed g mid, h'.new.timeout.us < h.new.timeout.us) :
    Schedule e g lifetime (h :: mid) ∧ armed g (h :: mid) = h :: armed g mid := by
  have harmed : armed g (h :: mid) = h :: armed g mid := by simp [armed, hst, hflow, hev]
  refine ⟨⟨hle, fun h' hm => ?_, ?_, fun h' hm hf hev' hn => ?_⟩, harmed⟩
  · rw [harmed] at hm
    rcases List.mem_cons.mp hm with rfl | hm
    · exact hbelow
    · exact hs.below h' hm
  · rw [harmed, List.map_cons]
    refine List.pairwise_cons.mpr ⟨fun u hu => ?_, hs.increasing⟩
    obtain ⟨h', hm, rfl⟩ := List.mem_map.mp hu
    exact hlater h' hm
  · rcases List.mem_cons.mp hm with rfl | hm
    · exact .inl ⟨htwo, hst⟩
    · exact hs.fresh h' hm hf hev' hn

/-- A timer of the flow is processed. -/
theorem Pending.renewal {h' : Handled} {t : Timeval} (hp : Pending g lifetime mid h' t)
    (hs : Schedule e g lifetime mid) (he : e.ClockNormal)
    (hstep : (h.new, h.after) = flowStep (h.flowEnv e) h.ev h.old h.before)
    (hflow : h.flow = g.flow) (hev : h.ev = .flowTimedout) (hr : h.Renewing e g.new.recvLifetime)
    (hlink : h'.new.Renews h.old) :
    Schedule e g lifetime (h :: mid) ∧
      (h.new.state = .waitForLifetimeRenew → ∃ t, Pending g lifetime (h :: mid) h t) := by
  have hcount : timeouts g.flow (h :: mid) = timeouts g.flow mid + 1 := by
    simp [timeouts, hflow, hev]
  have hbudget := hp.count
  have hle : timeouts g.flow (h :: mid) ≤ Nat.clog 2 lifetime + 1 := by omega
  rw [hev, flowStep_timedout _ _ _ hr.state] at hstep
  have hnew : h.new = (renewPhase (h.flowEnv e) h.old h.before).1 := congrArg Prod.fst hstep
  have hafter : h.after = (renewPhase (h.flowEnv e) h.old h.before).2 := congrArg Prod.snd hstep
  cases hserver : h.server with
  | none =>
    have hfail : h.new.state ≠ .waitForLifetimeRenew := by
      rw [hnew, renewPhase_noServer _ _ _ hserver]
      decide
    exact ⟨hs.cons_left hle hfail fun hn => absurd hserver hn, fun hst => absurd hst hfail⟩
  | some s =>
    have herr : (renewPhase (h.flowEnv e) h.old h.before).2.sendErrs = h.before.sendErrs :=
      hafter ▸ hr.sent
    have hvalid := hr.valid hev
    rw [hafter] at hvalid
    have hexp : h.old.recvLifetime = g.new.recvLifetime := hlink.expiry.symm.trans hp.expiry
    have hleft : secondsLeft (h.flowEnv e) h.old h.before =
        g.new.recvLifetime - (e.clock h.before.ticks).tvSec := by
      rw [secondsLeft, hexp]
      rfl
    rcases renewPhase_cases (h.flowEnv e) h.old h.before hserver (hr.restart hev s hserver) herr with
      ⟨hz, hst, hrecv, htimer, hticks⟩ | ⟨-, hst, hfresh, hticks⟩
    · have hlt := hvalid h.before.ticks (Nat.le_refl _) hticks
      rw [← hnew] at hst hrecv htimer
      rw [hleft] at hz htimer
      have hnow : t.us ≤ (e.clock h.before.ticks).us := by
        rw [hp.timer, hlink.timer]
        exact hr.due hev
      have hsec := hp.normal.sec_le (he _) hnow
      have hnewsec : h.new.timeout.tvSec = (e.clock h.before.ticks).tvSec +
          (g.new.recvLifetime - (e.clock h.before.ticks).tvSec) / 2 := congrArg Timeval.tvSec htimer
      have hnewus : h.new.timeout.us = (e.clock h.before.ticks).us +
          (g.new.recvLifetime - (e.clock h.before.ticks).tvSec) / 2 * 1000000 := by
        rw [htimer, Timeval.us_addSec]
        rfl
      have hbelow : h.new.timeout.tvSec < g.new.recvLifetime := by omega
      have hlater : ∀ h' ∈ armed g mid, h'.new.timeout.us < h.new.timeout.us := by
        intro h' hm
        have := hp.latest h' hm
        omega
      obtain ⟨hs', harmed⟩ := hs.cons_armed hle hflow hev hst (by omega) hbelow hlater
      refine ⟨hs', fun _ => ⟨h.new.timeout, hrecv.trans hexp, ?_, rfl, hbelow, ?_, ?_⟩⟩
      · rw [htimer]
        exact he h.before.ticks
      · have hhalf := clog_halve (r := g.new.recvLifetime - (e.clock h.before.ticks).tvSec) (by omega)
        have hmono : Nat.clog 2 (g.new.recvLifetime - (e.clock h.before.ticks).tvSec).toNat ≤
            Nat.clog 2 (g.new.recvLifetime - t.tvSec).toNat := Nat.clog_mono_right 2 (by omega)
        have hnewleft : g.new.recvLifetime - h.new.timeout.tvSec =
            g.new.recvLifetime - (e.clock h.before.ticks).tvSec -
              (g.new.recvLifetime - (e.clock h.before.ticks).tvSec) / 2 := by omega
        rw [hcount, hnewleft]
        omega
      · intro h' hm
        rw [harmed] at hm
        rcases List.mem_cons.mp hm with rfl | hm
        · exact le_refl _
        · exact le_of_lt (hlater h' hm)
    · rw [← hnew] at hst
      have hlt := hvalid (h.before.ticks + 1) (Nat.le_succ _) hticks
      exact ⟨hs.cons_left hle hst fun _ => ⟨hstep ▸ hfresh, hlt⟩, fun hst' => absurd hst' hst⟩

/-- The events after the success, newest first. -/
theorem Handled.Answers.schedule {m : RecvMsg} (hg : g.Answers e m) (he : e.ClockNormal)
    (hlog : LinkedLog e (mid ++ g :: rest))
    (hmid : ∀ h ∈ mid, h.flow = g.flow → h.Renewing e g.new.recvLifetime) :
    Schedule e g m.recvLifetime.toNat mid ∧
      ∀ h, lastEvent g.flow (mid ++ g :: rest) = some h → h.new.state = .waitForLifetimeRenew →
        ∃ t, Pending g m.recvLifetime.toNat mid h t := by
  induction mid with
  | nil =>
    obtain ⟨hs, hp⟩ := hg.start he hlog.1
    refine ⟨hs, fun h hlast _ => ?_⟩
    rw [List.nil_append, lastEvent_same rfl] at hlast
    cases hlast
    exact ⟨_, hp⟩
  | cons h mid ih =>
    obtain ⟨hstep, hev, hlink, hlog⟩ := hlog
    obtain ⟨hs, hpend⟩ := ih hlog fun h' hm => hmid h' (List.mem_cons_of_mem _ hm)
    rw [List.cons_append]
    by_cases hflow : h.flow = g.flow
    · have hr := hmid h List.mem_cons_self hflow
      obtain ⟨h', hlast, hlink⟩ := hlink hr.state
      obtain ⟨t, hp⟩ := hpend h' (hflow ▸ hlast) hlink.state
      rw [lastEvent_same hflow]
      by_cases hto : h.ev = .flowTimedout
      · obtain ⟨hs', hp'⟩ := hp.renewal hs he hstep hflow hto hr hlink
        refine ⟨hs', fun h₁ hlast₁ => ?_⟩
        cases hlast₁
        exact hp'
      · obtain ⟨hs', harmed, hcount⟩ := hs.cons_other (.inr hto)
        refine ⟨hs', fun h₁ hlast₁ hst => ?_⟩
        cases hlast₁
        have hnew : h.new = (flowStep (h.flowEnv e) h.ev h.old h.before).1 :=
          congrArg Prod.fst hstep
        rw [hnew] at hst
        obtain ⟨htimer, hrecv⟩ := flowStep_stays _ _ _ hr.state hev hr.quiet hto hst
        rw [← hnew] at htimer hrecv
        refine ⟨t, ?_, hp.normal, ?_, hp.below, hcount ▸ hp.count, harmed ▸ hp.latest⟩
        · rw [hrecv, ← hlink.expiry, hp.expiry]
        · rw [htimer, ← hlink.timer, hp.timer]
    · obtain ⟨hs', harmed, hcount⟩ := hs.cons_other (.inl hflow)
      refine ⟨hs', fun h₁ hlast₁ hst => ?_⟩
      rw [lastEvent_other hflow] at hlast₁
      obtain ⟨t, hp⟩ := hpend h₁ hlast₁ hst
      exact ⟨t, hp.expiry, hp.normal, hp.timer, hp.below, hcount ▸ hp.count, harmed ▸ hp.latest⟩

end Schedules

/-- The renewals after a success: there are at most as many as doublings up to the lifetime and one more,
their timers go up and stay below the expiry, and the last one is followed by a fresh request in
time. -/
theorem renewal_schedule {e : Env} {c : Ctx} (he : e.ClockNormal) (hc : Reachable e c)
    {post mid rest : List Handled} {g : Handled} {m : RecvMsg}
    (hsplit : c.handled = post ++ mid ++ g :: rest) (hg : g.Answers e m)
    (hmid : ∀ h ∈ mid, h.flow = g.flow → h.Renewing e g.new.recvLifetime) :
    Schedule e g m.recvLifetime.toNat mid := by
  have hlog := hc.linked.log
  rw [hsplit, List.append_assoc] at hlog
  have hdrop : ∀ post : List Handled, LinkedLog e (post ++ (mid ++ g :: rest)) →
      LinkedLog e (mid ++ g :: rest) := by
    intro post
    induction post with
    | nil => exact id
    | cons h post ih => exact fun hlog => ih hlog.2.2.2
  exact (hg.schedule he (hdrop post hlog) hmid).1

/-- What is read off an event in the runs below. -/
structure Summary where
  flow : FlowId
  ev : FlowEvent
  old : FlowState
  new : FlowState
  ticks : Nat
  sendErrs : Nat × Nat
  timer : Int
  expiry : Int
  response : Option (UInt32 × Int)
  restart : Option (Option FlowId)
  deriving DecidableEq

def Handled.summary (h : Handled) : Summary :=
  { flow := h.flow, ev := h.ev, old := h.old.state, new := h.new.state, ticks := h.before.ticks
    sendErrs := (h.before.sendErrs, h.after.sendErrs), timer := h.old.timeout.us
    expiry := h.new.recvLifetime, response := h.msg.map fun m => (m.recvLifetime, m.receivedTime)
    restart := h.server.map (·.restartFlowMsg) }

theorem Handled.onTime_of_summary {e : Env} {h : Handled} {s : Summary} {expiry : Int}
    (hs : h.summary = s) (hold : s.old = .waitForLifetimeRenew) (hquiet : s.ev.isRes = false)
    (hsent : s.sendErrs.2 = s.sendErrs.1)
    (hdue : s.ev = .flowTimedout → s.timer ≤ (e.clock s.ticks).us)
    (hvalid : ∀ i, (e.clock i).tvSec < expiry) : h.OnTime e expiry := by
  subst hs
  exact ⟨hold, hquiet, hsent, hdue, fun _ i _ _ => hvalid i⟩

theorem Handled.answers_of_summary {e : Env} {g : Handled} {s : Summary} {r : UInt32 × Int}
    (hs : g.summary = s) (hev : s.ev = .res resSuccess)
    (hold : s.old = .waitResp ∨ s.old = .waitForLifetimeRenew) (hr : s.response = some r)
    (hl : r.1 ≠ 0) (harrived : r.2 ≤ (e.clock s.ticks).tvSec)
    (hvalid : (e.clock s.ticks).tvSec < s.expiry) :
    ∃ m, g.Answers e m ∧ m.recvLifetime = r.1 := by
  subst hs
  obtain ⟨m, hm, rfl⟩ := Option.map_eq_some_iff.mp hr
  exact ⟨m, ⟨hev, hold, hm, hl, harrived, hvalid⟩, rfl⟩

/-- The clock of `Env.calm` until the response is handled, and half a minute later after that. -/
def halfTimeEnv : Env :=
  { Env.calm {} with clock := fun i => if i < 16 then ⟨1000, 0⟩ else ⟨1030, 0⟩ }

/-- A mapping for a minute that is renewed once. -/
def renewedOnce : Ctx :=
  runTo halfTimeEnv (fun _ _ => True) 12 {}
    (waitingFlow ++ [.pulse (some (mapResponse 0 60 1000 0x0B000001)) .zero, .pulse none .zero])

theorem renewedOnce_summary :
    renewedOnce.handled.map Handled.summary =
      [⟨0, .flowTimedout, .waitForLifetimeRenew, .waitForLifetimeRenew, 18, (0, 0), 1030000000, 1060,
          none, some none⟩,
        ⟨0, .serverInitialized, .waitForLifetimeRenew, .waitForLifetimeRenew, 9, (0, 0), 1030000000,
          1060, none, some none⟩,
        ⟨0, .res 0, .waitResp, .waitForLifetimeRenew, 6, (0, 0), 1003000000, 1060, some (60, 1000),
          some none⟩,
        ⟨0, .send, .waitForServerInit, .waitResp, 2, (0, 0), 1000000000, 0, none, some none⟩] := by
  decide +kernel

theorem halfTimeEnv_clock (i : Nat) :
    (halfTimeEnv.clock i).Normal ∧ (halfTimeEnv.clock i).tvSec < 1060 := by
  simp only [halfTimeEnv, Timeval.Normal]
  split <;> decide

theorem renewal_schedule_once :
    Reachable halfTimeEnv renewedOnce ∧
      ∃ h₂ h₁ g rest m, renewedOnce.handled = [h₂, h₁] ++ g :: rest ∧ g.Answers halfTimeEnv m ∧
        m.recvLifetime = 60 ∧ h₂.ev = .flowTimedout ∧ Schedule halfTimeEnv g 60 [h₂, h₁] := by
  have hreach : Reachable halfTimeEnv renewedOnce := Runs.runTo (by decide +kernel)
  have hsum := renewedOnce_summary
  simp only [List.map_eq_cons_iff] at hsum
  obtain ⟨h₂, l₂, hlog, hs₂, h₁, l₁, rfl, hs₁, g, rest, rfl, hsg, -⟩ := hsum
  obtain ⟨m, hg, hl⟩ := Handled.answers_of_summary (e := halfTimeEnv) hsg rfl (.inl rfl) rfl (by decide)
    (by decide) (by decide)
  have hexp : g.new.recvLifetime = 1060 := congrArg Summary.expiry hsg
  have hnone : ∀ {h : Handled} {s : Summary}, h.summary = s → s.restart = some none →
      ∀ sv, h.server = some sv → sv.restartFlowMsg ≠ some h.flow := by
    intro h s hs hr sv hsv
    subst hs
    simp only [Handled.summary, hsv, Option.map_some, Option.some.injEq] at hr
    rw [hr]
    simp
  have hmid : ∀ h ∈ [h₂, h₁], h.flow = g.flow → h.Renewing halfTimeEnv g.new.recvLifetime := by
    intro h hm _
    rw [hexp]
    simp only [List.mem_cons, List.not_mem_nil, or_false] at hm
    rcases hm with rfl | rfl
    · exact ⟨Handled.onTime_of_summary hs₂ rfl rfl rfl (by decide) fun i => (halfTimeEnv_clock i).2,
        fun _ => hnone hs₂ rfl⟩
    · exact ⟨Handled.onTime_of_summary hs₁ rfl rfl rfl (by decide) fun i => (halfTimeEnv_clock i).2,
        fun _ => hnone hs₁ rfl⟩
  have hsplit : renewedOnce.handled = [] ++ [h₂, h₁] ++ g :: rest := hlog
  have hsched := renewal_schedule (fun i => (halfTimeEnv_clock i).1) hreach hsplit hg hmid
  rw [hl] at hsched
  exact ⟨hreach, h₂, h₁, g, rest, m, hlog, hg, hl, congrArg Summary.ev hs₂, hsched⟩

/-- The second response has a lifetime of a second and reveals a restart. -/
def restartRevealed : Ctx :=
  runTo (.calm {}) (fun _ _ => True) 12 {}
    (waitingFlow ++ [.pulse (some (mapResponse 0 60 1000 0x0B000001)) .zero,
      .pulse (some (mapResponse 0 1 5 0x0B000001)) .zero])

theorem restartRevealed_summary :
    (restartRevealed.handled.take 4).map Handled.summary =
      [⟨0, .flowTimedout, .waitForLifetimeRenew, .waitResp, 25, (0, 0), 1000000000, 1001, none,
          some none⟩,
        ⟨0, .flowTimedout, .waitForLifetimeRenew, .waitForLifetimeRenew, 21, (0, 0), 1000000000, 1001,
          none, some (some 0)⟩,
        ⟨0, .serverRestarted, .waitForLifetimeRenew, .waitForLifetimeRenew, 20, (0, 0), 1000000000, 1001,
          none, some (some 0)⟩,
        ⟨0, .res 0, .waitForLifetimeRenew, .waitForLifetimeRenew, 17, (0, 0), 1030000000, 1001,
          some (1, 1000), some none⟩] := by
  decide +kernel

/-- The first of the two renewals leaves the flow in the renewal state with a timer that is due already,
though there is a second left. -/
theorem renewal_ignored :
    Reachable (.calm {}) restartRevealed ∧
      ∃ mid g rest m, restartRevealed.handled = mid ++ g :: rest ∧ g.Answers (.calm {}) m ∧
        (∀ h ∈ mid, h.flow = g.flow → h.OnTime (.calm {}) g.new.recvLifetime) ∧
        m.recvLifetime = 1 ∧ timeouts g.flow mid = 2 ∧
        ∃ h ∈ mid, h.ev = .flowTimedout ∧ h.new.state = .waitForLifetimeRenew ∧
          g.new.recvLifetime - ((Env.calm {}).clock h.before.ticks).tvSec < 2 := by
  refine ⟨Runs.runTo (by decide +kernel), ?_⟩
  have hsum := restartRevealed_summary
  simp only [List.map_eq_cons_iff] at hsum
  obtain ⟨h₃, l₃, hlog, hs₃, h₂, l₂, rfl, hs₂, h₁, l₁, rfl, hs₁, g, rest, rfl, hsg, -⟩ := hsum
  obtain ⟨m, hg, hl⟩ := Handled.answers_of_summary (e := .calm {}) hsg rfl (.inr rfl) rfl (by decide)
    (by decide) (by decide)
  have hexp : g.new.recvLifetime = 1001 := congrArg Summary.expiry hsg
  have hflow : g.flow = 0 := congrArg Summary.flow hsg
  have hsplit : [h₃, h₂, h₁] ++ g :: (rest ++ restartRevealed.handled.drop 4) = restartRevealed.handled := by
    have hall := List.take_append_drop 4 restartRevealed.handled
    rw [hlog] at hall
    exact hall
  have hclock : ∀ i, ((Env.calm {}).clock i).tvSec < 1001 := fun _ => show (1000 : Int) < 1001 by decide
  refine ⟨_, g, _, m, hsplit.symm, hg, fun h hm _ => ?_, hl, ?_, h₂, by simp, congrArg Summary.ev hs₂,
    congrArg Summary.new hs₂, hexp ▸ show (1001 - 1000 : Int) < 2 by decide⟩
  · rw [hexp]
    simp only [List.mem_cons, List.not_mem_nil, or_false] at hm
    rcases hm with rfl | rfl | rfl
    · exact Handled.onTime_of_summary hs₃ rfl rfl rfl (by decide) hclock
    · exact Handled.onTime_of_summary hs₂ rfl rfl rfl (by decide) hclock
    · exact Handled.onTime_of_summary hs₁ rfl rfl rfl (by decide) hclock
  · have hf₃ : h₃.flow = 0 := congrArg Summary.flow hs₃
    have hf₂ : h₂.flow = 0 := congrArg Summary.flow hs₂
    have he₃ : h₃.ev = .flowTimedout := congrArg Summary.ev hs₃
    have he₂ : h₂.ev = .flowTimedout := congrArg Summary.ev hs₂
    have he₁ : h₁.ev = .serverRestarted := congrArg Summary.ev hs₁
    simp [timeouts, hflow, hf₃, hf₂, he₃, he₂, he₁]

end LibPcp
