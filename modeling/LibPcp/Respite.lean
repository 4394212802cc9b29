import LibPcp.Asleep
import LibPcp.Announced
import LibPcp.Fresh
import LibPcp.Horizon
import LibPcp.Loop
import LibPcp.Spoofed

/-!
# LibPcp.Respite

What a short-lived error buys the server that sends it.

A flow that waits for an answer and gets such an error stays in `pfs_wait_after_short_life_error` until
its timer, set to the lifetime of the error, runs out. Until then only an event that
does not look at the timer can make it send: the restart of its server, a timeout of the server that
pings with it, and a version negotiation that goes on with it.

* `Respite.event`: what one event does to the flow, and to the others.
* `Rested`: what every handler of every server leaves.
* `refusal_respected`: no request of the flow is dated before the end of the lifetime.
* `renewal_refused_asks_again`: a flow with a mapping is asked for at once.
-/

namespace LibPcp

open LabelledSteps

/-! ## The flow and its requests -/

/-- The flow waits until `T`, or has failed. -/
def Flow.Rests (T : Int) (v : Flow) : Prop :=
  (v.state = .waitAfterShortLifeError ∧ T ≤ v.timeout.us) ∨ v.state = .failed

/-- Every request of `f` that is sent from `a` to `b` is sent in an event that the clock dates at `T` or
later. -/
def SentFrom (e : Env) (f : FlowId) (T : Int) (a b : Ctx) : Prop :=
  ∃ new log, b.io.sent = new ++ a.io.sent ∧ b.handled = log ++ a.handled ∧
    ∀ p ∈ new, p.flow = f → ∃ h ∈ log, h.flow = f ∧ p ∈ h.datagrams ∧ T ≤ (e.now h.before).us

section Sent

variable {e : Env} {f g : FlowId} {T : Int} {a b d : Ctx} {ev : FlowEvent}

theorem SentFrom.of_eq (hsent : b.io.sent = a.io.sent) (hlog : b.handled = a.handled) :
    SentFrom e f T a b :=
  ⟨[], [], hsent, hlog, by simp⟩

theorem SentFrom.trans (h₁ : SentFrom e f T a b) (h₂ : SentFrom e f T b d) : SentFrom e f T a d := by
  obtain ⟨new₁, log₁, hs₁, hl₁, hp₁⟩ := h₁
  obtain ⟨new₂, log₂, hs₂, hl₂, hp₂⟩ := h₂
  refine ⟨new₂ ++ new₁, log₂ ++ log₁, ?_, ?_, fun p hp hflow => ?_⟩
  · rw [hs₂, hs₁, List.append_assoc]
  · rw [hl₂, hl₁, List.append_assoc]
  · rcases List.mem_append.mp hp with hp | hp
    · obtain ⟨h, hm, hdated⟩ := hp₂ p hp hflow
      exact ⟨h, List.mem_append_left _ hm, hdated⟩
    · obtain ⟨h, hm, hdated⟩ := hp₁ p hp hflow
      exact ⟨h, List.mem_append_right _ hm, hdated⟩

/-- The requests of one event are those of its flow, all at its time. -/
theorem handleFlowEvent_sentFrom (m : Option RecvMsg) (hev : ev ≠ .msgSent)
    (hown : g = f → (handleFlowEvent e a g ev m).io.sent = a.io.sent ∨ T ≤ (e.now a.io).us) :
    SentFrom e f T a (handleFlowEvent e a g ev m) := by
  obtain ⟨new, hnew, hflow⟩ := handleFlowEvent_sent e a m hev (f := g)
  refine ⟨new, [handledEvent e a g ev m], hnew, handleFlowEvent_handled .., fun p hp hpf => ?_⟩
  have hgf : g = f := (hflow p hp).symm.trans hpf
  have hdate : T ≤ (e.now a.io).us := by
    refine (hown hgf).resolve_left fun hsame => ?_
    rw [hnew] at hsame
    rw [List.append_left_eq_self.mp hsame] at hp
    cases hp
  exact ⟨_, List.mem_singleton_self _, hgf, handledEvent_datagrams hnew ▸ hp, hdate⟩

end Sent

/-! ## Events -/

/-- The rows for the events that reach a resting flow: it stays as it is, or fails. -/
theorem nextState_res_resting {st : FlowState} (hst : st = .waitAfterShortLifeError ∨ st = .failed)
    (code : UInt32) : nextState st (.res code) = none := by
  rcases hst with rfl | rfl <;> simp [nextState, flowEventsSm]

/-- A flow without a row for the event, or that fails, sends nothing. -/
theorem flowStep_rests {x : FlowEnv} {ev : FlowEvent} {v : Flow} {T : Int} (io : Io)
    (hev : ev ≠ .msgSent) (hv : v.Rests T)
    (hrow : nextState v.state ev = none ∨ nextState v.state ev = some .failed) :
    (flowStep x ev v io).1.Rests T ∧ (flowStep x ev v io).2 = io := by
  rcases hrow with hnone | hfail
  · rw [flowStep_none io hev hnone]
    exact ⟨hv, rfl⟩
  · rw [flowStep_eq x v io hev, hfail]
    exact ⟨.inr (failPhase_state ..), rfl⟩

/-- From `c` to `a`, flow `f` rests until `T` and asks for nothing before. -/
structure Respite (e : Env) (f : FlowId) (T : Int) (c a : Ctx) : Prop where
  alloc : f < a.heapTop
  sent : SentFrom e f T c a
  rests : (e.now a.io).us < T → (a.heap f).Rests T

/-- Records and the message are written, and the clock is read. -/
structure RecordOnly (a b : Ctx) : Prop where
  heap : b.heap = a.heap
  heapTop : b.heapTop = a.heapTop
  handled : b.handled = a.handled
  sent : b.io.sent = a.io.sent
  ticks : a.io.ticks ≤ b.io.ticks

namespace RecordOnly

variable {e : Env} {s : Nat} {a b d : Ctx}

theorem refl (a : Ctx) : RecordOnly a a := ⟨rfl, rfl, rfl, rfl, Nat.le_refl _⟩

theorem trans (h₁ : RecordOnly a b) (h₂ : RecordOnly b d) : RecordOnly a d :=
  ⟨h₂.heap.trans h₁.heap, h₂.heapTop.trans h₁.heapTop, h₂.handled.trans h₁.handled,
    h₂.sent.trans h₁.sent, Nat.le_trans h₁.ticks h₂.ticks⟩

theorem tick (a : Ctx) : RecordOnly a a.tick := ⟨rfl, rfl, rfl, rfl, Nat.le_succ _⟩

theorem setServer (a : Ctx) (v : Server) : RecordOnly a (a.setServer s v) :=
  ⟨rfl, rfl, rfl, rfl, Nat.le_refl _⟩

theorem modServer (a : Ctx) (g : Server → Server) : RecordOnly a (a.modServer s g) := setServer a _

theorem setNextTimeout (a : Ctx) (t : Timeval) : RecordOnly a (a.setNextTimeout s t) := setServer a _

theorem wakeNow (a : Ctx) : RecordOnly a (e.wakeNow a s) := (setNextTimeout a _).trans (tick _)

theorem writes (e : Env) (s : Nat) : RecordWrites e s RecordOnly := ⟨refl, trans, tick, fun a v _ => setServer a v⟩

theorem matchRcvdMsg (a : Ctx) (s : Nat) : RecordOnly a (LibPcp.matchRcvdMsg a s).2 := by
  obtain ⟨ip, na, heq⟩ := matchRcvdMsg_eq a s
  rw [heq]
  exact ⟨rfl, rfl, rfl, rfl, Nat.le_refl _⟩

end RecordOnly

/-! ## Parts of handlers -/

namespace Respite

variable {e : Env} {f g : FlowId} {T : Int} {s : Nat} {c a b : Ctx}

theorem keep (he : e.ClockMono) (h : Respite e f T c a) (htop : a.heapTop ≤ b.heapTop)
    (hticks : a.io.ticks ≤ b.io.ticks) (hsent : b.io.sent = a.io.sent) (hlog : b.handled = a.handled)
    (hflow : (e.now a.io).us < T → (a.heap f).Rests T → (b.heap f).Rests T) : Respite e f T c b := by
  refine ⟨Nat.lt_of_lt_of_le h.alloc htop, h.sent.trans (.of_eq hsent hlog), fun hlt => ?_⟩
  have hbefore : (e.now a.io).us < T := Int.lt_of_le_of_lt (he _ _ hticks) hlt
  exact hflow hbefore (h.rests hbefore)

theorem record (he : e.ClockMono) (h : Respite e f T c a) (hr : RecordOnly a b) : Respite e f T c b :=
  h.keep he (Nat.le_of_eq hr.heapTop.symm) hr.ticks hr.sent hr.handled fun _ hv => by rwa [hr.heap]

/-- A write to a flow that is another one, or that leaves the flow resting. -/
theorem modFlow (he : e.ClockMono) (h : Respite e f T c a) {fn : Flow → Flow}
    (hfn : g = f → (e.now a.io).us < T → (a.heap f).Rests T → (fn (a.heap f)).Rests T) :
    Respite e f T c (a.modFlow g fn) := by
  refine h.keep he (Nat.le_refl _) (Nat.le_refl _) rfl rfl fun hlt hv => ?_
  by_cases hg : g = f
  · subst hg
    rw [Ctx.modFlow, Ctx.setFlow_heap, Function.update_self]
    exact hfn rfl hlt hv
  · rw [Ctx.modFlow, Ctx.setFlow_heap, Function.update_of_ne fun heq => hg heq.symm]
    exact hv

theorem align (he : e.ClockMono) (h : Respite e f T c a) (g : FlowId) :
    Respite e f T c (a.modFlow g alignTimer) := by
  refine h.modFlow he fun _ _ hv => hv.imp_left fun ⟨hst, ht⟩ => ⟨hst, ?_⟩
  change T ≤ (timevalAlign (a.heap f).timeout).us
  rw [us_timevalAlign]
  exact ht

/-- An event of another flow, or one that leaves the flow resting. -/
theorem event (he : e.ClockMono) (h : Respite e f T c a) {ev : FlowEvent} (m : Option RecvMsg)
    (hev : ev ≠ .msgSent)
    (hrow : g = f → (e.now a.io).us < T → (a.heap f).Rests T →
      nextState (a.heap f).state ev = none ∨ nextState (a.heap f).state ev = some .failed) :
    Respite e f T c (handleFlowEvent e a g ev m) := by
  have hticks := handleFlowEvent_ticks e a g m hev
  have hstep : g = f → (e.now a.io).us < T →
      (flowStep (a.flowEnv e g m) ev (a.heap g) a.io).1.Rests T ∧
        (flowStep (a.flowEnv e g m) ev (a.heap g) a.io).2 = a.io := by
    rintro rfl hlt
    have hv := h.rests hlt
    exact flowStep_rests a.io hev hv (hrow rfl hlt hv)
  refine ⟨?_, h.sent.trans (handleFlowEvent_sentFrom m hev fun hg => ?_), fun hlt => ?_⟩
  · rw [handleFlowEvent_heapTop]
    exact h.alloc
  · by_cases hlt : (e.now a.io).us < T
    · rw [handleFlowEvent_io, (hstep hg hlt).2]
      exact .inl rfl
    · exact .inr (Int.not_lt.mp hlt)
  · have hbefore : (e.now a.io).us < T := Int.lt_of_le_of_lt (he _ _ hticks) hlt
    rw [handleFlowEvent_heap]
    by_cases hg : g = f
    · subst hg
      rw [Function.update_self]
      exact (hstep rfl hbefore).1
    · rw [Function.update_of_ne fun heq => hg heq.symm]
      exact h.rests hbefore

/-- The flow's own timer does not run out before `T`. -/
theorem fireTimer (he : e.ClockMono) (h : Respite e f T c a) (g : FlowId) :
    Respite e f T c (fireTimer e a g) := by
  have halign : Respite e f T c (a.tick.modFlow g alignTimer) := (h.record he (.tick a)).align he g
  unfold LibPcp.fireTimer
  split
  · rename_i hdue
    refine halign.event he none (by simp) fun hg hlt hv => ?_
    subst hg
    rcases hv with ⟨-, ht⟩ | hst
    · have hself : (a.tick.modFlow g alignTimer).heap g = alignTimer (a.heap g) := by
        simp [Ctx.modFlow]
      have htimer : (alignTimer (a.heap g)).timeout.us = (a.heap g).timeout.us := us_timevalAlign _
      have hnow : (e.now a.io).us ≤ (e.now a.io.tick).us := he _ _ (Nat.le_succ _)
      rw [hself, htimer] at ht
      change (e.now a.io.tick).us < T at hlt
      omega
    · rw [hst]
      exact .inl (by decide)
  · exact halign

theorem check (he : e.ClockMono) (h : Respite e f T c a) (g : FlowId) :
    Respite e f T c (checkFlowTimeout e s a g) := by
  rw [checkFlowTimeout_eq]
  split
  · exact h
  · unfold lowerTimeout
    split
    · exact h.fireTimer he g
    · exact ((h.fireTimer he g).align he g).record he (.setNextTimeout _ _)

theorem walk (he : e.ClockMono) (h : Respite e f T c a) (l : List FlowId) :
    Respite e f T c (l.foldl (checkFlowTimeout e s) a) :=
  List.foldlRecOn (motive := Respite e f T c) l _ h fun _ hb g _ => hb.check he g

/-- A pass over the flows of a server, of another one or with an event that leaves the flow resting. -/
theorem pass (he : e.ClockMono) (h : Respite e f T c a) {ev : FlowEvent} (hev : ev.Plain)
    (hrow : (a.heap f).pcpServerIndx = (a.pcpServers s).index → ∀ v : Flow, v.Rests T →
      nextState v.state ev = none ∨ nextState v.state ev = some .failed) :
    Respite e f T c (sendEventAll e s ev a) := by
  have hpass := List.foldlRecOn (motive := fun b => Respite e f T c b ∧ Passed s a b) a.allFlows
    (flowSendEventIter e s ev) ⟨h, .refl a, rfl, fun _ => rfl⟩ fun b hb g _ => ?_
  · exact hpass.1
  · obtain ⟨hb, hp⟩ := hb
    unfold flowSendEventIter
    split
    · rename_i hown
      rw [hp.index, hp.pcpServerIndx] at hown
      refine ⟨(hb.event he none hev.ne_msgSent fun hg _ hv => ?_).check he g,
        hp.trans ((handleFlowEvent_passed b g hev).trans (checkFlowTimeout_passed _ g))⟩
      subst hg
      exact hrow hown _ hv
    · exact ⟨hb, hp⟩

end Respite

/-! ## Handlers -/

/-- What a handler of server `s` leaves: the flow still rests, and the server does not wait for an answer to
a ping with it. -/
structure Rested (e : Env) (f : FlowId) (T : Int) (s : Nat) (c : Ctx) (r : ServerState × Ctx) : Prop where
  respite : Respite e f T c r.2
  unpinged : (e.now r.2.io).us < T → r.1 = .waitPingResp → (r.2.pcpServers s).pingFlowMsg ≠ some f

section Handlers

variable {e : Env} {f : FlowId} {T : Int} {s : Nat} {c a : Ctx}

theorem Rested.of_ne {r : ServerState × Ctx} (h : Respite e f T c r.2) (hst : r.1 ≠ .waitPingResp) :
    Rested e f T s c r :=
  ⟨h, fun _ heq => absurd heq hst⟩

/-- The flow the server pings with is another one. -/
def PingsOther (e : Env) (f : FlowId) (T : Int) (s : Nat) (a : Ctx) : Prop :=
  (e.now a.io).us < T → (a.pcpServers s).pingFlowMsg ≠ some f

/-- An event of the flow the server pings with. -/
theorem Respite.pingEvent (he : e.ClockMono) {p : FlowId} {ev : FlowEvent} (hev : ev ≠ .msgSent)
    (h : Respite e f T c a) (hp : (a.pcpServers s).pingFlowMsg = some p) (hping : PingsOther e f T s a) :
    Respite e f T c (handleFlowEvent e a p ev none) ∧ PingsOther e f T s (handleFlowEvent e a p ev none) := by
  refine ⟨h.event he none hev fun hpf hlt _ => absurd (hpf ▸ hp) (hping hlt), fun hlt => ?_⟩
  rw [handleFlowEvent_pcpServers]
  exact hping (Int.lt_of_le_of_lt (he _ _ (handleFlowEvent_ticks e a p none hev)) hlt)

/-- The server waits for the answer. -/
theorem Respite.waits (he : e.ClockMono) (h : Respite e f T c a) (hping : PingsOther e f T s a)
    (t : Timeval) : Rested e f T s c (.waitPingResp, a.setNextTimeout s t) := by
  refine ⟨h.record he (.setNextTimeout a t), fun hlt _ => ?_⟩
  rw [Ctx.setNextTimeout_self]
  exact hping hlt

theorem getPingMsg_record (a : Ctx) (s : Nat) : RecordOnly a (getPingMsg a s).2 := by
  simp only [getPingMsg]
  exact .modServer a _

/-- A resting flow is not chosen to ping with. -/
theorem getPingMsg_rests {p : FlowId} (h : Respite e f T c a) (hp : (getPingMsg a s).1 = some p)
    (hlt : (e.now a.io).us < T) : p ≠ f := by
  rintro rfl
  obtain ⟨-, -, hst⟩ := getPingMsg_found hp
  rcases h.rests hlt with ⟨hrest, -⟩ | hrest
  all_goals
    rw [hrest] at hst
    revert hst
    decide

/-- What `get_ping_msg` finds is another flow. -/
theorem Respite.getPingMsg (he : e.ClockMono) (h : Respite e f T c a) :
    Respite e f T c (getPingMsg a s).2 ∧
      ((getPingMsg a s).2.pcpServers s).pingFlowMsg = (getPingMsg a s).1 ∧
        PingsOther e f T s (getPingMsg a s).2 := by
  have hself : ((LibPcp.getPingMsg a s).2.pcpServers s).pingFlowMsg = (LibPcp.getPingMsg a s).1 := by
    rw [getPingMsg_self]
  refine ⟨h.record he (getPingMsg_record a s), hself, fun hlt heq => ?_⟩
  exact getPingMsg_rests h (hself.symm.trans heq) hlt rfl

theorem pingLoop_rested (he : e.ClockMono) (n : Nat) (h : Respite e f T c a) :
    Rested e f T s c (pingLoop e s n a) := by
  induction n generalizing a with
  | zero => exact .of_ne (h.record he (.setNextTimeout a _)) (by simp [pingLoop])
  | succ n ih =>
    have hfound := h.getPingMsg he (s := s)
    rw [pingLoop_succ]
    generalize LibPcp.getPingMsg a s = r at hfound ⊢
    obtain ⟨found, b⟩ := r
    obtain ⟨hb, hself, hother⟩ := hfound
    cases found with
    | none => exact .of_ne (hb.record he (.setNextTimeout _ _)) (by simp)
    | some p =>
      have hreset : Respite e f T c (b.modFlow p fun v => { v with retryCount := 0 }) :=
        hb.modFlow he fun _ _ hv => hv
      have hpinged : Respite e f T c (pinged e b p) ∧ PingsOther e f T s (pinged e b p) :=
        hreset.pingEvent he (by simp) hself hother
      dsimp only
      split
      · exact hpinged.1.waits he hpinged.2 _
      · exact ih hpinged.1

theorem handleWaitPingRespTimeout_rested (he : e.ClockMono) (h : Respite e f T c a)
    (hping : PingsOther e f T s a) : Rested e f T s c (handleWaitPingRespTimeout e a s) := by
  have hcount : Respite e f T c (a.modServer s fun v => { v with pingCount := v.pingCount + 1 }) :=
    h.record he (.modServer a _)
  have hother : PingsOther e f T s (a.modServer s fun v => { v with pingCount := v.pingCount + 1 }) := by
    intro hlt
    rw [Ctx.modServer_self]
    exact hping hlt
  unfold handleWaitPingRespTimeout
  dsimp only
  generalize a.modServer s _ = b at hcount hother ⊢
  have hwake : ∀ d, Respite e f T c d → Respite e f T c (e.wakeNow d s) := fun d hd => hd.record he (.wakeNow d)
  split
  · exact .of_ne (hwake _ hcount) (by simp)
  split
  · exact .of_ne (hwake _ hcount) (by simp)
  · rename_i p hp
    have htimeout : FlowEvent.flowTimedout ≠ .msgSent := by simp
    obtain ⟨hevent, hstill⟩ := hcount.pingEvent he htimeout hp hother
    split
    · exact .of_ne (hwake _ hevent) (by simp)
    · exact hevent.waits he hstill _

/-! ### Version negotiation -/

theorem negotiationPing_rested (he : e.ClockMono) {p : FlowId} (h : Respite e f T c a)
    (hp : (a.pcpServers s).pingFlowMsg = some p) (hping : PingsOther e f T s a) :
    Rested e f T s c (negotiationPing e a s p) := by
  have hreset : Respite e f T c (a.modFlow p fun v => { v with retryCount := 0, resendTimeout := 0 }) :=
    h.modFlow he fun _ _ hv => hv
  have hsend : FlowEvent.send ≠ .msgSent := by simp
  obtain ⟨hevent, hstill⟩ := hreset.pingEvent he hsend hp hping
  unfold negotiationPing
  dsimp only
  split
  · exact .of_ne hevent (by simp)
  · exact hevent.waits he hstill _

/-- A new announcement is another flow. -/
theorem Respite.announce (he : e.ClockMono) (h : Respite e f T c a) :
    Respite e f T c (createNatpmpAnnMsg e a s).2 ∧ PingsOther e f T s (createNatpmpAnnMsg e a s).2 := by
  have hping := createNatpmpAnnMsg_ping e a s
  have hframe := createNatpmpAnnMsg_frame e s a
  have hquiet := createNatpmpAnnMsg_unheard e a s
  have hnew : (createNatpmpAnnMsg e a s).2.heap f = a.heap f ∧ (createNatpmpAnnMsg e a s).1 ≠ some f := by
    have hne : f ≠ a.heapTop := Nat.ne_of_lt h.alloc
    rcases createNatpmpAnnMsg_cases e a s with heq | ⟨fl, -, -, -, -, -, -, heq⟩
    · rw [heq]
      exact ⟨rfl, by simp⟩
    · rw [heq]
      refine ⟨?_, fun hsome => hne (Option.some.inj hsome).symm⟩
      simp [pcpDbAddFlow, Ctx.modFlow, Ctx.modServer, hne, Ctx.callocCall]
  refine ⟨h.keep he hframe.heapTop hframe.ticks hquiet.sent hquiet.handled fun _ hv => ?_, fun _ => ?_⟩
  · rw [hnew.1]
    exact hv
  · rw [hping]
    exact hnew.2

theorem Respite.natpmp (he : e.ClockMono) (h : Respite e f T c a) (hping : PingsOther e f T s a) :
    Respite e f T c (natpmpPingMsg e a s).2 ∧ PingsOther e f T s (natpmpPingMsg e a s).2 := by
  unfold natpmpPingMsg
  dsimp only
  split
  · rename_i p hp
    refine Respite.announce he (h.modFlow he fun hpf hlt _ => ?_)
    exact absurd (hpf ▸ hp) (hping hlt)
  · exact h.announce he

theorem negotiationEnd_rested (he : e.ClockMono) {r : Option FlowId × Ctx} (h : Respite e f T c r.2)
    (hr : (r.2.pcpServers s).pingFlowMsg = r.1) (hping : PingsOther e f T s r.2) :
    Rested e f T s c (negotiationEnd e s r) := by
  obtain ⟨p, a⟩ := r
  cases p with
  | some p => exact negotiationPing_rested he h hr hping
  | none =>
    have hfound := h.getPingMsg he (s := s)
    simp only [negotiationEnd]
    generalize LibPcp.getPingMsg a s = r at hfound ⊢
    obtain ⟨found, b⟩ := r
    obtain ⟨hb, hself, hother⟩ := hfound
    cases found with
    | some q => exact negotiationPing_rested he hb hself hother
    | none => exact .of_ne (hb.record he (.setNextTimeout _ _)) (by simp)

/-- A version negotiation goes on with another flow, or comes to an end. -/
theorem handleVersionNegotiation_rested (he : e.ClockMono) (h : Respite e f T c a)
    (hping : ¬ NoVersionLeft e.cfg (a.pcpServers s).lowered → PingsOther e f T s a) :
    Rested e f T s c (handleVersionNegotiation e a s) := by
  have hlower : (lowerNextVersion a s).pcpServers s = (a.pcpServers s).lowered := Ctx.modServer_self ..
  have hlowered : Respite e f T c (lowerNextVersion a s) := h.record he (.modServer a _)
  rw [handleVersionNegotiation_eq]
  split
  · exact .of_ne hlowered (by simp)
  · rename_i hleft
    rw [hlower] at hleft
    have huse : Respite e f T c (useNextVersion (lowerNextVersion a s) s) :=
      hlowered.record he (.modServer _ _)
    have hother : PingsOther e f T s (useNextVersion (lowerNextVersion a s) s) := by
      intro hlt
      rw [useNextVersion, Ctx.modServer_self, hlower]
      exact hping hleft hlt
    dsimp only
    split
    · obtain ⟨hr, hp⟩ := huse.natpmp he hother
      exact negotiationEnd_rested he hr (natpmpPingMsg_ping e _ s) hp
    · exact negotiationEnd_rested he huse rfl hother

/-! ### Messages -/

theorem serverProcessRcvdPcpMsg_respite (he : e.ClockMono) (h : Respite e f T c a) :
    Respite e f T c (serverProcessRcvdPcpMsg e a s).2 := by
  have hmatch := h.record he (.matchRcvdMsg a s)
  unfold serverProcessRcvdPcpMsg
  generalize matchRcvdMsg a s = r at hmatch ⊢
  obtain ⟨found, b⟩ := r
  cases found with
  | none => exact hmatch
  | some g =>
    refine hmatch.event he _ (by simp) fun _ _ hv => .inl ?_
    exact nextState_res_resting (hv.imp_left And.left) _

theorem handleWaitIoReceiveMsg_respite (he : e.ClockMono) (h : Respite e f T c a) :
    Respite e f T c (handleWaitIoReceiveMsg e a s).2 := by
  by_cases hres : a.msg.recvResult = resUnsuppVersion ∨ a.msg.recvResult = resAddressMismatch
  · exact h.record he ((RecordOnly.writes e s).handleWaitIoReceiveMsg_quiet a hres)
  · rw [not_or] at hres
    exact (serverProcessRcvdPcpMsg_respite he h).record he
      ((RecordOnly.writes e s).handleWaitIoReceiveMsg_processed a hres.1 hres.2)

theorem handleServerNotWorking_respite (he : e.ClockMono) (h : Respite e f T c a) :
    Respite e f T c (handleServerNotWorking e a s).2 := by
  have hstart : Respite e f T c
      (a.tick.setNextTimeout s (timevalComp (e.now a.io) (a.pcpServers s).nextTimeout).2.2) :=
    h.record he ((RecordOnly.tick a).trans (.setNextTimeout _ _))
  unfold handleServerNotWorking
  dsimp only
  split
  · split
    · exact hstart
    · have hprocessed := serverProcessRcvdPcpMsg_respite he (s := s) hstart
      generalize serverProcessRcvdPcpMsg e _ s = r at hprocessed ⊢
      obtain ⟨g, b⟩ := r
      dsimp only
      exact hprocessed.record he ((RecordOnly.modServer b _).trans ((RecordOnly.wakeNow _).trans (.modServer _ _)))
  · exact hstart.record he (.setNextTimeout _ _)

/-! ### Dispatch -/

/-- The states in which `server_sm` calls these handlers. -/
theorem ServerHandler.entered {st : ServerState} {ev : ServerEvent} {h : ServerHandler}
    (hh : serverHandler st ev = some h) :
    (h = .waitPingRespTimeout → st = .waitPingResp) ∧ (h = .versionNegotiation → st = .versionNegotiation) ∧
      (h = .restart → st = .serverRestart) ∧ (h = .ignoreEvents → st = .allocated) := by
  cases st <;> cases ev <;> (cases hh; decide)

/-- Nothing about server `s` wakes the flow: it does not wait for an answer to a ping with the flow, does not
restart, and does not go on negotiating with the flow. -/
structure Calming (e : Env) (f : FlowId) (T : Int) (s : Nat) (a : Ctx) : Prop where
  ping : (a.pcpServers s).serverState = .waitPingResp → PingsOther e f T s a
  negotiation : (a.pcpServers s).serverState = .versionNegotiation →
    ¬ NoVersionLeft e.cfg (a.pcpServers s).lowered → PingsOther e f T s a
  restart : (a.pcpServers s).serverState = .serverRestart →
    (a.heap f).pcpServerIndx ≠ (a.pcpServers s).index

theorem ServerHandler.run_rested (he : e.ClockMono) {h : ServerHandler} {ev : ServerEvent}
    (hh : serverHandler (a.pcpServers s).serverState ev = some h) (ha : Respite e f T c a)
    (hcalm : Calming e f T s a) : Rested e f T s c (h.run e a s) := by
  obtain ⟨hwait, hnegotiate, hrestart, hignore⟩ := ServerHandler.entered hh
  have hrow : ∀ ev : FlowEvent, (ev = .serverInitialized ∨ ev = .failed) → ∀ v : Flow, v.Rests T →
      nextState v.state ev = none ∨ nextState v.state ev = some .failed := by
    intro ev hev v hv
    rcases hv with ⟨hst, -⟩ | hst <;> rw [hst] <;> rcases hev with rfl | rfl <;> decide
  cases h with
  | terminate => exact .of_ne (ha.record he (.setNextTimeout a _)) (by simp [ServerHandler.run, pcpTerminateServer])
  | ping =>
    exact pingLoop_rested he _ (ha.record he (.modServer a _))
  | waitPingRespTimeout => exact handleWaitPingRespTimeout_rested he ha (hcalm.ping (hwait rfl))
  | waitPingRespRecv =>
    refine .of_ne ?_ ?_
    · change Respite e f T c (handleWaitPingRespRecv e a s).2
      rw [handleWaitPingRespRecv_ctx]
      exact handleWaitIoReceiveMsg_respite he ha
    · rcases handleWaitPingRespRecv_state e a s with h | h | h | h <;> simp [ServerHandler.run, h]
  | versionNegotiation =>
    exact handleVersionNegotiation_rested he ha (hcalm.negotiation (hnegotiate rfl))
  | sendAllMsgs =>
    have hplain : FlowEvent.serverInitialized.Plain := trivial
    have hpass := ha.pass he (s := s) hplain fun _ => hrow _ (.inl rfl)
    exact .of_ne (hpass.record he (.wakeNow _)) (by simp [ServerHandler.run, handleSendAllMsgs])
  | waitIoReceiveMsg =>
    refine .of_ne (handleWaitIoReceiveMsg_respite he ha) ?_
    rcases handleWaitIoReceiveMsg_state e a s with h | h | h | h <;> simp [ServerHandler.run, h]
  | waitIoTimeout =>
    refine .of_ne ?_ ?_
    · have hwalk := (ha.record he (.setNextTimeout (s := s) a .zero)).walk he (s := s) a.allFlows
      have hall : (a.setNextTimeout s .zero).allFlows = a.allFlows := rfl
      simp only [ServerHandler.run, handleWaitIoTimeout, hall]
      split
      · exact hwalk
      · exact hwalk.record he ((RecordOnly.tick _).trans (.setNextTimeout _ _))
    · simp [ServerHandler.run, handleWaitIoTimeout_state e a s]
  | restart =>
    have hplain : FlowEvent.serverRestarted.Plain := trivial
    have hpass := ha.pass he (s := s) hplain fun hown =>
      absurd hown (hcalm.restart (hrestart rfl))
    exact .of_ne (hpass.record he ((RecordOnly.modServer _ _).trans (.wakeNow _)))
      (by simp [ServerHandler.run, handleServerRestart])
  | reping =>
    exact .of_ne (ha.record he ((RecordOnly.modServer a _).trans (.wakeNow _)))
      (by simp [ServerHandler.run, handleServerReping])
  | setNotWorking =>
    have hplain : FlowEvent.failed.Plain := trivial
    have hpass := ha.pass he (s := s) hplain fun _ => hrow _ (.inr rfl)
    exact .of_ne (hpass.record he ((RecordOnly.setNextTimeout _ _).trans (.tick _)))
      (by simp [ServerHandler.run, handleServerSetNotWorking])
  | notWorking =>
    refine .of_ne (handleServerNotWorking_respite he ha) ?_
    rcases handleServerNotWorking_state e a s with h | h | h <;> simp [ServerHandler.run, h]
  | ignoreEvents =>
    exact .of_ne (ha.record he (.setNextTimeout a _))
      (by simp [ServerHandler.run, LibPcp.ignoreEvents, hignore rfl])
  | unexpected =>
    exact .of_ne (ha.record he (.wakeNow a)) (by simp [ServerHandler.run, logUnexepectedStateEvent])

theorem runServerStateMachine_respite (he : e.ClockMono) (ev : ServerEvent) (ha : Respite e f T c a)
    (hcalm : Calming e f T s a) :
    Respite e f T c (runServerStateMachine e a s ev) ∧
      (((runServerStateMachine e a s ev).pcpServers s).serverState = .waitPingResp →
        PingsOther e f T s (runServerStateMachine e a s ev)) := by
  obtain ⟨h, hh⟩ := serverHandler_total (a.pcpServers s).serverState ev
  have hrun := ServerHandler.run_rested he hh ha hcalm
  rw [runServerStateMachine_eq hh]
  refine ⟨hrun.respite.record he (.modServer _ _), fun hst hlt => ?_⟩
  rw [Ctx.modServer_self] at hst ⊢
  exact hrun.unpinged hlt hst

end Handlers

/-! ## Calls -/

section Calls

variable {e : Env} {f : FlowId} {T : Int} {k : CallKind} {c a b : Ctx}

/-- Acts that neither update nor close a flow leave its state and its timer alone. -/
theorem CallAct.sameTimer (h : CallAct e k a b) (hf : f < a.heapTop) (hupdate : k ≠ .update f)
    (hclose : k ≠ .close f) :
    (b.heap f).state = (a.heap f).state ∧ (b.heap f).timeout = (a.heap f).timeout := by
  cases h with
  | env h =>
    rw [h.eq]
    exact ⟨rfl, rfl⟩
  | array | fresh | again => exact ⟨rfl, rfl⟩
  | create a s fl io hl h hs ht =>
    rw [addNewFlow_heap, if_neg (Nat.ne_of_lt hf)]
    exact ⟨rfl, rfl⟩
  | link a p g =>
    by_cases hp : f = p
    · subst hp
      simp [Ctx.modFlow]
    · simp [Ctx.modFlow, hp]
  | update a g v h =>
    have hg : f ≠ g := fun heq => hupdate (congrArg CallKind.update heq.symm)
    rw [pcpFlowUpdated_heap, Ctx.setFlow_heap, Function.update_of_ne hg, Function.update_of_ne hg]
    exact ⟨rfl, rfl⟩
  | close a g h =>
    have hg : f ≠ g := fun heq => hclose (congrArg CallKind.close heq.symm)
    rw [zeroLifetime_heap, Function.update_of_ne hg]
    exact ⟨rfl, rfl⟩
  | fail a g h =>
    have hg : f ≠ g := fun heq => hclose (congrArg CallKind.close heq.symm)
    simp [failFlow, Ctx.modFlow, hg]
  | delete a g =>
    obtain ⟨bucket, hb⟩ := (pcpDeleteFlowIntern_deleted a g).heap f
    rw [hb]
    exact ⟨rfl, rfl⟩

theorem Op.kinds_close {op : Op} (h : op.kinds e c (.close f)) : False := by
  cases op with
  | addServer | addGws | newFlow | learnDscp | closeFlow | pulse => exact h
  | setLifetime | set3rdPartyOpt | setFilterOpt | setPreferFailureOpt | setUserid | setLocation
  | setDeviceid | addMd | setFlowp => exact h
  | deleteFlow g =>
    obtain ⟨_, -, hg⟩ := h
    cases hg
  | setFlowChangeCb => cases h

end Calls

/-! ## Steps -/

/-- Where a run from `c` has got to when `f` is left in peace. -/
structure Lull (e : Env) (f : FlowId) (T : Int) (c a : Ctx) : Prop where
  ok : CtxOk a
  respite : Respite e f T c a
  ping : ∀ i, (a.pcpServers i).serverState = .waitPingResp → PingsOther e f T i a

/-- The version negotiation of server `i` goes on, with `f` as the ping message. -/
structure Renegotiates (e : Env) (c : Ctx) (i : Nat) (f : FlowId) : Prop where
  state : (c.pcpServers i).serverState = .versionNegotiation
  ping : (c.pcpServers i).pingFlowMsg = some f
  left : ¬ NoVersionLeft e.cfg (c.pcpServers i).lowered

/-- The step neither updates nor closes the flow, and its server neither restarts nor negotiates with it. -/
def Undisturbed (e : Env) (f : FlowId) (c : Ctx) : MicroOp → Prop
  | .call op => f ∉ op.updated e c
  | .close g => f ∉ c.chain g
  | .recv _ i | .fire i => (c.heap f).pcpServerIndx = i →
    (c.pcpServers i).serverState ≠ .serverRestart ∧ ¬ Renegotiates e c i f
  | _ => True

instance (e : Env) (c : Ctx) (i : Nat) (f : FlowId) : Decidable (Renegotiates e c i f) :=
  decidable_of_iff ((c.pcpServers i).serverState = .versionNegotiation ∧
      (c.pcpServers i).pingFlowMsg = some f ∧ ¬ NoVersionLeft e.cfg (c.pcpServers i).lowered)
    ⟨fun h => ⟨h.1, h.2.1, h.2.2⟩, fun h => ⟨h.state, h.ping, h.left⟩⟩

instance (e : Env) (f : FlowId) (c : Ctx) : (l : MicroOp) → Decidable (Undisturbed e f c l)
  | .call op => inferInstanceAs (Decidable (f ∉ op.updated e c))
  | .close g => inferInstanceAs (Decidable (f ∉ c.chain g))
  | .recv _ i | .fire i => inferInstanceAs (Decidable ((c.heap f).pcpServerIndx = i →
      (c.pcpServers i).serverState ≠ .serverRestart ∧ ¬ Renegotiates e c i f))
  | .quiet | .drop _ | .settle _ => inferInstanceAs (Decidable True)

section Steps

variable {e : Env} {f : FlowId} {T : Int} {i : Nat} {c a b : Ctx} {l : MicroOp}

theorem alignNext_record (a : Ctx) (i j : Nat) :
    ((alignNext a i).pcpServers j).serverState = (a.pcpServers j).serverState ∧
      ((alignNext a i).pcpServers j).pingFlowMsg = (a.pcpServers j).pingFlowMsg := by
  by_cases hj : j = i
  · subst hj
    rw [alignNext_self]
    exact ⟨rfl, rfl⟩
  · have hother : (alignNext a i).pcpServers j = a.pcpServers j := Function.update_of_ne hj ..
    rw [hother]
    exact ⟨rfl, rfl⟩

theorem Lull.record (he : e.ClockMono) (h : Lull e f T c a) (hr : RecordOnly a b) (hok : CtxOk b)
    (hserver : ∀ i, (b.pcpServers i).serverState = (a.pcpServers i).serverState ∧
      (b.pcpServers i).pingFlowMsg = (a.pcpServers i).pingFlowMsg) : Lull e f T c b := by
  refine ⟨hok, h.respite.record he hr, fun i hst hlt => ?_⟩
  rw [(hserver i).2]
  exact h.ping i ((hserver i).1.symm.trans hst) (Int.lt_of_le_of_lt (he _ _ hr.ticks) hlt)

theorem Lull.calming (h : Lull e f T c a) (hl : Live a i)
    (hq : (a.heap f).pcpServerIndx = i →
      (a.pcpServers i).serverState ≠ .serverRestart ∧ ¬ Renegotiates e a i f) :
    Calming e f T i a := by
  have hindex := h.ok.index hl.2
  refine ⟨h.ping i, fun hst hleft _ hping => ?_, fun hst hown => ?_⟩
  · have hown := (h.ok.ping i f hping).2
    exact (hq (hown.trans hindex)).2 ⟨hst, hping, hleft⟩
  · exact (hq (hown.trans hindex)).1 hst

theorem Lull.dispatch (he : e.ClockMono) (h : Lull e f T c a) (hl : Live a i)
    (hq : (a.heap f).pcpServerIndx = i →
      (a.pcpServers i).serverState ≠ .serverRestart ∧ ¬ Renegotiates e a i f) (ev : ServerEvent) :
    Lull e f T c (runServerStateMachine e a i ev) := by
  have hacts := runServerStateMachine_allKinds (e := e) ev (h.ok.wf i) hl.2
  obtain ⟨hrespite, hself⟩ := runServerStateMachine_respite he ev h.respite (h.calming hl hq)
  refine ⟨hacts.ctxOk h.ok hl.2, hrespite, fun j hst hlt => ?_⟩
  by_cases hj : j = i
  · subst hj
    exact hself hst hlt
  · rw [hacts.frame.others j hj] at hst ⊢
    exact h.ping j hst (Int.lt_of_le_of_lt (he _ _ hacts.frame.ticks) hlt)

theorem CallActs.lull {K : CallKind → Prop} (he : e.ClockMono) (hacts : CallActs e K a b)
    (hupdate : ¬ K (.update f)) (hclose : ¬ K (.close f)) (h : Lull e f T c a) : Lull e f T c b := by
  refine hacts.invariant (I := Lull e f T c) (fun k x y hx hk hact => ?_) h
  have hsilent := hact.silent
  have hsame := hact.sameTimer hx.respite.alloc (fun heq => hupdate (heq ▸ hk)) fun heq => hclose (heq ▸ hk)
  refine ⟨hact.ctxOk hx.ok, ?_, fun i hst hlt hping => ?_⟩
  · refine hx.respite.keep he hsilent.heapTop hsilent.ticks hsilent.sent hsilent.handled fun _ hv => ?_
    rw [Flow.Rests, hsame.1, hsame.2]
    exact hv
  · exact hx.ping i (hact.waitPingResp hst) (Int.lt_of_le_of_lt (he _ _ hsilent.ticks) hlt)
      (hact.pingFlowMsg hping)

theorem Micro.lull (h : Micro e l a b) (he : e.ClockMono) (hlull : Lull e f T c a)
    (hq : Undisturbed e f a l) : Lull e f T c b := by
  have hok := h.keepsOk hlull.ok
  cases h with
  | @call op a b hp h =>
    exact (Op.exec_acts hlull.ok hp (step_exec h).2).lull he (fun hk => hq (Op.mem_updated hk))
      Op.kinds_close hlull
  | @close g a hlive =>
    refine (closeChain_acts (e := e) g).lull he ?_ ?_ hlull
    · rintro ⟨_, -, hg⟩
      cases hg
    · rintro ⟨_, hmem, hg⟩
      cases hg
      exact hq hmem
  | quiet => exact hlull.record he ⟨rfl, rfl, rfl, rfl, Nat.le_refl _⟩ hok fun _ => ⟨rfl, rfl⟩
  | drop h =>
    obtain ⟨⟨m, rfl⟩, -⟩ := received_eq h
    exact hlull.record he ⟨rfl, rfl, rfl, rfl, Nat.le_succ _⟩ hok fun _ => ⟨rfl, rfl⟩
  | @recv dg i a a₁ h =>
    have hl := (recv_acts h hlull.ok).2.1
    have hok₁ := hlull.ok.received h
    obtain ⟨⟨m, rfl⟩, -⟩ := received_eq h
    have hstart : Lull e f T c { a.tick with msg := m } :=
      hlull.record he ⟨rfl, rfl, rfl, rfl, Nat.le_succ _⟩ hok₁ fun _ => ⟨rfl, rfl⟩
    exact hstart.dispatch he hl (fun hix => ⟨(hq hix).1, fun hr => (hq hix).2 ⟨hr.state, hr.ping, hr.left⟩⟩) _
  | @fire i a hl hd =>
    have hacts : Acts e i [.own] a (alignNext a.tick i) := fireStart_acts
    have hself : (alignNext a.tick i).pcpServers i =
        { a.pcpServers i with nextTimeout := timevalAlign (a.pcpServers i).nextTimeout } := alignNext_self
    have hserver := alignNext_record a.tick i
    have hstart : Lull e f T c (alignNext a.tick i) :=
      hlull.record he ((RecordOnly.tick a).trans (.setNextTimeout _ _)) (hacts.ctxOk hlull.ok hl.2) hserver
    refine hstart.dispatch he (hacts.frame.live_iff.mpr hl) (fun hix => ?_) _
    refine ⟨(hserver i).1 ▸ (hq hix).1, fun hr => (hq hix).2 ⟨(hserver i).1 ▸ hr.state,
      (hserver i).2 ▸ hr.ping, ?_⟩⟩
    have hleft := hr.left
    rw [hself] at hleft
    exact hleft
  | @settle i a hl hd =>
    have hserver := alignNext_record a.tick i
    have hrecord : RecordOnly a (alignNext a.tick i) := (RecordOnly.tick a).trans (.setNextTimeout _ _)
    unfold LibPcp.settle at hok ⊢
    split at hok
    · rename_i hz
      rw [if_pos hz]
      exact hlull.record he (.tick a) hok fun _ => ⟨rfl, rfl⟩
    · rename_i hz
      rw [if_neg hz]
      exact hlull.record he hrecord hok hserver

/-! ### The refusal -/

/-- The errors that put a waiting flow off. -/
theorem nextState_refused {code : UInt32} (h : ShortLived code) :
    nextState .waitResp (.res code) = some .waitAfterShortLifeError := by
  rcases h with rfl | rfl | rfl | rfl <;> decide

theorem ServerHandler.Processes.not_waitPingResp {s : Nat} {h : ServerHandler} (hp : h.Processes e a s) :
    (h.run e a s).1 ≠ .waitPingResp := by
  obtain ⟨-, -, hwhich⟩ := hp
  cases h with
  | waitIoReceiveMsg =>
    rcases handleWaitIoReceiveMsg_state e a s with h | h | h | h <;> simp [ServerHandler.run, h]
  | waitPingRespRecv =>
    rcases handleWaitPingRespRecv_state e a s with h | h | h | h <;> simp [ServerHandler.run, h]
  | notWorking =>
    rcases handleServerNotWorking_state e a s with h | h | h <;> simp [ServerHandler.run, h]
  | _ => exact absurd hwhich id

/-- The response is the one event of its step. -/
theorem recv_event {dg : Datagram} {s : Nat} {log : List Handled} {g : Handled} {m : RecvMsg}
    (h : Micro e (.recv dg s) a b) (hc : CtxOk a) (hlog : b.handled = log ++ a.handled) (hg : g ∈ log)
    (hm : g.msg = some m) :
    ∃ d, RecordOnly a d ∧ g = handledEvent e d g.flow (.res m.recvResult) (some m) ∧
      Own a s g.flow ∧
      RecordOnly (handleFlowEvent e d g.flow (.res m.recvResult) (some m)) b ∧
      (b.pcpServers s).serverState ≠ .waitPingResp ∧ ∀ i, i ≠ s → b.pcpServers i = a.pcpServers i := by
  cases h with
  | @recv dg s a a₁ h =>
    have hok := hc.received h
    have hl := (received_eq h).2 s rfl
    obtain ⟨⟨m₁, hm₁⟩, -⟩ := received_eq h
    have hfirst : RecordOnly a a₁ := by
      rw [hm₁]
      exact ⟨rfl, rfl, rfl, rfl, Nat.le_succ _⟩
    have hserv : a₁.pcpServers = a.pcpServers := by rw [hm₁]; rfl
    obtain ⟨hd, hh⟩ := serverHandler_total (a₁.pcpServers s).serverState .ioEvent
    by_cases hp : hd.Processes e a₁ s
    · obtain ⟨hbegin, hafter⟩ := (RecordOnly.writes e s).processed hd a₁ hp
      have hbeginActs : Acts e s [.own, .response, .reveal] a₁ (hd.start e a₁ s) := by
        cases hd with
        | notWorking => exact tick_acts.trans (setNextTimeout_acts _)
        | _ => exact .refl
      have hwf : Wf (hd.start e a₁ s) s := hbeginActs.wf (hok.wf s)
      obtain ⟨hmatchActs, hfound⟩ := matchRcvdMsg_acts (e := e) hwf
      have hmatch := (hfirst.trans hbegin).trans (.matchRcvdMsg (hd.start e a₁ s) s)
      have hindex := (hbeginActs.trans hmatchActs).frame.same.index
      have hstate := hp.not_waitPingResp
      have halone := runServerStateMachine_alone (e := e) (s := s) .ioEvent a₁
      rw [runServerStateMachine_eq hh] at hlog halone ⊢
      have hend := hafter.trans (.modServer (s := s) _ fun v => { v with serverState := (hd.run e a₁ s).1 })
      rw [serverProcessRcvdPcpMsg] at hend
      generalize matchRcvdMsg (hd.start e a₁ s) s = r at hfound hmatch hindex hend
      obtain ⟨found, d⟩ := r
      cases found with
      | none =>
        dsimp only at hend hmatch
        rw [hend.handled, hmatch.handled, List.self_eq_append_left] at hlog
        rw [hlog] at hg
        cases hg
      | some f =>
        dsimp only at hend hmatch hfound hindex
        have hown := hfound f rfl
        rw [hend.handled, handleFlowEvent_handled, hmatch.handled] at hlog
        have hlog' : [handledEvent e d f (.res d.msg.recvResult) (some d.msg)] = log :=
          List.append_cancel_right hlog
        have hsingle : g = handledEvent e d f (.res d.msg.recvResult) (some d.msg) :=
          List.mem_singleton.mp (hlog' ▸ hg)
        have hmsg : d.msg = m := by
          rw [hsingle] at hm
          exact Option.some.inj hm
        have hflow : g.flow = f := by rw [hsingle]; rfl
        rw [hflow, ← hmsg]
        refine ⟨d, hmatch, hsingle, ⟨?_, ?_⟩, hend, ?_, fun i hi => ?_⟩
        · rw [← hmatch.heapTop]
          exact hown.1
        · rw [← hmatch.heap, hown.2, hindex, hserv]
        · rw [Ctx.modServer_self]
          exact hstate
        · rw [halone.others i hi, hserv]
    · obtain ⟨new, hnew, hnone⟩ := (runServerStateMachine_mute hh hp).handled
      rw [hfirst.handled] at hnew
      rw [hlog] at hnew
      have hmem : g ∈ new := List.append_cancel_right hnew ▸ hg
      rw [hnone g hmem] at hm
      cases hm

theorem Micro.refused {dg : Datagram} {s : Nat} {log : List Handled} {g : Handled} {m : RecvMsg}
    (h : Micro e (.recv dg s) a b) (hc : CtxOk a)
    (hlog : b.handled = log ++ a.handled) (hg : g ∈ log) (hm : g.msg = some m)
    (hshort : ShortLived m.recvResult) (hwait : g.old.state = .waitResp) :
    Lull e g.flow ((e.now g.before).us + m.recvLifetime.toNat * 1000000) a b := by
  obtain ⟨d, hstart, hgd, hown, hend, hst, hothers⟩ := recv_event h hc hlog hg hm
  have hflow : (d.heap g.flow).state = .waitResp := by
    have hold : g.old = d.heap g.flow := by rw [hgd]; rfl
    exact hold ▸ hwait
  have hbefore : g.before = d.io := by rw [hgd]; rfl
  have hev : FlowEvent.res m.recvResult ≠ .msgSent := by simp
  have hstep := flowStep_eq (d.flowEnv e g.flow (some m)) (d.heap g.flow) d.io hev
  rw [hflow, nextState_refused hshort] at hstep
  have hsent : (handleFlowEvent e d g.flow (.res m.recvResult) (some m)).io.sent = d.io.sent := by
    rw [handleFlowEvent_io, hstep]
    rfl
  refine ⟨h.keepsOk hc, ⟨?_, ?_, fun _ => .inl ⟨?_, ?_⟩⟩, fun i hwaits hlt hping => ?_⟩
  · rw [hend.heapTop, handleFlowEvent_heapTop, hstart.heapTop]
    exact hown.1
  · refine ⟨[], log, ?_, hlog, by simp⟩
    rw [hend.sent, hsent, hstart.sent, List.nil_append]
  · rw [hend.heap, handleFlowEvent_heap, Function.update_self, hstep]
    rfl
  · rw [hend.heap, handleFlowEvent_heap, Function.update_self, hstep, hbefore]
    change _ ≤ ((e.now d.io).addSec m.recvLifetime.toNat).us
    rw [Timeval.us_addSec]
  · have hi : i ≠ s := by
      rintro rfl
      exact hst hwaits
    rw [hothers i hi] at hwaits hping
    have hlive : (a.pcpServers i).serverState ≠ .unitialized := by
      rw [hwaits]
      decide
    have hl : Live a s := by
      cases h with
      | recv h => exact (received_eq h).2 s rfl
    have hindex := (hc.ping i g.flow hping).2.symm.trans hown.2
    rw [hc.index hlive, hc.index hl.2] at hindex
    exact hi hindex

end Steps

/-! ## Runs -/

/-- From a short-lived error on that a flow gets for the request it waits with, for the lifetime of the
error, no request of the flow is sent, if nothing else disturbs it. -/
theorem refusal_respected {e : Env} {a b c : Ctx} {dg : Datagram} {s : Nat} {log : List Handled} {g : Handled}
    {m : RecvMsg} (he : e.ClockMono) (ha : MicroReachable e a) (h : Micro e (.recv dg s) a b)
    (hlog : b.handled = log ++ a.handled) (hg : g ∈ log) (hm : g.msg = some m)
    (hshort : ShortLived m.recvResult) (hwait : g.old.state = .waitResp)
    (hafter : Micros e (Undisturbed e g.flow) b c) :
    SentFrom e g.flow ((e.now g.before).us + m.recvLifetime.toNat * 1000000) a c := by
  have hb := h.refused ha.ctxOk hlog hg hm hshort hwait
  have hc := hafter.invariant (I := Lull e g.flow ((e.now g.before).us + m.recvLifetime.toNat * 1000000) a)
    (fun l x y hx hl hstep => hstep.lull he hx hl) hb
  exact hc.respite.sent

/-! ## A refused request and a refused renewal -/

/-- What is read off the response of a step. -/
def Handled.refusal (g : Handled) : FlowId × FlowState × Option (UInt32 × UInt32) × Nat :=
  (g.flow, g.old.state, g.msg.map fun m => (m.recvResult, m.recvLifetime), g.before.ticks)

/-- The one event of a step. -/
theorem Micro.handled_one {e : Env} {a b : Ctx} {l : MicroOp} (h : Micro e l a b) (he : e.ClockMono)
    (hc : CtxOk a) {s : Nat} (hl : Live a s) (hlen : b.handled.length = a.handled.length + 1)
    {x : FlowId × FlowState × (UInt32 × UInt32) × Nat}
    (hx : b.handled.head?.map Handled.refusal = some (x.1, x.2.1, some x.2.2.1, x.2.2.2)) :
    ∃ g m, b.handled = [g] ++ a.handled ∧ g.msg = some m ∧ g.flow = x.1 ∧ g.old.state = x.2.1 ∧
      (m.recvResult, m.recvLifetime) = x.2.2.1 ∧ g.before.ticks = x.2.2.2 := by
  obtain ⟨log, hlog, -⟩ := (h.addressStep he hc hl).handled
  have hone : log.length = 1 := by
    rw [hlog, List.length_append] at hlen
    omega
  obtain ⟨g, rfl⟩ := List.length_eq_one_iff.mp hone
  rw [hlog] at hx
  simp only [List.singleton_append, List.head?_cons, Option.map_some, Handled.refusal, Option.some.injEq,
    Prod.mk.injEq, Option.map_eq_some_iff] at hx
  obtain ⟨hflow, hold, ⟨m, hm, hres⟩, hticks⟩ := hx
  exact ⟨g, m, hlog, hm, hflow, hold, hres, hticks⟩

/-- The sixteenth reading of the clock, and all later ones, are a minute after the others. -/
def minuteEnv : Env :=
  { Env.calm {} with clock := fun i => if i < 16 then ⟨1000, 0⟩ else ⟨1060, 0⟩ }

theorem minuteEnv_mono : minuteEnv.ClockMono := by
  intro i j hij
  simp only [minuteEnv]
  split <;> split
  all_goals first
    | decide
    | omega

def minuteAsked : Ctx := runTo minuteEnv (fun _ _ => True) 12 {} waitingFlow

/-- The server has a network failure, for a minute. -/
def putOff : Ctx :=
  runServerStateMachine minuteEnv (received minuteEnv minuteAsked (mapResponse 7 60 1000 0)) 0 .ioEvent

/-- When the minute is over the flow asks again. -/
def askedAgain : Ctx :=
  (microsTo minuteEnv (Undisturbed minuteEnv 0) putOff
    [.fire 0, .fire 0, .settle 0, .quiet, .settle 0, .quiet, .fire 0]).getD {}

theorem refusal_respected_minute :
    askedAgain.io.sent.length = minuteAsked.io.sent.length + 1 ∧
      SentFrom minuteEnv 0 1060000000 minuteAsked askedAgain := by
  have hreach : Reachable minuteEnv minuteAsked := Runs.runTo (by decide +kernel)
  have hstep : Micro minuteEnv (.recv (mapResponse 7 60 1000 0) 0) minuteAsked putOff :=
    recv_received (by decide +kernel)
  obtain ⟨g, m, hlog, hm, hflow, hold, hres, hticks⟩ :=
    hstep.handled_one minuteEnv_mono hreach.ctxOk (s := 0) (by decide +kernel) (by decide +kernel)
      (x := (0, .waitResp, (resNetworkFailure, 60), 6)) (by decide +kernel)
  simp only [Prod.mk.injEq] at hres
  have hrun : Micros minuteEnv (Undisturbed minuteEnv g.flow) putOff askedAgain := by
    rw [hflow]
    exact Micros.of_microsTo (by decide +kernel)
  have hsent := refusal_respected minuteEnv_mono hreach.micros hstep hlog (List.mem_singleton_self g) hm
    (.inl hres.1) hold hrun
  have hnow : minuteEnv.now g.before = ⟨1000, 0⟩ := by
    rw [Env.now, hticks]
    rfl
  rw [hnow, hres.2, hflow] at hsent
  exact ⟨by decide +kernel, hsent⟩

/-- A flow with a mapping asks for it again when the refusal comes. -/
theorem renewal_refused_asks_again :
    ¬ ∀ (e : Env) (a b c : Ctx) (dg : Datagram) (s : Nat) (log : List Handled) (g : Handled) (m : RecvMsg),
      e.ClockMono → MicroReachable e a → Micro e (.recv dg s) a b → b.handled = log ++ a.handled → g ∈ log →
      g.msg = some m → ShortLived m.recvResult → 0 < m.recvLifetime →
      g.old.state = .waitResp ∨ g.old.state = .waitForLifetimeRenew →
      Micros e (Undisturbed e g.flow) b c →
      SentFrom e g.flow ((e.now g.before).us + m.recvLifetime.toNat * 1000000) a c := by
  intro hall
  have hreach : Reachable (.calm {}) mappedFlow := Runs.runTo (by decide +kernel)
  have hstep : Micro (.calm {}) (.recv (mapResponse 7 60 1000 0) 0) mappedFlow
      (runServerStateMachine (.calm {}) (received (.calm {}) mappedFlow (mapResponse 7 60 1000 0)) 0
        .ioEvent) := recv_received (by decide +kernel)
  obtain ⟨g, m, hlog, hm, hflow, hold, hres, hticks⟩ :=
    hstep.handled_one calm_clock.1 hreach.ctxOk (s := 0) (by decide +kernel) (by decide +kernel)
      (x := (0, .waitForLifetimeRenew, (resNetworkFailure, 60), 17)) (by decide +kernel)
  simp only [Prod.mk.injEq] at hres
  obtain ⟨new, log, hnew, -, hdated⟩ := hall (.calm {}) _ _ _ _ 0 _ g m calm_clock.1 hreach.micros hstep hlog
    (List.mem_singleton_self g) hm (.inl hres.1) (by rw [hres.2]; decide) (.inr hold) .refl
  have hasked : (runServerStateMachine (.calm {})
      (received (.calm {}) mappedFlow (mapResponse 7 60 1000 0)) 0 .ioEvent).io.sent.length =
        mappedFlow.io.sent.length + 1 := by decide +kernel
  have howner : (runServerStateMachine (.calm {})
      (received (.calm {}) mappedFlow (mapResponse 7 60 1000 0)) 0 .ioEvent).io.sent.head?.map (·.flow) =
        some 0 := by decide +kernel
  rw [hnew] at hasked howner
  have hone : new.length = 1 := by
    rw [List.length_append] at hasked
    omega
  obtain ⟨p, rfl⟩ := List.length_eq_one_iff.mp hone
  have hp : p.flow = g.flow := (Option.some.inj howner).trans hflow.symm
  obtain ⟨h, -, -, -, hlate⟩ := hdated p (List.mem_singleton_self p) hp
  have hnow : ∀ io, (Env.calm {}).now io = ⟨1000, 0⟩ := fun _ => rfl
  rw [hnow, hnow, hres.2] at hlate
  exact absurd hlate (by decide)

/-- As often as it is refused. -/
example : (microsTo (.calm {}) (Undisturbed (.calm {}) 0) mappedFlow
    [.recv (mapResponse 7 60 1000 0) 0, .fire 0, .settle 0, .recv (mapResponse 7 60 1000 0) 0, .fire 0,
      .settle 0, .recv (mapResponse 7 60 1000 0) 0]).map (·.io.sent.length) =
        some (mappedFlow.io.sent.length + 3) := by
  decide +kernel

/-- A version negotiation does not wait for the end of the lifetime either. -/
example : (microsTo (.calm {}) (fun _ _ => True) (runTo (.calm {}) (fun _ _ => True) 12 {} waitingFlow)
    [.recv (mapResponse 7 60 1000 0) 0, .fire 0, .fire 0, .settle 0, .recv (mapResponse 1 60 1000 0) 0,
      .fire 0]).map (fun c => ((c.heap 0).state, c.io.sent.length)) = some (.waitResp, 2) := by
  decide +kernel

end LibPcp
