import LibPcp.Calm
import LibPcp.Wakeups

/-!
# LibPcp.Loop

The loop of `hserver_iter` and the ping loop inside it come to an end.

The graph of the server states has cycles, and the loop goes on whenever the server's timer is not in
the future. `budget` bounds the calls that are left from the state, the ping count, the ping flow and
the flows that wait to be sent: a call lowers it or leaves a timer that ends the loop (`fire_budget`).
Two facts break the cycles. The server gets back to `pss_ping` from `pss_wait_ping_resp` only without a
ping flow, and a ping leaves one. After `pss_set_not_working` no flow waits to be sent.

* `pingRounds_le`: each round of the ping loop uses up one flow that waits to be sent.
* `server_loop_ends`: no context, event or outcome makes the loop call the state machine more than
  `PCP_MAX_PING_COUNT` and nine times.
-/

namespace LibPcp

open LabelledSteps

/-! ## Flows that wait to be sent -/

/-- The flows `get_ping_msg` can choose from. -/
def unsent (c : Ctx) (s : Nat) : Nat := c.allFlows.countP (firstFlowCandidate c s)

theorem countP_lt {α : Type} {p q : α → Bool} {l : List α} (himp : ∀ x ∈ l, q x → p x) {y : α}
    (hy : y ∈ l) (hp : p y = true) (hq : q y = false) : l.countP q < l.countP p := by
  induction l with
  | nil => cases hy
  | cons x l ih =>
    have htail : ∀ z ∈ l, q z → p z := fun z hz => himp z (List.mem_cons_of_mem x hz)
    rw [List.countP_cons, List.countP_cons]
    rcases List.mem_cons.mp hy with rfl | hmem
    · have := List.countP_mono_left htail
      simp only [hp, hq, Bool.false_eq_true, if_false, if_true]
      omega
    · have hlt := ih htail hmem
      have hhead := himp x List.mem_cons_self
      by_cases hqx : q x = true
      · simp only [hqx, hhead hqx, if_true]
        omega
      · rw [if_neg hqx]
        omega

theorem unsent_congr {c c' : Ctx} {s : Nat} (hf : c'.flows = c.flows)
    (hi : (c'.pcpServers s).index = (c.pcpServers s).index)
    (hflow : ∀ f, (c'.heap f).state = (c.heap f).state ∧
      (c'.heap f).pcpServerIndx = (c.heap f).pcpServerIndx) : unsent c' s = unsent c s := by
  have hall : c'.allFlows = c.allFlows := by rw [Ctx.allFlows, hf, Ctx.allFlows]
  have hcand : firstFlowCandidate c' s = firstFlowCandidate c s := by
    funext f
    simp only [firstFlowCandidate, hi, (hflow f).1, (hflow f).2]
  rw [unsent, unsent, hall, hcand]

theorem unsent_server {c c' : Ctx} {s : Nat} (hf : c'.flows = c.flows) (hh : c'.heap = c.heap)
    (hi : (c'.pcpServers s).index = (c.pcpServers s).index) : unsent c' s = unsent c s :=
  unsent_congr hf hi fun f => by rw [hh]; exact ⟨rfl, rfl⟩

/-! ## The ping loop -/

section Ping

variable {e : Env} {s : Nat} {c : Ctx}

/-- The flow `f` is pinged with, as far as its event. -/
def pinged (e : Env) (c : Ctx) (f : FlowId) : Ctx :=
  handleFlowEvent e (c.modFlow f fun v => { v with retryCount := 0 }) f .send none

/-- How often the body of the loop of `handle_server_ping` is run. -/
def pingRounds (e : Env) (s : Nat) : Nat → Ctx → Nat
  | 0, _ => 0
  | n + 1, c =>
    match getPingMsg c s with
    | (none, _) => 0
    | (some f, c) =>
      if ((pinged e c f).heap f).state ≠ .failed then 1 else pingRounds e s n (pinged e c f) + 1

theorem pingLoop_succ (n : Nat) :
    pingLoop e s (n + 1) c =
      match getPingMsg c s with
      | (none, c) => (.ping, c.setNextTimeout s .zero)
      | (some f, c) =>
        if ((pinged e c f).heap f).state ≠ .failed then
          (.waitPingResp, (pinged e c f).setNextTimeout s ((pinged e c f).heap f).timeout)
        else pingLoop e s n (pinged e c f) := rfl

theorem pinged_flows (c : Ctx) (f : FlowId) : (pinged e c f).flows = c.flows :=
  handleFlowEvent_flows ..

theorem pinged_pcpServers (c : Ctx) (f : FlowId) : (pinged e c f).pcpServers = c.pcpServers :=
  handleFlowEvent_pcpServers ..

theorem pinged_other (c : Ctx) {f g : FlowId} (hg : g ≠ f) : (pinged e c f).heap g = c.heap g := by
  simp [pinged, Ctx.modFlow, hg]

/-- A ping that fails uses up the flow. -/
theorem pinged_unsent {f : FlowId} {a : Ctx} (hg : getPingMsg c s = (some f, a))
    (hfail : ((pinged e a f).heap f).state = .failed) : unsent (pinged e a f) s < unsent c s := by
  obtain ⟨hmem, hown, hst⟩ := getPingMsg_found (show (getPingMsg c s).1 = some f by rw [hg])
  obtain rfl : (getPingMsg c s).2 = a := by rw [hg]
  have hindex : ((getPingMsg c s).2.pcpServers s).index = (c.pcpServers s).index := by
    rw [getPingMsg_self]
  have hheap : (getPingMsg c s).2.heap = c.heap := rfl
  have hall : (pinged e (getPingMsg c s).2 f).allFlows = c.allFlows := by
    rw [Ctx.allFlows, pinged_flows]
    rfl
  rw [unsent, unsent, hall]
  refine countP_lt (fun g _ hg => ?_) hmem ?_ ?_
  · by_cases hgf : g = f
    · subst hgf
      simp [firstFlowCandidate, hfail] at hg
    · simpa only [firstFlowCandidate, pinged_other _ hgf, pinged_pcpServers, hindex, hheap] using hg
  · simp only [firstFlowCandidate, hown, beq_self_eq_true, Bool.true_and, Bool.or_eq_true, beq_iff_eq]
    tauto
  · simp [firstFlowCandidate, hfail]

theorem getPingMsg_unsent_pos {f : FlowId} (h : (getPingMsg c s).1 = some f) : 0 < unsent c s := by
  obtain ⟨hmem, hown, hst⟩ := getPingMsg_found h
  refine List.countP_pos_iff.mpr ⟨f, hmem, ?_⟩
  simp only [firstFlowCandidate, hown, beq_self_eq_true, Bool.true_and, Bool.or_eq_true, beq_iff_eq]
  tauto

/-- The body is run at most once for every flow that waits to be sent. -/
theorem pingRounds_le (n : Nat) (c : Ctx) : pingRounds e s n c ≤ unsent c s := by
  induction n generalizing c with
  | zero => exact Nat.zero_le _
  | succ n ih =>
    rcases hg : getPingMsg c s with ⟨found, a⟩
    simp only [pingRounds, hg]
    cases found with
    | none => exact Nat.zero_le _
    | some f =>
      have hfound : (getPingMsg c s).1 = some f := by rw [hg]
      dsimp only
      split
      · exact getPingMsg_unsent_pos hfound
      · rename_i hst
        have hlt := pinged_unsent (e := e) hg (by simpa using hst)
        have := ih (pinged e a f)
        omega

/-- Bounds that are larger than their number do not change what the loop does. -/
theorem pingLoop_enough {n m : Nat} {c : Ctx} (hn : unsent c s < n) (hm : unsent c s < m) :
    pingLoop e s n c = pingLoop e s m c := by
  induction n generalizing c m with
  | zero => cases hn
  | succ n ih =>
    obtain ⟨m, rfl⟩ := Nat.exists_eq_add_of_lt hm
    rw [pingLoop_succ, pingLoop_succ]
    rcases hg : getPingMsg c s with ⟨found, a⟩
    cases found with
    | none => rfl
    | some f =>
      dsimp only
      split
      · rfl
      · rename_i hst
        have hlt := pinged_unsent (e := e) hg (by simpa using hst)
        exact ih (by omega) (by omega)

/-- The two ends of the loop. -/
theorem pingLoop_end (n : Nat) (c : Ctx) :
    ((pingLoop e s n c).1 = .ping ∧ ((pingLoop e s n c).2.pcpServers s).nextTimeout = .zero) ∨
      ((pingLoop e s n c).1 = .waitPingResp ∧
        ((pingLoop e s n c).2.pcpServers s).pingFlowMsg ≠ none ∧
        ((pingLoop e s n c).2.pcpServers s).pingCount = (c.pcpServers s).pingCount ∧
        0 < unsent c s) := by
  induction n generalizing c with
  | zero => exact .inl ⟨rfl, by rw [pingLoop, Ctx.setNextTimeout_self]⟩
  | succ n ih =>
    rw [pingLoop_succ]
    rcases hg : getPingMsg c s with ⟨found, a⟩
    obtain rfl : (getPingMsg c s).2 = a := by rw [hg]
    have hself : (getPingMsg c s).2.pcpServers s = { c.pcpServers s with pingFlowMsg := found } := by
      rw [getPingMsg_self, hg]
    cases found with
    | none => exact .inl ⟨rfl, by rw [Ctx.setNextTimeout_self]⟩
    | some f =>
      dsimp only
      split
      · refine .inr ⟨rfl, ?_, ?_, getPingMsg_unsent_pos (f := f) (by rw [hg])⟩
        · rw [Ctx.setNextTimeout_self, pinged_pcpServers, hself]
          simp
        · rw [Ctx.setNextTimeout_self, pinged_pcpServers, hself]
      · rename_i hst
        have hlt := pinged_unsent (e := e) hg (by simpa using hst)
        rcases ih (pinged e (getPingMsg c s).2 f) with h | ⟨h₁, h₂, h₃, h₄⟩
        · exact .inl h
        · rw [pinged_pcpServers, hself] at h₃
          exact .inr ⟨h₁, h₂, h₃, by omega⟩

end Ping

/-! ## Calls that are left -/

/-- Calls in `pss_wait_ping_resp` until the pings are used up. The counter may wrap once. -/
def waitCalls (maxPingCount pingCount : UInt32) : Nat :=
  if pingCount = 0xFFFFFFFF then maxPingCount.toNat + 1 else max 1 (maxPingCount.toNat - pingCount.toNat)

/-- A bound for the calls that are left. -/
def budgetOf (maxPingCount : UInt32) (pingFlowMsg : Option FlowId) (pingCount : UInt32) (unsent : Nat) :
    ServerState → Nat
  | .waitIo | .waitIoCalcNearestTimeout | .allocated => 1
  | .sendAllMsgs | .serverRestart => 2
  | .setNotWorking => 4
  | .unitialized => 5
  | .ping => 1 + afterPing
  | .serverReping => 2 + afterPing
  | .notWorking => 3 + afterPing
  | .waitPingResp =>
    match pingFlowMsg with
    | none => max 1 maxPingCount.toNat + 6
    | some _ => waitCalls maxPingCount pingCount + 4
  | .versionNegotiation => maxPingCount.toNat + 6
where
  /-- The calls after one in `pss_ping` that finds a flow. -/
  afterPing : Nat := if unsent = 0 then 0 else max 1 maxPingCount.toNat + 4

def budget (cfg : Config) (c : Ctx) (s : Nat) : Nat :=
  budgetOf cfg.maxPingCount (c.pcpServers s).pingFlowMsg (c.pcpServers s).pingCount (unsent c s)
    (c.pcpServers s).serverState

theorem waitCalls_le (m k : UInt32) : 1 ≤ waitCalls m k ∧ waitCalls m k ≤ m.toNat + 1 := by
  unfold waitCalls
  split <;> omega

theorem budgetOf_bounds (m : UInt32) (p : Option FlowId) (k : UInt32) (u : Nat) (st : ServerState) :
    1 ≤ budgetOf m p k u st ∧ budgetOf m p k u st ≤ m.toNat + 8 := by
  have hwait := waitCalls_le m k
  have hafter : budgetOf.afterPing m u ≤ max 1 m.toNat + 4 := by
    unfold budgetOf.afterPing
    split <;> omega
  cases st with
  | waitPingResp => cases p <;> simp only [budgetOf] <;> omega
  | _ =>
    simp only [budgetOf]
    omega

/-! ## Handlers -/

section Handlers

variable {e : Env} {now : Timeval} {s : Nat} {c : Ctx}

/-- A handler lowers the budget, or leaves a timer that ends the loop. -/
def Progress (e : Env) (c : Ctx) (s : Nat) (r : ServerState × Ctx) : Prop :=
  ¬ Due e r.2 s ∨
    budgetOf e.cfg.maxPingCount (r.2.pcpServers s).pingFlowMsg (r.2.pcpServers s).pingCount
      (unsent r.2 s) r.1 < budget e.cfg c s

theorem progress_off {r : ServerState × Ctx} (h : (r.2.pcpServers s).nextTimeout = .zero) :
    Progress e c s r := by
  refine .inl fun hdue => ?_
  have hz := hdue.1
  rw [h] at hz
  cases hz

theorem handleServerPing_progress (hst : (c.pcpServers s).serverState = .ping) :
    Progress e c s (handleServerPing e c s) := by
  unfold handleServerPing
  have hsame : unsent (c.modServer s fun v => { v with pingCount := 0 }) s = unsent c s :=
    unsent_server rfl rfl (by rw [Ctx.modServer_self])
  rcases pingLoop_end (e := e) (s := s) (c.allFlows.length + 1)
    (c.modServer s fun v => { v with pingCount := 0 }) with ⟨-, h⟩ | ⟨hst', hping, hcount, hpos⟩
  · exact progress_off h
  · right
    rw [Ctx.modServer_self] at hcount
    rw [hsame] at hpos
    obtain ⟨p, hp⟩ := Option.ne_none_iff_exists'.mp hping
    rw [hst', hcount, hp, budget, hst]
    have hne : ¬ unsent c s = 0 := by omega
    simp only [budgetOf, budgetOf.afterPing, waitCalls, if_neg hne]
    have hzero : ¬ (0 : UInt32) = 0xFFFFFFFF := by decide
    rw [if_neg hzero]
    simp only [UInt32.toNat_zero]
    omega

theorem handleWaitPingRespTimeout_progress (hst : (c.pcpServers s).serverState = .waitPingResp) :
    Progress e c s (handleWaitPingRespTimeout e c s) := by
  have hself : (c.modServer s fun v => { v with pingCount := v.pingCount + 1 }).pcpServers s =
      { c.pcpServers s with pingCount := (c.pcpServers s).pingCount + 1 } := Ctx.modServer_self ..
  have hwait := waitCalls_le e.cfg.maxPingCount (c.pcpServers s).pingCount
  unfold handleWaitPingRespTimeout
  simp only [hself]
  by_cases hmax : (c.pcpServers s).pingCount + 1 ≥ e.cfg.maxPingCount
  · rw [if_pos hmax]
    right
    rw [budget, hst]
    cases (c.pcpServers s).pingFlowMsg <;> simp only [budgetOf] <;> omega
  rw [if_neg hmax]
  cases hping : (c.pcpServers s).pingFlowMsg with
  | none =>
    right
    rw [budget, hst, hping]
    simp only [budgetOf, budgetOf.afterPing]
    split <;> omega
  | some p =>
    dsimp only
    split
    · right
      rw [budget, hst, hping]
      simp only [budgetOf]
      omega
    · right
      rw [Ctx.setNextTimeout_self, handleFlowEvent_pcpServers, hself, budget, hst, hping]
      simp only [budgetOf]
      have hlt : ((c.pcpServers s).pingCount + 1).toNat < e.cfg.maxPingCount.toNat :=
        UInt32.lt_iff_toNat_lt.mp (UInt32.not_le.mp hmax)
      have hbound := e.cfg.maxPingCount.toNat_lt
      unfold waitCalls
      by_cases hwrap : (c.pcpServers s).pingCount = 0xFFFFFFFF
      · rw [if_pos hwrap, hwrap]
        have hzero : (0xFFFFFFFF : UInt32) + 1 = 0 := by decide
        rw [hwrap, hzero] at hlt
        rw [hzero, if_neg (by decide)]
        simp only [UInt32.toNat_zero] at hlt ⊢
        omega
      · have hnat : (c.pcpServers s).pingCount.toNat ≠ 0xFFFFFFFF := by
          intro h
          exact hwrap (UInt32.toNat_inj.mp h)
        have hsmall := (c.pcpServers s).pingCount.toNat_lt
        have hadd : ((c.pcpServers s).pingCount + 1).toNat = (c.pcpServers s).pingCount.toNat + 1 := by
          rw [UInt32.toNat_add]
          have hone : (1 : UInt32).toNat = 1 := rfl
          omega
        have hnext : ¬ (c.pcpServers s).pingCount + 1 = 0xFFFFFFFF := by
          intro h
          have htop : ((c.pcpServers s).pingCount + 1).toNat = 0xFFFFFFFF := by rw [h]; rfl
          omega
        rw [if_neg hwrap, if_neg hnext, hadd]
        omega

theorem negotiationPing_progress {p : FlowId} {a : Ctx}
    (hst : (c.pcpServers s).serverState = .versionNegotiation)
    (hp : (a.pcpServers s).pingFlowMsg ≠ none) : Progress e c s (negotiationPing e a s p) := by
  right
  rw [budget, hst]
  unfold negotiationPing
  dsimp only
  split
  · simp only [budgetOf]
    omega
  · rw [Ctx.setNextTimeout_self, handleFlowEvent_pcpServers]
    obtain ⟨q, hq⟩ := Option.ne_none_iff_exists'.mp hp
    have hwait := waitCalls_le e.cfg.maxPingCount (a.pcpServers s).pingCount
    have hping : ((a.modFlow p fun v => { v with retryCount := 0, resendTimeout := 0 }).pcpServers
        s).pingFlowMsg = some q := hq
    simp only [hping, budgetOf]
    change waitCalls e.cfg.maxPingCount (a.pcpServers s).pingCount + 4 < _
    omega

theorem negotiationEnd_progress {r : Option FlowId × Ctx}
    (hst : (c.pcpServers s).serverState = .versionNegotiation)
    (hr : (r.2.pcpServers s).pingFlowMsg = r.1) : Progress e c s (negotiationEnd e s r) := by
  obtain ⟨p, a⟩ := r
  cases p with
  | some p => exact negotiationPing_progress hst (by rw [hr]; simp)
  | none =>
    simp only [negotiationEnd]
    have hself : ((getPingMsg a s).2.pcpServers s).pingFlowMsg = (getPingMsg a s).1 := by
      rw [getPingMsg_self]
    generalize getPingMsg a s = r at hself ⊢
    obtain ⟨found, b⟩ := r
    cases found with
    | some q => exact negotiationPing_progress hst (by rw [hself]; simp)
    | none => exact progress_off (by rw [Ctx.setNextTimeout_self])

theorem handleVersionNegotiation_progress
    (hst : (c.pcpServers s).serverState = .versionNegotiation) :
    Progress e c s (handleVersionNegotiation e c s) := by
  rw [handleVersionNegotiation_eq]
  split
  · right
    rw [budget, hst]
    simp only [budgetOf]
    omega
  · refine negotiationEnd_progress hst ?_
    split
    · exact natpmpPingMsg_ping e _ s
    · rfl

theorem handleServerReping_progress (hst : (c.pcpServers s).serverState = .serverReping) :
    Progress e c s (handleServerReping e c s) := by
  have hsame : unsent (handleServerReping e c s).2 s = unsent c s := by
    refine unsent_server rfl rfl ?_
    simp only [handleServerReping]
    rw [Env.wakeNow_self, Ctx.modServer_self]
  right
  rw [budget, hst, hsame]
  simp only [handleServerReping, budgetOf]
  omega

/-- In the loop the timer has run out, so the server is asked again. -/
theorem handleServerNotWorking_progress (hst : (c.pcpServers s).serverState = .notWorking)
    (hdue : (c.pcpServers s).nextTimeout.us ≤ (e.now c.io).us) :
    Progress e c s (handleServerNotWorking e c s) := by
  have hcmp : ¬ (timevalComp (e.now c.io) (c.pcpServers s).nextTimeout).1 < 0 := by
    rw [timevalComp_lt]
    omega
  right
  unfold handleServerNotWorking
  dsimp only
  rw [if_neg hcmp, budget, hst]
  have hsame : ∀ t t', unsent ((c.tick.setNextTimeout s t).setNextTimeout s t') s = unsent c s := by
    intro t t'
    refine unsent_server rfl rfl ?_
    rw [Ctx.setNextTimeout_self, Ctx.setNextTimeout_self]
    rfl
  rw [hsame]
  simp only [budgetOf]
  omega

/-! ### The pass that fails the flows of a server -/

/-- What visits of flows leave alone. -/
structure Passed (s : Nat) (a b : Ctx) : Prop where
  calm : Calm a b
  index : (b.pcpServers s).index = (a.pcpServers s).index
  pcpServerIndx : ∀ f, (b.heap f).pcpServerIndx = (a.heap f).pcpServerIndx

theorem Passed.trans {a b d : Ctx} (h₁ : Passed s a b) (h₂ : Passed s b d) : Passed s a d :=
  ⟨h₁.calm.trans h₂.calm, h₂.index.trans h₁.index,
    fun f => (h₂.pcpServerIndx f).trans (h₁.pcpServerIndx f)⟩

theorem handleFlowEvent_passed (a : Ctx) (f : FlowId) {ev : FlowEvent} (hev : ev.Plain) :
    Passed s a (handleFlowEvent e a f ev none) := by
  refine ⟨handleFlowEvent_calm e a f none hev.ne_msgSent (hev.ne_res _), ?_, fun g => ?_⟩
  · rw [handleFlowEvent_pcpServers]
  · rw [handleFlowEvent_heap]
    by_cases hg : g = f
    · subst hg
      rw [Function.update_self]
      exact (flowStep_moves _ _ _ hev.ne_msgSent).frame.kept.pcpServerIndx
    · rw [Function.update_of_ne hg]

theorem alignTimer_passed (a : Ctx) (f : FlowId) : Passed s a (a.modFlow f alignTimer) := by
  refine ⟨.update rfl (alignTimer_calm _) rfl, rfl, fun g => ?_⟩
  by_cases hg : g = f
  · subst hg
    simp [Ctx.modFlow, alignTimer]
  · simp [Ctx.modFlow, hg]

theorem checkFlowTimeout_passed (a : Ctx) (f : FlowId) : Passed s a (checkFlowTimeout e s a f) := by
  have htick : Passed s a a.tick := ⟨⟨rfl, fun _ => .refl _⟩, rfl, fun _ => rfl⟩
  have hfire : Passed s a (fireTimer e a f) := by
    have halign : Passed s a (a.tick.modFlow f alignTimer) := htick.trans (alignTimer_passed _ f)
    unfold fireTimer
    split
    · exact halign.trans (handleFlowEvent_passed _ f trivial)
    · exact halign
  rw [checkFlowTimeout_eq]
  split
  · exact ⟨.refl a, rfl, fun _ => rfl⟩
  · unfold lowerTimeout
    split
    · exact hfire
    · refine (hfire.trans (alignTimer_passed _ f)).trans ⟨⟨rfl, fun _ => .refl _⟩, ?_, fun _ => rfl⟩
      rw [Ctx.setNextTimeout_self]

/-- The pass leaves the flows of the server waiting for an answer, mapped or failed. -/
theorem sendEventAll_failed_unsent : unsent (sendEventAll e s .failed c) s = 0 := by
  have hplain : FlowEvent.failed.Plain := trivial
  have hpass := foldl_pass (a := c) (Passed s) (fun _ _ => True)
    (fun b f => Belongs b s f → (b.heap f).state.Active) (g := flowSendEventIter e s .failed)
    (l := c.allFlows) (fun a => ⟨.refl a, rfl, fun _ => rfl⟩) (fun _ _ _ => .trans)
    (fun _ _ _ _ _ => trivial)
    (fun a b f h ha hb => ?_) (fun b _ f _ _ => ?_) (fun _ _ => trivial)
  · rw [unsent, List.countP_eq_zero]
    intro f hf hcand
    simp only [firstFlowCandidate, Bool.and_eq_true, Bool.or_eq_true, beq_iff_eq] at hcand
    have hmem : f ∈ c.allFlows := by
      rw [← hpass.1.calm.allFlows]
      exact hf
    have hactive := hpass.2 f hmem hcand.1
    change FlowState.Active ((sendEventAll e s .failed c).heap f).state at hactive
    rcases hcand.2 with (hst | hst) | hst
    all_goals exact absurd hst (hactive.ne (by decide))
  · refine (h.calm.flow f).active (ha ?_)
    rw [Belongs, h.index, h.pcpServerIndx] at hb
    exact hb
  · unfold flowSendEventIter
    split
    · have hevent := handleFlowEvent_passed (e := e) (s := s) b f hplain
      have hcheck := checkFlowTimeout_passed (e := e) (s := s) (handleFlowEvent e b f .failed none) f
      refine ⟨hevent.trans hcheck, fun _ => (hcheck.calm.flow f).active ?_⟩
      rw [handleFlowEvent_heap, Function.update_self]
      refine flowStep_active _ (by simp) (by simp) ?_
      cases (b.heap f).state <;> decide
    · rename_i hother
      exact ⟨⟨.refl b, rfl, fun _ => rfl⟩, fun hb => absurd hb hother⟩

theorem handleServerSetNotWorking_progress (hst : (c.pcpServers s).serverState = .setNotWorking) :
    Progress e c s (handleServerSetNotWorking e c s) := by
  have hnone : unsent (handleServerSetNotWorking e c s).2 s = 0 := by
    rw [← sendEventAll_failed_unsent (e := e) (c := c) (s := s)]
    refine unsent_server rfl rfl ?_
    simp only [handleServerSetNotWorking, Ctx.tick_pcpServers]
    rw [Ctx.setNextTimeout_self]
  right
  rw [budget, hst, hnone]
  simp only [handleServerSetNotWorking, budgetOf, budgetOf.afterPing, if_true]
  omega

/-! ### The timer pass -/

theorem checkFlowTimeout_next (c : Ctx) (f : FlowId)
    (hn : (c.pcpServers s).nextTimeout.Normal ∧ 0 ≤ (c.pcpServers s).nextTimeout.us) :
    ((checkFlowTimeout e s c f).pcpServers s).nextTimeout.Normal ∧
      0 ≤ ((checkFlowTimeout e s c f).pcpServers s).nextTimeout.us := by
  rw [checkFlowTimeout_eq]
  split
  · exact hn
  · have hservers := (fireTimer_servers e c f).2
    unfold lowerTimeout
    split
    · rw [hservers]
      exact hn
    · obtain ⟨hleft, hus⟩ := timerLeft_spec (c := fireTimer e c f) (f := f) (e.now c.io)
      obtain ⟨hnormal, hnear⟩ := nearestTimeout_spec hn.1 hleft
      rw [Ctx.setNextTimeout_self, hservers]
      refine ⟨hnormal, ?_⟩
      dsimp only
      rw [hnear]
      exact lower_nonneg hn.2 fun n hn => by cases hn; omega

/-- With the clock standing still, the timer pass leaves no timer or one in the future. -/
theorem handleWaitIoTimeout_progress :
    ¬ Due (e.frozen now) (handleWaitIoTimeout (e.frozen now) c s).2 s := by
  have hoff : ((c.setNextTimeout s .zero).pcpServers s).nextTimeout = .zero := by
    rw [Ctx.setNextTimeout_self]
  have hwalk := List.foldlRecOn
    (motive := fun a => (a.pcpServers s).nextTimeout.Normal ∧ 0 ≤ (a.pcpServers s).nextTimeout.us)
    c.allFlows (checkFlowTimeout (e.frozen now) s) (b := c.setNextTimeout s .zero)
    (by rw [hoff]; exact ⟨Timeval.normal_zero, Int.le_refl 0⟩)
    fun a ha f _ => checkFlowTimeout_next a f ha
  unfold handleWaitIoTimeout
  have hall : (c.setNextTimeout s .zero).allFlows = c.allFlows := rfl
  simp only [hall]
  generalize c.allFlows.foldl (checkFlowTimeout (e.frozen now) s) (c.setNextTimeout s .zero) = a
    at hwalk ⊢
  split
  · rename_i hz
    intro hdue
    have hoff := hdue.1
    rw [hz] at hoff
    cases hoff
  · rename_i hz
    intro hdue
    have hpast := hdue.2
    have hnow : ∀ io, (e.frozen now).now io = now := fun _ => rfl
    simp only [hnow, Ctx.setNextTimeout_self, us_timevalAlign] at hpast
    rw [hwalk.1.isZero_iff] at hz
    simp only [Timeval.us] at hpast hz hwalk
    omega

end Handlers

/-! ## The loop -/

section Iter

variable {e : Env} {now : Timeval} {s : Nat} {c : Ctx}

/-- A call in the loop lowers the budget or ends the loop. -/
theorem run_progress (hdue : (c.pcpServers s).nextTimeout.us ≤ now.us) :
    ¬ Due (e.frozen now) (runServerStateMachine (e.frozen now) c s .timeout) s ∨
      budget e.cfg (runServerStateMachine (e.frozen now) c s .timeout) s < budget e.cfg c s := by
  obtain ⟨h, hh⟩ := serverHandler_total (c.pcpServers s).serverState .timeout
  have hrun : Progress (e.frozen now) c s (h.run (e.frozen now) c s) := by
    cases hst : (c.pcpServers s).serverState with
    | ping => rw [hst] at hh; cases hh; exact handleServerPing_progress hst
    | waitPingResp => rw [hst] at hh; cases hh; exact handleWaitPingRespTimeout_progress hst
    | versionNegotiation => rw [hst] at hh; cases hh; exact handleVersionNegotiation_progress hst
    | waitIo => rw [hst] at hh; cases hh; exact .inl handleWaitIoTimeout_progress
    | waitIoCalcNearestTimeout => rw [hst] at hh; cases hh; exact .inl handleWaitIoTimeout_progress
    | serverReping => rw [hst] at hh; cases hh; exact handleServerReping_progress hst
    | setNotWorking => rw [hst] at hh; cases hh; exact handleServerSetNotWorking_progress hst
    | notWorking => rw [hst] at hh; cases hh; exact handleServerNotWorking_progress hst hdue
    | allocated =>
      rw [hst] at hh
      cases hh
      refine progress_off ?_
      simp only [ServerHandler.run, LibPcp.ignoreEvents, Ctx.setNextTimeout_self]
    | sendAllMsgs | serverRestart | unitialized =>
      rw [hst] at hh
      cases hh
      right
      rw [budget, hst]
      exact Nat.lt_succ_self _
  rw [runServerStateMachine_eq hh]
  generalize h.run (e.frozen now) c s = r at hrun ⊢
  rcases hrun with hnot | hlt
  · refine .inl fun hd => hnot ?_
    unfold Due at hd ⊢
    rwa [Ctx.modServer_self] at hd
  · right
    have hsame : unsent (r.2.modServer s fun v => { v with serverState := r.1 }) s = unsent r.2 s :=
      unsent_server rfl rfl (by rw [Ctx.modServer_self])
    rw [budget, Ctx.modServer_self, hsame]
    exact hlt

theorem fire_progress (hdue : Due (e.frozen now) c s) :
    ¬ Due (e.frozen now) (fire (e.frozen now) s c) s ∨
      budget e.cfg (fire (e.frozen now) s c) s < budget e.cfg c s := by
  have hself : (alignNext c.tick s).pcpServers s =
      { c.pcpServers s with nextTimeout := timevalAlign (c.pcpServers s).nextTimeout } :=
    alignNext_self
  have hunsent : unsent (alignNext c.tick s) s = unsent c s := unsent_server rfl rfl (by rw [hself])
  have hsame : budget e.cfg (alignNext c.tick s) s = budget e.cfg c s := by
    rw [budget, hself, hunsent]
    rfl
  rw [← hsame]
  refine run_progress ?_
  rw [hself, us_timevalAlign]
  exact hdue.2

theorem hserverLoop_ends (n : Nat) (c : Ctx)
    (h : if Due (e.frozen now) c s then budget e.cfg c s < n else 0 < n) :
    (hserverLoop (e.frozen now) s n c).isSome = true := by
  induction n generalizing c with
  | zero => split at h <;> cases h
  | succ n ih =>
    obtain ⟨t, heq⟩ := hserverLoop_succ (e.frozen now) s n c
    rw [heq]
    by_cases hdue : Due (e.frozen now) c s
    · rw [if_pos hdue] at h ⊢
      have hpos := (budgetOf_bounds e.cfg.maxPingCount (c.pcpServers s).pingFlowMsg
        (c.pcpServers s).pingCount (unsent c s) (c.pcpServers s).serverState).1
      change 1 ≤ budget e.cfg c s at hpos
      apply ih
      split
      · rename_i hdue'
        have hlt := (fire_progress hdue).resolve_left (not_not_intro hdue')
        omega
      · omega
    · rw [if_neg hdue]
      rfl

/-- With the clock standing still `hserver_iter` returns, whatever the server, the flow table, the event
and the outcomes of sends and allocations are: nine rounds of its loop more than pings are enough. The
ping loop runs its body at most once for every flow that waits to be sent, and its bound is large
enough. -/
theorem server_loop_ends (e : Env) (now : Timeval) (ev : ServerEvent) (c : Ctx) (s : Nat)
    (resTimeout : Option Timeval) :
    (hserverIter (e.frozen now) (e.cfg.maxPingCount.toNat + 9) ev c s resTimeout).isSome = true ∧
      (∀ n, pingRounds (e.frozen now) s n c ≤ unsent c s) ∧
      (∀ n, unsent c s < n → pingLoop (e.frozen now) s n c =
        pingLoop (e.frozen now) s (c.allFlows.length + 1) c) := by
  refine ⟨?_, fun n => pingRounds_le n c, fun n hn => pingLoop_enough hn ?_⟩
  · unfold hserverIter
    split
    · rfl
    · dsimp only
      generalize (if ev ≠ .timeout then runServerStateMachine (e.frozen now) c s ev else c) = a
      have hle := (budgetOf_bounds e.cfg.maxPingCount (a.pcpServers s).pingFlowMsg
        (a.pcpServers s).pingCount (unsent a s) (a.pcpServers s).serverState).2
      have hloop : (hserverLoop (e.frozen now) s (e.cfg.maxPingCount.toNat + 9) a).isSome = true := by
        refine hserverLoop_ends _ a ?_
        split
        · exact Nat.lt_succ_of_le hle
        · omega
      obtain ⟨r, hr⟩ := Option.isSome_iff_exists.mp hloop
      rw [hr]
      dsimp only
      repeat' split
      all_goals rfl
  · exact Nat.lt_succ_of_le List.countP_le_length

end Iter

end LibPcp
