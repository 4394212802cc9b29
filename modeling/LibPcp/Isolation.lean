import LibPcp.Reach

/-!
# LibPcp.Isolation

What `hserver_iter` of one server does to the flows of the others.

Every handler but one works on the flows of its own server. `handle_wait_io_timeout` walks all flows of
the table and fires every timer that has run out, so a flow of another server can be retransmitted,
renewed or failed, and its server is sent a request.

* `Apart`: the flows of other servers stay as they are and requests go to the own server. Every act
  except those of that walk is `Apart`, and so is its visit to a flow that is `Asleep`.
* `iter_isolated`: a call is `Isolated` if the walks in it find the flows of other servers asleep.
-/

namespace LibPcp

open LabelledSteps

/-- A flow of the table that belongs to another server. -/
def Foreign (c : Ctx) (s : Nat) (f : FlowId) : Prop :=
  f ∈ c.allFlows ∧ (c.heap f).pcpServerIndx ≠ (c.pcpServers s).index

/-- No flow of another server changes, and nothing is sent to another server. -/
structure Isolated (s : Nat) (c c' : Ctx) : Prop where
  flows : ∀ f, Foreign c s f → c'.heap f = c.heap f
  sent : c.io.SentWith (fun p => p.server = s) c'.io

/-- The timer of the flow is off, or it is in normal form and either in the future or of no concern to
the state the flow is in. -/
def Asleep (e : Env) (c : Ctx) (f : FlowId) : Prop :=
  (c.heap f).timeout.isZero = true ∨
    ((c.heap f).timeout.Normal ∧
      ((e.now c.io).us < (c.heap f).timeout.us ∨ ¬ (c.heap f).state.Reacts))

/-- The walk of `handle_wait_io_timeout` after the flows `l`. -/
def walkTo (e : Env) (s : Nat) (c : Ctx) (l : List FlowId) : Ctx :=
  l.foldl (checkFlowTimeout e s) (c.setNextTimeout s .zero)

/-- The walk that starts in `c` finds the flows of other servers asleep when it comes to them. -/
def FindsAsleep (e : Env) (s : Nat) (c : Ctx) : Prop :=
  ∀ l f r, c.allFlows = l ++ f :: r → Foreign c s f → Asleep e (walkTo e s c l) f

/-- The contexts in which a call of `hserver_iter` enters `handle_wait_io_timeout`. -/
inductive Walks (e : Env) (s : Nat) (ev : ServerEvent) (c : Ctx) : Ctx → Prop where
  | event (hev : ev ≠ .timeout)
      (hh : serverHandler (c.pcpServers s).serverState ev = some .waitIoTimeout) : Walks e s ev c c
  | timer {a : Ctx} (h : Fires e s (if ev ≠ .timeout then runServerStateMachine e c s ev else c) a)
      (hd : Due e a s)
      (hh : serverHandler (a.pcpServers s).serverState .timeout = some .waitIoTimeout) :
      Walks e s ev c (alignNext a.tick s)

/-- `Isolated`, with what it takes to compose it. -/
structure Apart (s : Nat) (c c' : Ctx) : Prop where
  frame : Frame s c c'
  flows : ∀ f, f < c.heapTop → (c.heap f).pcpServerIndx ≠ (c.pcpServers s).index →
    c'.heap f = c.heap f
  sent : c.io.SentWith (fun p => p.server = (c.pcpServers s).index) c'.io

section Apart

variable {e : Env} {s : Nat} {c c' c'' : Ctx} {f : FlowId}

theorem Io.SentWith.and {P Q : Sent → Prop} {io io' : Io} (hp : io.SentWith P io')
    (hq : io.SentWith Q io') : io.SentWith (fun p => P p ∧ Q p) io' := by
  obtain ⟨new, hnew, hall⟩ := hp
  obtain ⟨new', hnew', hall'⟩ := hq
  have heq : new = new' := List.append_cancel_right (hnew.symm.trans hnew')
  subst heq
  exact ⟨new, hnew, fun p hm => ⟨hall p hm, hall' p hm⟩⟩

theorem Apart.refl (c : Ctx) : Apart s c c := ⟨.refl c, fun _ _ _ => rfl, .refl _⟩

theorem Apart.trans (h₁ : Apart s c c') (h₂ : Apart s c' c'') : Apart s c c'' := by
  refine ⟨h₁.frame.trans h₂.frame, fun f hf hne => ?_, h₁.sent.trans ?_⟩
  · have hsame := h₁.flows f hf hne
    have hne' : (c'.heap f).pcpServerIndx ≠ (c'.pcpServers s).index := by
      rw [hsame, h₁.frame.same.index]
      exact hne
    exact (h₂.flows f (Nat.lt_of_lt_of_le hf h₁.frame.heapTop) hne').trans hsame
  · rw [← h₁.frame.same.index]
    exact h₂.sent

theorem Act.apart {k : ActKind} (h : Act e s k c c') (hk : k ≠ .walk) : Apart s c c' := by
  have hframe := h.frame
  refine ⟨hframe, fun f hf hne => (h.foreign hf hne).resolve_right fun hw => hk hw.1, ?_⟩
  refine (h.sent.and hframe.sent).mono fun p hp => ?_
  obtain ⟨hsender, hrouted⟩ := hp
  have hown : Own c s p.flow := hsender.resolve_right fun hw => hk hw.1
  rw [hrouted.server, (hframe.flow _ hown.1).pcpServerIndx]
  exact hown.2

theorem Acts.apart {K : List ActKind} (h : Acts e s K c c') (hK : .walk ∉ K) : Apart s c c' :=
  h.relate (T := Apart s) .refl (fun _ _ _ => .trans) fun _ _ _ hk hact =>
    hact.apart fun hw => hK (hw ▸ hk)

/-! ## The walk -/

theorem alignTimer_normal {v : Flow} (h : v.timeout.Normal) : alignTimer v = v := by
  rw [alignTimer, timevalAlign_of_normal h]

theorem modFlow_alignTimer (h : (c.heap f).timeout.Normal) : (c.modFlow f alignTimer).heap = c.heap := by
  rw [Ctx.modFlow, Ctx.setFlow_heap, alignTimer_normal h, Function.update_eq_self]

/-- The timer of a flow that is asleep does not fire. -/
theorem fireTimer_asleep (hn : (c.heap f).timeout.Normal)
    (h : (e.now c.io).us < (c.heap f).timeout.us ∨ ¬ (c.heap f).state.Reacts) :
    (fireTimer e c f).heap = c.heap ∧ (fireTimer e c f).io.sent = c.io.sent := by
  have hheap : (c.tick.modFlow f alignTimer).heap = c.heap := modFlow_alignTimer hn
  unfold fireTimer
  split
  · rename_i hle
    have hr : nextState ((c.tick.modFlow f alignTimer).heap f).state .flowTimedout = none := by
      rw [hheap]
      exact not_not.mp (h.resolve_left (Int.not_lt.mpr hle))
    rw [handleFlowEvent_heap, handleFlowEvent_io, flowStep_none _ (by simp) hr]
    exact ⟨by rw [Function.update_eq_self, hheap], rfl⟩
  · exact ⟨hheap, rfl⟩

theorem checkFlowTimeout_asleep (h : Asleep e c f) :
    (checkFlowTimeout e s c f).heap = c.heap ∧
      (checkFlowTimeout e s c f).io.sent = c.io.sent := by
  rw [checkFlowTimeout_eq]
  rcases h with hz | ⟨hn, h⟩
  · rw [if_pos hz]
    exact ⟨rfl, rfl⟩
  · split
    · exact ⟨rfl, rfl⟩
    · obtain ⟨hheap, hsent⟩ := fireTimer_asleep hn h
      unfold lowerTimeout
      split
      · exact ⟨hheap, hsent⟩
      · have hn' : ((fireTimer e c f).heap f).timeout.Normal := by
          rw [hheap]
          exact hn
        exact ⟨(modFlow_alignTimer hn').trans hheap, hsent⟩

/-- A visit to an own flow, or to a sleeping one. -/
theorem checkFlowTimeout_apart (hf : f < c.heapTop) (hm : f ∈ c.allFlows)
    (h : (c.heap f).pcpServerIndx ≠ (c.pcpServers s).index → Asleep e c f) :
    Apart s c (checkFlowTimeout e s c f) := by
  by_cases hown : (c.heap f).pcpServerIndx = (c.pcpServers s).index
  · have hacts : Acts e s [.own] c (checkFlowTimeout e s c f) :=
      checkFlowTimeout_acts List.mem_cons_self (.inl ⟨rfl, hf, hown⟩)
    exact hacts.apart (by simp)
  · have hacts : Acts e s [.own, .walk] c (checkFlowTimeout e s c f) :=
      checkFlowTimeout_acts (k := .walk) (by simp) (.inr ⟨rfl, hf, hm⟩)
    obtain ⟨hheap, hsent⟩ := checkFlowTimeout_asleep (s := s) (h hown)
    exact ⟨hacts.frame, fun g _ _ => by rw [hheap], .of_eq hsent⟩

theorem setNextTimeout_apart (t : Timeval) : Apart s c (c.setNextTimeout s t) := by
  have hacts : Acts (.calm {}) s [.own] c (c.setNextTimeout s t) := setNextTimeout_acts t
  exact hacts.apart (by simp)

/-- The walk, by induction on the flows that are left. -/
theorem walkTo_apart (hc : TableOk c) (hq : FindsAsleep e s c) (r : List FlowId) {l : List FlowId}
    (h : c.allFlows = l ++ r) (hl : Apart s c (walkTo e s c l)) : Apart s c (walkTo e s c (l ++ r)) := by
  induction r generalizing l with
  | nil =>
    rw [List.append_nil]
    exact hl
  | cons f r ih =>
    have hm : f ∈ c.allFlows := by
      rw [h]
      exact List.mem_append_right _ List.mem_cons_self
    have hf := hc.alloc hm
    have hvisit : Apart s (walkTo e s c l) (checkFlowTimeout e s (walkTo e s c l) f) := by
      refine checkFlowTimeout_apart (Nat.lt_of_lt_of_le hf hl.frame.heapTop) (hl.frame.allFlows hm)
        fun hne => hq l f r h ⟨hm, ?_⟩
      rw [(hl.frame.flow f hf).pcpServerIndx, hl.frame.same.index] at hne
      exact hne
    have hnext : walkTo e s c (l ++ [f]) = checkFlowTimeout e s (walkTo e s c l) f := by
      rw [walkTo, List.foldl_append]
      rfl
    have hrest := ih (l := l ++ [f]) (by rw [h, List.append_assoc]; rfl)
      (by rw [hnext]; exact hl.trans hvisit)
    rwa [List.append_assoc] at hrest

theorem handleWaitIoTimeout_apart (hc : TableOk c) (hq : FindsAsleep e s c) :
    Apart s c (handleWaitIoTimeout e c s).2 := by
  have hwalk : Apart s c (walkTo e s c c.allFlows) :=
    walkTo_apart hc hq c.allFlows (l := []) rfl (setNextTimeout_apart .zero)
  have hend : ∀ t, Apart s (walkTo e s c c.allFlows)
      ((walkTo e s c c.allFlows).tick.setNextTimeout s t) := by
    intro t
    have hacts : Acts e s [.own] (walkTo e s c c.allFlows)
        ((walkTo e s c c.allFlows).tick.setNextTimeout s t) := tick_acts.trans (setNextTimeout_acts t)
    exact hacts.apart (by simp)
  unfold handleWaitIoTimeout
  dsimp only
  split
  · exact hwalk
  · exact hwalk.trans (hend _)

/-! ## The call -/

/-- One event of the server: only the walk reaches other flows. -/
theorem runServerStateMachine_apart {ev : ServerEvent} (hc : CtxOk c)
    (hs : (c.pcpServers s).serverState ≠ .unitialized)
    (hq : serverHandler (c.pcpServers s).serverState ev = some .waitIoTimeout → FindsAsleep e s c) :
    Apart s c (runServerStateMachine e c s ev) := by
  obtain ⟨h, hh⟩ := serverHandler_total (c.pcpServers s).serverState ev
  by_cases hwalk : h = .waitIoTimeout
  · subst hwalk
    have hrun : Apart s c (ServerHandler.run .waitIoTimeout e c s).2 :=
      handleWaitIoTimeout_apart hc.table (hq hh)
    have hlive : (((ServerHandler.run .waitIoTimeout e c s).2).pcpServers s).serverState ≠
        .unitialized := by
      rw [ne_eq, hrun.frame.same.live]
      exact hs
    rw [runServerStateMachine_eq hh]
    have hstore : Acts e s [.own] (ServerHandler.run .waitIoTimeout e c s).2 _ :=
      storeState_acts hlive (ServerHandler.run_live .waitIoTimeout e hs)
    exact hrun.trans (hstore.apart (by simp))
  · refine (runServerStateMachine_acts hh (hc.wf s) hs).apart ?_
    cases h <;> simp_all [ServerHandler.kinds]

theorem Fires.apart (h : Fires e s c c') (hc : CtxOk c)
    (hs : (c.pcpServers s).serverState ≠ .unitialized)
    (hq : ∀ a, Fires e s c a → Due e a s →
      serverHandler (a.pcpServers s).serverState .timeout = some .waitIoTimeout →
        FindsAsleep e s (alignNext a.tick s)) : Apart s c c' := by
  induction h with
  | nil c => exact .refl c
  | @cons a b hd h ih =>
    have hstart : Acts e s [.own] a (alignNext a.tick s) := fireStart_acts
    have hs' : ((alignNext a.tick s).pcpServers s).serverState ≠ .unitialized := by
      rw [alignNext_state]
      exact hs
    have hrun : Apart s (alignNext a.tick s) (fire e s a) := by
      refine runServerStateMachine_apart (hstart.ctxOk hc hs) hs' fun hh => hq a (.nil a) hd ?_
      rwa [alignNext_state] at hh
    have hfire := (hstart.apart (by simp)).trans hrun
    refine hfire.trans (ih ((fire_acts (hc.wf s) hs).ctxOk hc hs) ?_ fun a' ha' => hq a' (.cons hd ha'))
    rw [ne_eq, hfire.frame.same.live]
    exact hs

/-- A call of `hserver_iter` leaves the flows of other servers alone and sends nothing to other servers,
if the walks in it find those flows asleep. -/
theorem iter_isolated {n : Nat} {ev : ServerEvent} {t t' : Option Timeval} (hc : CtxOk c)
    (h : hserverIter e n ev c s t = some (c', t'))
    (hq : ∀ a, Walks e s ev c a → FindsAsleep e s a) : Isolated s c c' := by
  by_cases hs : (c.pcpServers s).serverState = .unitialized
  · rw [hserverIter_unitialized h hs]
    exact ⟨fun _ _ => rfl, .refl _⟩
  · obtain ⟨a, hfires, -, rfl⟩ := hserverIter_some h hs
    have hevent : Apart s c (if ev ≠ .timeout then runServerStateMachine e c s ev else c) ∧
        CtxOk (if ev ≠ .timeout then runServerStateMachine e c s ev else c) := by
      split
      · rename_i hev
        exact ⟨runServerStateMachine_apart hc hs fun hh => hq c (.event hev hh),
          (runServerStateMachine_allKinds ev (hc.wf s) hs).ctxOk hc hs⟩
      · exact ⟨.refl c, hc⟩
    have hs' : ((if ev ≠ .timeout then runServerStateMachine e c s ev else c).pcpServers s).serverState
        ≠ .unitialized := by
      rw [ne_eq, hevent.1.frame.same.live]
      exact hs
    have hall := hevent.1.trans (hfires.apart hevent.2 hs' fun a ha hd hh => hq _ (.timer ha hd hh))
    have hsettle : Acts e s [.own] a (settle s a) := settle_acts
    have hapart := hall.trans (hsettle.apart (by simp))
    exact ⟨fun f hf => hapart.flows f (hc.alloc hf.1) hf.2,
      hapart.sent.mono fun p hp => hp.trans (hc.index hs)⟩

/-- While the clock stands still, a walk finds the other flows as they are when it starts. -/
theorem findsAsleep_of_clock {now : Timeval} (hclock : ∀ k, e.clock k = now) (hc : TableOk c)
    (h : ∀ f ∈ c.allFlows, (c.heap f).pcpServerIndx ≠ (c.pcpServers s).index →
      (c.heap f).timeout.isZero = true ∨ ((c.heap f).timeout.Normal ∧
        (now.us < (c.heap f).timeout.us ∨ ¬ (c.heap f).state.Reacts))) : FindsAsleep e s c := by
  intro l f r hall hf
  have hfl : f ∉ l := by
    have hnodup := hc.allFlows_nodup
    rw [hall, List.nodup_append] at hnodup
    exact fun hm => hnodup.2.2 f hm f List.mem_cons_self rfl
  have hheap : (walkTo e s c l).heap f = c.heap f := by
    refine List.foldlRecOn (motive := fun a : Ctx => a.heap f = c.heap f) _ _ rfl fun a ha g hg => ?_
    have hfg : f ≠ g := fun heq => hfl (heq ▸ hg)
    rw [checkFlowTimeout_other e s a hfg, ha]
  have hnow : e.now (walkTo e s c l).io = now := hclock _
  rw [Asleep, hheap, hnow]
  exact h f hf.1 hf.2

/-- When the server is not due again after its timeout, then that is where a walk starts. -/
theorem Walks.once {a : Ctx} (h : Walks e s .timeout c a) (hstill : ¬ Due e (fire e s c) s) :
    a = alignNext c.tick s := by
  cases h with
  | event hev hh => exact absurd rfl hev
  | @timer b hfires hd hh =>
    rw [if_neg (by simp)] at hfires
    cases hfires with
    | nil => rfl
    | cons _ hrest =>
      cases hrest with
      | nil => exact absurd hd hstill
      | cons hd' _ => exact absurd hd' hstill

/-- The same for a server whose timer runs out once. -/
theorem Walks.findsAsleep {now : Timeval} {a : Ctx} (h : Walks e s .timeout c a)
    (hstill : ¬ Due e (fire e s c) s) (hclock : ∀ k, e.clock k = now) (hc : TableOk c)
    (hf : ∀ f ∈ c.allFlows, (c.heap f).pcpServerIndx ≠ (c.pcpServers s).index →
      (c.heap f).timeout.tvUsec = 0 ∧
        (now.us < (c.heap f).timeout.us ∨ ¬ (c.heap f).state.Reacts)) : FindsAsleep e s a := by
  rw [h.once hstill]
  have hstart : Acts e s [.own] c (alignNext c.tick s) := fireStart_acts
  refine findsAsleep_of_clock hclock (hstart.tableOk hc) fun f hm hne => .inr ?_
  rw [hstart.frame.same.index] at hne
  obtain ⟨husec, hrest⟩ := hf f hm hne
  exact ⟨⟨Int.le_of_eq husec.symm, husec ▸ by decide⟩, hrest⟩

end Apart

/-! ## Two servers -/

/-- The mapping of the first server is in place, the second server has not answered. -/
def firstMapped : List Op :=
  [.addServer (.inet 0x0A000001 0) 2, .addServer (.inet 0x0A000003 0) 2,
   .newFlow (.inet 0x0A000002 80) none none 6 60, .pulse none .zero,
   .pulse (some (mapResponse 0 60 1 7)) .zero]

/-- The clock moves on by five seconds after the calls of `firstMapped`. -/
def Env.laterOn : Env :=
  { Env.calm {} with clock := fun k => if k < 23 then ⟨1000, 0⟩ else ⟨1005, 0⟩ }

def oneMapped : Ctx := runTo .laterOn (fun _ _ => True) 8 {} firstMapped

/-- A second flow for both servers, at the time of the first. -/
def twoFlows : Ctx :=
  runTo (.calm {}) (fun _ _ => True) 8 {}
    (firstMapped ++ [.newFlow (.inet 0x0A000002 81) none none 6 60])

/-- The first server sends the request of its new flow; the flows of the second one wait for its
answer. -/
theorem iter_isolated_new_flow :
    Due (.calm {}) twoFlows 0 ∧
      ∃ c' t', hserverIter (.calm {}) 8 .timeout twoFlows 0 none = some (c', t') ∧
        Isolated 0 twoFlows c' := by
  have hreach : Reachable (.calm {}) twoFlows := Runs.runTo (by decide +kernel)
  have hdue : Due (.calm {}) twoFlows 0 := by decide +kernel
  have hstill : ¬ Due (.calm {}) (fire (.calm {}) 0 twoFlows) 0 := by decide +kernel
  have hflows : ∀ f ∈ twoFlows.allFlows,
      (twoFlows.heap f).pcpServerIndx ≠ (twoFlows.pcpServers 0).index →
        (twoFlows.heap f).timeout.tvUsec = 0 ∧
          ((⟨1000, 0⟩ : Timeval).us < (twoFlows.heap f).timeout.us ∨
            ¬ (twoFlows.heap f).state.Reacts) := by decide +kernel
  have hsome : (hserverIter (.calm {}) 8 .timeout twoFlows 0 none).isSome = true := by decide +kernel
  obtain ⟨⟨c', t'⟩, hc'⟩ := Option.isSome_iff_exists.mp hsome
  exact ⟨hdue, c', t', hc', iter_isolated hreach.ctxOk hc' fun a ha =>
    ha.findsAsleep hstill (fun _ => rfl) hreach.ctxOk.table hflows⟩

/-- The timer of the first server has taken over the retransmission timer of the second server's flow.
When it runs out, the first server retransmits the request. -/
theorem iter_retransmits_for_other :
    ¬ ∀ (e : Env) (n s : Nat) (ev : ServerEvent) (c c' : Ctx) (t t' : Option Timeval), Reachable e c →
      hserverIter e n ev c s t = some (c', t') → Isolated s c c' := by
  intro hall
  have hc : Reachable .laterOn oneMapped := Runs.runTo (by decide +kernel)
  have hcount : (hserverIter .laterOn 8 .timeout oneMapped 0 none).map
      (fun r => (r.1.heap 1).retryCount) = some 1 := by decide +kernel
  have hforeign : 1 ∈ oneMapped.allFlows ∧
      (oneMapped.heap 1).pcpServerIndx ≠ (oneMapped.pcpServers 0).index := by decide +kernel
  have hzero : (oneMapped.heap 1).retryCount = 0 := by decide +kernel
  obtain ⟨⟨c', t'⟩, hc', hone⟩ := Option.map_eq_some_iff.mp hcount
  have hsame := (hall _ _ _ _ _ _ _ _ hc hc').flows 1 hforeign
  rw [hsame, hzero] at hone
  cases hone

end LibPcp
