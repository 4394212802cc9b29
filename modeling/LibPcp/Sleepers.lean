import LibPcp.Deadlines
import LibPcp.Isolation
import LibPcp.Woken

/-!
# LibPcp.Sleepers

A flow that nobody has to deal with.

A flow whose timer is on is left as it is by the calls that are about other flows and by the events of
other servers, but for the walk of `handle_wait_io_timeout`, which visits the whole table. `Flow.Still` is
what even the walk leaves of a flow whose timer has not run out: the visit only brings the timer to
normal form.

* `CallActs.still`: calls about other flows.
* `runServerStateMachine_sleeper`: an event of another server.
-/

namespace LibPcp

open LabelledSteps

/-! ## Calls -/

/-- Neither the counter nor the timer has moved. -/
structure Flow.Still (v w : Flow) : Prop where
  retryCount : w.retryCount = v.retryCount
  timeout : w.timeout.us = v.timeout.us

theorem Flow.Still.refl (v : Flow) : v.Still v := ⟨rfl, rfl⟩

theorem Flow.Still.trans {u v w : Flow} (h₁ : u.Still v) (h₂ : v.Still w) : u.Still w :=
  ⟨h₂.retryCount.trans h₁.retryCount, h₂.timeout.trans h₁.timeout⟩

theorem alignTimer_still (v : Flow) : v.Still (alignTimer v) := ⟨rfl, us_timevalAlign _⟩

section Others

variable {e : Env} {s i : Nat} {c c' : Ctx} {p : FlowId} {n : Nat}

theorem CallAct.still {k : CallKind} (h : CallAct e k c c') (hp : p < c.heapTop) (hu : k ≠ .update p)
    (hcl : k ≠ .close p) : (c.heap p).Still (c'.heap p) := by
  have hother : ∀ {g : FlowId} {v : Flow}, p ≠ g → (c.heap p).Still (Function.update c.heap g v p) := by
    intro g v hg
    rw [Function.update_of_ne hg]
    exact .refl _
  cases h with
  | env h =>
    rw [h.eq]
    exact .refl _
  | array | fresh | again => exact .refl _
  | create =>
    rw [addNewFlow_heap, if_neg (Nat.ne_of_lt hp)]
    exact .refl _
  | link c g f =>
    by_cases hg : p = g
    · subst hg
      rw [Ctx.modFlow, Ctx.setFlow_heap, Function.update_self]
      exact ⟨rfl, rfl⟩
    · exact hother hg
  | update c g v h =>
    have hg : p ≠ g := fun hg => hu (hg ▸ rfl)
    rw [pcpFlowUpdated_heap, Function.update_of_ne hg]
    exact hother hg
  | close c g h =>
    rw [zeroLifetime_heap]
    exact hother fun hg => hcl (hg ▸ rfl)
  | fail c g h => exact hother fun hg => hcl (hg ▸ rfl)
  | delete c g =>
    obtain ⟨b, hb⟩ := (pcpDeleteFlowIntern_deleted c g).heap p
    rw [hb]
    exact ⟨rfl, rfl⟩

/-- Calls that do not change the flow itself. -/
theorem CallActs.still {K : CallKind → Prop} (h : CallActs e K c c') (hp : p < c.heapTop)
    (hu : ¬ K (.update p)) (hcl : ¬ K (.close p)) : (c.heap p).Still (c'.heap p) := by
  have hinv := h.invariant (I := fun a => c.heapTop ≤ a.heapTop ∧ (c.heap p).Still (a.heap p))
    (fun k a b hi hk hact => ?_) ⟨Nat.le_refl _, .refl _⟩
  · exact hinv.2
  · obtain ⟨htop, hstill⟩ := hi
    refine ⟨Nat.le_trans htop hact.silent.heapTop, hstill.trans ?_⟩
    exact hact.still (Nat.lt_of_lt_of_le hp htop) (fun heq => hu (heq ▸ hk)) fun heq => hcl (heq ▸ hk)

theorem CallActs.pingFlowMsg {K : CallKind → Prop} (h : CallActs e K c c')
    (hp : (c'.pcpServers s).pingFlowMsg = some p) : (c.pcpServers s).pingFlowMsg = some p := by
  have hinv := h.invariant
    (I := fun a => (a.pcpServers s).pingFlowMsg = some p → (c.pcpServers s).pingFlowMsg = some p)
    (fun k a b hi _ hact hb => hi (hact.pingFlowMsg hb)) id
  exact hinv hp

/-! ## Events of other servers -/

/-- A visit of the walk to a flow whose timer has not run out. -/
theorem checkFlowTimeout_sleeper (h : e.NotDue c.io.ticks n (c.heap p).timeout) (f : FlowId)
    (hn : (checkFlowTimeout e i c f).io.ticks ≤ n) :
    (c.heap p).Still ((checkFlowTimeout e i c f).heap p) ∧
      e.NotDue (checkFlowTimeout e i c f).io.ticks n ((checkFlowTimeout e i c f).heap p).timeout := by
  have hle := checkFlowTimeout_ticks e i c f
  by_cases hf : p = f
  · subst hf
    rw [checkFlowTimeout_eq] at hn hle ⊢
    split
    · exact ⟨.refl _, h⟩
    · rename_i hz
      rw [if_neg hz] at hn hle
      have hlt : c.io.ticks < n := by
        rw [lowerTimeout_io] at hn
        exact Nat.lt_of_lt_of_le (fireTimer_ticks e c p) hn
      have hnot : ¬ (c.heap p).timeout.us ≤ (e.now c.io).us := by
        rcases h with h | h
        · exact absurd h hz
        · exact Int.not_le.mpr (h _ (Nat.le_refl _) hlt)
      have hfire : (fireTimer e c p).heap p = alignTimer (c.heap p) := by
        unfold fireTimer
        rw [if_neg hnot, Ctx.modFlow, Ctx.setFlow_heap, Function.update_self]
        rfl
      have hend : (lowerTimeout i (fireTimer e c p) p (e.now c.io)).heap p = alignTimer (c.heap p) ∨
          (lowerTimeout i (fireTimer e c p) p (e.now c.io)).heap p = alignTimer (alignTimer (c.heap p)) := by
        unfold lowerTimeout
        split
        · exact .inl hfire
        · right
          rw [← hfire]
          simp [Ctx.setNextTimeout, Ctx.modServer, Ctx.modFlow]
      rcases hend with heq | heq
      · rw [heq]
        exact ⟨alignTimer_still _, h.align.later hle⟩
      · rw [heq]
        exact ⟨(alignTimer_still _).trans (alignTimer_still _), h.align.align.later hle⟩
  · rw [checkFlowTimeout_other e i c hf]
    exact ⟨.refl _, h.later hle⟩

theorem walk_sleeper (l : List FlowId) (h : e.NotDue c.io.ticks n (c.heap p).timeout)
    (hn : (l.foldl (checkFlowTimeout e i) c).io.ticks ≤ n) :
    (c.heap p).Still ((l.foldl (checkFlowTimeout e i) c).heap p) := by
  induction l generalizing c with
  | nil => exact .refl _
  | cons f l ih =>
    have hn₁ := Nat.le_trans (foldl_checkFlowTimeout_ticks e i l _) hn
    obtain ⟨hstill, hnext⟩ := checkFlowTimeout_sleeper h f hn₁
    exact hstill.trans (ih hnext hn)

theorem handleWaitIoTimeout_sleeper (h : e.NotDue c.io.ticks n (c.heap p).timeout)
    (hn : (handleWaitIoTimeout e c i).2.io.ticks ≤ n) :
    (c.heap p).Still ((handleWaitIoTimeout e c i).2.heap p) := by
  unfold handleWaitIoTimeout at hn ⊢
  dsimp only at hn ⊢
  split at hn
  · rw [if_pos ‹_›]
    exact walk_sleeper (c := c.setNextTimeout i .zero) _ h hn
  · rw [if_neg ‹_›]
    exact walk_sleeper (c := c.setNextTimeout i .zero) _ h (Nat.le_trans (Nat.le_succ _) hn)

/-- An event of another server, whose walk, if it comes to one, finds the timer in the future. -/
theorem runServerStateMachine_sleeper {ev : ServerEvent} (hw : Wf c i)
    (hl : (c.pcpServers i).serverState ≠ .unitialized) (hp : p < c.heapTop)
    (hne : (c.heap p).pcpServerIndx ≠ (c.pcpServers i).index)
    (hwalk : serverHandler (c.pcpServers i).serverState ev = some .waitIoTimeout →
      e.NotDue c.io.ticks (runServerStateMachine e c i ev).io.ticks (c.heap p).timeout) :
    (c.heap p).Still ((runServerStateMachine e c i ev).heap p) := by
  obtain ⟨hd, hh⟩ := serverHandler_total (c.pcpServers i).serverState ev
  by_cases hd' : hd = .waitIoTimeout
  · subst hd'
    have hnot := hwalk hh
    rw [runServerStateMachine_eq hh] at hnot ⊢
    exact handleWaitIoTimeout_sleeper hnot (Nat.le_refl _)
  · have hacts := (runServerStateMachine_acts (e := e) hh hw hl).apart (by
      cases hd <;> simp_all [ServerHandler.kinds])
    rw [hacts.flows p hp hne]
    exact .refl _

end Others

end LibPcp
