import LibPcp.Loop

/-!
# LibPcp.Restart

Recovery after a restart of the server.

`handle_server_restart` sends `fev_server_restarted` to the flows of the server. Whatever its state, a
flow asks again or fails, except for the one whose response revealed the restart. `Rewound` is what a
part of the pass does to the table, and holds for the whole by induction over the flows.
-/

namespace LibPcp

open LabelledSteps

/-- The flow waits for the answer to a request, or it has failed. -/
def FlowState.Asked (st : FlowState) : Prop := st = .waitResp ∨ st = .failed

instance (st : FlowState) : Decidable st.Asked := inferInstanceAs (Decidable (_ ∨ _))

section Event

variable {e : Env} {c : Ctx} {s : Nat} {f : FlowId}

theorem flowStep_asked {x : FlowEnv} {ev : FlowEvent} {v : Flow} (io : Io) (hev : ev ≠ .msgSent)
    (hr : ∀ s, x.server = some s → s.restartFlowMsg ≠ some x.id)
    (hnext : nextState v.state ev = some .send ∨ (nextState v.state ev = none ∧ v.state.Asked)) :
    (flowStep x ev v io).1.state.Asked := by
  rw [flowStep_eq x v io hev]
  rcases hnext with hnext | ⟨hnext, hst⟩
  · rw [hnext]
    by_cases hcur : v.state = .waitResp
    · simp only [flowPhase, if_pos hcur]
      exact resendPhase_state x v io
    · simp only [flowPhase, if_neg hcur]
      rcases sendPhase_state x v io with h | h | ⟨-, s, hs, hskip⟩
      · exact .inl h
      · exact .inr h
      · exact absurd hskip (hr s hs)
  · rw [hnext]
    exact hst

/-- The row for a restart is one for all states. -/
theorem nextState_restarted (st : FlowState) : nextState st .serverRestarted = some .send := by
  cases st <;> rfl

theorem nextState_timedout {st : FlowState} (h : st.Asked) :
    nextState st .flowTimedout = some .send ∨ (nextState st .flowTimedout = none ∧ st.Asked) := by
  rcases h with rfl | rfl
  · exact .inl rfl
  · exact .inr ⟨rfl, .inr rfl⟩

/-- The flow is one of server `s` and not the one that revealed its restart. -/
structure Recovers (c : Ctx) (s : Nat) (f : FlowId) : Prop where
  own : (c.heap f).pcpServerIndx = s
  revealed : (c.pcpServers s).restartFlowMsg ≠ some f

theorem Recovers.flowEnv (h : Recovers c s f) (m : Option RecvMsg) (v : Server)
    (hv : (c.flowEnv e f m).server = some v) : v.restartFlowMsg ≠ some (c.flowEnv e f m).id := by
  obtain ⟨i, hi, rfl⟩ := Option.map_eq_some_iff.mp hv
  obtain ⟨rfl, -⟩ := getPcpServer_eq_some hi
  rw [h.own]
  exact h.revealed

theorem handleFlowEvent_asked {ev : FlowEvent} (h : Recovers c s f) (hev : ev ≠ .msgSent)
    (hnext : nextState (c.heap f).state ev = some .send ∨
      (nextState (c.heap f).state ev = none ∧ (c.heap f).state.Asked)) :
    ((handleFlowEvent e c f ev none).heap f).state.Asked := by
  rw [handleFlowEvent_heap, Function.update_self]
  exact flowStep_asked _ hev (h.flowEnv none) hnext

theorem checkFlowTimeout_asked (h : Recovers c s f) (hst : (c.heap f).state.Asked) :
    ((checkFlowTimeout e s c f).heap f).state.Asked := by
  rw [checkFlowTimeout_eq]
  split
  · exact hst
  · rw [lowerTimeout_state, fireTimer]
    have hself : (c.tick.modFlow f alignTimer).heap f = alignTimer (c.heap f) := Function.update_self ..
    split
    · have h' : Recovers (c.tick.modFlow f alignTimer) s f := by
        refine ⟨?_, h.revealed⟩
        rw [hself]
        exact h.own
      refine handleFlowEvent_asked h' (by simp) (nextState_timedout ?_)
      rw [hself]
      exact hst
    · rw [hself]
      exact hst

end Event

/-! ## The pass -/

/-- What a part of the pass for server `s` does. -/
structure Rewound (s : Nat) (a b : Ctx) : Prop where
  others : ∀ i, i ≠ s → b.pcpServers i = a.pcpServers i
  server : ∃ t, b.pcpServers s = { a.pcpServers s with nextTimeout := t }
  flows : b.flows = a.flows
  owner : ∀ f, (b.heap f).pcpServerIndx = (a.heap f).pcpServerIndx
  foreign : ∀ f, (a.heap f).pcpServerIndx ≠ (a.pcpServers s).index → b.heap f = a.heap f
  asked : ∀ f, Recovers a s f → (a.heap f).state.Asked → (b.heap f).state.Asked

section Pass

variable {e : Env} {s : Nat} {a b d : Ctx} {f : FlowId}

theorem Rewound.refl (a : Ctx) : Rewound s a a :=
  ⟨fun _ _ => rfl, ⟨_, rfl⟩, rfl, fun _ => rfl, fun _ _ => rfl, fun _ _ h => h⟩

theorem Rewound.index (h : Rewound s a b) : (b.pcpServers s).index = (a.pcpServers s).index := by
  obtain ⟨t, ht⟩ := h.server
  rw [ht]

theorem Rewound.recovers (h : Rewound s a b) : Recovers b s f ↔ Recovers a s f := by
  obtain ⟨t, ht⟩ := h.server
  have hrev : (b.pcpServers s).restartFlowMsg = (a.pcpServers s).restartFlowMsg := by rw [ht]
  exact ⟨fun hf => ⟨(h.owner f).symm.trans hf.own, hrev ▸ hf.revealed⟩,
    fun hf => ⟨(h.owner f).trans hf.own, hrev.symm ▸ hf.revealed⟩⟩

theorem Rewound.trans (h₁ : Rewound s a b) (h₂ : Rewound s b d) : Rewound s a d := by
  refine ⟨fun i hi => (h₂.others i hi).trans (h₁.others i hi), ?_, h₂.flows.trans h₁.flows,
    fun f => (h₂.owner f).trans (h₁.owner f), fun f hf => ?_,
    fun f hf hst => h₂.asked f (h₁.recovers.mpr hf) (h₁.asked f hf hst)⟩
  · obtain ⟨t₁, ht₁⟩ := h₁.server
    obtain ⟨t₂, ht₂⟩ := h₂.server
    exact ⟨t₂, by rw [ht₂, ht₁]⟩
  · have hf' : (b.heap f).pcpServerIndx ≠ (b.pcpServers s).index := by
      rw [h₁.owner, h₁.index]
      exact hf
    rw [h₂.foreign f hf', h₁.foreign f hf]

/-- A timer check changes the server's timer only. -/
theorem checkFlowTimeout_server (a : Ctx) (f : FlowId) :
    (∀ i, i ≠ s → (checkFlowTimeout e s a f).pcpServers i = a.pcpServers i) ∧
      ∃ t, (checkFlowTimeout e s a f).pcpServers s = { a.pcpServers s with nextTimeout := t } := by
  have hfire : (fireTimer e a f).pcpServers = a.pcpServers := by
    unfold fireTimer
    split
    · rw [handleFlowEvent_pcpServers]
      rfl
    · rfl
  rw [checkFlowTimeout_eq]
  split
  · exact ⟨fun _ _ => rfl, _, rfl⟩
  · unfold lowerTimeout
    split
    · rw [hfire]
      exact ⟨fun _ _ => rfl, _, rfl⟩
    · generalize nearestTimeout _ _ = t
      refine ⟨fun i hi => ?_, t, ?_⟩
      · simp [Ctx.setNextTimeout, Ctx.modServer, Ctx.modFlow, hi, hfire]
      · rw [Ctx.setNextTimeout_self]
        simp only [Ctx.modFlow, Ctx.setFlow_pcpServers, hfire]

/-- The visit of a flow. -/
theorem flowSendEventIter_rewound (a : Ctx) (f : FlowId) (hindex : (a.pcpServers s).index = s) :
    Rewound s a (flowSendEventIter e s .serverRestarted a f) ∧
      (Recovers a s f → ((flowSendEventIter e s .serverRestarted a f).heap f).state.Asked) := by
  by_cases hown : (a.heap f).pcpServerIndx = (a.pcpServers s).index
  · have hplain : FlowEvent.serverRestarted.Plain := trivial
    have hpassed : Passed s a (flowSendEventIter e s .serverRestarted a f) := by
      rw [flowSendEventIter, if_pos hown]
      exact (handleFlowEvent_passed a f hplain).trans (checkFlowTimeout_passed _ f)
    have hasked : Recovers a s f →
        ((flowSendEventIter e s .serverRestarted a f).heap f).state.Asked := fun h => by
      rw [flowSendEventIter, if_pos hown]
      refine checkFlowTimeout_asked ⟨?_, ?_⟩ ?_
      · exact ((handleFlowEvent_passed (s := s) a f hplain).pcpServerIndx f).trans h.own
      · rw [handleFlowEvent_pcpServers]
        exact h.revealed
      · exact handleFlowEvent_asked h (by simp) (.inl (nextState_restarted _))
    have hserver := checkFlowTimeout_server (e := e) (s := s)
      (handleFlowEvent e a f .serverRestarted none) f
    rw [handleFlowEvent_pcpServers] at hserver
    refine ⟨⟨?_, ?_, flowSendEventIter_flows e s _ a f, hpassed.pcpServerIndx, fun g hg => ?_,
      fun g hg hst => ?_⟩, hasked⟩
    · rw [flowSendEventIter, if_pos hown]
      exact hserver.1
    · rw [flowSendEventIter, if_pos hown]
      exact hserver.2
    · exact flowSendEventIter_other e s _ a fun hgf => hg (hgf ▸ hown)
    · by_cases hgf : g = f
      · subst hgf
        exact hasked hg
      · rw [flowSendEventIter_other e s _ a hgf]
        exact hst
  · have hskip : flowSendEventIter e s .serverRestarted a f = a := by
      rw [flowSendEventIter, if_neg hown]
    rw [hskip]
    exact ⟨.refl a, fun h => absurd (h.own.trans hindex.symm) hown⟩

/-- The pass over the table. -/
theorem sendEventAll_rewound (hindex : (a.pcpServers s).index = s) :
    Rewound s a (sendEventAll e s .serverRestarted a) ∧
      ∀ f ∈ a.allFlows, Recovers a s f →
        ((sendEventAll e s .serverRestarted a).heap f).state.Asked := by
  have hpass := foldl_pass (a := a) (Rewound s) (fun _ _ => True)
    (fun b f => Recovers b s f → (b.heap f).state.Asked) (g := flowSendEventIter e s .serverRestarted)
    (l := a.allFlows) .refl (fun _ _ _ => .trans) (fun _ _ _ _ h => h)
    (fun b d f hbd hb hf => hbd.asked f (hbd.recovers.mp hf) (hb (hbd.recovers.mp hf)))
    (fun b hab f _ _ => ?_) fun _ _ => trivial
  · exact ⟨hpass.1, fun f hf hr => hpass.2 f hf (hpass.1.recovers.mpr hr)⟩
  · obtain ⟨hvisit, hasked⟩ := flowSendEventIter_rewound (e := e) b f (hab.index.trans hindex)
    exact ⟨hvisit, fun hf => hasked (hvisit.recovers.mp hf)⟩

end Pass

/-! ## The handler -/

/-- Server `s` has recovered from its restart. -/
structure Recovered (s : Nat) (c c' : Ctx) : Prop where
  own : ∀ f ∈ c.allFlows, (c.heap f).pcpServerIndx = s → (c.pcpServers s).restartFlowMsg ≠ some f →
    (c'.heap f).state = .waitResp ∨ (c'.heap f).state = .failed
  foreign : ∀ f, (c.heap f).pcpServerIndx ≠ s → c'.heap f = c.heap f
  table : c'.flows = c.flows
  restartFlowMsg : (c'.pcpServers s).restartFlowMsg = none

/-- `handle_server_restart` leaves no flow of the server as it was but the one that revealed the
restart. -/
theorem serverRestart_recovers (e : Env) {c : Ctx} {s : Nat} (hindex : (c.pcpServers s).index = s) :
    Recovered s c (handleServerRestart e c s).2 ∧
      (handleServerRestart e c s).1 = .waitIoCalcNearestTimeout := by
  obtain ⟨hrewound, hasked⟩ := sendEventAll_rewound (e := e) hindex
  refine ⟨⟨fun f hf hown hrev => hasked f hf ⟨hown, hrev⟩, fun f hf => ?_, hrewound.flows, ?_⟩, rfl⟩
  · exact hrewound.foreign f (hindex.symm ▸ hf)
  · change ((e.wakeNow _ s).pcpServers s).restartFlowMsg = none
    rw [Env.wakeNow_self, Ctx.modServer_self]

/-- `10.0.0.1` has two mappings and has restarted; flow 0 is the one that revealed it. -/
def restarted : Ctx :=
  (runTo (.calm {}) (fun _ _ => True) 12 {}
    (waitingFlow ++ [.newFlow (.inet 0x0A000002 81) none none 6 60,
      .pulse (some (mapResponse 0 60 1000 0x0B000001)) .zero])).modServer 0 fun v =>
    { v with serverState := .serverRestart, restartFlowMsg := some 0 }

theorem serverRestart_recovers_second :
    Recovered 0 restarted (handleServerRestart (.calm {}) restarted 0).2 ∧
      (handleServerRestart (.calm {}) restarted 0).1 = .waitIoCalcNearestTimeout :=
  serverRestart_recovers (.calm {}) (by decide +kernel)

/-- The mapping of flow 0 stays, and flow 1 asks again. -/
example : (restarted.heap 0).state = .waitForLifetimeRenew ∧
    ((handleServerRestart (.calm {}) restarted 0).2.heap 0).state = .waitForLifetimeRenew ∧
    ((handleServerRestart (.calm {}) restarted 0).2.heap 1).state = .waitResp := by
  decide +kernel

end LibPcp
