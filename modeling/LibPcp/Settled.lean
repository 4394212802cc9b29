import LibPcp.Rest

/-!
# LibPcp.Settled

The client between calls.

Calls that do not pulse keep `Orderly`, since between calls no server is in a transient state
(`Steady`). A pulse goes over the servers one after the other, and each is left only when its timer
is off or in the future. By then it is at rest, and the work of the servers after it does not
disturb it.

* `CallAct.orderly`: what a call of the application keeps.
* `pulseTimeouts_rest`: the second half of a pulse puts every server to rest.
* `Reachable.orderly`: what holds between any two calls.
-/

namespace LibPcp

open LabelledSteps

/-- No server is in a transient state. -/
def Steady (c : Ctx) : Prop := ∀ s, (c.pcpServers s).serverState.Transient = false

/-! ## Calls -/

section Calls

variable {e : Env} {c c' : Ctx}

theorem Orderly.restart_none (ho : Orderly e c) (hs : Steady c) (s : Nat) :
    (c.pcpServers s).restartFlowMsg = none := by
  by_contra hne
  have hst := (ho.slot s).restart hne
  have ht := hs s
  rw [hst] at ht
  cases ht

/-- A record that is not listening: nothing is asked of its flows. -/
theorem Poised.replaced {s : Nat} (hl : s < c.pcpServersLength)
    (hst : (c.pcpServers s).serverState = .ping ∨ (c.pcpServers s).serverState = .allocated ∨
      (c.pcpServers s).serverState = .unitialized)
    (hr : (c.pcpServers s).restartFlowMsg = none) : Poised e c s (c.pcpServers s).serverState := by
  rcases hst with h | h | h
  all_goals
    rw [h]
    exact .idle hl rfl (by simp) hr

theorem Steady.setServer {s : Nat} {v : Server} (hs : Steady c) (hv : v.serverState.Transient = false) :
    Steady (c.setServer s v) := by
  intro i
  by_cases hi : i = s
  · subst hi
    rw [Ctx.setServer_pcpServers, Function.update_self]
    exact hv
  · rw [Ctx.setServer_pcpServers, Function.update_of_ne hi]
    exact hs i

theorem Orderly.setServer {s : Nat} {v : Server} (ho : Orderly e c) (he : e.ClockMono)
    (hl : s < c.pcpServersLength)
    (hst : v.serverState = .ping ∨ v.serverState = .allocated ∨ v.serverState = .unitialized)
    (hr : v.restartFlowMsg = none) : Orderly e (c.setServer s v) := by
  have hflows : SameFlows c (c.setServer s v) := .of_eq rfl rfl (Nat.le_refl _)
  refine ⟨fun f hf => (ho.flow f hf).alike he hflows, fun i => ?_⟩
  · by_cases hi : i = s
    · subst hi
      have hself : (c.setServer i v).pcpServers i = v := Function.update_self ..
      refine Poised.replaced hl ?_ ?_
      · rw [hself]
        exact hst
      · rw [hself]
        exact hr
    · have hsame : (c.setServer s v).pcpServers i = c.pcpServers i := Function.update_of_ne hi ..
      rw [hsame]
      refine (ho.slot i).alike he hflows ?_ (Nat.le_refl _)
      rw [hsame]
      exact ⟨rfl, rfl, rfl⟩

/-- A flow is given up. -/
theorem Orderly.failFlow (ho : Orderly e c) (f : FlowId) : Orderly e (failFlow c f) := by
  have hst : ∀ g, ((LibPcp.failFlow c f).heap g).state = if g = f then .failed else (c.heap g).state := by
    intro g
    by_cases hg : g = f
    · subst hg
      simp [LibPcp.failFlow, Ctx.modFlow]
    · simp [LibPcp.failFlow, Ctx.modFlow, hg]
  have hold : ∀ g, ((LibPcp.failFlow c f).heap g).state ≠ .failed →
      (LibPcp.failFlow c f).heap g = c.heap g := by
    intro g hg
    rw [hst] at hg
    have hne : g ≠ f := by
      rintro rfl
      exact hg (if_pos rfl)
    simp [LibPcp.failFlow, Ctx.modFlow, hne]
  refine ⟨fun g hm => ?_, fun s => ?_⟩
  · by_cases hg : ((LibPcp.failFlow c f).heap g).state = .failed
    · exact FlowState.Active.flowOrderly (by rw [hg]; decide)
    · have hf' := ho.flow g hm
      refine ⟨?_, ?_, fun h => ?_⟩
      all_goals rw [hold g hg] at *
      · exact hf'.idle
      · exact hf'.sendRenew
      · exact hf'.due h
  · have hp := ho.slot s
    refine ⟨hp.live, hp.ready, hp.restart, fun h g hm hb hw => ?_, fun h g hm hb hw => ?_⟩
    · have heq := hold g (by rw [hw]; decide)
      rw [Belongs, heq] at hb
      rw [heq] at hw
      exact hp.init h g hm hb hw
    · have heq := hold g (by rw [hw]; decide)
      rw [Belongs, heq] at hb
      rw [heq] at hw
      exact hp.send h g hm hb hw

/-- A flow that is marked as updated is sent by its server, which is woken for it. -/
theorem Orderly.updated {f : FlowId} {v : Flow} (ho : Orderly e c) (he : e.ClockMono)
    (hz : e.ClockNonzero) (hc : CtxOk c) (hst : v.state = (c.heap f).state)
    (hi : v.pcpServerIndx = (c.heap f).pcpServerIndx) :
    Orderly e (pcpFlowUpdated e (c.setFlow f v) f) := by
  generalize hb : pcpFlowUpdated e (c.setFlow f v) f = b
  have hio : b.io = c.io.tick := by rw [← hb, pcpFlowUpdated_io]; rfl
  have hticks : c.io.ticks ≤ b.io.ticks := by rw [hio]; exact Nat.le_succ _
  have hself : b.heap f = markUpdated (e.now c.io) v := by
    rw [← hb, pcpFlowUpdated_heap, Function.update_self, Ctx.setFlow_heap, Function.update_self]
    rfl
  have hother : ∀ g, g ≠ f → b.heap g = c.heap g := by
    intro g hg
    rw [← hb, pcpFlowUpdated_heap, Function.update_of_ne hg, Ctx.setFlow_heap, Function.update_of_ne hg]
  have hall : b.allFlows = c.allFlows := by
    rw [← hb, Ctx.allFlows, pcpFlowUpdated_flows, Ctx.allFlows]
    rfl
  have hlen : b.pcpServersLength = c.pcpServersLength := by rw [← hb, pcpFlowUpdated_length]; rfl
  have hserv : ∀ i, b.pcpServers i =
      if i = (c.heap f).pcpServerIndx ∧ Live c i then { c.pcpServers i with nextTimeout := e.now c.io }
      else c.pcpServers i := by
    intro i
    rw [← hb, pcpFlowUpdated_server, Ctx.setFlow_heap, Function.update_self, hi]
    rfl
  have hnow : Woken e b (e.now c.io) := .now he hz hticks
  have hnext : ∀ i, Woken e c (c.pcpServers i).nextTimeout → Woken e b (b.pcpServers i).nextTimeout := by
    intro i h
    rw [hserv]
    split
    · exact hnow
    · exact h.later he hticks rfl
  have hbel : ∀ i g, Belongs b i g → Belongs c i g := by
    intro i g h
    have hix : (b.pcpServers i).index = (c.pcpServers i).index := by
      rw [hserv]
      split <;> rfl
    by_cases hg : g = f
    · subst hg
      rw [Belongs, hself, hix] at h
      exact hi.symm.trans h
    · rw [Belongs, hother g hg, hix] at h
      exact h
  have hstate : ∀ i, (b.pcpServers i).serverState = (c.pcpServers i).serverState := by
    intro i
    rw [hserv]
    split <;> rfl
  have hnew : (b.heap f).state = if (c.heap f).state.isInactive then (c.heap f).state else .send := by
    rw [hself, markUpdated_state, hst]
  refine ⟨fun g hg => ?_, fun i => ?_⟩
  · rw [hall] at hg
    have hold := ho.flow g hg
    by_cases hgf : g = f
    · subst hgf
      refine ⟨?_, ?_, fun _ => ?_⟩
      · rw [hnew]
        split
        · exact hold.idle
        · decide
      · rw [hnew]
        split
        · exact hold.sendRenew
        · decide
      · rw [hself]
        exact hnow
    · refine ⟨?_, ?_, fun h => ?_⟩
      all_goals rw [hother g hgf] at *
      · exact hold.idle
      · exact hold.sendRenew
      · exact (hold.due h).later he hticks rfl
  · have hp := ho.slot i
    rw [hstate]
    refine ⟨fun h => hlen ▸ hp.live h, fun h => hnext i (hp.ready h), fun h => ?_,
      fun h g hg hb' => ?_, fun h g hg hb' hsend => ?_⟩
    · refine hp.restart ?_
      rw [hserv] at h
      split at h <;> exact h
    · rw [hall] at hg
      by_cases hgf : g = f
      · subst hgf
        rw [hnew]
        split
        · exact hp.init h g hg (hbel i g hb')
        · decide
      · rw [hother g hgf]
        exact hp.init h g hg (hbel i g hb')
    · rw [hall] at hg
      by_cases hgf : g = f
      · -- the server of this flow is in use, so it has been woken
        subst hgf
        have hu : (c.pcpServers i).serverState ≠ .unitialized := by
          intro hu
          rw [hu] at h
          exact absurd h (by decide)
        have hix : (c.heap g).pcpServerIndx = i := (hbel i g hb').trans (hc.index hu)
        rw [hserv, if_pos ⟨hix.symm, hp.live hu, hu⟩]
        exact hnow
      · rw [hother g hgf] at hsend
        exact hnext i (hp.send h g hg (hbel i g hb') hsend)

/-- A new flow waits for its server, or the server is woken for it. -/
theorem Orderly.addNewFlow {s : Nat} {fl : Flow} {io : Io} (ho : Orderly e c) (he : e.ClockMono)
    (hz : e.ClockNonzero) (hc : CtxOk c) (hs : Steady c) (hl : Live c s)
    (h : Created (c.pcpServers s) (e.now c.io) fl) (ht : io.ticks = c.io.ticks + 1) :
    Orderly e (addNewFlow c s fl (e.now c.io) io) := by
  generalize hb : LibPcp.addNewFlow c s fl (e.now c.io) io = b
  have hticks : c.io.ticks ≤ b.io.ticks := by
    have hio : b.io = io := by rw [← hb]; rfl
    rw [hio, ht]
    exact Nat.le_succ _
  have hnow : Woken e b (e.now c.io) := .now he hz hticks
  have hserv : ∀ i, b.pcpServers i =
      if i = s then { c.pcpServers s with nextTimeout := e.now c.io } else c.pcpServers i := by
    intro i
    rw [← hb, addNewFlow_server]
  have hself : (b.heap c.heapTop).state = fl.state ∧ (b.heap c.heapTop).timeout = e.now c.io ∧
      (b.heap c.heapTop).pcpServerIndx = (c.pcpServers s).index := by
    rw [← hb, addNewFlow_heap, if_pos rfl]
    exact ⟨rfl, h.timeout, h.pcpServerIndx⟩
  have hother : ∀ g, g ≠ c.heapTop → b.heap g = c.heap g := by
    intro g hg
    rw [← hb, addNewFlow_heap, if_neg hg]
  have hmem : ∀ g ∈ b.allFlows, (g ∈ c.allFlows ∧ g ≠ c.heapTop) ∨ g = c.heapTop := by
    intro g hg
    obtain ⟨k, hk, hm⟩ := mem_allFlows.mp hg
    rw [← hb, mem_addNewFlow] at hm
    rcases hm with hm | ⟨rfl, -⟩
    · refine .inl ⟨mem_allFlows.mpr ⟨k, hk, hm⟩, ?_⟩
      exact Nat.ne_of_lt (hc.table.fresh k g hm)
    · exact .inr rfl
  have hstate : ∀ i, (b.pcpServers i).serverState = (c.pcpServers i).serverState ∧
      (b.pcpServers i).index = (c.pcpServers i).index ∧
      (b.pcpServers i).restartFlowMsg = (c.pcpServers i).restartFlowMsg := by
    intro i
    rw [hserv]
    split
    · rename_i hi
      subst hi
      exact ⟨rfl, rfl, rfl⟩
    · exact ⟨rfl, rfl, rfl⟩
  have hnext : ∀ i, Woken e c (c.pcpServers i).nextTimeout → Woken e b (b.pcpServers i).nextTimeout := by
    intro i hw
    rw [hserv]
    split
    · exact hnow
    · exact hw.later he hticks rfl
  have hbel : ∀ i g, g ≠ c.heapTop → Belongs b i g → Belongs c i g := by
    intro i g hg hb'
    rw [Belongs, hother g hg, (hstate i).2.1] at hb'
    exact hb'
  -- the only server in use that the new flow belongs to is `s`
  have hhome : ∀ i, (c.pcpServers i).serverState ≠ .unitialized → Belongs b i c.heapTop → i = s := by
    intro i hu hb'
    rw [Belongs, hself.2.2, (hstate i).2.1, hc.index hu, hc.index hl.2] at hb'
    exact hb'.symm
  have hnew : fl.state = .send ∨ fl.state = .waitForServerInit := by
    rw [h.state]
    split
    · exact .inl rfl
    · exact .inr rfl
  refine ⟨fun g hg => ?_, fun i => ?_⟩
  · rcases hmem g hg with ⟨hg, hne⟩ | rfl
    · have hold := ho.flow g hg
      refine ⟨?_, ?_, fun hst => ?_⟩
      all_goals rw [hother g hne] at *
      · exact hold.idle
      · exact hold.sendRenew
      · exact (hold.due hst).later he hticks rfl
    · refine ⟨?_, ?_, fun _ => ?_⟩
      · rw [hself.1]
        rcases hnew with h | h <;> rw [h] <;> decide
      · rw [hself.1]
        rcases hnew with h | h <;> rw [h] <;> decide
      · rw [hself.2.1]
        exact hnow
  · have hp := ho.slot i
    have hlen : b.pcpServersLength = c.pcpServersLength := by rw [← hb]; rfl
    rw [(hstate i).1]
    refine ⟨fun h => hlen ▸ hp.live h, fun h => hnext i (hp.ready h), fun h => ?_,
      fun hlis g hg hb' => ?_, fun hlis g hg hb' hsend => ?_⟩
    · rw [(hstate i).2.2] at h
      exact hp.restart h
    all_goals
      have hu : (c.pcpServers i).serverState ≠ .unitialized := by
        intro hu
        rw [hu] at hlis
        exact absurd hlis (by decide)
    · rcases hmem g hg with ⟨hg, hne⟩ | rfl
      · rw [hother g hne]
        exact hp.init hlis g hg (hbel i g hne hb')
      · obtain rfl := hhome i hu hb'
        have hwait : (c.pcpServers i).serverState = .waitIo := by
          rcases hlis with hw | hw
          · exact hw
          · have := hs i
            rw [hw] at this
            cases this
        rw [hself.1, h.state, if_pos hwait]
        decide
    · rcases hmem g hg with ⟨hg, hne⟩ | rfl
      · rw [hother g hne] at hsend
        exact hnext i (hp.send hlis g hg (hbel i g hne hb') hsend)
      · obtain rfl := hhome i hu hb'
        rw [hserv, if_pos rfl]
        exact hnow

theorem Deleted.sameFlows (h : Deleted c c') : SameFlows c c' := by
  refine ⟨fun f hm => ?_, fun f => ?_, Nat.le_of_eq (by rw [h.io])⟩
  · obtain ⟨b, hb, hm⟩ := mem_allFlows.mp hm
    exact mem_allFlows.mpr ⟨b, hb, h.table b f hm⟩
  · obtain ⟨k, hk⟩ := h.heap f
    rw [hk]
    exact ⟨rfl, rfl, rfl⟩

theorem CallAct.steady {k : CallKind} (h : CallAct e k c c') (hs : Steady c) : Steady c' := by
  cases h with
  | env h =>
    rw [h.eq]
    exact hs
  | array c arr len hold hnew hlen =>
    intro i
    rcases Nat.lt_or_ge i c.pcpServersLength with hi | hi
    · simp only [hold i hi]
      exact hs i
    · simp only [hnew i hi]
      rfl
  | fresh c s v hlt hu h =>
    refine hs.setServer ?_
    rcases h.state with ⟨h, -⟩ | h | h <;> rw [h] <;> rfl
  | again c s found v hl h =>
    refine hs.setServer ?_
    rw [h.state]
    split <;> rfl
  | create c s fl io hl h hsent ht =>
    intro i
    rw [addNewFlow_server]
    split
    · exact hs s
    · exact hs i
  | link c p f => exact hs
  | update c f v h =>
    intro i
    rw [pcpFlowUpdated_server]
    split
    · exact hs i
    · exact hs i
  | close c f h =>
    intro i
    rw [zeroLifetime, pcpFlowUpdated_server]
    split
    · exact hs i
    · exact hs i
  | fail c f h => exact hs
  | delete c f =>
    intro i
    rcases (pcpDeleteFlowIntern_deleted c f).server i with h | h <;> rw [h] <;> exact hs i

theorem CallAct.orderly {k : CallKind} (h : CallAct e k c c') (he : e.ClockMono) (hz : e.ClockNonzero)
    (hc : CtxOk c) (hs : Steady c) (ho : Orderly e c) : Orderly e c' := by
  cases h with
  | env h =>
    have hticks := h.ticks
    rw [h.eq]
    exact ho.alike he (.of_eq rfl rfl hticks) (fun _ => ⟨rfl, rfl, rfl, rfl⟩) (Nat.le_refl _)
  | array c arr len hold hnew hlen =>
    refine ⟨fun f hf => (ho.flow f hf).alike he (.of_eq rfl rfl (Nat.le_refl _)), fun i => ?_⟩
    rcases Nat.lt_or_ge i c.pcpServersLength with hi | hi
    · simp only [hold i hi]
      refine (ho.slot i).alike he (.of_eq rfl rfl (Nat.le_refl _)) ?_ hlen
      simp only [hold i hi]
      exact ⟨rfl, rfl, rfl⟩
    · simp only [hnew i hi]
      refine Poised.unused fun hr => ?_
      simp only [hnew i hi] at hr
      exact absurd rfl hr
  | fresh c s v hlt hu h =>
    refine ho.setServer he hlt ?_ ?_
    · exact h.state.imp (fun h => h.1) id
    · exact h.restartFlowMsg.trans (ho.restart_none hs s)
  | again c s found v hl h =>
    refine ho.setServer he hl.1 ?_ (h.restartFlowMsg.trans (ho.restart_none hs s))
    rw [h.state]
    cases found with
    | true => exact .inl rfl
    | false => exact .inr (.inr rfl)
  | create c s fl io hl h hsent ht => exact ho.addNewFlow he hz hc hs hl h ht
  | link c p f =>
    refine ho.alike he ⟨fun _ hm => hm, fun g => ?_, Nat.le_refl _⟩ (fun _ => ⟨rfl, rfl, rfl, rfl⟩)
      (Nat.le_refl _)
    by_cases hg : g = p
    · subst hg
      simp [Ctx.modFlow]
    · simp [Ctx.modFlow, hg]
  | update c f v h => exact ho.updated he hz hc h.state h.pcpServerIndx
  | close c f h =>
    exact ho.updated (v := { c.heap f with lifetime := 0 }) he hz hc rfl rfl
  | fail c f h => exact ho.failFlow f
  | delete c f =>
    have hd := pcpDeleteFlowIntern_deleted c f
    refine ho.alike he hd.sameFlows (fun i => ?_) (Nat.le_of_eq hd.length.symm)
    rcases hd.server i with h | h <;> rw [h] <;> exact ⟨rfl, rfl, rfl, rfl⟩

/-- What holds between two calls. -/
structure Between (e : Env) (c : Ctx) : Prop where
  ok : CtxOk c
  orderly : Orderly e c
  steady : Steady c

theorem CallActs.between {K : CallKind → Prop} (h : CallActs e K c c') (he : e.ClockMono)
    (hz : e.ClockNonzero) (hb : Between e c) : Between e c' :=
  h.invariant (I := Between e) (fun _ _ _ hb _ hact =>
    ⟨hact.ctxOk hb.ok, hact.orderly he hz hb.ok hb.steady hb.orderly, hact.steady hb.steady⟩) hb

end Calls

/-! ## Pulses -/

/-- Server `s` is in a state it may stay in, and while it waits for messages none of its flows has
anything to send. -/
structure AtRest (c : Ctx) (s : Nat) : Prop where
  state : (c.pcpServers s).serverState.Transient = false
  restart : (c.pcpServers s).restartFlowMsg = none
  flows : (c.pcpServers s).serverState = .waitIo → ∀ f ∈ c.allFlows, Belongs c s f →
    (c.heap f).state ≠ .idle ∧ (c.heap f).state ≠ .waitForServerInit ∧ (c.heap f).state ≠ .send ∧
      (c.heap f).state ≠ .sendRenew

section Pulse

variable {e : Env} {s i n : Nat} {c c' : Ctx}

/-- A server whose timer is off or in the future is at rest. -/
theorem Orderly.atRest (ho : Orderly e c) (hd : ¬ Due e c s) : AtRest c s := by
  have hp := ho.slot s
  have hstate : (c.pcpServers s).serverState.Transient = false := by
    cases ht : (c.pcpServers s).serverState.Transient with
    | false => rfl
    | true => exact absurd (hp.ready ht).due hd
  refine ⟨hstate, ?_, fun hw f hf hb => ?_⟩
  · by_contra hne
    rw [hp.restart hne] at hstate
    cases hstate
  · have hf' := ho.flow f hf
    exact ⟨hf'.idle, hp.init (.inl hw) f hf hb, fun hst => hd (hp.send (.inl hw) f hf hb hst).due,
      hf'.sendRenew⟩

/-- It stays so while another server is at work. -/
theorem AtRest.other (h : AtRest c s) (hw : TableOk c) (hf : Frame i c c') (hn : Renegotiated i c c')
    (hi : s ≠ i) (hidx : (c.pcpServers s).index ≠ (c.pcpServers i).index) : AtRest c' s := by
  have hsame := hf.others s hi
  refine ⟨by rw [hsame]; exact h.state, by rw [hsame]; exact h.restart, fun hwait f hm hb => ?_⟩
  rw [hsame] at hwait
  rcases hn.table f hm with hm | ⟨-, hbi, -⟩
  · have hlt := hw.alloc hm
    have hb' : Belongs c s f := by
      rw [Belongs, (hf.flow f hlt).pcpServerIndx, hsame] at hb
      exact hb
    have hcalm := (hn.flow f hlt).resolve_right fun h => hidx (hb'.symm.trans h.1)
    obtain ⟨h₁, h₂, h₃, h₄⟩ := h.flows hwait f hm hb'
    exact ⟨hcalm.ne (by decide) h₁, hcalm.ne (by decide) h₂, hcalm.ne (by decide) h₃,
      hcalm.ne (by decide) h₄⟩
  · refine absurd ?_ hidx
    rw [← hf.same.index, ← hsame]
    exact hb.symm.trans hbi

theorem AtRest.alike (h : AtRest c s) (hf : SameFlows c c')
    (hst : (c'.pcpServers s).serverState = (c.pcpServers s).serverState)
    (hv : (c.pcpServers s).Alike (c'.pcpServers s)) : AtRest c' s := by
  refine ⟨by rw [hst]; exact h.state, by rw [hv.restartFlowMsg]; exact h.restart, fun hw f hm hb => ?_⟩
  rw [hst] at hw
  rw [(hf.flow f).1]
  rw [Belongs, (hf.flow f).2.2, hv.index] at hb
  exact h.flows hw f (hf.table f hm) hb

theorem settle_alike (s : Nat) (c : Ctx) : SameFlows c (settle s c) ∧
    ∀ i, ((settle s c).pcpServers i).serverState = (c.pcpServers i).serverState ∧
      (c.pcpServers i).Alike ((settle s c).pcpServers i) := by
  unfold settle
  split
  · exact ⟨.of_eq rfl rfl (Nat.le_succ _), fun _ => ⟨rfl, rfl, rfl, rfl⟩⟩
  · refine ⟨.of_eq rfl rfl (Nat.le_succ _), fun i => ?_⟩
    by_cases hi : i = s
    · subst hi
      rw [alignNext, Ctx.setNextTimeout_self]
      exact ⟨rfl, rfl, us_timevalAlign _, rfl⟩
    · rw [alignNext, Ctx.setNextTimeout, Ctx.modServer, Ctx.setServer_pcpServers,
        Function.update_of_ne hi]
      exact ⟨rfl, rfl, rfl, rfl⟩

theorem fire_flows (hw : Wf c s) : Renegotiated s c (fire e s c) := by
  have hstart : Acts e s [.own] c (alignNext c.tick s) := fireStart_acts
  obtain ⟨h, hh⟩ := serverHandler_total ((alignNext c.tick s).pcpServers s).serverState .timeout
  have hrun : Renegotiated s (alignNext c.tick s) (h.run e (alignNext c.tick s) s).2 :=
    h.run_flows (hstart.wf hw)
  rw [fire, runServerStateMachine_eq hh]
  refine ⟨fun f hf => ?_, fun f hf => ?_⟩
  · rcases hrun.flow f hf with h | ⟨hb, hst⟩
    · exact .inl h
    · rw [Belongs, hstart.frame.same.index] at hb
      exact .inr ⟨hb, hst⟩
  · rcases hrun.table f hf with h | ⟨hle, hb, ha⟩
    · exact .inl h
    · refine .inr ⟨hle, ?_, ha⟩
      rw [Belongs, Ctx.modServer_self]
      exact hb

theorem AtRest.fire (h : AtRest c s) (hc : CtxOk c) (hl : Live c s) (hi : Live c i) (hne : s ≠ i) :
    AtRest (fire e i c) s := by
  refine h.other hc.table (fire_acts (hc.wf i) hi.2).frame (fire_flows (hc.wf i)) hne ?_
  rw [hc.index hl.2, hc.index hi.2]
  exact hne

/-- What the loop of `hserver_iter` keeps. -/
theorem Fires.keeps {I : Ctx → Prop} (h : Fires e s c c') (hc : CtxOk c) (hl : Live c s) (hi : I c)
    (hfire : ∀ b, CtxOk b → Live b s → I b → Due e b s → I (fire e s b)) :
    CtxOk c' ∧ Live c' s ∧ I c' := by
  induction h with
  | nil c => exact ⟨hc, hl, hi⟩
  | @cons a _ hdue _ ih =>
    have hacts := fire_acts (e := e) (hc.wf s) hl.2
    exact ih (hacts.ctxOk hc hl.2) (hacts.frame.live_iff.mpr hl) (hfire a hc hl hi hdue)

/-- What `hserver_iter` keeps that is not upset by the servers' own steps. -/
theorem hserverIter_keeps {I : Ctx → Prop} {t t' : Option Timeval}
    (h : hserverIter e n .timeout c s t = some (c', t')) (hc : CtxOk c) (hs : s < c.pcpServersLength)
    (hi : I c) (hfire : ∀ b, CtxOk b → Live b s → I b → Due e b s → I (fire e s b))
    (hsettle : ∀ b, CtxOk b → Live b s → I b → ¬ Due e b s → I (settle s b)) :
    CtxOk c' ∧ c'.pcpServersLength = c.pcpServersLength ∧ I c' := by
  by_cases hu : (c.pcpServers s).serverState = .unitialized
  · rw [hserverIter_unitialized h hu]
    exact ⟨hc, rfl, hi⟩
  · obtain ⟨c₁, hf, hnd, rfl⟩ := hserverIter_some h hu
    rw [if_neg (by simp)] at hf
    obtain ⟨hok, hlen⟩ : CtxOk c₁ ∧ c₁.pcpServersLength = c.pcpServersLength := by
      obtain ⟨-, h₂, -, h₄⟩ := hf.timerSteps hc ⟨hs, hu⟩
      exact ⟨h₂, h₄⟩
    obtain ⟨-, hl₁, hi₁⟩ := hf.keeps hc ⟨hs, hu⟩ hi hfire
    have hset : Acts e s [.own] c₁ (settle s c₁) := settle_acts
    exact ⟨hset.ctxOk hok hl₁.2, hset.frame.length.trans hlen, hsettle c₁ hok hl₁ hi₁ hnd⟩

theorem pulseTimeouts_keeps {I : Ctx → Prop} {ss : List Nat} {t t' : Option Timeval}
    (h : pulseTimeouts e n ss c t = some (c', t')) (hc : CtxOk c)
    (hs : ∀ s ∈ ss, s < c.pcpServersLength) (hi : I c)
    (hfire : ∀ s ∈ ss, ∀ b, CtxOk b → Live b s → I b → Due e b s → I (fire e s b))
    (hsettle : ∀ s ∈ ss, ∀ b, CtxOk b → Live b s → I b → ¬ Due e b s → I (settle s b)) : I c' := by
  induction ss generalizing c t with
  | nil =>
    cases h
    exact hi
  | cons s ss ih =>
    simp only [pulseTimeouts] at h
    cases hit : hserverIter e n .timeout c s t with
    | none =>
      rw [hit] at h
      cases h
    | some r =>
      obtain ⟨c₁, t₁⟩ := r
      rw [hit] at h
      have hmem : s ∈ s :: ss := List.mem_cons_self
      obtain ⟨hok, hlen, hi₁⟩ := hserverIter_keeps hit hc (hs s hmem) hi (hfire s hmem) (hsettle s hmem)
      refine ih h hok (fun i hi => ?_) hi₁ (fun i hi => hfire i (List.mem_cons_of_mem s hi))
        fun i hi => hsettle i (List.mem_cons_of_mem s hi)
      rw [hlen]
      exact hs i (List.mem_cons_of_mem s hi)

/-- `hserver_iter` leaves its server at rest. -/
theorem hserverIter_rest {t t' : Option Timeval} (h : hserverIter e n .timeout c s t = some (c', t'))
    (he : e.ClockMono) (hz : e.ClockNonzero) (hc : CtxOk c) (ho : Orderly e c)
    (hs : s < c.pcpServersLength) : Live c' s → AtRest c' s := by
  by_cases hu : (c.pcpServers s).serverState = .unitialized
  · rw [hserverIter_unitialized h hu]
    exact fun hl => absurd hu hl.2
  · obtain ⟨c₁, hf, hnd, rfl⟩ := hserverIter_some h hu
    rw [if_neg (by simp)] at hf
    obtain ⟨-, -, ho₁⟩ := hf.keeps hc ⟨hs, hu⟩ ho fun b hb hl hob _ => hob.fire he hz hb hl
    obtain ⟨hflows, hserv⟩ := settle_alike s c₁
    exact fun _ => (ho₁.atRest hnd).alike hflows (hserv s).1 (hserv s).2

/-- The second half of a pulse puts every server to rest. -/
theorem pulseTimeouts_rest {ss : List Nat} {t t' : Option Timeval}
    (h : pulseTimeouts e n ss c t = some (c', t')) (he : e.ClockMono) (hz : e.ClockNonzero)
    (hc : CtxOk c) (ho : Orderly e c) (hs : ∀ s ∈ ss, s < c.pcpServersLength) (hnd : ss.Nodup) :
    ∀ s ∈ ss, Live c' s → AtRest c' s := by
  induction ss generalizing c t with
  | nil => simp
  | cons s ss ih =>
    simp only [pulseTimeouts] at h
    cases hit : hserverIter e n .timeout c s t with
    | none =>
      rw [hit] at h
      cases h
    | some r =>
      obtain ⟨c₁, t₁⟩ := r
      rw [hit] at h
      have hlt : s < c.pcpServersLength := hs s List.mem_cons_self
      obtain ⟨hok, hlen, ho₁⟩ := hserverIter_keeps hit hc hlt ho
        (fun b hb hl hob _ => hob.fire he hz hb hl) fun b _ _ hob _ => hob.settle he s
      have hs₁ : ∀ i ∈ ss, i < c₁.pcpServersLength := fun i hi => hlen ▸ hs i (List.mem_cons_of_mem s hi)
      obtain ⟨hnot, hnd'⟩ := List.nodup_cons.mp hnd
      intro i hi
      rcases List.mem_cons.mp hi with rfl | hi
      · -- the servers after this one do not disturb it
        refine pulseTimeouts_keeps (I := fun b => Live b i → AtRest b i) h hok hs₁
          (hserverIter_rest hit he hz hc ho hlt) (fun j hj b hb hlj hib _ hl => ?_)
          fun j hj b hb hlj hib _ hl => ?_
        · have hne : i ≠ j := by
            rintro rfl
            exact hnot hj
          have hl' := (fire_acts (e := e) (hb.wf j) hlj.2).frame.live_iff.mp hl
          exact (hib hl').fire hb hl' hlj hne
        · obtain ⟨hflows, hserv⟩ := settle_alike j b
          have hset : Acts e j [.own] b (settle j b) := settle_acts
          exact (hib (hset.frame.live_iff.mp hl)).alike hflows (hserv i).1 (hserv i).2
      · exact ih h hok ho₁ hs₁ hnd' i hi

theorem pulseRecv_orderly {dg : Option Datagram} (h : pulseRecv e n c dg = some c') (he : e.ClockMono)
    (hz : e.ClockNonzero) (hc : CtxOk c) (ho : Orderly e c) : CtxOk c' ∧ Orderly e c' := by
  obtain ⟨l, c₁, hl, hm, hts, hok, -⟩ := pulseRecv_micro h hc
  have hmicro : ∀ l a b, l.isPulse = true → CtxOk a → Orderly e a → Micro e l a b → Orderly e b := by
    intro l a b hl ha hoa hm
    cases hm with
    | call => cases hl
    | close => cases hl
    | quiet => exact hoa.withMsg he _
    | drop h => exact hoa.received he h
    | recv h =>
      obtain ⟨-, hlive, -⟩ := recv_acts h ha
      exact runServerStateMachine_orderly he hz (ha.received h) (hoa.received he h) (by simp) hlive
    | fire hlive hd => exact hoa.fire he hz ha hlive
    | settle hlive hd => exact hoa.settle he _
  have h₁ : CtxOk c₁ ∧ Orderly e c₁ := ⟨hm.ctxOk hl.isPulse hc, hmicro l _ _ hl.isPulse hc ho hm⟩
  have h₂ := hts.invariant (I := fun a => CtxOk a ∧ Orderly e a) (fun l a b ha hl hm => by
    have hp := MicroOp.isPulse_of_isTimer hl
    exact ⟨hm.ctxOk hp ha.1, hmicro l a b hp ha.1 ha.2 hm⟩) h₁
  exact ⟨hok, h₂.2⟩

theorem pcpPulse_between {dg : Option Datagram} {t : Timeval} {t' : Option Timeval}
    (h : pcpPulse e n c dg t = some (c', t')) (he : e.ClockMono) (hz : e.ClockNonzero)
    (hb : Between e c) : Between e c' ∧ ∀ s, Live c' s → AtRest c' s := by
  have hok : CtxOk c' := by
    obtain ⟨-, -, -, -, -, hok⟩ := pcpPulse_micro h hb.ok
    exact hok
  unfold pcpPulse at h
  cases hr : pulseRecv e n c dg with
  | none =>
    rw [hr] at h
    cases h
  | some c₁ =>
    rw [hr] at h
    obtain ⟨hok₁, ho₁⟩ := pulseRecv_orderly hr he hz hb.ok hb.orderly
    have hrange : ∀ s ∈ List.range c₁.pcpServersLength, s < c₁.pcpServersLength :=
      fun s hs => List.mem_range.mp hs
    have ho : Orderly e c' := pulseTimeouts_keeps (I := Orderly e) h hok₁ hrange ho₁
      (fun _ _ b hb hl hob _ => hob.fire he hz hb hl) fun s _ b _ _ hob _ => hob.settle he s
    have hlen : c'.pcpServersLength = c₁.pcpServersLength := by
      refine pulseTimeouts_keeps (I := fun b => b.pcpServersLength = c₁.pcpServersLength) h hok₁ hrange
        rfl (fun s _ b hb hl hlen _ => ?_) fun s _ b _ _ hlen _ => ?_
      · exact (fire_acts (e := e) (hb.wf s) hl.2).frame.length.trans hlen
      · have hset : Acts e s [.own] b (settle s b) := settle_acts
        exact hset.frame.length.trans hlen
    have hrest : ∀ s, Live c' s → AtRest c' s := fun s hl =>
      pulseTimeouts_rest h he hz hok₁ ho₁ hrange List.nodup_range s
        (List.mem_range.mpr (hlen ▸ hl.1)) hl
    refine ⟨⟨hok, ho, fun s => ?_⟩, hrest⟩
    by_cases hu : (c'.pcpServers s).serverState = .unitialized
    · rw [hu]
      rfl
    · exact (hrest s ⟨(ho.slot s).live hu, hu⟩).state

theorem Step.between {op : Op} (h : Step e c op c') (he : e.ClockMono) (hz : e.ClockNonzero)
    (hb : Between e c) : Between e c' := by
  cases (h.cases hb.ok).1 with
  | call hp hstep ha => exact ha.between he hz hb
  | close =>
    obtain ⟨n, h⟩ := h
    unfold step at h
    split at h
    · simp only [Op.exec, pcpCloseFlow, Option.map_eq_some_iff] at h
      obtain ⟨⟨c₂, t⟩, h, rfl⟩ := h
      exact (pcpPulse_between h he hz ((closeChain_acts _).between he hz hb)).1
    · cases h
  | pulse =>
    obtain ⟨n, h⟩ := h
    unfold step at h
    split at h
    · simp only [Op.exec, Option.map_eq_some_iff] at h
      obtain ⟨⟨c₂, t'⟩, h, rfl⟩ := h
      exact (pcpPulse_between h he hz hb).1
    · cases h

theorem Between.empty : Between e {} :=
  ⟨.empty, ⟨fun f hf => by simp [Ctx.allFlows] at hf, fun s => .unused fun h => absurd rfl h⟩,
    fun _ => rfl⟩

theorem Reachable.between (he : e.ClockMono) (hz : e.ClockNonzero) (h : Reachable e c) : Between e c :=
  Steps.invariant (I := Between e) (fun _ _ _ hb _ hs => hs.between he hz hb) h .empty

end Pulse

/-- The contexts in which `pcp_pulse` is called: between calls of the application, and at the end of
`pcp_close_flow`. -/
def BeforePulse (e : Env) (c : Ctx) : Prop :=
  Reachable e c ∨ ∃ c₀ f, Reachable e c₀ ∧ (∀ g ∈ c₀.chain f, g ∈ c₀.allFlows) ∧ c = closeChain e c₀ f

theorem BeforePulse.between {e : Env} {c : Ctx} (he : e.ClockMono) (hz : e.ClockNonzero)
    (h : BeforePulse e c) : Between e c := by
  rcases h with h | ⟨c₀, f, h, -, rfl⟩
  · exact h.between he hz
  · exact (closeChain_acts f).between he hz (h.between he hz)

/-- Whenever a pulse returns, every server is in a state it may stay in, no restart is left to be dealt
with, and a server that waits for messages has no flow that waits for it or is still to be sent. -/
theorem no_stranded_flows {e : Env} {c c' : Ctx} (he : e.ClockMono) (hz : e.ClockNonzero)
    (h : BeforePulse e c) {n : Nat} {dg : Option Datagram} {t : Timeval} {t' : Option Timeval}
    (hp : pcpPulse e n c dg t = some (c', t')) (s : Nat) (hl : Live c' s) :
    ((c'.pcpServers s).serverState = .allocated ∨ (c'.pcpServers s).serverState = .ping ∨
      (c'.pcpServers s).serverState = .waitPingResp ∨ (c'.pcpServers s).serverState = .waitIo ∨
      (c'.pcpServers s).serverState = .notWorking) ∧
    (c'.pcpServers s).restartFlowMsg = none ∧
    ((c'.pcpServers s).serverState = .waitIo →
      ∀ f ∈ c'.allFlows, (c'.heap f).pcpServerIndx = (c'.pcpServers s).index →
        (c'.heap f).state ≠ .idle ∧ (c'.heap f).state ≠ .waitForServerInit ∧
        (c'.heap f).state ≠ .send ∧ (c'.heap f).state ≠ .sendRenew) := by
  have hrest := (pcpPulse_between hp he hz (h.between he hz)).2 s hl
  refine ⟨?_, hrest.restart, hrest.flows⟩
  have ht := hrest.state
  have hu := hl.2
  cases hst : (c'.pcpServers s).serverState <;> rw [hst] at ht hu
  case unitialized => exact absurd rfl hu
  case allocated | ping | waitPingResp | waitIo | notWorking => simp
  all_goals cases ht

theorem no_stranded_flows_waiting :
    let c := runTo (.calm {}) (fun _ _ => True) 12 {} waitingFlow
    let c' := stepTo (.calm {}) 12 c (.pulse none .zero)
    Live c' 0 ∧ (c'.pcpServers 0).restartFlowMsg = none := by
  intro c c'
  have hclock : (Env.calm {}).ClockMono := fun _ _ _ => Int.le_refl _
  have hzero : (Env.calm {}).ClockNonzero := fun _ => show Timeval.us ⟨1000, 0⟩ ≠ 0 by decide
  have hreach : Reachable (.calm {}) c := Runs.runTo (by decide +kernel)
  have hlive : Live c' 0 := by decide +kernel
  obtain ⟨⟨c₂, t⟩, hp⟩ := Option.isSome_iff_exists.mp
    (show (pcpPulse (.calm {}) 12 c none .zero).isSome = true by decide +kernel)
  have hc' : c' = c₂ := by
    simp [c', stepTo, step, Op.target, Op.exec, hp]
  rw [hc'] at hlive ⊢
  exact ⟨hlive, (no_stranded_flows hclock hzero (.inl hreach) hp 0 hlive).2.1⟩

end LibPcp
