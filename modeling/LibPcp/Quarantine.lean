import LibPcp.Attachment
import LibPcp.Granted
import LibPcp.Isolation
import LibPcp.Woken

/-!
# LibPcp.Quarantine

What becomes of a server that is set not working.

`handle_server_set_not_working` sends `fev_failed` to the flows of the server. The row for flows that
have a mapping comes first in `flow_events_sm` and makes them ask for it again; all others fail.
Failed flows stay so: setters leave their state alone, walks of other servers pass over them, and a
server that is woken too early finds no flow to ping with. That ends with a response of the server or
with a new flow, which can be added once a setter has woken the server.

* `AllFailed`: the flows of the server have failed. Calls keep this unless they make a flow for the
  server (`CallAct.allFailed`), and so do the other servers, which send it nothing (`Acts.allFailed`).
* `quarantine_holds`: with no flow that has a mapping and no new flow, nothing is sent to the server
  until it answers.
-/

namespace LibPcp

open LabelledSteps

/-- The server is out of use: it pings when it finds a flow to ping with, and sends nothing else. -/
def ServerState.isOut : ServerState → Bool
  | .unitialized | .allocated | .notWorking | .serverReping | .ping => true
  | _ => false

/-- The flows of server `s` have failed. -/
def AllFailed (c : Ctx) (s : Nat) : Prop :=
  ∀ f ∈ c.allFlows, (c.heap f).pcpServerIndx = s → (c.heap f).state = .failed

/-! ## Calls -/

section Calls

variable {e : Env} {s : Nat} {k : CallKind} {c c' : Ctx} {f : FlowId}

theorem CallAct.failed (h : CallAct e k c c') (hf : f < c.heapTop) (hst : (c.heap f).state = .failed) :
    (c'.heap f).state = .failed := by
  have hflow := h.altered fun _ => Nat.ne_of_lt hf
  generalize c'.heap f = w at hflow ⊢
  cases hflow with
  | link => exact hst
  | @update v h =>
    rw [markUpdated_state, h.state, hst]
    rfl
  | fail => rfl

/-- Only `pcp_new_flow` and `pcp_learn_dscp` add to the table. -/
theorem CallAct.mem_allFlows (h : CallAct e k c c') (hf : f ∈ c'.allFlows) :
    f ∈ c.allFlows ∨
      ∃ i, k = .create i ∧ Live c i ∧ (c'.heap f).pcpServerIndx = (c.pcpServers i).index := by
  have hsame : ∀ {a : Ctx}, a.flows = c.flows → f ∈ a.allFlows → f ∈ c.allFlows := by
    intro a ha hm
    rw [Ctx.allFlows, ha] at hm
    exact hm
  cases h with
  | env h =>
    rw [h.eq] at hf
    exact .inl hf
  | array | fresh | again | link | fail => exact .inl hf
  | create c i fl io hl h hs ht =>
    obtain ⟨b, hb, hm⟩ := LibPcp.mem_allFlows.mp hf
    rcases mem_addNewFlow.mp hm with hm | ⟨rfl, -⟩
    · exact .inl (LibPcp.mem_allFlows.mpr ⟨b, hb, hm⟩)
    · refine .inr ⟨i, rfl, hl, ?_⟩
      rw [addNewFlow_heap, if_pos rfl]
      exact h.pcpServerIndx
  | update c g v h => exact .inl (hsame (pcpFlowUpdated_flows e (c.setFlow g v) g) hf)
  | close c g h => exact .inl (hsame (pcpFlowUpdated_flows e (c.modFlow g _) g) hf)
  | delete c g =>
    obtain ⟨b, hb, hm⟩ := LibPcp.mem_allFlows.mp hf
    exact .inl (LibPcp.mem_allFlows.mpr ⟨b, hb, (pcpDeleteFlowIntern_deleted c g).table b f hm⟩)

theorem CallAct.allFailed (h : CallAct e k c c') (hc : CtxOk c) (hk : k ≠ .create s)
    (ha : AllFailed c s) : AllFailed c' s := by
  intro f hf hix
  rcases h.mem_allFlows hf with hold | ⟨i, rfl, hl, hnew⟩
  · have hlt := hc.alloc hold
    rw [h.pcpServerIndx hlt] at hix
    exact h.failed hlt (ha f hold hix)
  · -- the new flow is one of another server
    rw [hnew, hc.index hl.2] at hix
    exact absurd (congrArg CallKind.create hix) hk

theorem CallActs.allFailed {K : CallKind → Prop} (h : CallActs e K c c') (hc : CtxOk c)
    (hK : ¬ K (.create s)) (ha : AllFailed c s) : AllFailed c' s := by
  have hinv := h.invariant (I := fun a => CtxOk a ∧ AllFailed a s)
    (fun k a b hi hk hact => ⟨hact.ctxOk hi.1, hact.allFailed hi.1 (fun heq => hK (heq ▸ hk)) hi.2⟩)
    ⟨hc, ha⟩
  exact hinv.2

/-- Whether the call makes a flow for server `s`. -/
def Op.makesFlow (e : Env) (c : Ctx) (s : Nat) : Op → Bool
  | op@(.newFlow ..) | op@(.learnDscp ..) => op.wakes e c s
  | _ => false

/-- The pass over the servers leaves one out for which it has no key. -/
theorem chainFlows_acts_apart (d : CaasiData) (hkey : flowKeyFor d.kd (c.pcpServers s) = none) :
    CallActs e (fun k => NewFlowKinds k ∧ k ≠ .create s) c (chainFlows e c d).ctx := by
  have hfold := List.foldlRecOn
    (motive := fun a => CallActs e (fun k => NewFlowKinds k ∧ k ≠ .create s) c a.ctx ∧
      a.ctx.pcpServers s = c.pcpServers s ∧ a.ctx.pcpServersLength = c.pcpServersLength)
    (List.range c.pcpServersLength) (chainAndAssignSrcIp e d) (b := { ctx := c }) ⟨.refl, rfl, rfl⟩
    fun a ⟨hdone, hrec, hlen⟩ i hi => ?_
  · exact hfold.1
  · have hkey' : flowKeyFor d.kd (a.ctx.pcpServers s) = none := hrec ▸ hkey
    obtain ⟨hacts, hlen'⟩ := chainAndAssignSrcIp_acts (e := e) d a (hlen.symm ▸ List.mem_range.mp hi)
    refine ⟨hdone.trans ?_, (chainAndAssignSrcIp_server d a i hkey').trans hrec, hlen'.trans hlen⟩
    by_cases hi : i = s
    · subst hi
      have hsame : (chainAndAssignSrcIp e d a i).ctx = a.ctx := by
        unfold chainAndAssignSrcIp
        rw [hkey']
        split <;> rfl
      rw [hsame]
      exact .refl
    · refine hacts.mono fun _ k hk => ⟨hk.newFlow, ?_⟩
      rintro rfl
      exact hi hk.symm

theorem Op.kinds_create {op : Op} (h : op.kinds e c (.create s)) :
    (∃ src dst ext protocol lifetime, op = .newFlow src dst ext protocol lifetime) ∨
      ∃ d l j a, op = .learnDscp d l j a := by
  cases op with
  | newFlow src dst ext protocol lifetime => exact .inl ⟨src, dst, ext, protocol, lifetime, rfl⟩
  | learnDscp d l j a => exact .inr ⟨d, l, j, a, rfl⟩
  | addServer | addGws | closeFlow | pulse => exact h.elim
  | setLifetime | set3rdPartyOpt | setFilterOpt | setPreferFailureOpt | setUserid | setLocation
  | setDeviceid | addMd | setFlowp => exact h.elim
  | deleteFlow f =>
    obtain ⟨g, -, hg⟩ := h
    cases hg
  | setFlowChangeCb b => cases h

theorem Op.exec_allFailed {op : Op} {n : Nat} (hc : CtxOk c) (hp : op.isPlain = true)
    (h : op.exec e n c = some c') (hm : op.makesFlow e c s = false) (ha : AllFailed c s) :
    AllFailed c' s := by
  have hcreate : ∀ {d : CaasiData} {c₁ : Ctx},
      CallActs e (fun k => NewFlowKinds k ∧ k ≠ .create s) c c₁ → AllFailed c₁ s :=
    fun hacts => hacts.allFailed hc (fun hk => hk.2 rfl) ha
  by_cases hk : op.kinds e c (.create s)
  · rcases Op.kinds_create hk with ⟨src, dst, ext, protocol, lifetime, rfl⟩ | ⟨d, l, j, a, rfl⟩
    · cases h
      refine (pcpNewFlow_acts_of (K := fun k => NewFlowKinds k ∧ k ≠ .create s) ⟨trivial, by simp⟩
        (fun g => ⟨trivial, by simp⟩) fun l kd d hkd hd => ?_).allFailed hc (fun hk => hk.2 rfl) ha
      refine chainFlows_acts_apart d ?_
      subst hd
      simpa [Op.makesFlow, Op.wakes, hkd] using hm
    · cases h
      refine (chainFlows_acts_apart (e := e) _ ?_).allFailed hc (fun hk => hk.2 rfl) ha
      simpa [Op.makesFlow, Op.wakes] using hm
  · exact (Op.exec_acts hc hp h).allFailed hc hk ha

end Calls

/-! ## Other servers -/

section Others

variable {e : Env} {i s : Nat} {k : ActKind} {c c' : Ctx}

theorem Act.allFailed (h : Act e i k c c') (hc : TableOk c) (hne : (c.pcpServers i).index ≠ s)
    (ha : AllFailed c s) :
    AllFailed c' s ∧ c.io.SentWith (fun p => p.server ≠ s) c'.io := by
  have hframe := h.frame
  refine ⟨fun f hf hix => ?_, (h.sent.and hframe.sent).mono fun p hp hserver => ?_⟩
  · rcases hframe.mem_allFlows hf with hold | ⟨-, hann⟩
    · have hlt := hc.alloc hold
      rw [(hframe.flow f hlt).pcpServerIndx] at hix
      have hst := ha f hold hix
      rcases h.foreign hlt (fun heq => hne (heq.symm.trans hix)) with hsame | ⟨-, -, -, halign⟩
      · rw [hsame]
        exact hst
      · rw [halign (by rw [hst]; decide)]
        exact hst
    · -- an announcement is the acting server's own
      exact absurd (hframe.same.index.symm.trans (hann.own.2.symm.trans hix)) hne
  · obtain ⟨hsender, hrouted⟩ := hp
    have hlt : p.flow < c.heapTop := by
      rcases hsender with hown | ⟨-, hmem, -⟩
      · exact hown.1
      · exact hc.alloc hmem
    have hix : (c.heap p.flow).pcpServerIndx = s := by
      rw [← (hframe.flow _ hlt).pcpServerIndx, ← hrouted.server]
      exact hserver
    rcases hsender with hown | ⟨-, hmem, -, hreacts⟩
    · exact hne (hown.2.symm.trans hix)
    · rw [ha p.flow hmem hix] at hreacts
      exact absurd hreacts (by decide)

theorem Acts.allFailed {K : List ActKind} (h : Acts e i K c c') (hc : TableOk c)
    (hne : (c.pcpServers i).index ≠ s) (ha : AllFailed c s) :
    AllFailed c' s ∧ c.io.SentWith (fun p => p.server ≠ s) c'.io := by
  have hinv := h.invariant
    (I := fun a => TableOk a ∧ (a.pcpServers i).index ≠ s ∧ AllFailed a s ∧
      c.io.SentWith (fun p => p.server ≠ s) a.io)
    (fun k a b hi _ hact => ?_) ⟨hc, hne, ha, .refl _⟩
  · exact hinv.2.2
  · obtain ⟨htab, hindex, hfailed, hsent⟩ := hi
    obtain ⟨hfailed', hsent'⟩ := hact.allFailed htab hindex hfailed
    refine ⟨hact.tableOk htab, ?_, hfailed', hsent.trans hsent'⟩
    rw [hact.frame.same.index]
    exact hindex

end Others

/-! ## The server itself -/

section Own

variable {e : Env} {s : Nat} {c c' a : Ctx} {f : FlowId}

/-- No flow changes, none comes or goes, and nothing is sent. -/
structure Inert (c c' : Ctx) : Prop where
  heap : c'.heap = c.heap
  flows : c'.flows = c.flows
  sent : c'.io.sent = c.io.sent

theorem Inert.allFailed (h : Inert c c') (ha : AllFailed c s) : AllFailed c' s := by
  intro f hf
  rw [h.heap]
  rw [Ctx.allFlows, h.flows] at hf
  exact ha f hf

/-- The flows of the server are no candidates for a ping. -/
theorem handleServerPing_inert (hindex : (c.pcpServers s).index = s) (ha : AllFailed c s) :
    Inert c (handleServerPing e c s).2 ∧ (handleServerPing e c s).1 = .ping := by
  have hself : ((c.modServer s fun v => { v with pingCount := 0 }).pcpServers s).index = s := by
    rw [Ctx.modServer_self]
    exact hindex
  unfold handleServerPing
  rw [pingLoop]
  rcases hg : getPingMsg (c.modServer s fun v => { v with pingCount := 0 }) s with ⟨found, b⟩
  obtain rfl : (getPingMsg (c.modServer s fun v => { v with pingCount := 0 }) s).2 = b := by rw [hg]
  cases found with
  | none => exact ⟨⟨rfl, rfl, rfl⟩, rfl⟩
  | some f =>
    obtain ⟨hmem, hown, hst⟩ := getPingMsg_found
      (show (getPingMsg (c.modServer s fun v => { v with pingCount := 0 }) s).1 = some f by rw [hg])
    have hfailed : (c.heap f).state = .failed := ha f hmem (hown.trans hself)
    change (c.heap f).state = _ ∨ (c.heap f).state = _ ∨ (c.heap f).state = _ at hst
    rw [hfailed] at hst
    exact absurd hst (by decide)

/-- A timeout of a server that is out of use leads to another such state. -/
theorem run_isOut {h : ServerHandler} (hh : serverHandler (c.pcpServers s).serverState .timeout = some h)
    (hl : (c.pcpServers s).serverState ≠ .unitialized) (hout : (c.pcpServers s).serverState.isOut = true)
    (hindex : (c.pcpServers s).index = s) (ha : AllFailed c s)
    (hdue : (c.pcpServers s).nextTimeout.us ≤ (e.now c.io).us) :
    Inert c (h.run e c s).2 ∧ (h.run e c s).1.isOut = true := by
  cases hst : (c.pcpServers s).serverState with
  | unitialized => exact absurd hst hl
  | allocated =>
    rw [hst] at hh
    cases hh
    refine ⟨⟨rfl, rfl, rfl⟩, ?_⟩
    change ((c.pcpServers s).serverState).isOut = true
    rw [hst]
    rfl
  | ping =>
    rw [hst] at hh
    cases hh
    obtain ⟨hinert, hping⟩ := handleServerPing_inert (e := e) hindex ha
    refine ⟨hinert, ?_⟩
    change (handleServerPing e c s).1.isOut = true
    rw [hping]
    rfl
  | serverReping =>
    rw [hst] at hh
    cases hh
    exact ⟨⟨rfl, rfl, rfl⟩, rfl⟩
  | notWorking =>
    rw [hst] at hh
    cases hh
    have hcmp : ¬ (timevalComp (e.now c.io) (c.pcpServers s).nextTimeout).1 < 0 := by
      rw [timevalComp_lt]
      exact Int.not_lt.mpr hdue
    change Inert c (handleServerNotWorking e c s).2 ∧ (handleServerNotWorking e c s).1.isOut = true
    unfold handleServerNotWorking
    dsimp only
    rw [if_neg hcmp]
    exact ⟨⟨rfl, rfl, rfl⟩, rfl⟩
  | waitPingResp | versionNegotiation | sendAllMsgs | waitIo | waitIoCalcNearestTimeout | serverRestart
  | setNotWorking =>
    rw [hst] at hout
    cases hout

theorem fire_isOut (he : e.ClockMono) (hc : CtxOk c) (hl : Live c s) (hd : Due e c s)
    (hout : (c.pcpServers s).serverState.isOut = true) (ha : AllFailed c s) :
    Inert c (fire e s c) ∧ ((fire e s c).pcpServers s).serverState.isOut = true := by
  have hstart : Inert c (alignNext c.tick s) := ⟨rfl, rfl, rfl⟩
  have hacts : Acts e s [.own] c (alignNext c.tick s) := fireStart_acts
  have hst : ((alignNext c.tick s).pcpServers s).serverState = (c.pcpServers s).serverState :=
    alignNext_state
  obtain ⟨h, hh⟩ := serverHandler_total ((alignNext c.tick s).pcpServers s).serverState .timeout
  have hdue : ((alignNext c.tick s).pcpServers s).nextTimeout.us ≤ (e.now (alignNext c.tick s).io).us := by
    rw [alignNext, Ctx.setNextTimeout_self, us_timevalAlign]
    exact Int.le_trans hd.2 (he _ _ (Nat.le_succ _))
  obtain ⟨hrun, hleft⟩ := run_isOut hh (hst ▸ hl.2) (hst ▸ hout)
    (hacts.frame.same.index.trans (hc.index hl.2)) (hstart.allFailed ha) hdue
  unfold fire
  rw [runServerStateMachine_eq hh]
  refine ⟨⟨hrun.heap.trans hstart.heap, hrun.flows.trans hstart.flows, hrun.sent.trans hstart.sent⟩, ?_⟩
  rw [Ctx.modServer_self]
  exact hleft

/-! ### `fev_failed` -/

theorem handleFlowEvent_failed (hst : ¬ (c.heap f).state.Succeeded) :
    ((handleFlowEvent e c f .failed none).heap f).state = .failed ∧
      ((handleFlowEvent e c f .failed none).heap f).timeout.isZero = true := by
  have hnext : nextState (c.heap f).state .failed = some .failed := by
    revert hst
    cases (c.heap f).state <;> decide
  rw [handleFlowEvent_heap, Function.update_self, flowStep_eq _ _ _ (by simp), hnext]
  exact ⟨failPhase_state .., congrArg Timeval.isZero (failPhase_timeout ..)⟩

/-- A pass sends its event once to each flow of the server. -/
theorem foldl_flowSendEventIter_visit {ev : FlowEvent} (hev : ev.Plain) {l : List FlowId}
    (hl : l.Nodup) (hlt : ∀ g ∈ l, g < c.heapTop) (hf : f ∈ l) :
    ∃ b, Part s c b ∧ b.heap f = c.heap f ∧
      (l.foldl (flowSendEventIter e s ev) c).heap f = (flowSendEventIter e s ev b f).heap f := by
  have hother : ∀ (l : List FlowId) (b : Ctx), f ∉ l →
      (l.foldl (flowSendEventIter e s ev) b).heap f = b.heap f := by
    intro l b hm
    refine List.foldlRecOn (motive := fun a : Ctx => a.heap f = b.heap f) _ _ rfl fun a ha g hg => ?_
    have hfg : f ≠ g := fun heq => hm (heq ▸ hg)
    rw [flowSendEventIter_other e s ev a hfg, ha]
  induction l generalizing c with
  | nil => cases hf
  | cons g l ih =>
    obtain ⟨hg, hnodup⟩ := List.nodup_cons.mp hl
    rw [List.foldl_cons]
    rcases List.mem_cons.mp hf with rfl | hmem
    · exact ⟨c, .refl c, rfl, hother l _ hg⟩
    · have hne : f ≠ g := fun heq => hg (heq ▸ hmem)
      have hpart : Part s c (flowSendEventIter e s ev c g) :=
        flowSendEventIter_part (hlt g List.mem_cons_self) hev
      obtain ⟨b, hb, hheap, hfinal⟩ := ih hnodup
        (fun j hj => hpart.alloc (hlt j (List.mem_cons_of_mem g hj))) hmem
      exact ⟨b, hpart.trans hb, hheap.trans (flowSendEventIter_other e s ev c hne), hfinal⟩

theorem sendEventAll_failed (hw : TableOk c) (hf : f ∈ c.allFlows) (hb : Belongs c s f)
    (hst : ¬ (c.heap f).state.Succeeded) : ((sendEventAll e s .failed c).heap f).state = .failed := by
  have hlt : ∀ g ∈ c.allFlows, g < c.heapTop := fun g hg => hw.alloc hg
  have hplain : FlowEvent.failed.Plain := trivial
  obtain ⟨b, hpart, hheap, hfinal⟩ :=
    foldl_flowSendEventIter_visit (e := e) (s := s) hplain hw.allFlows_nodup hlt hf
  have hbelongs : (b.heap f).pcpServerIndx = (b.pcpServers s).index := by
    rw [hheap, hpart.frame.same.index]
    exact hb
  obtain ⟨hfailed, hoff⟩ := handleFlowEvent_failed (e := e) (c := b) (f := f) (hheap ▸ hst)
  have hvisit : flowSendEventIter e s .failed b f = handleFlowEvent e b f .failed none := by
    -- the timer of a failed flow is off
    rw [flowSendEventIter, if_pos hbelongs, checkFlowTimeout_eq, if_pos hoff]
  rw [sendEventAll, hfinal, hvisit]
  exact hfailed

/-- `handle_server_set_not_working` fails the flows of the server that have no mapping. -/
theorem setNotWorking_quarantines {ev : ServerEvent} (hc : CtxOk c) (hev : ev ≠ .terminate)
    (hst : (c.pcpServers s).serverState = .setNotWorking)
    (hflows : ∀ f ∈ c.allFlows, (c.heap f).pcpServerIndx = s → ¬ (c.heap f).state.Succeeded) :
    AllFailed (runServerStateMachine e c s ev) s ∧
      ((runServerStateMachine e c s ev).pcpServers s).serverState.isOut = true := by
  have hh : serverHandler (c.pcpServers s).serverState ev = some .setNotWorking := by
    rw [hst]
    cases ev with
    | terminate => exact absurd rfl hev
    | timeout | ioEvent => rfl
  have hindex : (c.pcpServers s).index = s := hc.index (by rw [hst]; decide)
  have hpass : Part s c (sendEventAll e s .failed c) := sendEventAll_part .failed hc.table trivial
  rw [runServerStateMachine_eq hh]
  refine ⟨fun f hf hix => ?_, ?_⟩
  · change f ∈ (sendEventAll e s .failed c).allFlows at hf
    change ((sendEventAll e s .failed c).heap f).pcpServerIndx = s at hix
    change ((sendEventAll e s .failed c).heap f).state = .failed
    rw [hpass.calm.allFlows] at hf
    rw [(hpass.frame.flow f (hc.alloc hf)).pcpServerIndx] at hix
    exact sendEventAll_failed hc.table hf (hix.trans hindex.symm) (hflows f hf hix)
  · rw [Ctx.modServer_self]
    rfl

end Own

/-! ## Runs -/

def MicroOp.makesFlow (e : Env) (c : Ctx) (s : Nat) : MicroOp → Bool
  | .call op => op.makesFlow e c s
  | _ => false

/-- The step processes a response of server `s`. -/
def MicroOp.hears (s : Nat) : MicroOp → Bool
  | .recv _ i => i == s
  | _ => false

section Runs

variable {e : Env} {s : Nat} {a b c c' : Ctx} {l : MicroOp}

theorem isOut_keptByOthers : KeptByOthers fun v => v.serverState.isOut = true where
  same h hv := by
    rw [h.serverState]
    exact hv
  zero := rfl
  registered h := by
    rcases h.state with ⟨hst, -⟩ | hst | hst
    all_goals
      rw [hst]
      rfl
  reregistered h := by
    rw [h.state]
    split <;> rfl

/-- One step of the run. -/
theorem Micro.allFailed (h : Micro e l c c') (he : e.ClockMono) (hc : CtxOk c)
    (hhear : l.hears s = false) (hmake : l.makesFlow e c s = false) (ha : AllFailed c s)
    (hout : (c.pcpServers s).serverState.isOut = true) :
    AllFailed c' s ∧ (c'.pcpServers s).serverState.isOut = true ∧
      c.io.SentWith (fun p => p.server ≠ s) c'.io := by
  have hothers : l.runs s = false → (c'.pcpServers s).serverState.isOut = true := fun hrun =>
    isOut_keptByOthers.micro h hc hrun hout
  cases h with
  | @call op c c' hp h =>
    have hexec := (step_exec h).2
    exact ⟨Op.exec_allFailed hc hp hexec hmake ha, hothers rfl,
      .of_eq (Op.exec_acts hc hp hexec).silent.sent⟩
  | @close f c hlive =>
    have hacts := closeChain_acts (e := e) (c := c) f
    refine ⟨hacts.allFailed hc ?_ ha, hothers rfl, .of_eq hacts.silent.sent⟩
    rintro ⟨g, -, hg⟩
    cases hg
  | quiet => exact ⟨ha, hout, .of_eq rfl⟩
  | drop h =>
    obtain ⟨⟨m, rfl⟩, -⟩ := received_eq h
    exact ⟨ha, hout, .of_eq rfl⟩
  | @recv dg i c c₁ h =>
    obtain ⟨hacts, hl, -⟩ := recv_acts h hc
    have hok := hc.received h
    obtain ⟨⟨m, rfl⟩, -⟩ := received_eq h
    have hne : (c.pcpServers i).index ≠ s := by
      rw [hc.index hl.2]
      exact ne_of_beq_false hhear
    obtain ⟨hfailed, hsent⟩ := hacts.allFailed hok.table hne ha
    exact ⟨hfailed, hothers hhear, hsent⟩
  | @fire i c hl hd =>
    by_cases hi : i = s
    · subst hi
      obtain ⟨hinert, hleft⟩ := fire_isOut he hc hl hd hout ha
      exact ⟨hinert.allFailed ha, hleft, .of_eq hinert.sent⟩
    · have hne : (c.pcpServers i).index ≠ s := by
        rw [hc.index hl.2]
        exact hi
      obtain ⟨hfailed, hsent⟩ := (fire_acts (e := e) (hc.wf i) hl.2).allFailed hc.table hne ha
      exact ⟨hfailed, hothers (beq_false_of_ne hi), hsent⟩
  | @settle i c hl hd =>
    have hinert : Inert c (LibPcp.settle i c) := by
      unfold LibPcp.settle
      split <;> exact ⟨rfl, rfl, rfl⟩
    exact ⟨hinert.allFailed ha, hothers rfl, .of_eq hinert.sent⟩

/-- From the moment a server without mappings is set not working, nothing is sent to it and its flows
are failed, until it answers or gets a new flow. -/
theorem quarantine_holds (he : e.ClockMono) (ha : MicroReachable e a) (h : Micro e l a b)
    (hrun : l.runs s = true) (hst : (a.pcpServers s).serverState = .setNotWorking)
    (hflows : ∀ f ∈ a.allFlows, (a.heap f).pcpServerIndx = s →
      (a.heap f).state ≠ .waitForLifetimeRenew ∧ (a.heap f).state ≠ .sendRenew)
    (hafter : Micros e (fun x l => l.hears s = false ∧ l.makesFlow e x s = false) b c) :
    (∀ f ∈ c.allFlows, (c.heap f).pcpServerIndx = s → (c.heap f).state = .failed) ∧
      b.io.SentWith (fun p => p.server ≠ s) c.io := by
  have hc := ha.ctxOk
  have hflows' : ∀ f ∈ a.allFlows, (a.heap f).pcpServerIndx = s → ¬ (a.heap f).state.Succeeded :=
    fun f hf hix => not_or.mpr (hflows f hf hix)
  have hb : AllFailed b s ∧ (b.pcpServers s).serverState.isOut = true := by
    cases h with
    | call | close | quiet | drop | settle => cases hrun
    | @recv dg i c c₁ h =>
      obtain rfl : i = s := by simpa [MicroOp.runs] using hrun
      have hok := hc.received h
      obtain ⟨⟨m, rfl⟩, -⟩ := received_eq h
      exact setNotWorking_quarantines hok (by simp) hst hflows'
    | @fire i c hl hd =>
      obtain rfl : i = s := by simpa [MicroOp.runs] using hrun
      have hacts : Acts e i [.own] a (alignNext a.tick i) := fireStart_acts
      refine setNotWorking_quarantines (hacts.ctxOk hc hl.2) (by simp) ?_ hflows'
      rw [alignNext_state]
      exact hst
  have hinv := hafter.invariant
    (I := fun x => CtxOk x ∧ (AllFailed x s ∧ (x.pcpServers s).serverState.isOut = true) ∧
      b.io.SentWith (fun p => p.server ≠ s) x.io)
    (fun l x y hx hl hstep => ?_) ⟨h.keepsOk hc, hb, .refl _⟩
  · exact ⟨hinv.2.1.1, hinv.2.2⟩
  · obtain ⟨hok, ⟨hfailed, hout⟩, hsent⟩ := hx
    obtain ⟨hfailed', hout', hsent'⟩ := hstep.allFailed he hok hl.1 hl.2 hfailed hout
    exact ⟨hstep.keepsOk hok, ⟨hfailed', hout'⟩, hsent.trans hsent'⟩

end Runs

/-! ## An address mismatch -/

/-- After the calls `ops`, the server reports an address mismatch and is to be set not working. -/
def refusedAfter (ops : List Op) : Ctx :=
  (microsTo (.calm {}) (fun _ _ => True) (runTo (.calm {}) (fun _ _ => True) 12 {} ops)
    [.recv (mapResponse 12 60 1000 0) 0]).getD {}

theorem refusedAfter_reachable {ops : List Op}
    (hops : (runOps (.calm {}) (fun _ _ => True) 12 {} ops).isSome = true)
    (hrecv : (microsTo (.calm {}) (fun _ _ => True) (runTo (.calm {}) (fun _ _ => True) 12 {} ops)
      [.recv (mapResponse 12 60 1000 0) 0]).isSome = true) :
    MicroReachable (.calm {}) (refusedAfter ops) := by
  have hreach : Reachable (.calm {}) (runTo (.calm {}) (fun _ _ => True) 12 {} ops) := Runs.runTo hops
  exact hreach.micros.micros (Micros.of_microsTo (d := {}) hrecv)

/-- The request of the flow waits for its answer. -/
def setNotWorking : Ctx := fire (.calm {}) 0 (refusedAfter waitingFlow)

/-- A setter wakes the server, which looks for a flow to ping with. -/
def wokenEarly : Ctx :=
  (microsTo (.calm {}) (fun x l => l.hears 0 = false ∧ l.makesFlow (.calm {}) x 0 = false) setNotWorking
    [.settle 0, .call (.setLifetime 0 90), .quiet, .fire 0, .fire 0, .fire 0, .settle 0]).getD {}

theorem quarantine_holds_woken :
    (wokenEarly.pcpServers 0).serverState = .ping ∧
      (∀ f ∈ wokenEarly.allFlows, (wokenEarly.heap f).pcpServerIndx = 0 →
        (wokenEarly.heap f).state = .failed) ∧
      setNotWorking.io.SentWith (fun p => p.server ≠ 0) wokenEarly.io := by
  have hreach : MicroReachable (.calm {}) (refusedAfter waitingFlow) :=
    refusedAfter_reachable (by decide +kernel) (by decide +kernel)
  have hstep : Micro (.calm {}) (.fire 0) (refusedAfter waitingFlow) setNotWorking :=
    .fire (by decide +kernel) (by decide +kernel)
  have hafter : Micros (.calm {}) (fun x l => l.hears 0 = false ∧ l.makesFlow (.calm {}) x 0 = false)
      setNotWorking wokenEarly := Micros.of_microsTo (by decide +kernel)
  exact ⟨by decide +kernel, quarantine_holds calm_clock.1 hreach hstep rfl (by decide +kernel)
    (by decide +kernel) hafter⟩

/-- A flow that is added next takes the place of the failed one: its request is sent to the server. -/
example : (microsTo (.calm {}) (fun _ l => l.hears 0 = false) wokenEarly
    [.call (.newFlow (.inet 0x0A000002 81) none none 6 60), .quiet, .fire 0]).map
      (fun c => (c.io.sent.length, c.io.sent.head?.map (·.server))) =
        some (wokenEarly.io.sent.length + 1, some 0) := by
  decide +kernel

/-- With a mapping in place, `fev_failed` makes the flow ask for it again. -/
theorem mapping_escapes_quarantine :
    ¬ ∀ (e : Env) (s : Nat) (l : MicroOp) (a b c : Ctx), e.ClockMono → MicroReachable e a →
      Micro e l a b → l.runs s = true → (a.pcpServers s).serverState = .setNotWorking →
      Micros e (fun _ l => l.hears s = false) b c →
      (e.now c.io).us < (e.now b.io).us + e.cfg.serverDiscoveryRetryDelay * 1000000 →
      (∀ f ∈ b.allFlows, (b.heap f).pcpServerIndx = s → f ∈ c.allFlows → (c.heap f).state = .failed) ∧
        b.io.SentWith (fun p => p.server ≠ s) c.io := by
  intro hall
  have hreach : MicroReachable (.calm {})
      (refusedAfter (waitingFlow ++ [.pulse (some (mapResponse 0 60 1000 0x0B000001)) .zero])) :=
    refusedAfter_reachable (by decide +kernel) (by decide +kernel)
  generalize ha : refusedAfter (waitingFlow ++ [.pulse (some (mapResponse 0 60 1000 0x0B000001)) .zero]) = a
    at hreach
  have hstate : (a.pcpServers 0).serverState = .setNotWorking := by
    rw [← ha]
    decide +kernel
  have hstep : Micro (.calm {}) (.fire 0) a (fire (.calm {}) 0 a) := by
    rw [← ha]
    exact .fire (by decide +kernel) (by decide +kernel)
  have hasked : 0 ∈ (fire (.calm {}) 0 a).allFlows ∧ ((fire (.calm {}) 0 a).heap 0).pcpServerIndx = 0 ∧
      ((fire (.calm {}) 0 a).heap 0).state = .waitResp := by
    rw [← ha]
    decide +kernel
  obtain ⟨hmem, hix, hwait⟩ := hasked
  have hfailed := (hall (.calm {}) 0 (.fire 0) a _ _ calm_clock.1 hreach hstep rfl hstate .refl
    (by exact Int.lt_add_of_pos_right _ (by decide))).1 0 hmem hix hmem
  rw [hwait] at hfailed
  cases hfailed

end LibPcp
