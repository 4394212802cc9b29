import LibPcp.Announced
import LibPcp.FanOut

/-!
# LibPcp.Grants

Where a mapping comes from.

A MAP or PEER flow with a lifetime that has been received holds a mapping: what the application is told.
Calls and timeouts leave it alone; a response replaces it, and then the flow is the one whose key is the
key of the response.

* `flowStep_mapping_cases`: an event changes the mapping only if it is a success, to what is granted.
* `Accounted`: every mapping held is the one of a success in the log of events.
* `Answered`: what is in the log with a message was made from the message that was dispatched.
* `mapping_granted`: every mapping held was granted by a datagram the client has received.
-/

namespace LibPcp

open LabelledSteps ByteBuffer

/-! ## Events -/

/-- Requests of these two kinds are for mappings. -/
def FlowKeyData.Maps (kd : FlowKeyData) : Prop :=
  kd.operation = opcodeMap ∨ kd.operation = opcodePeer

instance (kd : FlowKeyData) : Decidable kd.Maps := inferInstanceAs (Decidable (_ ∨ _))

section Event

variable {x : FlowEnv} {v : Flow} {io : Io} {ev : FlowEvent}

/-- Handlers that do not look at the message keep the mapping. -/
theorem FlowMoves.mapping {x : FlowEnv} {r r' : Flow × Io} (h : FlowMoves x r r') (hm : x.msg = none) :
    r'.1.mapping = r.1.mapping := by
  obtain ⟨h₁, h₂, h₃⟩ := h.ext hm
  rw [Flow.mapping, h₁, h₂, h₃, Flow.mapping]

theorem failPhase_mapping (x : FlowEnv) (v : Flow) (io : Io) :
    (failPhase x v io).1.mapping = v.mapping := by
  unfold failPhase fhndlClearTimeouts
  cases x.msg <;> rfl

theorem waitPhase_mapping (x : FlowEnv) (v : Flow) (io : Io) :
    (waitPhase x v io).1.mapping = v.mapping := by
  have hwait : (fhndlWaitresp x { v with state := .waitResp } io).2.1.mapping = v.mapping := rfl
  unfold waitPhase
  generalize fhndlWaitresp x { v with state := .waitResp } io = r at hwait ⊢
  obtain ⟨ev, w, io'⟩ := r
  cases ev with
  | failed => exact (failPhase_mapping x w io').trans hwait
  | _ => exact hwait

theorem afterSend_mapping (x : FlowEnv) (r : FlowEvent × Flow × Io) :
    (afterSend x r).1.mapping = r.2.1.mapping := by
  obtain ⟨ev, v, io⟩ := r
  cases ev with
  | msgSent => exact waitPhase_mapping x v io
  | failed => exact failPhase_mapping x v io
  | _ => rfl

/-- What a handler sees without the message. -/
def FlowEnv.deaf (x : FlowEnv) : FlowEnv := { x with msg := none }

theorem sendPhase_mapping (x : FlowEnv) (v : Flow) (io : Io) :
    (sendPhase x v io).1.mapping = v.mapping := by
  have hmoves : (fhndlSend x { v with state := .send } io).2.1.mapping = v.mapping :=
    FlowMoves.mapping (fhndlSend_moves x.deaf { v with state := .send } io) rfl
  exact (afterSend_mapping x _).trans hmoves

theorem resendPhase_mapping (x : FlowEnv) (v : Flow) (io : Io) :
    (resendPhase x v io).1.mapping = v.mapping := by
  have hmoves : (fhndlResend x { v with state := .send } io).2.1.mapping = v.mapping :=
    FlowMoves.mapping (fhndlResend_moves x.deaf { v with state := .send } io) rfl
  exact (afterSend_mapping x _).trans hmoves

theorem renewPhase_mapping (x : FlowEnv) (v : Flow) (io : Io) :
    (renewPhase x v io).1.mapping = v.mapping := by
  have hmoves : (fhndlSendRenew x { v with state := .sendRenew } io).2.1.mapping = v.mapping :=
    FlowMoves.mapping (fhndlSendRenew_moves x.deaf { v with state := .sendRenew } io) rfl
  unfold renewPhase
  generalize fhndlSendRenew x { v with state := .sendRenew } io = r at hmoves ⊢
  obtain ⟨ev, w, io'⟩ := r
  cases ev with
  | msgSent => exact hmoves
  | _ => exact (sendPhase_mapping x w io').trans hmoves

theorem flowPhase_mapping {cur next : FlowState}
    (h : next = .waitForLifetimeRenew → ¬ (cur = .waitResp ∨ cur = .waitForLifetimeRenew)) :
    (flowPhase x cur next v io).1.mapping = v.mapping := by
  cases next with
  | idle => rfl
  | waitForServerInit =>
    simp only [flowPhase, fhndlClearTimeouts]
    cases x.msg <;> rfl
  | send =>
    simp only [flowPhase]
    split
    · exact resendPhase_mapping x v io
    · exact sendPhase_mapping x v io
  | waitResp => exact waitPhase_mapping x v io
  | waitAfterShortLifeError =>
    simp only [flowPhase, fhndlShortlifeerror]
    cases x.msg <;> rfl
  | waitForLifetimeRenew =>
    simp only [flowPhase, if_neg (h rfl)]
    rfl
  | sendRenew => exact renewPhase_mapping x v io
  | failed => exact failPhase_mapping x v io

/-- The rows by which a flow that waits gets to the state of a mapping. -/
theorem nextState_renew {cur : FlowState} (h : nextState cur ev = some .waitForLifetimeRenew)
    (hcur : cur = .waitResp ∨ cur = .waitForLifetimeRenew) : ev = .res resSuccess := by
  obtain ⟨r, hr, hfrom, heq⟩ := nextState_row h
  have htable : ∀ r ∈ flowEventsSm, r.2.2 = .waitForLifetimeRenew →
      (r.1 = some .waitResp ∨ r.1 = some .waitForLifetimeRenew ∨ r.1 = none) →
      r.2.1 = .res resSuccess := by
    decide
  have hrow := htable r hr (congrArg Prod.snd heq)
  rw [heq] at hrow
  apply hrow
  rcases hcur with rfl | rfl
  · exact hfrom.elim .inl fun h => .inr (.inr h)
  · exact hfrom.elim (fun h => .inr (.inl h)) fun h => .inr (.inr h)

/-- An event keeps the mapping, or it is a success whose grant the flow takes over. -/
theorem flowStep_mapping_cases (v : Flow) (io : Io) (hev : ev ≠ .msgSent) :
    (flowStep x ev v io).1.mapping = v.mapping ∨
      (ev = .res resSuccess ∧ ∃ m, x.msg = some m ∧
        (v.kd.Maps → (flowStep x ev v io).1.mapping = m.grant)) := by
  rw [flowStep_eq x v io hev]
  cases hn : nextState v.state ev with
  | none => exact .inl rfl
  | some next =>
    by_cases htake : next = .waitForLifetimeRenew ∧
        (v.state = .waitResp ∨ v.state = .waitForLifetimeRenew)
    · obtain ⟨rfl, hcur⟩ := htake
      cases hm : x.msg with
      | none =>
        left
        simp only [flowPhase, if_pos hcur, fhndlReceivedSuccess, hm]
        rfl
      | some m =>
        refine .inr ⟨nextState_renew hn hcur, m, rfl, fun hmaps => ?_⟩
        simp only [flowPhase, if_pos hcur, fhndlReceivedSuccess, hm]
        exact takeSuccess_mapping x.env.cfg m (v := { v with state := .waitForLifetimeRenew }) hmaps
    · exact .inl (flowPhase_mapping fun hnext hcur => htake ⟨hnext, hcur⟩)

theorem flowStep_kd (x : FlowEnv) (v : Flow) (io : Io) (hev : ev ≠ .msgSent) :
    (flowStep x ev v io).1.kd = v.kd :=
  (flowStep_moves x v io hev).frame.kept.kd

end Event

/-! ## Flows that hold a mapping -/

/-- The flow has been granted a mapping. -/
def Flow.Holds (v : Flow) : Prop := v.kd.Maps ∧ v.recvLifetime ≠ 0

/-- A mapping that is held after the change was held before it. -/
def Flow.Retains (v w : Flow) : Prop := w.Holds → w.mapping = v.mapping ∧ w.kd = v.kd

theorem Flow.Retains.of_eq {v w : Flow} (hm : w.mapping = v.mapping) (hkd : w.kd = v.kd) :
    v.Retains w := fun _ => ⟨hm, hkd⟩

theorem Flow.Retains.refl (v : Flow) : v.Retains v := .of_eq rfl rfl

theorem Flow.Retains.trans {u v w : Flow} (h₁ : u.Retains v) (h₂ : v.Retains w) : u.Retains w := by
  intro hw
  obtain ⟨hm, hkd⟩ := h₂ hw
  have hlife : w.recvLifetime = v.recvLifetime := congrArg (·.2.2) hm
  have hv : v.Holds := ⟨hkd ▸ hw.1, hlife ▸ hw.2⟩
  exact ⟨hm.trans (h₁ hv).1, hkd.trans (h₁ hv).2⟩

/-- No flow comes by a mapping. -/
structure Retained (c c' : Ctx) : Prop where
  flow : ∀ f, (c.heap f).Retains (c'.heap f)

section Calls

variable {e : Env} {c c' c'' : Ctx} {s : Nat}

theorem Retained.of_heap (h : c'.heap = c.heap) : Retained c c' := by
  refine ⟨fun f => ?_⟩
  rw [h]
  exact .refl _

theorem Retained.trans (h₁ : Retained c c') (h₂ : Retained c' c'') : Retained c c'' :=
  ⟨fun f => (h₁.flow f).trans (h₂.flow f)⟩

theorem Retained.setFlow {f : FlowId} {v : Flow} (hv : (c.heap f).Retains v) :
    Retained c (c.setFlow f v) := by
  refine ⟨fun g => ?_⟩
  rw [Ctx.setFlow_heap]
  by_cases hg : g = f
  · subst hg
    rw [Function.update_self]
    exact hv
  · rw [Function.update_of_ne hg]
    exact .refl _

theorem Retained.modFlow {f : FlowId} {g : Flow → Flow} (hg : (c.heap f).Retains (g (c.heap f))) :
    Retained c (c.modFlow f g) :=
  .setFlow hg

theorem Retained.flowUpdated (f : FlowId) : Retained c (pcpFlowUpdated e c f) := by
  refine ⟨fun g => ?_⟩
  rw [pcpFlowUpdated_heap]
  by_cases hg : g = f
  · subst hg
    rw [Function.update_self]
    exact .of_eq rfl rfl
  · rw [Function.update_of_ne hg]
    exact .refl _

theorem Retained.foldl {α : Type} {g : Ctx → α → Ctx} (hg : ∀ c x, Retained c (g c x)) (l : List α)
    (c : Ctx) : Retained c (l.foldl g c) := by
  induction l generalizing c with
  | nil => exact .of_heap rfl
  | cons x l ih => exact (hg c x).trans (ih _)

theorem updateChain_retained {g : Flow → Flow} (hg : ∀ v : Flow, v.Retains (g v)) (f : FlowId) :
    Retained c (updateChain e g c f) :=
  .foldl (fun _ i => (Retained.modFlow (hg _)).trans (.flowUpdated i)) _ c

theorem pcpFlowSetPreferFailureOpt_retained (f : FlowId) :
    Retained c (pcpFlowSetPreferFailureOpt e c f) := by
  refine .foldl (fun a i => ?_) _ c
  split
  · exact .of_heap rfl
  · exact (Retained.modFlow (.of_eq rfl rfl)).trans (.flowUpdated i)

theorem pcpDbAddMd_retains (mdId : UInt16) (val : List UInt8) (v : Flow) (io : Io) :
    v.Retains (pcpDbAddMd e mdId val v io).1 := by
  unfold pcpDbAddMd
  dsimp only
  split
  · exact .of_eq rfl rfl
  · split <;> exact .of_eq rfl rfl

theorem pcpFlowAddMd_retained (mdId : UInt32) (val : List UInt8) (f : FlowId) :
    Retained c (pcpFlowAddMd e mdId val c f) := by
  refine .foldl (fun a i => ?_) _ c
  have hset := pcpDbAddMd_retains (e := e) mdId.toUInt16 val (a.heap i) a.io
  generalize pcpDbAddMd e mdId.toUInt16 val (a.heap i) a.io = r at hset ⊢
  obtain ⟨v, io⟩ := r
  have hmid : Retained a { a.setFlow i v with io := io } :=
    (Retained.setFlow hset).trans (.of_heap rfl)
  exact hmid.trans (.flowUpdated i)

theorem setter_retained {op : Op} {f : FlowId} {g : Ctx → FlowId → Ctx} (h : op.setter e = some (f, g)) :
    Retained c (g c f) := by
  cases op with
  | setPreferFailureOpt f =>
    cases h
    exact pcpFlowSetPreferFailureOpt_retained f
  | addMd f i v =>
    cases h
    exact pcpFlowAddMd_retained i v f
  | setFlowp f u d =>
    cases h
    refine updateChain_retained ?_ f
    intro v
    split <;> exact .of_eq rfl rfl
  | setLifetime f | set3rdPartyOpt f | setFilterOpt f | setUserid f | setLocation f | setDeviceid f =>
    cases h
    refine updateChain_retained ?_ f
    exact fun v => .of_eq rfl rfl
  | _ => cases h

theorem Deleted.retained (h : Deleted c c') : Retained c c' := by
  refine ⟨fun f => ?_⟩
  obtain ⟨k, hk⟩ := h.heap f
  rw [hk]
  exact .of_eq rfl rfl

theorem pcpDeleteFlow_retained (f : FlowId) : Retained c (pcpDeleteFlow c f) :=
  .foldl (fun a g => (pcpDeleteFlowIntern_deleted a g).retained) _ c

theorem closeChain_retained (f : FlowId) : Retained c (closeChain e c f) := by
  refine (closeChain_acts (e := e) f).relate (fun _ => .of_heap rfl) (fun _ _ _ => .trans)
    fun k a b hk hact => ?_
  obtain ⟨g, -, rfl⟩ := hk
  cases hact with
  | close c g h =>
    have hzero : Retained a (a.modFlow g fun v => { v with lifetime := 0 }) :=
      .modFlow (.of_eq rfl rfl)
    exact hzero.trans (.flowUpdated g)
  | fail c g h => exact .modFlow (.of_eq rfl rfl)

/-- A flow that has just been made holds nothing. -/
theorem newFlowFields_recvLifetime (copied : Bool) (d : CaasiData) (v : Flow) :
    (newFlowFields copied d v).recvLifetime = v.recvLifetime := by
  unfold newFlowFields
  dsimp only
  split_ifs <;> cases d.extAddr <;> (dsimp only; try split_ifs)

theorem initialFlow_recvLifetime (copied : Bool) (s : Server) (t : Timeval) (d : CaasiData)
    (kd : FlowKeyData) (v : Server) : (initialFlow copied s t d (createdFlow kd v)).recvLifetime = 0 :=
  newFlowFields_recvLifetime copied d (createdFlow kd v)

theorem addNewFlow_retained {fl : Flow} (t : Timeval) (io : Io) (h : fl.recvLifetime = 0) :
    Retained c (addNewFlow c s fl t io) := by
  refine ⟨fun f => ?_⟩
  rw [addNewFlow_heap]
  split
  · exact fun hf => absurd h hf.2
  · exact .refl _

theorem chainAndAssignSrcIp_retained (d : CaasiData) (a : ChainAcc) (s : Nat) :
    Retained a.ctx (chainAndAssignSrcIp e d a s).ctx := by
  unfold chainAndAssignSrcIp
  by_cases hskip : a.stopped = true ∨ (a.ctx.pcpServers s).serverState = .unitialized
  · rw [if_pos hskip]
    exact .of_heap rfl
  rw [if_neg hskip]
  cases hkey : flowKeyFor d.kd (a.ctx.pcpServers s) with
  | none => exact .of_heap rfl
  | some kd =>
    cases hal : e.calloc a.ctx.io.callocs with
    | false =>
      have hcreate : pcpCreateFlow e a.ctx s kd = (none, a.ctx.callocCall) := by
        unfold pcpCreateFlow
        rw [hal]
        rfl
      simp only [hcreate]
      exact .of_heap rfl
    | true =>
      obtain ⟨c₁, hcreate, hinit⟩ := pcpCreateFlow_adds (d := d) (s := s) kd hal
      simp only [hcreate, hinit]
      have hadd := addNewFlow_retained (c := a.ctx) (s := s) (e.now a.ctx.io) a.ctx.callocCall.io.tick
        (initialFlow_recvLifetime (e.strdup a.ctx.heapTop) (a.ctx.pcpServers s) (e.now a.ctx.io) d kd
          (a.ctx.pcpServers s))
      cases a.fprev with
      | none => exact hadd
      | some p =>
        dsimp only
        exact hadd.trans (.modFlow (.of_eq rfl rfl))

theorem chainFlows_retained (d : CaasiData) : Retained c (chainFlows e c d).ctx := by
  unfold chainFlows
  generalize List.range c.pcpServersLength = l
  have hfold : ∀ a : ChainAcc, Retained a.ctx (l.foldl (chainAndAssignSrcIp e d) a).ctx := by
    induction l with
    | nil => exact fun _ => .of_heap rfl
    | cons s l ih => exact fun a => (chainAndAssignSrcIp_retained d a s).trans (ih _)
  exact hfold { ctx := c }

theorem pcpNewFlow_retained (src : SockAddr) (dst ext : Option SockAddr) (protocol : UInt8)
    (lifetime : UInt32) : Retained c (pcpNewFlow e c src dst ext protocol lifetime).2 := by
  obtain ⟨l, hl⟩ := newFlowKey_env e c src dst protocol
  unfold pcpNewFlow
  rcases hk : newFlowKey e c src dst protocol with ⟨r, c₁⟩
  rw [hk] at hl
  simp only at hl
  subst hl
  have hlookups : Retained c { c with lookups := l } := .of_heap rfl
  cases r with
  | none => exact hlookups
  | some kd =>
    dsimp only
    split
    · exact hlookups
    · rename_i ext' _
      have hpass := hlookups.trans (chainFlows_retained (e := e) ⟨kd, lifetime, some ext', 0, none⟩)
      generalize chainFlows e _ _ = a at hpass ⊢
      split
      · cases a.ffirst with
        | none => exact hpass
        | some f => exact hpass.trans (pcpDeleteFlow_retained f)
      · exact hpass

/-- Acts that only register servers. -/
theorem CallActs.retained {K : CallKind → Prop}
    (hK : ∀ k, K k → k = .env ∨ (∃ s, k = .fresh s) ∨ ∃ s found, k = .again s found)
    (h : CallActs e K c c') : Retained c c' := by
  refine h.relate (fun _ => .of_heap rfl) (fun _ _ _ => .trans) fun k a b hk hact => ?_
  rcases hK k hk with rfl | ⟨i, rfl⟩ | ⟨i, found, rfl⟩
  · cases hact with
    | env h =>
      rw [h.eq]
      exact .of_heap rfl
    | array => exact .of_heap rfl
  · cases hact
    exact .of_heap rfl
  · cases hact
    exact .of_heap rfl

/-- A call leaves the mappings alone. -/
theorem Op.exec_retained {op : Op} {n : Nat} (hc : CtxOk c) (hp : op.isPlain = true)
    (h : op.exec e n c = some c') : Retained c c' := by
  cases op with
  | addServer sa v =>
    refine (Op.exec_acts hc hp h).retained fun k hk => ?_
    cases k <;> first | exact .inl rfl | exact .inr (.inl ⟨_, rfl⟩) | exact .inr (.inr ⟨_, _, rfl⟩) | exact hk.elim
  | addGws gws =>
    refine (Op.exec_acts hc hp h).retained fun k hk => ?_
    cases k <;> first | exact .inl rfl | exact .inr (.inl ⟨_, rfl⟩) | exact .inr (.inr ⟨_, _, rfl⟩) | exact hk.elim
  | newFlow src dst ext p l =>
    cases h
    exact pcpNewFlow_retained ..
  | learnDscp d l j a =>
    cases h
    exact chainFlows_retained _
  | deleteFlow f =>
    cases h
    exact pcpDeleteFlow_retained f
  | setFlowChangeCb b =>
    cases h
    exact .of_heap rfl
  | closeFlow f dg => cases hp
  | pulse dg t => cases hp
  | setLifetime | set3rdPartyOpt | setFilterOpt | setPreferFailureOpt | setUserid | setLocation
  | setDeviceid | addMd | setFlowp =>
    simp only [Op.exec, Option.map_eq_some_iff] at h
    obtain ⟨p, hp', rfl⟩ := h
    exact setter_retained (f := p.1) (g := p.2) hp'

end Calls

/-! ## The log of events -/

/-- The entry is the success that gave the flow the mapping of `v`. -/
structure Handled.Grants (f : FlowId) (v : Flow) (g : Handled) : Prop where
  flow : g.flow = f
  ev : g.ev = .res resSuccess
  kd : g.old.kd = v.kd
  msg : ∃ m, g.msg = some m ∧ v.mapping = m.grant

/-- Every mapping held is the one of a success in the log. -/
def Accounted (c : Ctx) : Prop :=
  ∀ f, (c.heap f).Holds → ∃ g ∈ c.handled, g.Grants f (c.heap f)

section Log

variable {e : Env} {c c' : Ctx} {s : Nat} {k : ActKind}

theorem Accounted.retained (hl : Accounted c) (hr : Retained c c') (hlog : c'.handled = c.handled) :
    Accounted c' := by
  intro f hf
  obtain ⟨hm, hkd⟩ := hr.flow f hf
  have hlife : (c'.heap f).recvLifetime = (c.heap f).recvLifetime := congrArg (·.2.2) hm
  obtain ⟨g, hg, hgrants⟩ := hl f ⟨hkd ▸ hf.1, hlife ▸ hf.2⟩
  refine ⟨g, hlog ▸ hg, hgrants.flow, hgrants.ev, hgrants.kd.trans hkd.symm, ?_⟩
  obtain ⟨m, hmsg, hgrant⟩ := hgrants.msg
  exact ⟨m, hmsg, hm.trans hgrant⟩

theorem Accounted.event (hl : Accounted c) {f : FlowId} {ev : FlowEvent} {m : Option RecvMsg}
    (hev : ev ≠ .msgSent) : Accounted (handleFlowEvent e c f ev m) := by
  intro i hi
  rw [handleFlowEvent_heap] at hi ⊢
  rw [handleFlowEvent_handled]
  by_cases hif : i = f
  · subst hif
    rw [Function.update_self] at hi ⊢
    have hkd := flowStep_kd (c.flowEnv e i m) (c.heap i) c.io hev
    rcases flowStep_mapping_cases (x := c.flowEnv e i m) (c.heap i) c.io hev with
      hsame | ⟨hsucc, m', hm', hgrant⟩
    · have hlife : (flowStep (c.flowEnv e i m) ev (c.heap i) c.io).1.recvLifetime =
          (c.heap i).recvLifetime := congrArg (·.2.2) hsame
      obtain ⟨g, hg, hgrants⟩ := hl i ⟨hkd ▸ hi.1, hlife ▸ hi.2⟩
      refine ⟨g, List.mem_cons_of_mem _ hg, hgrants.flow, hgrants.ev, hgrants.kd.trans hkd.symm, ?_⟩
      obtain ⟨m'', hmsg, hmap⟩ := hgrants.msg
      exact ⟨m'', hmsg, hsame.trans hmap⟩
    · exact ⟨handledEvent e c i ev m, List.mem_cons_self, rfl, hsucc, hkd.symm, m', hm',
        hgrant (hkd ▸ hi.1)⟩
  · rw [Function.update_of_ne hif] at hi ⊢
    obtain ⟨g, hg, hgrants⟩ := hl i hi
    exact ⟨g, List.mem_cons_of_mem _ hg, hgrants⟩

/-- The announcement of a server is no request for a mapping. -/
theorem createNatpmpAnnMsg_retained : Retained c (createNatpmpAnnMsg e c s).2 := by
  rcases createNatpmpAnnMsg_cases e c s with h | ⟨fl, -, -, -, -, -, hkd, h⟩
  · rw [h]
    exact .of_heap rfl
  · rw [h]
    refine ⟨fun f => ?_⟩
    simp only [pcpDbAddFlow, Ctx.modFlow, Ctx.modServer, Ctx.setFlow_heap, Ctx.setServer_heap]
    by_cases hf : f = c.heapTop
    · subst hf
      simp only [Function.update_self]
      intro hmaps
      have hop : fl.kd.operation = natpmpOpcodeAnnounce := by rw [hkd]
      rcases hmaps.1 with hm | hm <;>
        exact absurd (hop.symm.trans hm) (by decide)
    · simp only [Function.update_of_ne hf]
      exact .refl _

theorem Act.accounted (h : Act e s k c c') (hl : Accounted c) : Accounted c' := by
  cases h with
  | tick | server | version | reveal | extAddr => exact hl.retained (.of_heap rfl) rfl
  | reset c f r ho => exact hl.retained (.modFlow (.of_eq rfl rfl)) rfl
  | putBack c f ho => exact hl.retained (.modFlow (.of_eq rfl rfl)) rfl
  | align k c f hk ht => exact hl.retained (.modFlow (.of_eq rfl rfl)) rfl
  | event c f ev ho hev => exact hl.event hev.ne_msgSent
  | expire k c f hk ht =>
    have hal : Accounted (c.tick.modFlow f alignTimer) :=
      hl.retained ((Retained.of_heap (by rfl)).trans (.modFlow (.of_eq rfl rfl))) rfl
    exact hal.event (by simp)
  | response c f ho => exact hl.event (by simp)
  | announce c => exact hl.retained createNatpmpAnnMsg_retained (createNatpmpAnnMsg_unheard e c s).handled

/-- The servers keep the log true, whatever they are sent. -/
theorem accounted_kept (e : Env) : KeptByServers e Accounted where
  act h hi := h.accounted hi
  msg _ hi := hi

/-! ## What the entries were made from -/

/-- An entry with a message was made from the message `m`: a flow that asks for a mapping has its key,
and what the flow takes over is what the message says. Only NAT-PMP has the address from elsewhere. -/
structure Answered (m : RecvMsg) (g : Handled) : Prop where
  ev : g.ev = .res m.recvResult
  key : g.old.kd.Maps → g.old.kd = m.kd
  msg : g.old.kd.Maps → ∃ ip, g.msg = some { m with assignedExtIp := ip } ∧
    (m.recvVersion ≠ 0 → ip = m.assignedExtIp)

/-- What is new in the log has no message or was made from `m`. -/
def Hears (m : RecvMsg) (c c' : Ctx) : Prop :=
  ∃ new, c'.handled = new ++ c.handled ∧ ∀ g ∈ new, g.msg = none ∨ Answered m g

theorem Mute.hears {m : RecvMsg} (h : Mute c c') : Hears m c c' := by
  obtain ⟨new, heq, hnone⟩ := h.handled
  exact ⟨new, heq, fun g hg => .inl (hnone g hg)⟩

theorem Hears.trans {m : RecvMsg} {c'' : Ctx} (h₁ : Hears m c c') (h₂ : Hears m c' c'') :
    Hears m c c'' := by
  obtain ⟨new₁, heq₁, hg₁⟩ := h₁
  obtain ⟨new₂, heq₂, hg₂⟩ := h₂
  refine ⟨new₂ ++ new₁, by rw [heq₂, heq₁, List.append_assoc], fun g hg => ?_⟩
  rcases List.mem_append.mp hg with hg | hg
  · exact hg₂ g hg
  · exact hg₁ g hg

/-- The flow a message is matched to: by its key, or a server's own announcement. -/
theorem matchRcvdMsg_matched (c : Ctx) (s : Nat) :
    ∃ ip, (matchRcvdMsg c s).2.msg = { c.msg with assignedExtIp := ip } ∧
      (matchRcvdMsg c s).2.heap = c.heap ∧ (matchRcvdMsg c s).2.handled = c.handled ∧
      (c.msg.recvVersion ≠ 0 → ip = c.msg.assignedExtIp) ∧
      ∀ f, (matchRcvdMsg c s).1 = some f → (c.heap f).kd.Maps → (c.heap f).kd = c.msg.kd := by
  have hfound : ∀ f, pcpGetFlow c c.msg.kd s = some f → (c.heap f).kd = c.msg.kd :=
    fun f hf => (pcpGetFlow_some hf).2.2
  unfold matchRcvdMsg
  dsimp only
  split
  · rename_i hver
    split
    · refine ⟨c.msg.assignedExtIp, ?_⟩
      split
      · rename_i p hp
        split
        · rename_i hann
          refine ⟨rfl, rfl, rfl, fun _ => rfl, fun f hf hmaps => ?_⟩
          cases hf
          have hop : (c.heap p).kd.operation = opcodeAnnounce := hann.2
          rcases hmaps with hm | hm <;> exact absurd (hop.symm.trans hm) (by decide)
        · exact ⟨rfl, rfl, rfl, fun _ => rfl, fun f hf => by cases hf⟩
      · exact ⟨rfl, rfl, rfl, fun _ => rfl, fun f hf => by cases hf⟩
    · exact ⟨_, rfl, rfl, rfl, fun hne => absurd hver hne, fun f hf _ => hfound f hf⟩
  · exact ⟨c.msg.assignedExtIp, rfl, rfl, rfl, fun _ => rfl, fun f hf _ => hfound f hf⟩

theorem serverProcessRcvdPcpMsg_hears (e : Env) (s : Nat) (c : Ctx) :
    Hears c.msg c (serverProcessRcvdPcpMsg e c s).2 := by
  obtain ⟨ip, hmsg, hheap, hlog, hip, hkey⟩ := matchRcvdMsg_matched c s
  unfold serverProcessRcvdPcpMsg
  generalize matchRcvdMsg c s = r at *
  obtain ⟨found, b⟩ := r
  dsimp only at *
  cases found with
  | none => exact ⟨[], hlog, fun g hg => by cases hg⟩
  | some f =>
    dsimp only
    refine ⟨[handledEvent e b f (.res b.msg.recvResult) (some b.msg)], ?_, fun g hg => .inr ?_⟩
    · rw [handleFlowEvent_handled, hlog]
      rfl
    · rw [List.mem_singleton.mp hg]
      refine ⟨?_, fun hmaps => ?_, fun _ => ⟨ip, congrArg some hmsg, hip⟩⟩
      · simp only [handledEvent, hmsg]
      · simp only [handledEvent, hheap] at hmaps ⊢
        exact hkey f rfl hmaps

theorem runServerStateMachine_hears (e : Env) (c : Ctx) (s : Nat) :
    Hears c.msg c (runServerStateMachine e c s .ioEvent) := by
  obtain ⟨h, hh⟩ := serverHandler_total (c.pcpServers s).serverState .ioEvent
  by_cases hp : h.Processes e c s
  · have w := mute_writes e s
    obtain ⟨hstart, hend⟩ := w.records.processed h c hp
    have hsame : (h.start e c s).msg = c.msg := by cases h <;> rfl
    have hprocess := serverProcessRcvdPcpMsg_hears e s (h.start e c s)
    rw [hsame] at hprocess
    rw [runServerStateMachine_eq hh]
    exact (hstart.hears.trans hprocess).trans (hend.trans (w.modServer _ rfl)).hears
  · exact (runServerStateMachine_mute hh hp).hears

end Log

/-! ## Runs -/

/-- The datagram a call may find on the socket. -/
def Op.datagram : Op → Option Datagram
  | .closeFlow _ dg | .pulse dg _ => dg
  | _ => none

/-- What `read_msg` makes of a datagram at the time `t`. -/
def receivedMsg (dg : Datagram) (t : Int) : RecvMsg :=
  { RecvMsg.zero with
    pcpMsgBuffer := Buf.ofList (dg.bytes.take pcpMaxLen), pcpMsgLen := (dg.bytes.take pcpMaxLen).length
    rcvdFromAddr := dg.src, rcvdToAddr := dg.dst, receivedTime := t }

/-- The message is the completed one of the datagram, received at some reading of the clock, for a server
with the address of its sender. -/
def MadeFrom (e : Env) (dg : Datagram) (m : RecvMsg) : Prop :=
  ∃ i m₀ sv scope, parseResponse e.cfg (receivedMsg dg (e.clock i).tvSec) = (.success, m₀) ∧
    m = completeKey sv scope m₀ ∧ sv.pcpIp = (pcpFillIn6Addr (.any, 0, 0) dg.src).1

/-- The log of a client that has received only datagrams that are in `D`. -/
structure GrantLog (e : Env) (D : Datagram → Prop) (c : Ctx) : Prop where
  accounted : Accounted c
  made : ∀ g ∈ c.handled, g.msg = none ∨ ∃ dg m, D dg ∧ MadeFrom e dg m ∧ Answered m g

section Runs

variable {e : Env} {D : Datagram → Prop} {c c' : Ctx} {s : Nat} {dg : Datagram}

theorem received_madeFrom (h : acceptMsg e (readMsg e c dg) = (some s, c')) :
    MadeFrom e dg c'.msg := by
  have hread : (readMsg e c dg).msg = receivedMsg dg (e.now c.io).tvSec := rfl
  have horigin := parseResponse_origin e.cfg (readMsg e c dg).msg
  unfold acceptMsg at h
  split at h
  · split at h
    · rename_i m₀ hparse
      rw [hparse] at horigin
      have hfrom : m₀.rcvdFromAddr = dg.src := horigin.rcvdFromAddr
      dsimp only at h
      split at h
      · rename_i i hfind
        cases h
        refine ⟨c.io.ticks, m₀, c.pcpServers s, _, hread ▸ hparse, rfl, ?_⟩
        have hcond := List.find?_some hfind
        simp only [Bool.and_eq_true, beq_iff_eq, hfrom] at hcond
        exact hcond.1
      · cases h
    · cases h
  · cases h

theorem GrantLog.mono {D' : Datagram → Prop} (hg : GrantLog e D c) (h : ∀ dg, D dg → D' dg) :
    GrantLog e D' c := by
  refine ⟨hg.accounted, fun g hm => ?_⟩
  rcases hg.made g hm with hnone | ⟨dg, m, hd, hmade, hans⟩
  · exact .inl hnone
  · exact .inr ⟨dg, m, h dg hd, hmade, hans⟩

theorem GrantLog.hears {m : RecvMsg} (hg : GrantLog e D c) (hl : Accounted c') (h : Hears m c c')
    (hd : D dg) (hm : MadeFrom e dg m) : GrantLog e D c' := by
  obtain ⟨new, heq, hnew⟩ := h
  refine ⟨hl, fun g hmem => ?_⟩
  rw [heq] at hmem
  rcases List.mem_append.mp hmem with hmem' | hmem'
  · rcases hnew g hmem' with hnone | hans
    · exact .inl hnone
    · exact .inr ⟨dg, m, hd, hm, hans⟩
  · exact hg.made g hmem'

theorem GrantLog.mute (hg : GrantLog e D c) (hl : Accounted c') (h : Mute c c') : GrantLog e D c' := by
  obtain ⟨new, heq, hnone⟩ := h.handled
  refine ⟨hl, fun g hmem => ?_⟩
  rw [heq] at hmem
  exact (List.mem_append.mp hmem).elim (fun h => .inl (hnone g h)) (hg.made g)

theorem GrantLog.received (hg : GrantLog e D c) {r : Option Nat}
    (h : acceptMsg e (readMsg e c dg) = (r, c')) : GrantLog e D c' := by
  obtain ⟨⟨m, rfl⟩, -⟩ := received_eq h
  exact ⟨hg.accounted, hg.made⟩

/-- The steps of a pulse that finds a datagram that is in `D`, if it finds one. -/
theorem GrantLog.micro (hg : GrantLog e D c) (he : e.ClockMono) (hc : CtxOk c) {l : MicroOp}
    (hl : l.isPulse = true) (h : Micro e l c c') (hd : ∀ dg s, l = .recv dg s → D dg) :
    GrantLog e D c' := by
  have hacc : Accounted c' := (accounted_kept e).micro h hl hc hg.accounted
  cases h with
  | call hp h => cases hl
  | close hlive => cases hl
  | quiet => exact ⟨hg.accounted, hg.made⟩
  | drop h => exact hg.received h
  | @recv dg s c c₁ h =>
    exact (hg.received h).hears hacc (runServerStateMachine_hears e c₁ s) (hd dg s rfl)
      (received_madeFrom h)
  | @fire i c hlive hdue => exact hg.mute hacc (fire_mute he hdue)
  | @settle i c hlive hdue => exact hg.mute hacc (settle_mute e i c)

theorem GrantLog.retained (hg : GrantLog e D c) (hr : Retained c c') (hlog : c'.handled = c.handled) :
    GrantLog e D c' :=
  ⟨hg.accounted.retained hr hlog, fun g hm => hg.made g (hlog ▸ hm)⟩

theorem GrantLog.step (hg : GrantLog e D c) (he : e.ClockMono) (hc : CtxOk c) {op : Op}
    (h : Step e c op c') (hd : ∀ dg ∈ op.datagram, D dg) : GrantLog e D c' := by
  have hpulse : ∀ {l : MicroOp} {dg : Option Datagram} {c₀ c₁ c₂ : Ctx}, GrantLog e D c₀ → CtxOk c₀ →
      (∀ d ∈ dg, D d) → l.Receives dg → Micro e l c₀ c₁ → TimerSteps e c₁ c₂ → GrantLog e D c₂ := by
    intro l dg c₀ c₁ c₂ hg hc hd hl hm ht
    have h₁ : CtxOk c₁ ∧ GrantLog e D c₁ := by
      refine ⟨hm.ctxOk hl.isPulse hc, hg.micro he hc hl.isPulse hm fun d s hrecv => ?_⟩
      subst hrecv
      exact hd d hl
    refine (ht.invariant (I := fun a => CtxOk a ∧ GrantLog e D a) (fun l a b ha hl hm => ?_) h₁).2
    have hp := MicroOp.isPulse_of_isTimer hl
    refine ⟨hm.ctxOk hp ha.1, ha.2.micro he ha.1 hp hm fun d s hrecv => ?_⟩
    subst hrecv
    cases hl
  cases (h.cases hc).1 with
  | call hp hstep hacts =>
    exact hg.retained (Op.exec_retained hc hp (step_exec hstep).2) hacts.silent.handled
  | @close f dg l c₁ c' hlive hl hm ht =>
    have hclose := closeChain_acts (e := e) (c := c) f
    exact hpulse (hg.retained (closeChain_retained f) hclose.silent.handled) (hclose.ctxOk hc) hd hl hm ht
  | pulse hl hm ht => exact hpulse hg hc hd hl hm ht

theorem GrantLog.empty : GrantLog e D {} :=
  ⟨fun _ hf => absurd rfl hf.2, fun _ hm => by cases hm⟩

/-- The mapping of the flow is what the datagram grants to the flow with its key. -/
def GrantedIn (e : Env) (dg : Datagram) (v : Flow) : Prop :=
  ∃ m ip, MadeFrom e dg m ∧ m.recvResult = resSuccess ∧ v.kd = m.kd ∧
    v.mapping = { m with assignedExtIp := ip }.grant ∧ (m.recvVersion ≠ 0 → ip = m.assignedExtIp)

theorem GrantLog.holds (hg : GrantLog e D c) {f : FlowId} (hf : (c.heap f).Holds) :
    ∃ dg, D dg ∧ GrantedIn e dg (c.heap f) := by
  obtain ⟨g, hmem, hgrants⟩ := hg.accounted f hf
  obtain ⟨m', hm', hmap⟩ := hgrants.msg
  have hmaps : g.old.kd.Maps := hgrants.kd ▸ hf.1
  rcases hg.made g hmem with hnone | ⟨dg, m, hd, hmade, hans⟩
  · rw [hnone] at hm'
    cases hm'
  · obtain ⟨ip, hmsg, hip⟩ := hans.msg hmaps
    rw [hm'] at hmsg
    cases hmsg
    have hres : m.recvResult = resSuccess := FlowEvent.res.inj (hans.ev.symm.trans hgrants.ev)
    exact ⟨dg, hd, m, ip, hmade, hres, hgrants.kd.symm.trans (hans.key hmaps), hmap, hip⟩

/-- Every mapping a client holds was granted to it by a datagram it has received: a success from the
address of the flow's server, with the key of the flow, whose address, port and lifetime the flow has. -/
theorem mapping_granted (he : e.ClockMono)
    (h : Runs e (fun _ op => ∀ dg ∈ op.datagram, D dg) {} c) {f : FlowId} (hf : (c.heap f).Holds) :
    ∃ dg, D dg ∧ GrantedIn e dg (c.heap f) := by
  have hinv := h.invariant (I := fun c => CtxOk c ∧ GrantLog e D c) (fun op a b hi hd hs => ?_)
    ⟨.empty, .empty⟩
  · exact hinv.2.holds hf
  · exact ⟨(hs.cases hi.1).2, hi.2.step he hi.1 hs hd⟩

end Runs

def grantedCtx : Ctx :=
  runTo (.calm {}) (fun _ op => ∀ dg ∈ op.datagram, dg = mapGranted) 12 {}
    (waitingFlow ++ [.pulse (some mapGranted) .zero])

theorem mapping_granted_calm :
    ∃ dg, dg = mapGranted ∧ GrantedIn (.calm {}) dg (grantedCtx.heap 0) := by
  have hruns : Runs (.calm {}) (fun _ op => ∀ dg ∈ op.datagram, dg = mapGranted) {} grantedCtx :=
    Runs.runTo (by decide +kernel)
  have hholds : (grantedCtx.heap 0).Holds := ⟨by decide +kernel, by decide +kernel⟩
  exact mapping_granted calm_clock.1 hruns hholds

end LibPcp
