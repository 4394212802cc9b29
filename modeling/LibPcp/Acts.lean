import LibPcp.Steps
import LibPcp.FlowSteps
import LibPcp.ServerMachine

/-!
# LibPcp.Acts

What the handlers of one server do, as sequences of acts.

An act of server `s` is one small change: the clock is read, the record of `s` is updated, a flow gets
an event. `Act` lists them by kind, and a handler is a sequence of acts of the kinds it needs
(`LibPcp.Handlers`). An invariant is then checked once for every act.

* `Frame`: what every sequence of acts leaves alone, and where requests go.
* `Wf`: the table is in order and the ping flow of `s` is a flow of `s`. Acts keep it.
-/

namespace LibPcp

open LabelledSteps

/-! ## Events -/

section Event

variable (e : Env) (c : Ctx) (f : FlowId) (ev : FlowEvent) (m : Option RecvMsg)

/-- The context after `handle_flow_event` but for the notifications. -/
theorem handleFlowEvent_eq :
    ∃ ns, handleFlowEvent e c f ev m =
      { c.setFlow f (flowStep (c.flowEnv e f m) ev (c.heap f) c.io).1 with
        io := (flowStep (c.flowEnv e f m) ev (c.heap f) c.io).2
        handled := handledEvent e c f ev m :: c.handled
        notified := ns } := by
  unfold handleFlowEvent
  dsimp only
  split
  · unfold flowChangeNotify
    split
    · exact ⟨_, rfl⟩
    · exact ⟨c.notified, rfl⟩
  · exact ⟨c.notified, rfl⟩

@[simp] theorem handleFlowEvent_pcpServers :
    (handleFlowEvent e c f ev m).pcpServers = c.pcpServers := by
  obtain ⟨ns, h⟩ := handleFlowEvent_eq e c f ev m
  rw [h]
  rfl

@[simp] theorem handleFlowEvent_pcpServersLength :
    (handleFlowEvent e c f ev m).pcpServersLength = c.pcpServersLength := by
  obtain ⟨ns, h⟩ := handleFlowEvent_eq e c f ev m
  rw [h]
  rfl

@[simp] theorem handleFlowEvent_flows : (handleFlowEvent e c f ev m).flows = c.flows := by
  obtain ⟨ns, h⟩ := handleFlowEvent_eq e c f ev m
  rw [h]
  rfl

@[simp] theorem handleFlowEvent_heapTop : (handleFlowEvent e c f ev m).heapTop = c.heapTop := by
  obtain ⟨ns, h⟩ := handleFlowEvent_eq e c f ev m
  rw [h]
  rfl

@[simp] theorem handleFlowEvent_handled :
    (handleFlowEvent e c f ev m).handled = handledEvent e c f ev m :: c.handled := by
  obtain ⟨ns, h⟩ := handleFlowEvent_eq e c f ev m
  rw [h]

@[simp] theorem handleFlowEvent_msg : (handleFlowEvent e c f ev m).msg = c.msg := by
  obtain ⟨ns, h⟩ := handleFlowEvent_eq e c f ev m
  rw [h]
  rfl

@[simp] theorem handleFlowEvent_heap :
    (handleFlowEvent e c f ev m).heap =
      Function.update c.heap f (flowStep (c.flowEnv e f m) ev (c.heap f) c.io).1 := by
  obtain ⟨ns, h⟩ := handleFlowEvent_eq e c f ev m
  rw [h]
  rfl

@[simp] theorem handleFlowEvent_io :
    (handleFlowEvent e c f ev m).io = (flowStep (c.flowEnv e f m) ev (c.heap f) c.io).2 := by
  obtain ⟨ns, h⟩ := handleFlowEvent_eq e c f ev m
  rw [h]

end Event

/-- The events the server handlers send to a flow of their own accord. -/
def FlowEvent.Plain : FlowEvent → Prop
  | .flowTimedout | .serverInitialized | .send | .failed | .serverRestarted => True
  | _ => False

theorem FlowEvent.Plain.ne_msgSent {ev : FlowEvent} (h : ev.Plain) : ev ≠ .msgSent := by
  rintro rfl
  exact h

/-! ## Acts -/

/-- The fields of a server record that no handler changes. -/
structure Server.Same (v w : Server) : Prop where
  af : w.af = v.af
  pcpIp : w.pcpIp = v.pcpIp
  pcpPort : w.pcpPort = v.pcpPort
  pcpScopeId : w.pcpScopeId = v.pcpScopeId
  srcIp : w.srcIp = v.srcIp
  pcpServerSaddr : w.pcpServerSaddr = v.pcpServerSaddr
  nonce : w.nonce = v.nonce
  index : w.index = v.index
  live : w.serverState = .unitialized ↔ v.serverState = .unitialized

theorem Server.Same.refl (v : Server) : v.Same v := ⟨rfl, rfl, rfl, rfl, rfl, rfl, rfl, rfl, .rfl⟩

theorem Server.Same.trans {u v w : Server} (a : u.Same v) (b : v.Same w) : u.Same w :=
  ⟨b.af.trans a.af, b.pcpIp.trans a.pcpIp, b.pcpPort.trans a.pcpPort,
    b.pcpScopeId.trans a.pcpScopeId, b.srcIp.trans a.srcIp,
    b.pcpServerSaddr.trans a.pcpServerSaddr, b.nonce.trans a.nonce, b.index.trans a.index,
    b.live.trans a.live⟩

/-- An ordinary update of a record: `restart_flow_msg` may be cleared but not set. -/
structure Server.Keeps (v w : Server) : Prop extends Server.Same v w where
  pcpVersion : w.pcpVersion = v.pcpVersion
  restartFlowMsg : w.restartFlowMsg = v.restartFlowMsg ∨ w.restartFlowMsg = none

/-- Flow `f` has been allocated and belongs to server `s`. -/
def Own (c : Ctx) (s : Nat) (f : FlowId) : Prop :=
  f < c.heapTop ∧ (c.heap f).pcpServerIndx = (c.pcpServers s).index

def alignTimer (v : Flow) : Flow := { v with timeout := timevalAlign v.timeout }

/-- A flow whose retransmissions start anew. -/
def Flow.resetCount (r : UInt32) (v : Flow) : Flow := { v with retryCount := 0, resendTimeout := r }

/-- A ping flow that is replaced. -/
def Flow.putBack (v : Flow) : Flow := { v with state := .waitForServerInit, timeout := .zero }

inductive ActKind where
  | own
  | walk
  | response
  | version
  | reveal
  | announce
  deriving DecidableEq

/-- The flows an act of the given kind may be about. -/
def Reaches (k : ActKind) (c : Ctx) (s : Nat) (f : FlowId) : Prop :=
  (k = .own ∧ Own c s f) ∨ (k = .walk ∧ f < c.heapTop ∧ f ∈ c.allFlows)

inductive Act (e : Env) (s : Nat) : ActKind → Ctx → Ctx → Prop where
  | tick (c : Ctx) : Act e s .own c c.tick
  | server (c : Ctx) (v : Server) (h : (c.pcpServers s).Keeps v)
      (hp : ∀ p, v.pingFlowMsg = some p →
        (c.pcpServers s).pingFlowMsg = some p ∨ (Own c s p ∧ p ∈ c.allFlows)) :
      Act e s .own c (c.setServer s v)
  | reset (c : Ctx) (f : FlowId) (r : UInt32) (ho : Own c s f) :
      Act e s .own c (c.modFlow f (Flow.resetCount r))
  | event (c : Ctx) (f : FlowId) (ev : FlowEvent) (ho : Own c s f) (hev : ev.Plain) :
      Act e s .own c (handleFlowEvent e c f ev none)
  | align (k : ActKind) (c : Ctx) (f : FlowId) (hk : Reaches k c s f)
      (ht : (c.heap f).timeout.isZero = false) :
      Act e s k c (c.modFlow f alignTimer)
  | expire (k : ActKind) (c : Ctx) (f : FlowId) (hk : Reaches k c s f)
      (ht : (c.heap f).timeout.isZero = false) :
      Act e s k c (handleFlowEvent e (c.tick.modFlow f alignTimer) f .flowTimedout none)
  | response (c : Ctx) (f : FlowId) (ho : Own c s f) :
      Act e s .response c (handleFlowEvent e c f (.res c.msg.recvResult) (some c.msg))
  | extAddr (c : Ctx) (a : In6Addr) :
      Act e s .response c { c with msg := { c.msg with assignedExtIp := a } }
  | version (c : Ctx) (n : UInt8) :
      Act e s .version c (c.modServer s fun v => { v with pcpVersion := n })
  | reveal (c : Ctx) (f : Option FlowId) (h : ∀ g, f = some g → Own c s g) :
      Act e s .reveal c (c.modServer s fun v => { v with restartFlowMsg := f })
  | putBack (c : Ctx) (f : FlowId) (ho : Own c s f) : Act e s .announce c (c.modFlow f Flow.putBack)
  | announce (c : Ctx) : Act e s .announce c (createNatpmpAnnMsg e c s).2

/-- A sequence of acts of the kinds `K`. -/
abbrev Acts (e : Env) (s : Nat) (K : List ActKind) : Ctx → Ctx → Prop :=
  Steps (Act e s) fun _ k => k ∈ K

theorem Acts.trans {e : Env} {s : Nat} {K : List ActKind} {c₁ c₂ c₃ : Ctx} (h₁ : Acts e s K c₁ c₂)
    (h₂ : Acts e s K c₂ c₃) : Acts e s K c₁ c₃ :=
  Steps.trans h₁ h₂

theorem Act.single {e : Env} {s : Nat} {k : ActKind} {K : List ActKind} {c c' : Ctx}
    (h : Act e s k c c') (hk : k ∈ K) : Acts e s K c c' :=
  Steps.single h hk

/-! ## The flow table under acts -/

/-- The table stays in order when keys and buckets stay. -/
theorem TableOk.congr {c c' : Ctx} (h : TableOk c) (hf : c'.flows = c.flows)
    (ht : c.heapTop ≤ c'.heapTop) (hk : ∀ f, f < c.heapTop →
      (c'.heap f).kd = (c.heap f).kd ∧ (c'.heap f).keyBucket = (c.heap f).keyBucket) :
    TableOk c' := by
  refine ⟨fun b f hm => ?_, fun b => hf ▸ h.nodup b, fun b f hm => ?_⟩
  · rw [hf] at hm
    obtain ⟨hkd, hkb⟩ := hk f (h.fresh b f hm)
    rw [hkb, hkd]
    exact h.bucket b f hm
  · rw [hf] at hm
    exact Nat.lt_of_lt_of_le (h.fresh b f hm) ht

theorem TableOk.of_kept {c c' : Ctx} (h : TableOk c) (hf : c'.flows = c.flows)
    (ht : c.heapTop ≤ c'.heapTop) (hk : ∀ f, f < c.heapTop → (c.heap f).Kept (c'.heap f)) :
    TableOk c' :=
  h.congr hf ht fun f hlt => ⟨(hk f hlt).kd, (hk f hlt).keyBucket⟩

theorem TableOk.add {c : Ctx} (h : TableOk c) {f : FlowId} (hf : ∀ b, f ∉ c.flows b)
    (hlt : f < c.heapTop) : TableOk (pcpDbAddFlow c (some f)) := by
  have hmem : ∀ b g, g ∈ (pcpDbAddFlow c (some f)).flows b →
      g ∈ c.flows b ∨ (g = f ∧ b = computeFlowKey (c.heap f).kd) := by
    intro b g hg
    simp only [pcpDbAddFlow] at hg
    by_cases hb : b = computeFlowKey (c.heap f).kd
    · subst hb
      rw [Function.update_self] at hg
      rcases List.mem_append.mp hg with hg | hg
      · exact .inl hg
      · exact .inr ⟨List.mem_singleton.mp hg, rfl⟩
    · rw [Function.update_of_ne hb] at hg
      exact .inl hg
  refine ⟨fun b g hg => ?_, fun b => ?_, fun b g hg => ?_⟩
  · rcases hmem b g hg with hold | ⟨rfl, rfl⟩
    · have hne : g ≠ f := by
        rintro rfl
        exact hf b hold
      simp only [pcpDbAddFlow, Ctx.modFlow, Ctx.setFlow, Function.update_of_ne hne]
      exact h.bucket b g hold
    · simp [pcpDbAddFlow, Ctx.modFlow]
  · simp only [pcpDbAddFlow]
    by_cases hb : b = computeFlowKey (c.heap f).kd
    · subst hb
      rw [Function.update_self]
      refine List.nodup_append.mpr ⟨h.nodup _, by simp, ?_⟩
      intro a ha b hb hab
      rw [List.mem_singleton.mp hb] at hab
      exact hf _ (hab ▸ ha)
    · rw [Function.update_of_ne hb]
      exact h.nodup b
  · rcases hmem b g hg with hg | ⟨rfl, -⟩
    · exact h.fresh b g hg
    · exact hlt

/-- The context `create_natpmp_ann_msg` leaves when the flow can be allocated. -/
theorem createNatpmpAnnMsg_cases (e : Env) (c : Ctx) (s : Nat) :
    createNatpmpAnnMsg e c s =
        (none, c.callocCall.modServer s fun v => { v with pingFlowMsg := none }) ∨
      ∃ fl : Flow, fl.pcpServerIndx = (c.pcpServers s).index ∧ fl.nextChild = none ∧
        fl.lifetime = 0 ∧ (fl.pcpMsgBuffer = none ∧ fl.pcpMsgLen = 0) ∧ fl.state = .idle ∧
        fl.kd = { FlowKeyData.zero with
          srcIp := (c.pcpServers s).srcIp, pcpServerIp := (c.pcpServers s).pcpIp,
          nonce := (c.pcpServers s).nonce, operation := natpmpOpcodeAnnounce } ∧
        createNatpmpAnnMsg e c s =
          (some c.heapTop, pcpDbAddFlow
            (({ c.callocCall.setFlow c.heapTop fl with heapTop := c.heapTop + 1 } : Ctx).modServer s
              fun v => { v with pingFlowMsg := some c.heapTop }) (some c.heapTop)) := by
  unfold createNatpmpAnnMsg pcpCreateFlow
  dsimp only
  cases e.calloc c.io.callocs with
  | false => exact .inl rfl
  | true => exact .inr ⟨_, rfl, rfl, rfl, ⟨rfl, rfl⟩, rfl, rfl, rfl⟩

/-! ## Frame -/

/-- A request of a flow, sent to the server in the slot the flow refers to. -/
structure Routed (c : Ctx) (p : Sent) : Prop where
  alloc : p.flow < c.heapTop
  server : p.server = (c.heap p.flow).pcpServerIndx
  live : p.server < c.pcpServersLength ∧ (c.pcpServers p.server).serverState ≠ .unitialized
  dest : p.dest = (c.pcpServers p.server).pcpServerSaddr

/-- A flow that a handler of `s` adds to the table is an announcement for `s`. -/
structure Announces (c : Ctx) (s : Nat) (f : FlowId) : Prop where
  own : Own c s f
  operation : (c.heap f).kd.operation = natpmpOpcodeAnnounce
  pcpServerIp : (c.heap f).kd.pcpServerIp = (c.pcpServers s).pcpIp
  nonce : (c.heap f).kd.nonce = (c.pcpServers s).nonce

/-- What the handlers of `s` leave alone. -/
structure Frame (s : Nat) (c c' : Ctx) : Prop where
  others : ∀ i, i ≠ s → c'.pcpServers i = c.pcpServers i
  length : c'.pcpServersLength = c.pcpServersLength
  same : (c.pcpServers s).Same (c'.pcpServers s)
  heapTop : c.heapTop ≤ c'.heapTop
  flow : ∀ f, f < c.heapTop → (c.heap f).Kept (c'.heap f)
  table : ∀ b f, f ∈ c.flows b → f ∈ c'.flows b
  added : ∀ b f, f ∈ c'.flows b → f ∈ c.flows b ∨ (c.heapTop ≤ f ∧ Announces c' s f)
  ticks : c.io.ticks ≤ c'.io.ticks
  sent : c.io.SentWith (Routed c') c'.io

namespace Frame

variable {s : Nat} {c c' c'' : Ctx}

theorem refl (c : Ctx) : Frame s c c :=
  ⟨fun _ _ => rfl, rfl, .refl _, Nat.le_refl _, fun _ _ => .refl _, fun _ _ h => h,
    fun _ _ h => .inl h, Nat.le_refl _, .refl _⟩

theorem same_all (h : Frame s c c') (i : Nat) : (c.pcpServers i).Same (c'.pcpServers i) := by
  by_cases hi : i = s
  · subst hi
    exact h.same
  · rw [h.others i hi]
    exact .refl _

theorem own (h : Frame s c c') {i : Nat} {f : FlowId} (ho : Own c i f) : Own c' i f := by
  refine ⟨Nat.lt_of_lt_of_le ho.1 h.heapTop, ?_⟩
  rw [(h.flow f ho.1).pcpServerIndx, (h.same_all i).index]
  exact ho.2

theorem allFlows (h : Frame s c c') {f : FlowId} (hf : f ∈ c.allFlows) : f ∈ c'.allFlows := by
  obtain ⟨b, hb, hm⟩ := mem_allFlows.mp hf
  exact mem_allFlows.mpr ⟨b, hb, h.table b f hm⟩

theorem routed (h : Frame s c c') {p : Sent} (hp : Routed c p) : Routed c' p where
  alloc := Nat.lt_of_lt_of_le hp.alloc h.heapTop
  server := hp.server.trans (h.flow p.flow hp.alloc).pcpServerIndx.symm
  live := by
    rw [h.length, ne_eq, (h.same_all p.server).live]
    exact hp.live
  dest := hp.dest.trans (h.same_all p.server).pcpServerSaddr.symm

theorem announces (h : Frame s c c') {f : FlowId} (hf : Announces c s f) : Announces c' s f where
  own := h.own hf.own
  operation := by rw [(h.flow f hf.own.1).kd]; exact hf.operation
  pcpServerIp := by rw [(h.flow f hf.own.1).kd, h.same.pcpIp]; exact hf.pcpServerIp
  nonce := by rw [(h.flow f hf.own.1).kd, h.same.nonce]; exact hf.nonce

theorem trans (h₁ : Frame s c c') (h₂ : Frame s c' c'') : Frame s c c'' where
  others i hi := (h₂.others i hi).trans (h₁.others i hi)
  length := h₂.length.trans h₁.length
  same := h₁.same.trans h₂.same
  heapTop := Nat.le_trans h₁.heapTop h₂.heapTop
  flow f hf := (h₁.flow f hf).trans (h₂.flow f (Nat.lt_of_lt_of_le hf h₁.heapTop))
  table b f hf := h₂.table b f (h₁.table b f hf)
  added b f hf := by
    rcases h₂.added b f hf with hf | ⟨hle, ha⟩
    · exact (h₁.added b f hf).imp_right fun ⟨hle, ha⟩ => ⟨hle, h₂.announces ha⟩
    · exact .inr ⟨Nat.le_trans h₁.heapTop hle, ha⟩
  ticks := Nat.le_trans h₁.ticks h₂.ticks
  sent := (h₁.sent.mono fun _ hp => h₂.routed hp).trans h₂.sent

/-- A change of nothing but the flow `f`, and only in fields that may change. -/
theorem of_setFlow {f : FlowId} {v : Flow} (h : (c.heap f).Kept v) : Frame s c (c.setFlow f v) where
  others _ _ := rfl
  length := rfl
  same := .refl _
  heapTop := Nat.le_refl _
  flow g _ := by
    by_cases hg : g = f
    · subst hg
      rw [Ctx.setFlow_heap, Function.update_self]
      exact h
    · rw [Ctx.setFlow_heap, Function.update_of_ne hg]
      exact .refl _
  table _ _ hg := hg
  added _ _ hg := .inl hg
  ticks := Nat.le_refl _
  sent := .refl _

theorem of_setServer {v : Server} (h : (c.pcpServers s).Same v) : Frame s c (c.setServer s v) where
  others i hi := by rw [Ctx.setServer_pcpServers, Function.update_of_ne hi]
  length := rfl
  same := by rw [Ctx.setServer_pcpServers, Function.update_self]; exact h
  heapTop := Nat.le_refl _
  flow _ _ := .refl _
  table _ _ hg := hg
  added _ _ hg := .inl hg
  ticks := Nat.le_refl _
  sent := .refl _

end Frame

theorem serverOf_eq_some {c : Ctx} {i : Nat} {v : Server} (h : serverOf c i = some v) :
    (i < c.pcpServersLength ∧ (c.pcpServers i).serverState ≠ .unitialized) ∧
      v = c.pcpServers i := by
  simp only [serverOf, Option.map_eq_some_iff] at h
  obtain ⟨j, hj, rfl⟩ := h
  obtain ⟨rfl, h⟩ := getPcpServer_eq_some hj
  exact ⟨h, rfl⟩

/-- An event changes one flow and sends requests of that flow only. -/
theorem handleFlowEvent_frame (e : Env) (s : Nat) (c : Ctx) {f : FlowId} {ev : FlowEvent}
    (m : Option RecvMsg) (hf : f < c.heapTop) (hev : ev ≠ .msgSent) :
    Frame s c (handleFlowEvent e c f ev m) := by
  have hstep := (flowStep_moves (c.flowEnv e f m) (c.heap f) c.io hev).frame
  refine ⟨?_, by simp, ?_, by simp, ?_, ?_, ?_, ?_, ?_⟩
  · intro i _
    rw [handleFlowEvent_pcpServers]
  · rw [handleFlowEvent_pcpServers]
    exact .refl _
  · intro g _
    rw [handleFlowEvent_heap]
    by_cases hg : g = f
    · subst hg
      rw [Function.update_self]
      exact hstep.kept
    · rw [Function.update_of_ne hg]
      exact .refl _
  · intro b g hg
    rw [handleFlowEvent_flows]
    exact hg
  · intro b g hg
    rw [handleFlowEvent_flows] at hg
    exact .inl hg
  · rw [handleFlowEvent_io]
    exact hstep.ticks
  · rw [handleFlowEvent_io]
    refine hstep.sent.mono fun p hp => ?_
    obtain ⟨v, hv, h₁, h₂, h₃⟩ := hp
    obtain ⟨hlive, rfl⟩ := serverOf_eq_some hv
    change p.flow = f at h₁
    refine ⟨?_, ?_, ?_, ?_⟩
    · rw [h₁, handleFlowEvent_heapTop]
      exact hf
    · rw [h₁, h₂, handleFlowEvent_heap, Function.update_self, hstep.kept.pcpServerIndx]
    · rw [h₂, handleFlowEvent_pcpServersLength, handleFlowEvent_pcpServers]
      exact hlive
    · rw [h₃, h₂, handleFlowEvent_pcpServers]

theorem mem_pcpDbAddFlow {c : Ctx} {f g : FlowId} {b : Nat} :
    g ∈ (pcpDbAddFlow c (some f)).flows b ↔
      g ∈ c.flows b ∨ (g = f ∧ b = computeFlowKey (c.heap f).kd) := by
  simp only [pcpDbAddFlow]
  by_cases hb : b = computeFlowKey (c.heap f).kd
  · subst hb
    simp [Function.update_self]
  · simp [hb]

theorem createNatpmpAnnMsg_frame (e : Env) (s : Nat) (c : Ctx) :
    Frame s c (createNatpmpAnnMsg e c s).2 := by
  rcases createNatpmpAnnMsg_cases e c s with h | ⟨fl, hidx, -, -, -, -, hkd, h⟩
  · rw [h]
    have hcalloc : Frame s c c.callocCall :=
      ⟨fun _ _ => rfl, rfl, .refl _, Nat.le_refl _, fun _ _ => .refl _, fun _ _ h => h,
        fun _ _ h => .inl h, Nat.le_refl _, .of_eq rfl⟩
    exact hcalloc.trans (.of_setServer ⟨rfl, rfl, rfl, rfl, rfl, rfl, rfl, rfl, .rfl⟩)
  · rw [h]
    have hheap : ∀ g, (pcpDbAddFlow
        (({ c.callocCall.setFlow c.heapTop fl with heapTop := c.heapTop + 1 } : Ctx).modServer s
          fun v => { v with pingFlowMsg := some c.heapTop }) (some c.heapTop)).heap g =
        if g = c.heapTop then { fl with keyBucket := some (computeFlowKey fl.kd) } else c.heap g := by
      intro g
      by_cases hg : g = c.heapTop
      · subst hg
        simp [pcpDbAddFlow, Ctx.modFlow, Ctx.modServer]
      · simp [pcpDbAddFlow, Ctx.modFlow, Ctx.modServer, hg, Ctx.callocCall]
    have hserv : ∀ i, i ≠ s → (pcpDbAddFlow
        (({ c.callocCall.setFlow c.heapTop fl with heapTop := c.heapTop + 1 } : Ctx).modServer s
          fun v => { v with pingFlowMsg := some c.heapTop }) (some c.heapTop)).pcpServers i =
        c.pcpServers i := by
      intro i hi
      simp [pcpDbAddFlow, Ctx.modFlow, Ctx.modServer, hi, Ctx.callocCall]
    have hself : (pcpDbAddFlow
        (({ c.callocCall.setFlow c.heapTop fl with heapTop := c.heapTop + 1 } : Ctx).modServer s
          fun v => { v with pingFlowMsg := some c.heapTop }) (some c.heapTop)).pcpServers s =
        { c.pcpServers s with pingFlowMsg := some c.heapTop } := by
      simp [pcpDbAddFlow, Ctx.modFlow, Ctx.modServer, Ctx.callocCall]
    refine ⟨hserv, rfl, ?_, Nat.le_succ _, ?_, ?_, ?_, Nat.le_refl _, .of_eq rfl⟩
    · rw [hself]
      exact ⟨rfl, rfl, rfl, rfl, rfl, rfl, rfl, rfl, .rfl⟩
    · intro g hg
      rw [hheap, if_neg (Nat.ne_of_lt hg)]
      exact .refl _
    · intro b g hg
      exact mem_pcpDbAddFlow.mpr (.inl hg)
    · intro b g hg
      rcases mem_pcpDbAddFlow.mp hg with hg | ⟨rfl, -⟩
      · exact .inl hg
      · refine .inr ⟨Nat.le_refl _, ⟨Nat.lt_succ_self _, ?_⟩, ?_, ?_, ?_⟩
        all_goals rw [hheap, if_pos rfl]
        · rw [hself]
          exact hidx
        · rw [hkd]
        · rw [hself, hkd]
        · rw [hself, hkd]

theorem alignTimer_kept (v : Flow) : v.Kept (alignTimer v) := ⟨rfl, rfl, rfl, rfl, rfl⟩

theorem Frame.tick {s : Nat} (c : Ctx) : Frame s c c.tick :=
  ⟨fun _ _ => rfl, rfl, .refl _, Nat.le_refl _, fun _ _ => .refl _, fun _ _ h => h,
    fun _ _ h => .inl h, Nat.le_succ _, .of_eq rfl⟩

theorem Reaches.alloc {k : ActKind} {c : Ctx} {s : Nat} {f : FlowId} (h : Reaches k c s f) :
    f < c.heapTop := by
  rcases h with ⟨-, h⟩ | ⟨-, h, -⟩
  · exact h.1
  · exact h

theorem Act.frame {e : Env} {s : Nat} {k : ActKind} {c c' : Ctx} (h : Act e s k c c') :
    Frame s c c' := by
  cases h with
  | tick c => exact .tick c
  | server c v h hp => exact .of_setServer h.toSame
  | reset c f r ho => exact .of_setFlow ⟨rfl, rfl, rfl, rfl, rfl⟩
  | event c f ev ho hev => exact handleFlowEvent_frame e s c none ho.1 hev.ne_msgSent
  | align k c f hk ht => exact .of_setFlow (alignTimer_kept _)
  | expire k c f hk ht =>
    have h₁ : Frame s c (c.tick.modFlow f alignTimer) :=
      (Frame.tick c).trans (.of_setFlow (alignTimer_kept _))
    exact h₁.trans (handleFlowEvent_frame e s _ none hk.alloc (by simp))
  | response c f ho => exact handleFlowEvent_frame e s c _ ho.1 (by simp)
  | extAddr c a =>
    exact ⟨fun _ _ => rfl, rfl, .refl _, Nat.le_refl _, fun _ _ => .refl _, fun _ _ h => h,
      fun _ _ h => .inl h, Nat.le_refl _, .of_eq rfl⟩
  | version c n => exact .of_setServer ⟨rfl, rfl, rfl, rfl, rfl, rfl, rfl, rfl, .rfl⟩
  | reveal c f h => exact .of_setServer ⟨rfl, rfl, rfl, rfl, rfl, rfl, rfl, rfl, .rfl⟩
  | putBack c f ho => exact .of_setFlow ⟨rfl, rfl, rfl, rfl, rfl⟩
  | announce c => exact createNatpmpAnnMsg_frame e s c

theorem Acts.frame {e : Env} {s : Nat} {K : List ActKind} {c c' : Ctx} (h : Acts e s K c c') :
    Frame s c c' :=
  h.relate .refl (fun _ _ _ => .trans) fun _ _ _ _ hact => hact.frame

/-! ## Well-formed contexts -/

/-- Only `create_natpmp_ann_msg` changes the buckets. -/
theorem Act.flows_eq {e : Env} {s : Nat} {k : ActKind} {c c' : Ctx} (h : Act e s k c c')
    (hk : k ≠ .announce) : c'.flows = c.flows := by
  cases h with
  | announce c => exact absurd rfl hk
  | event c f ev ho hev => simp
  | expire k c f hk ht => simp [Ctx.modFlow]
  | response c f ho => simp
  | _ => rfl

theorem Act.tableOk {e : Env} {s : Nat} {k : ActKind} {c c' : Ctx} (h : Act e s k c c')
    (hc : TableOk c) : TableOk c' := by
  have hframe := h.frame
  by_cases hk : k = .announce
  · subst hk
    cases h with
    | align k c f hk ht => exact hc.of_kept rfl hframe.heapTop hframe.flow
    | expire k c f hk ht => exact hc.of_kept (by simp [Ctx.modFlow]) hframe.heapTop hframe.flow
    | putBack c f ho => exact hc.of_kept rfl hframe.heapTop hframe.flow
    | announce c =>
      rcases createNatpmpAnnMsg_cases e c s with h | ⟨fl, -, -, -, -, -, -, h⟩
      · rw [h] at hframe ⊢
        exact hc.of_kept rfl hframe.heapTop hframe.flow
      · rw [h]
        refine TableOk.add ?_ ?_ (Nat.lt_succ_self _)
        · refine hc.of_kept rfl (Nat.le_succ _) fun g hg => ?_
          change (c.heap g).Kept (Function.update c.heap c.heapTop fl g)
          rw [Function.update_of_ne (Nat.ne_of_lt hg)]
          exact .refl _
        · intro b hb
          exact Nat.lt_irrefl _ (hc.fresh b _ hb)
  · exact hc.of_kept (h.flows_eq hk) hframe.heapTop hframe.flow

/-- The table is in order and the ping flow of `s` is one of its flows. -/
structure Wf (c : Ctx) (s : Nat) : Prop where
  table : TableOk c
  ping : ∀ p, (c.pcpServers s).pingFlowMsg = some p → Own c s p

theorem Act.wf {e : Env} {s : Nat} {k : ActKind} {c c' : Ctx} (h : Act e s k c c') (hc : Wf c s) :
    Wf c' s := by
  have hframe := h.frame
  refine ⟨h.tableOk hc.table, fun p hp => ?_⟩
  have hold : (c.pcpServers s).pingFlowMsg = some p → Own c' s p := fun h =>
    hframe.own (hc.ping p h)
  cases h with
  | tick c => exact hold hp
  | server c v h hkeep =>
    rw [Ctx.setServer_pcpServers, Function.update_self] at hp
    exact (hkeep p hp).elim hold fun ho => hframe.own ho.1
  | reset c f r ho => exact hold hp
  | putBack c f ho => exact hold hp
  | event c f ev ho hev => exact hold (by simpa using hp)
  | align k c f hk ht => exact hold hp
  | expire k c f hk ht => exact hold (by simpa [Ctx.modFlow] using hp)
  | response c f ho => exact hold (by simpa using hp)
  | extAddr c a => exact hold hp
  | version c n => exact hold (by simpa [Ctx.modServer] using hp)
  | reveal c f h => exact hold (by simpa [Ctx.modServer] using hp)
  | announce c =>
    rcases createNatpmpAnnMsg_cases e c s with h | ⟨fl, hidx, -, -, -, -, -, h⟩
    · rw [h] at hp
      simp [Ctx.modServer] at hp
    · rw [h] at hp ⊢
      simp only [pcpDbAddFlow, Ctx.modFlow, Ctx.modServer, Ctx.setFlow_pcpServers,
        Ctx.setServer_pcpServers, Function.update_self, Option.some.injEq] at hp
      subst hp
      refine ⟨Nat.lt_succ_self _, ?_⟩
      simp [pcpDbAddFlow, Ctx.modFlow, Ctx.modServer, Ctx.callocCall, hidx]

theorem Acts.wf {e : Env} {s : Nat} {K : List ActKind} {c c' : Ctx} (h : Acts e s K c c')
    (hc : Wf c s) : Wf c' s :=
  h.invariant (I := (Wf · s)) (fun _ _ _ ha _ hact => hact.wf ha) hc

theorem Acts.tableOk {e : Env} {s : Nat} {K : List ActKind} {c c' : Ctx} (h : Acts e s K c c')
    (hc : TableOk c) : TableOk c' :=
  h.invariant (I := TableOk) (fun _ _ _ ha _ hact => hact.tableOk ha) hc

theorem Wf.alloc {c : Ctx} {s : Nat} (h : Wf c s) {f : FlowId} (hf : f ∈ c.allFlows) :
    f < c.heapTop :=
  h.table.alloc hf

/-! ## Flows of other servers -/

/-- `handle_flow_event` sends requests of its own flow only. -/
theorem handleFlowEvent_sent (e : Env) (c : Ctx) {f : FlowId} {ev : FlowEvent} (m : Option RecvMsg)
    (hev : ev ≠ .msgSent) : c.io.SentWith (·.flow = f) (handleFlowEvent e c f ev m).io := by
  have hstep := (flowStep_moves (c.flowEnv e f m) (c.heap f) c.io hev).frame
  rw [handleFlowEvent_io]
  exact hstep.sent.mono fun p ⟨_, _, h, _, _⟩ => h

/-- An event without a row in the table changes nothing. -/
theorem flowStep_none {x : FlowEnv} {ev : FlowEvent} {f : Flow} (io : Io) (hev : ev ≠ .msgSent)
    (h : nextState f.state ev = none) : flowStep x ev f io = (f, io) := by
  rw [flowStep_eq x f io hev, h]

/-- States in which a timeout does something. -/
def FlowState.Reacts (st : FlowState) : Prop := nextState st .flowTimedout ≠ none

instance (st : FlowState) : Decidable st.Reacts := inferInstanceAs (Decidable (_ ≠ _))

section Foreign

variable {e : Env} {s : Nat} {k : ActKind} {c c' : Ctx}

theorem expire_heap (e : Env) (c : Ctx) (f : FlowId) :
    (handleFlowEvent e (c.tick.modFlow f alignTimer) f .flowTimedout none).heap f =
      (flowStep ((c.tick.modFlow f alignTimer).flowEnv e f none) .flowTimedout
        (alignTimer (c.heap f)) c.io.tick).1 := by
  rw [handleFlowEvent_heap, Function.update_self]
  simp only [Ctx.modFlow, Ctx.setFlow_heap, Function.update_self]
  rfl

/-- A flow of another server changes only if a walk finds its timer on. When its state does not react
to the timer, then only the form of the timer changes. -/
theorem Act.foreign {f : FlowId} (h : Act e s k c c') (hf : f < c.heapTop)
    (hne : (c.heap f).pcpServerIndx ≠ (c.pcpServers s).index) :
    c'.heap f = c.heap f ∨ (k = .walk ∧ f ∈ c.allFlows ∧ (c.heap f).timeout.isZero = false ∧
      (¬ (c.heap f).state.Reacts → c'.heap f = alignTimer (c.heap f))) := by
  have hown : ∀ g, Own c s g → f ≠ g := by
    rintro g ho rfl
    exact hne ho.2
  cases h with
  | tick c => exact .inl rfl
  | server c v h hp => exact .inl rfl
  | reset c g r ho => exact .inl (by simp [Ctx.modFlow, hown g ho])
  | putBack c g ho => exact .inl (by simp [Ctx.modFlow, hown g ho])
  | event c g ev ho hev => exact .inl (by simp [hown g ho])
  | align k c g hk ht =>
    by_cases hg : f = g
    · subst hg
      rcases hk with ⟨-, ho⟩ | ⟨hk, -, hm⟩
      · exact absurd rfl (hown f ho)
      · exact .inr ⟨hk, hm, ht, fun _ => by simp [Ctx.modFlow]⟩
    · exact .inl (by simp [Ctx.modFlow, hg])
  | expire k c g hk ht =>
    by_cases hg : f = g
    · subst hg
      rcases hk with ⟨-, ho⟩ | ⟨hk, -, hm⟩
      · exact absurd rfl (hown f ho)
      · refine .inr ⟨hk, hm, ht, fun hr => ?_⟩
        rw [expire_heap, flowStep_none _ (by simp)]
        exact not_not.mp hr
    · exact .inl (by simp [Ctx.modFlow, hg])
  | response c g ho => exact .inl (by simp [hown g ho])
  | extAddr c a => exact .inl rfl
  | version c n => exact .inl rfl
  | reveal c g h => exact .inl rfl
  | announce c =>
    rcases createNatpmpAnnMsg_cases e c s with h | ⟨fl, -, -, -, -, -, -, h⟩
    · rw [h]
      exact .inl rfl
    · rw [h]
      left
      simp [pcpDbAddFlow, Ctx.modFlow, Ctx.modServer, Nat.ne_of_lt hf, Ctx.callocCall]

/-- Whose requests an act can send. -/
def Sender (k : ActKind) (c : Ctx) (s : Nat) (f : FlowId) : Prop :=
  Own c s f ∨ (k = .walk ∧ f ∈ c.allFlows ∧ (c.heap f).timeout.isZero = false ∧
    (c.heap f).state.Reacts)

theorem Act.sent (h : Act e s k c c') :
    c.io.SentWith (fun p => Sender k c s p.flow) c'.io := by
  cases h with
  | tick c => exact .of_eq rfl
  | server c v h hp => exact .of_eq rfl
  | reset c g r ho => exact .of_eq rfl
  | putBack c g ho => exact .of_eq rfl
  | event c g ev ho hev =>
    exact (handleFlowEvent_sent e c none hev.ne_msgSent).mono fun p hp => .inl (hp ▸ ho)
  | align k c g hk ht => exact .of_eq rfl
  | expire k c g hk ht =>
    by_cases hr : (c.heap g).state.Reacts
    · have h := handleFlowEvent_sent e (c.tick.modFlow g alignTimer) (f := g) none
        (show FlowEvent.flowTimedout ≠ .msgSent by simp)
      refine Io.SentWith.trans (.of_eq rfl) (h.mono fun p hp => ?_)
      rw [hp]
      rcases hk with ⟨-, ho⟩ | ⟨hk, -, hm⟩
      · exact .inl ho
      · exact .inr ⟨hk, hm, ht, hr⟩
    · refine .of_eq ?_
      rw [handleFlowEvent_io, flowStep_none _ (by simp)]
      · rfl
      · simp only [Ctx.modFlow, Ctx.setFlow_heap, Function.update_self]
        exact not_not.mp hr
  | response c g ho =>
    exact (handleFlowEvent_sent e c _ (by simp)).mono fun p hp => .inl (hp ▸ ho)
  | extAddr c a => exact .of_eq rfl
  | version c n => exact .of_eq rfl
  | reveal c g h => exact .of_eq rfl
  | announce c =>
    rcases createNatpmpAnnMsg_cases e c s with h | ⟨fl, -, -, -, -, -, -, h⟩
    · rw [h]
      exact .of_eq rfl
    · rw [h]
      exact .of_eq rfl

end Foreign

/-! ## Acts and events -/

/-- What acts do to a flow without sending it an event. -/
inductive Flow.Touched : Flow → Flow → Prop where
  | same (v : Flow) : Touched v v
  | align (v : Flow) : Touched v (alignTimer v)
  | reset (v : Flow) (r : UInt32) : Touched v (v.resetCount r)
  | putBack (v : Flow) : Touched v v.putBack
  | announce (v w : Flow) (hst : w.state = .idle)
      (hmsg : w.pcpMsgBuffer = none ∧ w.pcpMsgLen = 0) : Touched v w

/-- Neither is an event handled nor anything sent. -/
structure Unheard (c c' : Ctx) : Prop where
  handled : c'.handled = c.handled
  sent : c'.io.sent = c.io.sent
  flow : ∀ f, (c.heap f).Touched (c'.heap f)

theorem Unheard.of_heap {c c' : Ctx} (hh : c'.heap = c.heap) (hl : c'.handled = c.handled)
    (hs : c'.io.sent = c.io.sent) : Unheard c c' := by
  refine ⟨hl, hs, fun f => ?_⟩
  rw [hh]
  exact .same _

theorem Unheard.of_update {c c' : Ctx} {f : FlowId} {v : Flow} (hv : (c.heap f).Touched v)
    (hh : c'.heap = Function.update c.heap f v) (hl : c'.handled = c.handled)
    (hs : c'.io.sent = c.io.sent) : Unheard c c' := by
  refine ⟨hl, hs, fun g => ?_⟩
  rw [hh]
  by_cases hg : g = f
  · subst hg
    rw [Function.update_self]
    exact hv
  · rw [Function.update_of_ne hg]
    exact .same _

theorem createNatpmpAnnMsg_unheard (e : Env) (c : Ctx) (s : Nat) :
    Unheard c (createNatpmpAnnMsg e c s).2 := by
  rcases createNatpmpAnnMsg_cases e c s with h | ⟨fl, -, -, -, hmsg, hst, -, h⟩
  · rw [h]
    exact .of_heap rfl rfl rfl
  · rw [h]
    refine .of_update (f := c.heapTop) (v := { fl with keyBucket := some (computeFlowKey fl.kd) })
      (.announce _ _ hst hmsg) ?_ rfl rfl
    simp [pcpDbAddFlow, Ctx.modFlow, Ctx.modServer, Ctx.callocCall]

/-- An act is unheard, or one event after an unheard change. -/
theorem Act.heard {e : Env} {s : Nat} {k : ActKind} {c c' : Ctx} (h : Act e s k c c') :
    Unheard c c' ∨ ∃ c₀ f ev m, Unheard c c₀ ∧ ev ≠ .msgSent ∧ c' = handleFlowEvent e c₀ f ev m := by
  have hrefl : Unheard c c := .of_heap rfl rfl rfl
  cases h with
  | tick | server | extAddr | version | reveal => exact .inl (.of_heap rfl rfl rfl)
  | reset c f r ho => exact .inl (.of_update (.reset _ r) rfl rfl rfl)
  | putBack c f ho => exact .inl (.of_update (.putBack _) rfl rfl rfl)
  | event c f ev ho hev => exact .inr ⟨c, f, ev, none, hrefl, hev.ne_msgSent, rfl⟩
  | align k c f hk ht => exact .inl (.of_update (.align _) rfl rfl rfl)
  | expire k c f hk ht =>
    have hal : Unheard c (c.tick.modFlow f alignTimer) := .of_update (.align _) rfl rfl rfl
    exact .inr ⟨_, f, .flowTimedout, none, hal, by simp, rfl⟩
  | response c f ho => exact .inr ⟨c, f, _, _, hrefl, by simp, rfl⟩
  | announce c => exact .inl (createNatpmpAnnMsg_unheard e c s)

end LibPcp
