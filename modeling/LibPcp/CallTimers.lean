import LibPcp.Reach

/-!
# LibPcp.CallTimers

What the application's calls do to the timers.

A call that does not pulse leaves a timer as it is, switches it off or sets it to the time of day, and
the end of a mapping is left alone unless the flow is new. `ClockOnly` is this as a relation between
the contexts before and after; it composes, so that a call has it when its parts have.

* `Op.exec_clockOnly`: every call has it.
-/

namespace LibPcp

open LabelledSteps

/-- The timer `t` is left alone, switched off or set to the time of day. -/
def TimeOfDay (e : Env) (c : Ctx) (t t' : Timeval) : Prop :=
  t' = t ∨ t' = .zero ∨ ∃ i, i ≤ c.io.ticks ∧ t' = e.clock i

/-- What a call of the application does to the timers and to the ends of the mappings. -/
structure ClockOnly (e : Env) (c c' : Ctx) : Prop where
  ticks : c.io.ticks ≤ c'.io.ticks
  timeout : ∀ f, TimeOfDay e c' (c.heap f).timeout (c'.heap f).timeout
  lifetime : ∀ f, (c'.heap f).recvLifetime = (c.heap f).recvLifetime ∨ (c'.heap f).recvLifetime = 0
  server : ∀ i, TimeOfDay e c' (c.pcpServers i).nextTimeout (c'.pcpServers i).nextTimeout

namespace ClockOnly

variable {e : Env} {a b c : Ctx}

theorem refl (e : Env) (c : Ctx) : ClockOnly e c c :=
  ⟨Nat.le_refl _, fun _ => .inl rfl, fun _ => .inl rfl, fun _ => .inl rfl⟩

theorem trans (h₁ : ClockOnly e a b) (h₂ : ClockOnly e b c) : ClockOnly e a c := by
  have htimer : ∀ {t u v : Timeval}, TimeOfDay e b t u → TimeOfDay e c u v → TimeOfDay e c t v := by
    intro t u v hu hv
    rcases hv with rfl | hv | hv
    · rcases hu with hu | hu | ⟨i, hi, hu⟩
      · exact .inl hu
      · exact .inr (.inl hu)
      · exact .inr (.inr ⟨i, Nat.le_trans hi h₂.ticks, hu⟩)
    · exact .inr (.inl hv)
    · exact .inr (.inr hv)
  refine ⟨Nat.le_trans h₁.ticks h₂.ticks, fun f => htimer (h₁.timeout f) (h₂.timeout f), fun f => ?_,
    fun i => htimer (h₁.server i) (h₂.server i)⟩
  rcases h₂.lifetime f with h | h
  · rw [h]
    exact h₁.lifetime f
  · exact .inr h

theorem of_eq (hheap : b.heap = a.heap) (hserv : b.pcpServers = a.pcpServers)
    (hticks : a.io.ticks ≤ b.io.ticks) : ClockOnly e a b :=
  ⟨hticks, fun f => .inl (by rw [hheap]), fun f => .inl (by rw [hheap]), fun i => .inl (by rw [hserv])⟩

theorem setFlow (c : Ctx) (f : FlowId) {v : Flow} (ht : TimeOfDay e c (c.heap f).timeout v.timeout)
    (hl : v.recvLifetime = (c.heap f).recvLifetime ∨ v.recvLifetime = 0) :
    ClockOnly e c (c.setFlow f v) := by
  have hcase : ∀ g, (g = f ∧ (c.setFlow f v).heap g = v) ∨ (c.setFlow f v).heap g = c.heap g := by
    intro g
    by_cases hg : g = f
    · subst hg
      exact .inl ⟨rfl, Function.update_self ..⟩
    · exact .inr (Function.update_of_ne hg ..)
  refine ⟨Nat.le_refl _, fun g => ?_, fun g => ?_, fun _ => .inl rfl⟩
  · rcases hcase g with ⟨rfl, h⟩ | h <;> rw [h]
    · exact ht
    · exact .inl rfl
  · rcases hcase g with ⟨rfl, h⟩ | h <;> rw [h]
    · exact hl
    · exact .inl rfl

theorem modServer (c : Ctx) (s : Nat) {g : Server → Server}
    (hg : TimeOfDay e c (c.pcpServers s).nextTimeout (g (c.pcpServers s)).nextTimeout) :
    ClockOnly e c (c.modServer s g) := by
  refine ⟨Nat.le_refl _, fun _ => .inl rfl, fun _ => .inl rfl, fun i => ?_⟩
  by_cases hi : i = s
  · subst hi
    rw [Ctx.modServer_self]
    exact hg
  · left
    rw [Ctx.modServer, Ctx.setServer_pcpServers, Function.update_of_ne hi]

theorem foldl {α : Type} {g : Ctx → α → Ctx} (hg : ∀ c x, ClockOnly e c (g c x)) (l : List α) (c : Ctx) :
    ClockOnly e c (l.foldl g c) := by
  induction l generalizing c with
  | nil => exact .refl e c
  | cons x l ih => exact (hg c x).trans (ih (g c x))

end ClockOnly

/-! ## Flows -/

section Calls

variable (e : Env) (c : Ctx)

theorem pcpFlowUpdated_clockOnly (f : FlowId) : ClockOnly e c (pcpFlowUpdated e c f) := by
  have hio : (pcpFlowUpdated e c f).io.ticks = c.io.ticks + 1 := by
    rw [pcpFlowUpdated_io]
    rfl
  have hnow : TimeOfDay e (pcpFlowUpdated e c f) (c.heap f).timeout (e.now c.io) :=
    .inr (.inr ⟨c.io.ticks, by omega, rfl⟩)
  refine ⟨by omega, fun g => ?_, fun g => ?_, fun i => ?_⟩
  · rw [pcpFlowUpdated_heap]
    by_cases hg : g = f
    · subst hg
      rw [Function.update_self]
      exact hnow
    · rw [Function.update_of_ne hg]
      exact .inl rfl
  · left
    rw [pcpFlowUpdated_heap]
    by_cases hg : g = f
    · subst hg
      rw [Function.update_self]
      rfl
    · rw [Function.update_of_ne hg]
  · rw [pcpFlowUpdated_server]
    split
    · exact .inr (.inr ⟨c.io.ticks, by omega, rfl⟩)
    · exact .inl rfl

/-- A change of a flow before it is marked as updated. -/
theorem setter_clockOnly {g : Flow → Flow} (hg : ∀ v, (g v).timeout = v.timeout ∧
    (g v).recvLifetime = v.recvLifetime) (f : FlowId) :
    ClockOnly e c (pcpFlowUpdated e (c.modFlow f g) f) :=
  (ClockOnly.setFlow c f (.inl (hg _).1) (.inl (hg _).2)).trans (pcpFlowUpdated_clockOnly e _ f)

theorem updateChain_clockOnly {g : Flow → Flow} (hg : ∀ v, (g v).timeout = v.timeout ∧
    (g v).recvLifetime = v.recvLifetime) (f : FlowId) : ClockOnly e c (updateChain e g c f) :=
  .foldl (fun c i => setter_clockOnly e c hg i) _ c

theorem pcpFlowAddMd_clockOnly (mdId : UInt32) (val : List UInt8) (f : FlowId) :
    ClockOnly e c (pcpFlowAddMd e mdId val c f) := by
  refine .foldl (fun c i => ?_) _ c
  have hkeep : (pcpDbAddMd e mdId.toUInt16 val (c.heap i) c.io).1.timeout = (c.heap i).timeout ∧
      (pcpDbAddMd e mdId.toUInt16 val (c.heap i) c.io).1.recvLifetime = (c.heap i).recvLifetime := by
    unfold pcpDbAddMd
    dsimp only
    repeat' split
    all_goals exact ⟨rfl, rfl⟩
  obtain ⟨-, k, hio⟩ := pcpDbAddMd_spec e mdId.toUInt16 val (c.heap i) c.io
  rcases hm : pcpDbAddMd e mdId.toUInt16 val (c.heap i) c.io with ⟨v, io⟩
  rw [hm] at hkeep hio
  dsimp only at hkeep hio ⊢
  subst hio
  refine ((ClockOnly.setFlow c i (.inl hkeep.1) (.inl hkeep.2)).trans ?_).trans
    (pcpFlowUpdated_clockOnly e _ i)
  exact .of_eq rfl rfl (Nat.le_refl _)

theorem failFlow_clockOnly (f : FlowId) : ClockOnly e c (failFlow c f) := .setFlow c f (.inl rfl) (.inl rfl)

theorem pcpCloseFlowIntern_clockOnly (f : FlowId) : ClockOnly e c (pcpCloseFlowIntern e c f) := by
  have hzero : ∀ a, ClockOnly e a (zeroLifetime e a f) := fun a =>
    setter_clockOnly e a (g := fun v => { v with lifetime := 0 }) (fun _ => ⟨rfl, rfl⟩) f
  have hfirst : ClockOnly e c (if (c.heap f).state.isInactive then failFlow c f else zeroLifetime e c f) := by
    split
    · exact failFlow_clockOnly e c f
    · exact hzero c
  rw [pcpCloseFlowIntern_eq]
  generalize (if (c.heap f).state.isInactive then failFlow c f else zeroLifetime e c f) = a at hfirst ⊢
  refine hfirst.trans ?_
  dsimp only
  split
  · exact hzero a
  · exact failFlow_clockOnly e a f

theorem pcpDeleteFlowIntern_clockOnly (f : FlowId) : ClockOnly e c (pcpDeleteFlowIntern c f) := by
  have hd := pcpDeleteFlowIntern_deleted c f
  refine ⟨Nat.le_of_eq (by rw [hd.io]), fun g => ?_, fun g => ?_, fun i => ?_⟩
  · obtain ⟨k, hk⟩ := hd.heap g
    rw [hk]
    exact .inl rfl
  · obtain ⟨k, hk⟩ := hd.heap g
    rw [hk]
    exact .inl rfl
  · rcases hd.server i with h | h <;> rw [h] <;> exact .inl rfl

/-! ## Servers -/

theorem pcpNewServer_clockOnly (ip : In6Addr) (port : UInt16) (scopeId : UInt32) :
    ClockOnly e c (pcpNewServer e c ip port scopeId).2 := by
  have hfill : ∀ (a : Ctx) (i : Nat), ClockOnly e a (newSlot e a ip port scopeId i) := by
    intro a i
    refine (ClockOnly.modServer a i (g := initServer e.cfg ip port scopeId (e.nonce a.nonces) i)
      (.inl rfl)).trans ?_
    exact .of_eq rfl rfl (Nat.le_refl _)
  have hcalloc : ∀ a : Ctx, ClockOnly e a a.callocCall := fun _ => .of_eq rfl rfl (Nat.le_refl _)
  have halloc : ∀ a, allocServers e c = some a → ClockOnly e c a := by
    intro a ha
    unfold allocServers at ha
    split at ha
    · split at ha
      · cases ha
        exact ⟨Nat.le_refl _, fun _ => .inl rfl, fun _ => .inl rfl, fun _ => .inr (.inl rfl)⟩
      · cases ha
    · cases ha
      exact .refl e c
  have hgrow : ∀ a b, growServers e a = some b → ClockOnly e a b := by
    intro a b hb
    unfold growServers at hb
    split at hb
    · cases hb
      refine ⟨Nat.le_refl _, fun _ => .inl rfl, fun _ => .inl rfl, fun i => ?_⟩
      dsimp only
      split
      · exact .inl rfl
      · exact .inr (.inl rfl)
    · cases hb
  unfold pcpNewServer
  cases ha : allocServers e c with
  | none => exact hcalloc c
  | some a =>
    dsimp only
    cases freeSlot a with
    | some i => exact (halloc a ha).trans (hfill a i)
    | none =>
      cases hb : growServers e a with
      | some b => exact (halloc a ha).trans ((hgrow a b hb).trans (hfill b _))
      | none => exact (halloc a ha).trans (hcalloc a)

theorem psdFillPcpServerSrc_clockOnly (s : Nat) : ClockOnly e c (psdFillPcpServerSrc e c s).2 := by
  have hlookups : ∀ (a : Ctx) (l : Nat), ClockOnly e a { a with lookups := l } :=
    fun _ _ => .of_eq rfl rfl (Nat.le_refl _)
  obtain ⟨a, l, ⟨-, h⟩ | ⟨-, -, src, scope, h⟩⟩ := psdFillPcpServerSrc_spec e c s
  all_goals rw [h]
  · exact (ClockOnly.modServer c s (g := Server.setSaddr a) (.inl rfl)).trans (hlookups _ l)
  · exact (ClockOnly.modServer c s (g := fun v => startPing src scope (v.setSaddr a))
      (.inr (.inl rfl))).trans (hlookups _ l)

theorem registerServer_clockOnly (version : UInt8) (s : Nat) :
    ClockOnly e c (registerServer e version c s).2 := by
  have hstart := ClockOnly.modServer (e := e) c s
    (g := fun v => { v with pcpVersion := version, serverState := .allocated }) (.inl rfl)
  have hfill := hstart.trans (psdFillPcpServerSrc_clockOnly e _ s)
  unfold registerServer
  dsimp only at hfill ⊢
  generalize psdFillPcpServerSrc e _ s = r at hfill ⊢
  obtain ⟨ok, a⟩ := r
  cases ok with
  | false =>
    dsimp only at hfill ⊢
    exact hfill.trans (ClockOnly.modServer a s (.inl rfl))
  | true => exact hfill

theorem psdAddPcpServer_clockOnly (sa : SockAddr) (version : UInt8) :
    ClockOnly e c (psdAddPcpServer e c sa version).2 := by
  unfold psdAddPcpServer
  dsimp only
  generalize (if (serverAddr sa).2.1 = 0 then pcpServerPort else (serverAddr sa).2.1) = port
  split
  · rename_i s _
    exact (ClockOnly.modServer c s (g := fun v => { v with pcpPort := port }) (.inl rfl)).trans
      (registerServer_clockOnly e _ version s)
  · have hnew := pcpNewServer_clockOnly e c (serverAddr sa).1 port (serverAddr sa).2.2
    generalize pcpNewServer e c (serverAddr sa).1 port (serverAddr sa).2.2 = r at hnew ⊢
    obtain ⟨i, a⟩ := r
    cases i with
    | none => exact hnew
    | some i =>
      dsimp only
      split
      · exact hnew
      · exact hnew.trans (registerServer_clockOnly e a version _)

theorem psdAddGws_clockOnly (gws : List (In6Addr × UInt32)) : ClockOnly e c (psdAddGws e gws c) := by
  refine .foldl (fun c gw => ?_) gws c
  split
  · exact .refl e c
  · split
    · exact .refl e c
    · have hnew := pcpNewServer_clockOnly e c gw.1 pcpServerPort gw.2
      generalize pcpNewServer e c gw.1 pcpServerPort gw.2 = r at hnew ⊢
      obtain ⟨i, a⟩ := r
      cases i with
      | none => exact hnew
      | some i =>
        dsimp only
        split
        · exact hnew
        · exact hnew.trans (psdFillPcpServerSrc_clockOnly e a _)

/-! ## New flows -/

theorem pcpCreateFlow_clockOnly (s : Nat) (kd : FlowKeyData) :
    ClockOnly e c (pcpCreateFlow e c s kd).2 := by
  unfold pcpCreateFlow
  split
  · dsimp only
    generalize hv : ({ Flow.zero with pcpServerIndx := _, kd := kd, keyBucket := none } : Flow) = v
    refine (ClockOnly.setFlow c c.heapTop (v := v) ?_ ?_).trans (.of_eq rfl rfl (Nat.le_refl _))
    · rw [← hv]
      exact .inr (.inl rfl)
    · rw [← hv]
      exact .inr rfl
  · exact .of_eq rfl rfl (Nat.le_refl _)

theorem initFlow_clockOnly (f : FlowId) (s : Nat) (d : CaasiData) : ClockOnly e c (initFlow e c f s d) := by
  have htick : ClockOnly e c c.tick := .of_eq rfl rfl (Nat.le_succ _)
  have hfields : ∀ v, (newFlowFields (e.strdup f) d v).recvLifetime = v.recvLifetime := by
    intro v
    unfold newFlowFields
    dsimp only
    repeat' split
    all_goals rfl
  have hnow : ∀ a : Ctx, a.io = c.io.tick → ∀ t, TimeOfDay e a t (e.now c.io) := by
    intro a ha t
    refine .inr (.inr ⟨c.io.ticks, ?_, rfl⟩)
    rw [ha]
    exact Nat.le_succ _
  have hadd : ∀ a : Ctx, ClockOnly e a (pcpDbAddFlow a (some f)) := fun a =>
    (ClockOnly.setFlow a f (v := { a.heap f with keyBucket := some (computeFlowKey (a.heap f).kd) })
      (.inl rfl) (.inl rfl)).trans (.of_eq rfl rfl (Nat.le_refl _))
  unfold initFlow
  dsimp only
  generalize (if (c.pcpServers s).serverState = .waitIo then FlowState.send else .waitForServerInit) = st
  have hset : ClockOnly e c (c.tick.modFlow f fun v =>
      { newFlowFields (e.strdup f) d v with lifetime := d.lifetime, timeout := e.now c.io, state := st }) :=
    htick.trans (.setFlow c.tick f (hnow _ rfl _) (.inl (hfields _)))
  exact (hset.trans (.modServer _ s (hnow _ rfl _))).trans (hadd _)

theorem chainFlows_clockOnly (d : CaasiData) : ClockOnly e c (chainFlows e c d).ctx := by
  refine List.foldlRecOn (motive := fun a => ClockOnly e c a.ctx) (List.range c.pcpServersLength)
    (chainAndAssignSrcIp e d) (b := { ctx := c }) (.refl e c) fun a ha s _ => ?_
  unfold chainAndAssignSrcIp
  split
  · exact ha
  · split
    · exact ha
    · rename_i kd _
      have hcreate := ha.trans (pcpCreateFlow_clockOnly e a.ctx s kd)
      generalize pcpCreateFlow e a.ctx s kd = r at hcreate ⊢
      obtain ⟨f, b⟩ := r
      cases f with
      | none => exact hcreate
      | some f =>
        have hinit := hcreate.trans (initFlow_clockOnly e b f s d)
        dsimp only
        split
        · exact hinit.trans (.setFlow _ _ (.inl rfl) (.inl rfl))
        · exact hinit

theorem pcpNewFlow_clockOnly (src : SockAddr) (dst ext : Option SockAddr) (protocol : UInt8)
    (lifetime : UInt32) : ClockOnly e c (pcpNewFlow e c src dst ext protocol lifetime).2 := by
  obtain ⟨l, hl⟩ := newFlowKey_env e c src dst protocol
  have hlookups : ClockOnly e c { c with lookups := l } := .of_eq rfl rfl (Nat.le_refl _)
  unfold pcpNewFlow
  generalize newFlowKey e c src dst protocol = r at hl ⊢
  obtain ⟨r, c₁⟩ := r
  simp only at hl
  subst hl
  cases r with
  | none => exact hlookups
  | some kd =>
    dsimp only
    split
    · exact hlookups
    · rename_i ext' _
      have hpass := chainFlows_clockOnly e { c with lookups := l } ⟨kd, lifetime, some ext', 0, none⟩
      generalize chainFlows e _ _ = a at hpass ⊢
      refine (hlookups.trans hpass).trans ?_
      split
      · cases a.ffirst with
        | none => exact .refl e _
        | some f => exact .foldl (pcpDeleteFlowIntern_clockOnly e) _ _
      · exact .refl e _

/-- A call that does not pulse sets timers to the time of day at most. -/
theorem Op.exec_clockOnly {op : Op} {n : Nat} {c' : Ctx} (hp : op.isPlain = true)
    (h : op.exec e n c = some c') : ClockOnly e c c' := by
  cases op <;> simp only [Op.exec, Op.setter, Option.map_some, Option.some.injEq] at h <;>
    first | subst h | skip
  case addServer sa v =>
    unfold pcpAddServer
    split
    · exact .refl e c
    · exact psdAddPcpServer_clockOnly e c sa v
  case addGws gws => exact psdAddGws_clockOnly e c gws
  case newFlow src dst ext p l => exact pcpNewFlow_clockOnly e c src dst ext p l
  case learnDscp d l j a => exact chainFlows_clockOnly e c _
  case setLifetime f l =>
    refine updateChain_clockOnly e c (fun _ => ?_) f
    exact ⟨rfl, rfl⟩
  case set3rdPartyOpt f a =>
    refine updateChain_clockOnly e c (fun _ => ?_) f
    exact ⟨rfl, rfl⟩
  case setFilterOpt f a p =>
    refine updateChain_clockOnly e c (fun _ => ?_) f
    exact ⟨rfl, rfl⟩
  case setPreferFailureOpt f =>
    refine .foldl (fun c i => ?_) _ c
    split
    · exact .refl e c
    · exact setter_clockOnly e c (g := fun v => { v with pfailureOptionPresent := true })
        (fun _ => ⟨rfl, rfl⟩) i
  case setUserid f u =>
    refine updateChain_clockOnly e c (fun _ => ?_) f
    exact ⟨rfl, rfl⟩
  case setLocation f l =>
    refine updateChain_clockOnly e c (fun _ => ?_) f
    exact ⟨rfl, rfl⟩
  case setDeviceid f d =>
    refine updateChain_clockOnly e c (fun _ => ?_) f
    exact ⟨rfl, rfl⟩
  case addMd f i v => exact pcpFlowAddMd_clockOnly e c i v f
  case setFlowp f u d =>
    refine updateChain_clockOnly e c (fun _ => ?_) f
    split <;> exact ⟨rfl, rfl⟩
  case closeFlow f dg => cases hp
  case deleteFlow f => exact .foldl (pcpDeleteFlowIntern_clockOnly e) _ c
  case setFlowChangeCb b => exact .of_eq rfl rfl (Nat.le_refl _)
  case pulse dg t => cases hp

end Calls

end LibPcp
