import LibPcp.Calls

/-!
# LibPcp.Reach

Reachable contexts are well formed, and every call is a sequence of micro-steps.

* `Reachable.ctxOk`: `CtxOk` holds in every context the client can be in.
* `Step.cases`: the micro-steps a call consists of.
-/

namespace LibPcp

open LabelledSteps

/-! ## Acts of calls, in terms of their parts -/

/-- The timer of the server with index `i` is set, if there is one. -/
def wakeServer (c : Ctx) (i : Nat) (t : Timeval) : Ctx :=
  match getPcpServer c i with
  | some s => c.setNextTimeout s t
  | none => c

/-- The flow after `pcp_flow_updated` at the time `t`. -/
def markUpdated (t : Timeval) (v : Flow) : Flow :=
  { v.clearMsgBuf with
    timeout := t
    state := if v.state ≠ .waitForServerInit ∧ v.state ≠ .idle ∧ v.state ≠ .failed then .send
      else v.state }

theorem pcpFlowUpdated_eq (e : Env) (c : Ctx) (f : FlowId) :
    pcpFlowUpdated e c f =
      (wakeServer c.tick (c.heap f).pcpServerIndx (e.now c.io)).modFlow f
        (markUpdated (e.now c.io)) := rfl

theorem markUpdated_state (t : Timeval) (v : Flow) :
    (markUpdated t v).state = if v.state.isInactive then v.state else .send := by
  unfold markUpdated
  cases v.state <;> simp [FlowState.isInactive]

theorem wakeServer_cases (c : Ctx) (i : Nat) (t : Timeval) :
    (¬ Live c i ∧ wakeServer c i t = c) ∨ (Live c i ∧ wakeServer c i t = c.setNextTimeout i t) := by
  unfold wakeServer
  cases hg : getPcpServer c i with
  | none =>
    refine .inl ⟨fun hl => ?_, rfl⟩
    have hsome : getPcpServer c i = some i := if_pos hl
    rw [hsome] at hg
    cases hg
  | some s =>
    obtain ⟨rfl, hl⟩ := getPcpServer_eq_some hg
    exact .inr ⟨hl, rfl⟩

theorem wakeServer_heap (c : Ctx) (i : Nat) (t : Timeval) : (wakeServer c i t).heap = c.heap := by
  rcases wakeServer_cases c i t with ⟨-, h⟩ | ⟨-, h⟩ <;> rw [h]
  rfl

theorem wakeServer_io (c : Ctx) (i : Nat) (t : Timeval) : (wakeServer c i t).io = c.io := by
  rcases wakeServer_cases c i t with ⟨-, h⟩ | ⟨-, h⟩ <;> rw [h]
  rfl

/-- `pcp_flow_updated` changes one flow, and the timer of its server. -/
theorem pcpFlowUpdated_heap (e : Env) (c : Ctx) (f : FlowId) :
    (pcpFlowUpdated e c f).heap =
      Function.update c.heap f (markUpdated (e.now c.io) (c.heap f)) := by
  rw [pcpFlowUpdated_eq, Ctx.modFlow, Ctx.setFlow_heap, wakeServer_heap]
  rfl

theorem pcpFlowUpdated_io (e : Env) (c : Ctx) (f : FlowId) :
    (pcpFlowUpdated e c f).io = c.io.tick := by
  rw [pcpFlowUpdated_eq, Ctx.modFlow, Ctx.setFlow_io, wakeServer_io]
  rfl

theorem pcpFlowUpdated_handled (e : Env) (c : Ctx) (f : FlowId) :
    (pcpFlowUpdated e c f).handled = c.handled := by
  rw [pcpFlowUpdated_eq]
  rcases wakeServer_cases c.tick (c.heap f).pcpServerIndx (e.now c.io) with ⟨-, h⟩ | ⟨-, h⟩ <;>
    rw [h] <;> rfl

theorem pcpFlowUpdated_heapTop (e : Env) (c : Ctx) (f : FlowId) :
    (pcpFlowUpdated e c f).heapTop = c.heapTop := by
  rw [pcpFlowUpdated_eq]
  rcases wakeServer_cases c.tick (c.heap f).pcpServerIndx (e.now c.io) with ⟨-, h⟩ | ⟨-, h⟩ <;>
    rw [h] <;> rfl

/-- The records after `pcp_flow_updated`: the server of the flow is woken. -/
theorem pcpFlowUpdated_server (e : Env) (c : Ctx) (f : FlowId) (i : Nat) :
    (pcpFlowUpdated e c f).pcpServers i =
      if i = (c.heap f).pcpServerIndx ∧ Live c i then
        { c.pcpServers i with nextTimeout := e.now c.io }
      else c.pcpServers i := by
  rw [pcpFlowUpdated_eq]
  rcases wakeServer_cases c.tick (c.heap f).pcpServerIndx (e.now c.io) with ⟨hl, h⟩ | ⟨hl, h⟩
  · rw [h, if_neg]
    · rfl
    · rintro ⟨rfl, hl'⟩
      exact hl hl'
  · rw [h]
    by_cases hi : i = (c.heap f).pcpServerIndx
    · subst hi
      rw [if_pos ⟨rfl, hl⟩]
      exact Ctx.setNextTimeout_self c.tick _ _
    · rw [if_neg fun h => hi h.1]
      exact Function.update_of_ne hi ..

theorem pcpFlowUpdated_flows (e : Env) (c : Ctx) (f : FlowId) : (pcpFlowUpdated e c f).flows = c.flows := by
  rw [pcpFlowUpdated_eq]
  rcases wakeServer_cases c.tick (c.heap f).pcpServerIndx (e.now c.io) with ⟨-, h⟩ | ⟨-, h⟩ <;>
    rw [h] <;> rfl

theorem pcpFlowUpdated_length (e : Env) (c : Ctx) (f : FlowId) :
    (pcpFlowUpdated e c f).pcpServersLength = c.pcpServersLength := by
  rw [pcpFlowUpdated_eq]
  rcases wakeServer_cases c.tick (c.heap f).pcpServerIndx (e.now c.io) with ⟨-, h⟩ | ⟨-, h⟩ <;>
    rw [h] <;> rfl

theorem zeroLifetime_heap (e : Env) (c : Ctx) (f : FlowId) :
    (zeroLifetime e c f).heap = Function.update c.heap f
      (markUpdated (e.now c.io) { c.heap f with lifetime := 0 }) := by
  rw [zeroLifetime, pcpFlowUpdated_heap]
  simp only [Ctx.modFlow, Ctx.setFlow_heap, Ctx.setFlow_io, Function.update_self,
    Function.update_idem]

theorem pcpDbRemFlow_cases (c : Ctx) (f : FlowId) :
    (pcpDbRemFlow c f).2 = c ∨
      ∃ b, f ∈ c.flows b ∧ (pcpDbRemFlow c f).2 =
        { c.modFlow f (fun v => { v with keyBucket := none }) with
          flows := Function.update c.flows b ((c.flows b).erase f)
          flowCnt := c.flowCnt - 1 } := by
  unfold pcpDbRemFlow
  cases (c.heap f).keyBucket with
  | none => exact .inl rfl
  | some b =>
    dsimp only
    split
    · rename_i hm
      exact .inr ⟨b, hm, rfl⟩
    · exact .inl rfl

theorem pcpDeleteFlowIntern_cases (c : Ctx) (f : FlowId) :
    pcpDeleteFlowIntern c f = (pcpDbRemFlow c f).2 ∨
      ∃ s, Live (pcpDbRemFlow c f).2 s ∧ pcpDeleteFlowIntern c f =
        (pcpDbRemFlow c f).2.modServer s fun v => { v with pingFlowMsg := none } := by
  unfold pcpDeleteFlowIntern
  dsimp only
  cases hg : getPcpServer (pcpDbRemFlow c f).2 ((pcpDbRemFlow c f).2.heap f).pcpServerIndx with
  | none => exact .inl rfl
  | some s =>
    obtain ⟨rfl, hl⟩ := getPcpServer_eq_some hg
    dsimp only
    split
    · exact .inr ⟨_, hl, rfl⟩
    · exact .inl rfl

/-- What deleting a flow leaves: flows are only taken out of the table, and a server may lose its ping
flow. -/
structure Deleted (c c' : Ctx) : Prop where
  table : ∀ b g, g ∈ c'.flows b → g ∈ c.flows b
  heap : ∀ g, ∃ k, c'.heap g = { c.heap g with keyBucket := k }
  server : ∀ i, c'.pcpServers i = c.pcpServers i ∨
    c'.pcpServers i = { c.pcpServers i with pingFlowMsg := none }
  heapTop : c'.heapTop = c.heapTop
  length : c'.pcpServersLength = c.pcpServersLength
  io : c'.io = c.io
  msg : c'.msg = c.msg
  handled : c'.handled = c.handled

theorem pcpDbRemFlow_deleted (c : Ctx) (f : FlowId) :
    Deleted c (pcpDbRemFlow c f).2 ∧ (pcpDbRemFlow c f).2.pcpServers = c.pcpServers := by
  rcases pcpDbRemFlow_cases c f with heq | ⟨b, -, heq⟩
  · rw [heq]
    exact ⟨⟨fun _ _ h => h, fun g => ⟨(c.heap g).keyBucket, rfl⟩, fun _ => .inl rfl, rfl, rfl, rfl,
      rfl, rfl⟩, rfl⟩
  · rw [heq]
    refine ⟨⟨fun b' g hm => ?_, fun g => ?_, fun _ => .inl rfl, rfl, rfl, rfl, rfl, rfl⟩, rfl⟩
    · dsimp only at hm
      by_cases hb : b' = b
      · subst hb
        rw [Function.update_self] at hm
        exact List.mem_of_mem_erase hm
      · rwa [Function.update_of_ne hb] at hm
    · by_cases hg : g = f
      · subst hg
        exact ⟨none, by simp [Ctx.modFlow]⟩
      · exact ⟨(c.heap g).keyBucket, by simp [Ctx.modFlow, hg]⟩

theorem pcpDeleteFlowIntern_deleted (c : Ctx) (f : FlowId) : Deleted c (pcpDeleteFlowIntern c f) := by
  obtain ⟨hrem, hserv⟩ := pcpDbRemFlow_deleted c f
  rcases pcpDeleteFlowIntern_cases c f with heq | ⟨s, -, heq⟩
  · rw [heq]
    exact hrem
  · rw [heq]
    refine ⟨hrem.table, hrem.heap, fun i => ?_, hrem.heapTop, hrem.length, hrem.io, hrem.msg,
      hrem.handled⟩
    rw [← hserv]
    by_cases hi : i = s
    · subst hi
      exact .inr (by simp [Ctx.modServer])
    · exact .inl (by simp [Ctx.modServer, hi])

/-! ## Well-formedness -/

section Ok

variable {c c' : Ctx}

/-- Records of which only harmless fields change, and flows that keep their key and server. -/
theorem CtxOk.congr (hc : CtxOk c) (hflows : c'.flows = c.flows) (htop : c'.heapTop = c.heapTop)
    (hheap : ∀ f, (c'.heap f).kd = (c.heap f).kd ∧ (c'.heap f).keyBucket = (c.heap f).keyBucket ∧
      (c'.heap f).pcpServerIndx = (c.heap f).pcpServerIndx)
    (hserv : ∀ i, c'.pcpServers i = c.pcpServers i ∨
      (SlotOk i (c'.pcpServers i) ∧ (c'.pcpServers i).index = (c.pcpServers i).index ∧
        ∀ p, (c'.pcpServers i).pingFlowMsg = some p → (c.pcpServers i).pingFlowMsg = some p)) :
    CtxOk c' := by
  refine ⟨?_, fun i => ?_, fun i p hp => ?_⟩
  · refine hc.table.congr hflows (Nat.le_of_eq htop.symm) fun f _ => ?_
    exact ⟨(hheap f).1, (hheap f).2.1⟩
  · rcases hserv i with h | ⟨h, -, -⟩
    · rw [h]
      exact hc.slot i
    · exact .inr h
  · rcases hserv i with h | ⟨-, hi, hping⟩
    · rw [h] at hp
      obtain ⟨hlt, ho⟩ := hc.ping i p hp
      refine ⟨htop ▸ hlt, ?_⟩
      rw [(hheap p).2.2, h]
      exact ho
    · obtain ⟨hlt, ho⟩ := hc.ping i p (hping p hp)
      refine ⟨htop ▸ hlt, ?_⟩
      rw [(hheap p).2.2, hi]
      exact ho

theorem CtxOk.setFlow (hc : CtxOk c) {f : FlowId} {v : Flow} (hkd : v.kd = (c.heap f).kd)
    (hkb : v.keyBucket = (c.heap f).keyBucket) (hix : v.pcpServerIndx = (c.heap f).pcpServerIndx) :
    CtxOk (c.setFlow f v) := by
  refine hc.congr rfl rfl (fun g => ?_) fun _ => .inl rfl
  by_cases hg : g = f
  · subst hg
    simp only [Ctx.setFlow_heap, Function.update_self]
    exact ⟨hkd, hkb, hix⟩
  · rw [Ctx.setFlow_heap, Function.update_of_ne hg]
    exact ⟨rfl, rfl, rfl⟩

theorem CtxOk.modServer (hc : CtxOk c) {s : Nat} {g : Server → Server}
    (hslot : SlotOk s (g (c.pcpServers s)))
    (hix : (g (c.pcpServers s)).index = (c.pcpServers s).index)
    (hp : ∀ p, (g (c.pcpServers s)).pingFlowMsg = some p → (c.pcpServers s).pingFlowMsg = some p) :
    CtxOk (c.modServer s g) := by
  refine hc.congr rfl rfl (fun _ => ⟨rfl, rfl, rfl⟩) fun i => ?_
  by_cases hi : i = s
  · subst hi
    simp only [Ctx.modServer, Ctx.setServer_pcpServers, Function.update_self]
    exact .inr ⟨hslot, hix, hp⟩
  · rw [Ctx.modServer, Ctx.setServer_pcpServers, Function.update_of_ne hi]
    exact .inl rfl

theorem CtxOk.setNextTimeout (hc : CtxOk c) {s : Nat} (hl : Live c s) (t : Timeval) :
    CtxOk (c.setNextTimeout s t) :=
  hc.modServer ⟨hc.index hl.2, (hc.used hl.2).af⟩ rfl fun _ h => h

theorem CtxOk.wakeServer (hc : CtxOk c) (i : Nat) (t : Timeval) : CtxOk (wakeServer c i t) := by
  rcases wakeServer_cases c i t with ⟨-, h⟩ | ⟨hl, h⟩
  · rw [h]
    exact hc
  · rw [h]
    exact hc.setNextTimeout hl t

theorem CtxOk.tick (hc : CtxOk c) : CtxOk c.tick :=
  hc.congr rfl rfl (fun _ => ⟨rfl, rfl, rfl⟩) fun _ => .inl rfl

theorem CtxOk.flowUpdated (hc : CtxOk c) (e : Env) (f : FlowId) : CtxOk (pcpFlowUpdated e c f) := by
  rw [pcpFlowUpdated_eq]
  exact (hc.tick.wakeServer _ _).setFlow rfl rfl rfl

theorem TableOk.remove (h : TableOk c) (f : FlowId) : TableOk (pcpDbRemFlow c f).2 := by
  rcases pcpDbRemFlow_cases c f with heq | ⟨b, hb, heq⟩
  · rw [heq]
    exact h
  · rw [heq]
    have hmem : ∀ b' g, g ∈ Function.update c.flows b ((c.flows b).erase f) b' →
        g ∈ c.flows b' ∧ g ≠ f := by
      intro b' g hg
      by_cases hb' : b' = b
      · subst hb'
        rw [Function.update_self] at hg
        exact ⟨List.mem_of_mem_erase hg, ((h.nodup b').mem_erase_iff.mp hg).1⟩
      · rw [Function.update_of_ne hb'] at hg
        refine ⟨hg, ?_⟩
        rintro rfl
        have h₁ := (h.bucket b' g hg).2
        have h₂ := (h.bucket b g hb).2
        exact hb' (h₁.symm.trans h₂)
    refine ⟨fun b' g hg => ?_, fun b' => ?_, fun b' g hg => ?_⟩
    · obtain ⟨hold, hne⟩ := hmem b' g hg
      simp only [Ctx.modFlow, Ctx.setFlow_heap, Function.update_of_ne hne]
      exact h.bucket b' g hold
    · by_cases hb' : b' = b
      · subst hb'
        simp only [Function.update_self]
        exact (h.nodup b').erase f
      · simp only [Function.update_of_ne hb']
        exact h.nodup b'
    · exact h.fresh b' g (hmem b' g hg).1

theorem CtxOk.deleteFlow (hc : CtxOk c) (f : FlowId) : CtxOk (pcpDeleteFlowIntern c f) := by
  have hrem : CtxOk (pcpDbRemFlow c f).2 := by
    refine ⟨hc.table.remove f, ?_, ?_⟩
    all_goals rcases pcpDbRemFlow_cases c f with heq | ⟨b, hb, heq⟩ <;> rw [heq]
    · exact hc.slot
    · exact hc.slot
    · exact hc.ping
    · intro i p hp
      obtain ⟨hlt, ho⟩ := hc.ping i p hp
      refine ⟨hlt, ?_⟩
      by_cases hpf : p = f
      · subst hpf
        simpa [Ctx.modFlow] using ho
      · simpa [Ctx.modFlow, hpf] using ho
  rcases pcpDeleteFlowIntern_cases c f with heq | ⟨s, hl, heq⟩
  · rw [heq]
    exact hrem
  · rw [heq]
    exact hrem.modServer ⟨hrem.index hl.2, (hrem.used hl.2).af⟩ rfl (by simp)

/-- The record of server `i` after `addNewFlow`. -/
theorem addNewFlow_server (c : Ctx) (s : Nat) (fl : Flow) (t : Timeval) (io : Io) (i : Nat) :
    (addNewFlow c s fl t io).pcpServers i =
      if i = s then { c.pcpServers s with nextTimeout := t } else c.pcpServers i := by
  by_cases hi : i = s
  · subst hi
    simp [addNewFlow, pcpDbAddFlow, Ctx.modFlow, Ctx.setNextTimeout, Ctx.modServer]
  · simp [addNewFlow, pcpDbAddFlow, Ctx.modFlow, Ctx.setNextTimeout, Ctx.modServer, hi]

theorem addNewFlow_heap (c : Ctx) (s : Nat) (fl : Flow) (t : Timeval) (io : Io) (g : FlowId) :
    (addNewFlow c s fl t io).heap g =
      if g = c.heapTop then { fl with keyBucket := some (computeFlowKey fl.kd) } else c.heap g := by
  by_cases hg : g = c.heapTop
  · subst hg
    simp [addNewFlow, pcpDbAddFlow, Ctx.modFlow, Ctx.setNextTimeout, Ctx.modServer]
  · simp [addNewFlow, pcpDbAddFlow, Ctx.modFlow, Ctx.setNextTimeout, Ctx.modServer, hg]

theorem mem_addNewFlow {s : Nat} {fl : Flow} {t : Timeval} {io : Io} {g : FlowId} {b : Nat} :
    g ∈ (addNewFlow c s fl t io).flows b ↔
      g ∈ c.flows b ∨ (g = c.heapTop ∧ b = computeFlowKey fl.kd) := by
  unfold addNewFlow
  rw [mem_pcpDbAddFlow]
  simp [Ctx.setNextTimeout, Ctx.modServer]

theorem CtxOk.addNewFlow (hc : CtxOk c) {s : Nat} (hl : Live c s) (fl : Flow) (t : Timeval) (io : Io) :
    CtxOk (addNewFlow c s fl t io) := by
  refine ⟨?_, fun i => ?_, fun i p hp => ?_⟩
  · have hmid : TableOk (({ c.setFlow c.heapTop fl with
        heapTop := c.heapTop + 1, io := io } : Ctx).setNextTimeout s t) := by
      refine hc.table.congr rfl (Nat.le_succ _) fun f hf => ?_
      change (Function.update c.heap c.heapTop fl f).kd = _ ∧
        (Function.update c.heap c.heapTop fl f).keyBucket = _
      rw [Function.update_of_ne (Nat.ne_of_lt hf)]
      exact ⟨rfl, rfl⟩
    refine hmid.add (fun b hb => ?_) (Nat.lt_succ_self _)
    exact Nat.lt_irrefl _ (hc.table.fresh b _ hb)
  · rw [addNewFlow_server]
    split
    · rename_i hi
      subst hi
      exact .inr ⟨hc.index hl.2, (hc.used hl.2).af⟩
    · exact hc.slot i
  · have hold : (c.pcpServers i).pingFlowMsg = some p := by
      rw [addNewFlow_server] at hp
      split at hp
      · rename_i hi
        subst hi
        exact hp
      · exact hp
    obtain ⟨hlt, ho⟩ := hc.ping i p hold
    refine ⟨Nat.lt_succ_of_lt hlt, ?_⟩
    rw [addNewFlow_heap, if_neg (Nat.ne_of_lt hlt), ho, addNewFlow_server]
    split
    · rename_i hi
      subst hi
      rfl
    · rfl

theorem EnvOnly.ctxOk (h : EnvOnly c c') (hc : CtxOk c) : CtxOk c' := by
  rw [h.eq]
  exact hc.congr rfl rfl (fun _ => ⟨rfl, rfl, rfl⟩) fun _ => .inl rfl

theorem CallAct.ctxOk {e : Env} {k : CallKind} (h : CallAct e k c c') (hc : CtxOk c) : CtxOk c' := by
  cases h with
  | env h => exact h.ctxOk hc
  | array c arr len hold hnew hlen =>
    have hcase : ∀ i, arr i = c.pcpServers i ∨ arr i = .zero := fun i =>
      (Nat.lt_or_ge i c.pcpServersLength).imp (hold i) (hnew i)
    refine ⟨⟨hc.table.bucket, hc.table.nodup, hc.table.fresh⟩, fun i => ?_, fun i p hp => ?_⟩
    · rcases hcase i with h | h
      · simp only [h]
        exact hc.slot i
      · exact .inl h
    · rcases hcase i with h | h
      · simp only [h] at hp
        obtain ⟨hlt, ho⟩ := hc.ping i p hp
        refine ⟨hlt, ?_⟩
        simp only [h]
        exact ho
      · simp only [h] at hp
        cases hp
  | fresh c s v hs hu h =>
    rcases hc.slot s with hz | hs
    · -- the slot has never been used, so it has no ping flow
      refine ⟨⟨hc.table.bucket, hc.table.nodup, hc.table.fresh⟩, fun i => ?_, fun i p hp => ?_⟩
      · by_cases hi : i = s
        · subst hi
          rw [Ctx.setServer_pcpServers, Function.update_self]
          exact .inr h.slot
        · rw [Ctx.setServer_pcpServers, Function.update_of_ne hi]
          exact hc.slot i
      · by_cases hi : i = s
        · subst hi
          rw [Ctx.setServer_pcpServers, Function.update_self, h.pingFlowMsg, hz] at hp
          cases hp
        · rw [Ctx.setServer_pcpServers, Function.update_of_ne hi] at hp
          obtain ⟨hlt, ho⟩ := hc.ping i p hp
          refine ⟨hlt, ?_⟩
          rw [Ctx.setServer_pcpServers, Function.update_of_ne hi]
          exact ho
    · exact hc.modServer (g := fun _ => v) h.slot (h.slot.index.trans hs.index.symm)
        fun p hp => h.pingFlowMsg ▸ hp
  | again c s found v hl h =>
    refine hc.modServer (g := fun _ => v) ⟨h.index.trans (hc.index hl.2), ?_⟩ h.index
      fun p hp => h.pingFlowMsg ▸ hp
    rw [h.af, h.pcpIp]
    exact (hc.used hl.2).af
  | create c s fl io hl h hs ht => exact hc.addNewFlow hl fl _ io
  | link c p f => exact hc.setFlow rfl rfl rfl
  | update c f v h => exact (hc.setFlow h.kd h.keyBucket h.pcpServerIndx).flowUpdated e f
  | close c f h =>
    have hzero : CtxOk (c.modFlow f fun v => { v with lifetime := 0 }) := hc.setFlow rfl rfl rfl
    exact hzero.flowUpdated e f
  | fail c f h => exact hc.setFlow rfl rfl rfl
  | delete c f => exact hc.deleteFlow f

end Ok

/-- Calls that do not pulse send nothing and handle no event, and flows are never given back. -/
structure Silent (c c' : Ctx) : Prop where
  handled : c'.handled = c.handled
  sent : c'.io.sent = c.io.sent
  heapTop : c.heapTop ≤ c'.heapTop
  ticks : c.io.ticks ≤ c'.io.ticks

theorem Silent.trans {c₁ c₂ c₃ : Ctx} (h₁ : Silent c₁ c₂) (h₂ : Silent c₂ c₃) : Silent c₁ c₃ :=
  ⟨h₂.handled.trans h₁.handled, h₂.sent.trans h₁.sent, Nat.le_trans h₁.heapTop h₂.heapTop,
    Nat.le_trans h₁.ticks h₂.ticks⟩

theorem CallAct.silent {e : Env} {k : CallKind} {c c' : Ctx} (h : CallAct e k c c') :
    Silent c c' := by
  cases h with
  | env h =>
    have hsent := h.sent
    have hticks := h.ticks
    rw [h.eq]
    exact ⟨rfl, hsent, Nat.le_refl _, hticks⟩
  | array | fresh | again | link | fail => exact ⟨rfl, rfl, Nat.le_refl _, Nat.le_refl _⟩
  | create c s fl io hl h hs ht =>
    exact ⟨rfl, hs, Nat.le_succ _, Nat.le_of_lt (Nat.lt_of_lt_of_eq (Nat.lt_succ_self _) ht.symm)⟩
  | update c f v h =>
    refine ⟨pcpFlowUpdated_handled e _ f, ?_, ?_, ?_⟩
    all_goals simp only [pcpFlowUpdated_io, pcpFlowUpdated_heapTop]
    · rfl
    · exact Nat.le_refl _
    · exact Nat.le_succ _
  | close c f h =>
    refine ⟨pcpFlowUpdated_handled e _ f, ?_, ?_, ?_⟩
    all_goals simp only [zeroLifetime, pcpFlowUpdated_io, pcpFlowUpdated_heapTop]
    · rfl
    · exact Nat.le_refl _
    · exact Nat.le_succ _
  | delete c f =>
    have hd := pcpDeleteFlowIntern_deleted c f
    refine ⟨hd.handled, ?_, ?_, ?_⟩
    all_goals simp only [hd.io, hd.heapTop, Nat.le_refl]

/-- What a call does to a flow. -/
inductive Flow.Called (e : Env) (c : Ctx) : Flow → Flow → Prop where
  | link (v : Flow) (b : Option Nat) (n : Option FlowId) :
      Called e c v { v with keyBucket := b, nextChild := n }
  | create (v : Flow) {s : Nat} {w : Flow} (b : Option Nat)
      (h : Created (c.pcpServers s) (e.now c.io) w) : Called e c v { w with keyBucket := b }
  | update {v w : Flow} (h : v.Set w) : Called e c v (markUpdated (e.now c.io) w)
  | fail {v : Flow} (h : v.state.isInactive = true) : Called e c v { v with state := .failed }

/-- What a call does to a flow that exists. -/
inductive Flow.Altered (t : Timeval) : Flow → Flow → Prop where
  | link (v : Flow) (b : Option Nat) (n : Option FlowId) :
      Altered t v { v with keyBucket := b, nextChild := n }
  | update {v w : Flow} (h : v.Set w) : Altered t v (markUpdated t w)
  | fail {v : Flow} (h : v.state.isInactive = true) : Altered t v { v with state := .failed }

theorem Flow.Altered.called {e : Env} {c : Ctx} {v w : Flow} (h : v.Altered (e.now c.io) w) :
    Flow.Called e c v w := by
  cases h with
  | link b n => exact .link v b n
  | update h => exact .update h
  | fail h => exact .fail h

theorem CallAct.altered {e : Env} {k : CallKind} {c c' : Ctx} {g : FlowId} (h : CallAct e k c c')
    (hold : (∃ s, k = .create s) → g ≠ c.heapTop) :
    (c.heap g).Altered (e.now c.io) (c'.heap g) := by
  have hsame : (c.heap g).Altered (e.now c.io) (c.heap g) :=
    .link _ (c.heap g).keyBucket (c.heap g).nextChild
  have hupdate : ∀ {f : FlowId} {v : Flow}, (c.heap f).Altered (e.now c.io) v →
      (c.heap g).Altered (e.now c.io) (Function.update c.heap f v g) := by
    intro f v hv
    by_cases hg : g = f
    · subst hg
      rw [Function.update_self]
      exact hv
    · rw [Function.update_of_ne hg]
      exact hsame
  cases h with
  | env h =>
    rw [h.eq]
    exact hsame
  | array | fresh | again => exact hsame
  | create c s fl io hl h hs ht =>
    rw [addNewFlow_heap, if_neg (hold ⟨s, rfl⟩)]
    exact hsame
  | link c p f => exact hupdate (.link _ (c.heap p).keyBucket (some f))
  | update c f v h =>
    rw [pcpFlowUpdated_heap]
    simp only [Ctx.setFlow_heap, Ctx.setFlow_io, Function.update_self, Function.update_idem]
    exact hupdate (.update h)
  | close c f h =>
    rw [zeroLifetime_heap]
    exact hupdate (.update ⟨rfl, rfl, rfl, rfl, rfl⟩)
  | fail c f h => exact hupdate (.fail h)
  | delete c f =>
    obtain ⟨b, hb⟩ := (pcpDeleteFlowIntern_deleted c f).heap g
    rw [hb]
    exact .link _ b (c.heap g).nextChild

theorem CallAct.flow {e : Env} {k : CallKind} {c c' : Ctx} (h : CallAct e k c c') (g : FlowId) :
    Flow.Called e c (c.heap g) (c'.heap g) := by
  by_cases hnew : (∃ s, k = .create s) ∧ g = c.heapTop
  · obtain ⟨⟨s, rfl⟩, rfl⟩ := hnew
    cases h with
    | create c s fl io hl h hs ht =>
      rw [addNewFlow_heap, if_pos rfl]
      exact .create _ _ h
  · exact (h.altered fun hk hg => hnew ⟨hk, hg⟩).called

/-- A call brings no flow to a state in which it waits for an answer or for its renewal. -/
theorem Flow.Called.linked {e : Env} {c : Ctx} {v w : Flow} (h : Flow.Called e c v w)
    (hactive : w.state.isInactive = false) (hsend : w.state ≠ .send) :
    ∃ b n, w = { v with keyBucket := b, nextChild := n } := by
  cases h with
  | link b n => exact ⟨b, n, rfl⟩
  | @create s fl b h =>
    have hst := h.state
    split at hst
    · exact absurd hst hsend
    · change fl.state.isInactive = false at hactive
      rw [hst] at hactive
      cases hactive
  | @update fl h =>
    rw [markUpdated_state] at hactive hsend
    split at hactive
    · rename_i hin
      rw [hin] at hactive
      cases hactive
    · rename_i hin
      exact absurd (if_neg hin) hsend
  | fail => cases hactive

/-! ## Steps of a run -/

theorem CallActs.silent {e : Env} {K : CallKind → Prop} {c c' : Ctx} (h : CallActs e K c c') :
    Silent c c' :=
  h.relate (fun _ => ⟨rfl, rfl, Nat.le_refl _, Nat.le_refl _⟩) (fun _ _ _ => .trans)
    fun _ _ _ _ hact => hact.silent

theorem CallActs.ctxOk {e : Env} {K : CallKind → Prop} {c c' : Ctx} (h : CallActs e K c c')
    (hc : CtxOk c) : CtxOk c' :=
  h.invariant (I := CtxOk) (fun _ _ _ ha _ hact => hact.ctxOk ha) hc

/-- How a call decomposes: acts of the application, or the steps of a pulse, after those of closing
the chain if it is `pcp_close_flow`. -/
inductive StepCases (e : Env) (c : Ctx) : Op → Ctx → Prop where
  | call {op : Op} {c' : Ctx} (hp : op.isPlain = true) (h : step e 0 c op = some c')
      (ha : CallActs e (op.kinds e c) c c') : StepCases e c op c'
  | close {f : FlowId} {dg : Option Datagram} {l : MicroOp} {c₁ c' : Ctx}
      (hlive : ∀ g ∈ c.chain f, g ∈ c.allFlows) (hl : l.Receives dg)
      (hm : Micro e l (closeChain e c f) c₁) (ht : TimerSteps e c₁ c') :
      StepCases e c (.closeFlow f dg) c'
  | pulse {dg : Option Datagram} {t : Timeval} {l : MicroOp} {c₁ c' : Ctx} (hl : l.Receives dg)
      (hm : Micro e l c c₁) (ht : TimerSteps e c₁ c') : StepCases e c (.pulse dg t) c'

theorem Op.exec_plain {op : Op} (hp : op.isPlain = true) (e : Env) (n m : Nat) (c : Ctx) :
    op.exec e n c = op.exec e m c := by
  cases op <;> first | rfl | cases hp

theorem Step.cases {e : Env} {c c' : Ctx} {op : Op} (h : Step e c op c') (hc : CtxOk c) :
    StepCases e c op c' ∧ CtxOk c' := by
  obtain ⟨n, h⟩ := h
  have hstep := h
  unfold step at h
  split at h
  · rename_i hlive
    by_cases hp : op.isPlain = true
    · have hacts := Op.exec_acts hc hp h
      refine ⟨.call hp ?_ hacts, hacts.ctxOk hc⟩
      rw [← hstep, step, step, Op.exec_plain hp e n 0 c]
    · cases op with
      | closeFlow f dg =>
        simp only [Op.exec, pcpCloseFlow, Option.map_eq_some_iff] at h
        obtain ⟨⟨c₂, t⟩, h, rfl⟩ := h
        have hok := (closeChain_acts (e := e) f).ctxOk hc
        obtain ⟨l, c₁, hl, hm, ht, hok'⟩ := pcpPulse_micro h hok
        exact ⟨.close (hlive f rfl) hl hm ht, hok'⟩
      | pulse dg t =>
        simp only [Op.exec, Option.map_eq_some_iff] at h
        obtain ⟨⟨c₂, t'⟩, h, rfl⟩ := h
        obtain ⟨l, c₁, hl, hm, ht, hok'⟩ := pcpPulse_micro h hc
        exact ⟨.pulse hl hm ht, hok'⟩
      | _ => exact absurd rfl hp
  · cases h

theorem MicroOp.Receives.isPulse {dg : Option Datagram} {l : MicroOp} (h : l.Receives dg) :
    l.isPulse = true := by
  cases l with
  | call op => exact h.elim
  | close f => exact h.elim
  | quiet | drop | recv | fire | settle => rfl

theorem MicroOp.isPulse_of_isTimer {l : MicroOp} (h : l.isTimer = true) : l.isPulse = true := by
  cases l <;> first | rfl | cases h

theorem Micro.ctxOk {e : Env} {l : MicroOp} {c c' : Ctx} (h : Micro e l c c') (hl : l.isPulse = true)
    (hc : CtxOk c) : CtxOk c' := by
  cases h with
  | call hp h => cases hl
  | close hlive => cases hl
  | quiet => exact hc.withMsg _
  | drop h => exact hc.received h
  | recv h =>
    obtain ⟨hacts, hlive, -⟩ := recv_acts h hc
    exact hacts.ctxOk (hc.received h) hlive.2
  | fire hlive hd => exact (fire_acts (hc.wf _) hlive.2).ctxOk hc hlive.2
  | @settle s c hlive hd =>
    have hset : Acts e s [.own] c (LibPcp.settle s c) := settle_acts
    exact hset.ctxOk hc hlive.2

/-- What holds through the parts of a call holds after it: the acts of a call that does not pulse,
closing a chain, and the steps of a pulse. -/
theorem Step.keeps {e : Env} {I : Ctx → Prop} {c c' : Ctx} {op : Op} (h : Step e c op c')
    (hc : CtxOk c) (hi : I c)
    (hcall : op.isPlain = true → CallActs e (op.kinds e c) c c' → I c')
    (hclose : ∀ f dg, op = .closeFlow f dg → (∀ g ∈ c.chain f, g ∈ c.allFlows) →
      I (closeChain e c f))
    (hpulse : ∀ l a b, l.isPulse = true → CtxOk a → I a → Micro e l a b → I b) : I c' := by
  have hall : ∀ {l dg c₀ c₁ c₂}, CtxOk c₀ → I c₀ → l.Receives dg → Micro e l c₀ c₁ →
      TimerSteps e c₁ c₂ → I c₂ := by
    intro l dg c₀ c₁ c₂ hok hi hl hm ht
    have h₁ : CtxOk c₁ ∧ I c₁ := ⟨hm.ctxOk hl.isPulse hok, hpulse l _ _ hl.isPulse hok hi hm⟩
    refine (ht.invariant (I := fun a => CtxOk a ∧ I a) (fun l a b ha hl hm => ?_) h₁).2
    have hp := MicroOp.isPulse_of_isTimer hl
    exact ⟨hm.ctxOk hp ha.1, hpulse l a b hp ha.1 ha.2 hm⟩
  cases (h.cases hc).1 with
  | call hp h ha => exact hcall hp ha
  | @close f dg l c₁ c' hlive hl hm ht =>
    exact hall ((closeChain_acts f).ctxOk hc) (hclose f dg rfl hlive) hl hm ht
  | pulse hl hm ht => exact hall hc hi hl hm ht

theorem CtxOk.empty : CtxOk {} :=
  ⟨⟨by simp, by simp, by simp⟩, fun _ => .inl rfl, fun _ _ h => by cases h⟩

theorem Reachable.ctxOk {e : Env} {c : Ctx} (h : Reachable e c) : CtxOk c :=
  Steps.invariant (fun _ _ _ ha _ hs => (hs.cases ha).2) h .empty

/-! ## Runs in micro-steps -/

/-- Contexts the client can be in, also inside of a pulse. -/
def MicroReachable (e : Env) (c : Ctx) : Prop := Micros e (fun _ _ => True) {} c

theorem Micro.keepsOk {e : Env} {l : MicroOp} {c c' : Ctx} (h : Micro e l c c') (hc : CtxOk c) :
    CtxOk c' := by
  cases h with
  | call hp h =>
    have hstep : Step e c _ c' := ⟨0, h⟩
    exact (hstep.cases hc).2
  | close hl => exact (closeChain_acts _).ctxOk hc
  | quiet => exact hc.withMsg _
  | drop h => exact hc.received h
  | recv h => exact Micro.ctxOk (.recv h) rfl hc
  | fire hl hd => exact Micro.ctxOk (.fire hl hd) rfl hc
  | settle hl hd => exact Micro.ctxOk (e := e) (.settle hl hd) rfl hc

theorem Micros.ctxOk {e : Env} {P : Ctx → MicroOp → Prop} {c c' : Ctx} (h : Micros e P c c')
    (hc : CtxOk c) : CtxOk c' :=
  h.invariant (I := CtxOk) (fun _ _ _ hc _ hm => hm.keepsOk hc) hc

theorem MicroReachable.ctxOk {e : Env} {c : Ctx} (h : MicroReachable e c) : CtxOk c :=
  Micros.ctxOk h .empty

theorem MicroReachable.micros {e : Env} {P : Ctx → MicroOp → Prop} {c c' : Ctx}
    (hc : MicroReachable e c) (h : Micros e P c c') : MicroReachable e c' :=
  Steps.trans hc (h.mono fun _ _ _ => trivial)

theorem Step.micros {e : Env} {c c' : Ctx} {op : Op} (h : Step e c op c') (hc : CtxOk c) :
    Micros e (fun _ _ => True) c c' := by
  cases (h.cases hc).1 with
  | call hp h ha => exact .single (.call hp h) trivial
  | close hlive hl hm ht =>
    exact Steps.trans (.single (.close hlive) trivial)
      (Steps.trans (.single hm trivial) (ht.mono fun _ _ _ => trivial))
  | pulse hl hm ht => exact Steps.trans (.single hm trivial) (ht.mono fun _ _ _ => trivial)

theorem Reachable.micros {e : Env} {c : Ctx} (h : Reachable e c) : MicroReachable e c := by
  have hinv : CtxOk c ∧ MicroReachable e c :=
    Steps.invariant (I := fun c => CtxOk c ∧ MicroReachable e c)
      (fun _ _ _ hi _ hs => ⟨(hs.cases hi.1).2, Steps.trans hi.2 (hs.micros hi.1)⟩) h
      ⟨.empty, .refl⟩
  exact hinv.2

/-- What every act of the handlers keeps, whatever message there is. -/
structure KeptByServers (e : Env) (I : Ctx → Prop) : Prop where
  act : ∀ {s k c c'}, Act e s k c c' → I c → I c'
  msg : ∀ {c} m, I c → I { c with msg := m }

namespace KeptByServers

variable {e : Env} {I : Ctx → Prop} {c c' : Ctx}

theorem acts (hI : KeptByServers e I) {s : Nat} {K : List ActKind} (h : Acts e s K c c') (hi : I c) :
    I c' :=
  h.invariant (I := I) (fun _ _ _ hi _ hact => hI.act hact hi) hi

theorem received (hI : KeptByServers e I) {dg : Datagram} {r : Option Nat}
    (h : acceptMsg e (readMsg e c dg) = (r, c')) (hi : I c) : I c' := by
  obtain ⟨⟨m, rfl⟩, -⟩ := received_eq h
  exact hI.msg m (hI.act (s := 0) (.tick c) hi)

theorem micro (hI : KeptByServers e I) {l : MicroOp} (h : Micro e l c c') (hl : l.isPulse = true)
    (hc : CtxOk c) (hi : I c) : I c' := by
  cases h with
  | call hp h => cases hl
  | close hlive => cases hl
  | quiet => exact hI.msg _ hi
  | drop h => exact hI.received h hi
  | recv h =>
    obtain ⟨hacts, -, -⟩ := recv_acts h hc
    exact hI.acts hacts (hI.received h hi)
  | fire hlive hd => exact hI.acts (fire_acts (hc.wf _) hlive.2) hi
  | @settle s c hlive hd =>
    have hset : Acts e s [.own] c (LibPcp.settle s c) := settle_acts
    exact hI.acts hset hi

/-- The steps of a pulse. -/
theorem pulse (hI : KeptByServers e I) {dg : Option Datagram} {l : MicroOp} {c₁ : Ctx}
    (hl : l.Receives dg) (hm : Micro e l c c₁) (ht : TimerSteps e c₁ c') (hc : CtxOk c) (hi : I c) :
    I c' := by
  have h₁ : CtxOk c₁ ∧ I c₁ := ⟨hm.ctxOk hl.isPulse hc, hI.micro hm hl.isPulse hc hi⟩
  refine (ht.invariant (I := fun a => CtxOk a ∧ I a) (fun l a b ha hl hm => ?_) h₁).2
  have hp := MicroOp.isPulse_of_isTimer hl
  exact ⟨hm.ctxOk hp ha.1, hI.micro hm hp ha.1 ha.2⟩

end KeptByServers

/-- What every act keeps, of the handlers and of the application, whatever message there is. -/
structure KeptByActs (e : Env) (I : Ctx → Prop) : Prop where
  act : ∀ {s k c c'}, Act e s k c c' → I c → I c'
  call : ∀ {k c c'}, CallAct e k c c' → I c → I c'
  msg : ∀ {c} m, I c → I { c with msg := m }

namespace KeptByActs

variable {e : Env} {I : Ctx → Prop} {c c' : Ctx}

theorem servers (hI : KeptByActs e I) : KeptByServers e I := ⟨hI.act, hI.msg⟩

theorem callActs (hI : KeptByActs e I) {K : CallKind → Prop} (h : CallActs e K c c') (hi : I c) :
    I c' :=
  h.invariant (I := I) (fun _ _ _ hi _ hact => hI.call hact hi) hi

theorem step (hI : KeptByActs e I) {op : Op} (h : Step e c op c') (hc : CtxOk c) (hi : I c) : I c' :=
  h.keeps hc hi (fun _ hacts => hI.callActs hacts hi) (fun f _ _ _ => hI.callActs (closeChain_acts f) hi)
    fun _ _ _ hl hc hi hm => hI.servers.micro hm hl hc hi

theorem reachable (hI : KeptByActs e I) (h : Reachable e c) (h₀ : I {}) : I c := by
  have hinv : CtxOk c ∧ I c :=
    Steps.invariant (I := fun c => CtxOk c ∧ I c)
      (fun _ _ _ hi _ hs => ⟨(hs.cases hi.1).2, hI.step hs hi.1 hi.2⟩) h ⟨.empty, h₀⟩
  exact hinv.2

end KeptByActs

/-- What every call of `handle_flow_event` keeps, and every change of flows beside them. -/
structure KeptByEvents (e : Env) (I : Ctx → Prop) : Prop where
  event : ∀ {c f ev m}, ev ≠ .msgSent → I c → I (handleFlowEvent e c f ev m)
  unheard : ∀ {c c'}, Unheard c c' → I c → I c'
  call : ∀ {c c'}, c'.handled = c.handled → c'.io.sent = c.io.sent →
    (∀ f, Flow.Called e c (c.heap f) (c'.heap f)) → I c → I c'

theorem KeptByEvents.kept {e : Env} {I : Ctx → Prop} (h : KeptByEvents e I) : KeptByActs e I where
  act hact hi := by
    rcases hact.heard with hu | ⟨c₀, f, ev, m, hu, hev, rfl⟩
    · exact h.unheard hu hi
    · exact h.event hev (h.unheard hu hi)
  call hact hi := h.call hact.silent.handled hact.silent.sent hact.flow hi
  msg {c} m hi := by
    have hu : Unheard c { c with msg := m } := .of_heap rfl rfl rfl
    exact h.unheard hu hi

end LibPcp
