import LibPcp.Reach

/-!
# LibPcp.Woken

What the rest of the client does to the record of a server.

Calls of the application write the time of day into the timer of a server whose flows they change or
that they give a flow (`Op.wakes`). Apart from that, and from registering it again, only the
steps of the server itself change its record.

* `CallAct.server`, `CallAct.record`: one act of a call.
* `Micro.server`: one step of a run.
* `KeptByOthers.micro`: what those steps keep of a record.
-/

namespace LibPcp

open LabelledSteps

/-! ## Acts of a call -/

/-- The server's timer is set to the time of day. -/
def CallKind.Wakes (c : Ctx) (s : Nat) : CallKind → Prop
  | .create i => i = s
  | .update f | .close f => (c.heap f).pcpServerIndx = s
  | _ => False

/-- The record but for the ping flow and the timer. -/
def Server.SameBut (v w : Server) : Prop :=
  w = { v with pingFlowMsg := w.pingFlowMsg, nextTimeout := w.nextTimeout }

theorem Server.SameBut.refl (v : Server) : v.SameBut v := rfl

theorem Server.SameBut.trans {u v w : Server} (h₁ : u.SameBut v) (h₂ : v.SameBut w) : u.SameBut w := by
  unfold Server.SameBut at *
  rw [h₂, h₁]

theorem Server.SameBut.serverState {v w : Server} (h : v.SameBut w) : w.serverState = v.serverState := by
  rw [h]

section Acts

variable {e : Env} {c c' : Ctx} {s : Nat} {k : CallKind}

theorem CallAct.server (h : CallAct e k c c') (hl : Live c s) :
    (∃ found, k = .again s found) ∨
      ((c.pcpServers s).SameBut (c'.pcpServers s) ∧ s < c'.pcpServersLength ∧
        ((c'.pcpServers s).nextTimeout = (c.pcpServers s).nextTimeout ∨ k.Wakes c s)) := by
  have hsame := Server.SameBut.refl (c.pcpServers s)
  have hset : ∀ {i : Nat} {v : Server}, s ≠ i → (c.setServer i v).pcpServers s = c.pcpServers s :=
    fun hi => Function.update_of_ne hi ..
  cases h with
  | env h =>
    rw [h.eq]
    exact .inr ⟨hsame, hl.1, .inl rfl⟩
  | array c arr len hold hnew hlen =>
    have heq : arr s = c.pcpServers s := hold s hl.1
    refine .inr ⟨?_, Nat.lt_of_lt_of_le hl.1 hlen, .inl (congrArg Server.nextTimeout heq)⟩
    exact heq ▸ hsame
  | fresh c i v hi hu h =>
    have hne : s ≠ i := fun heq => hl.2 (heq ▸ hu)
    rw [hset hne]
    exact .inr ⟨hsame, hl.1, .inl rfl⟩
  | again c i found v hli h =>
    by_cases hi : s = i
    · subst hi
      exact .inl ⟨found, rfl⟩
    · rw [hset hi]
      exact .inr ⟨hsame, hl.1, .inl rfl⟩
  | create c i fl io hli h hs ht =>
    by_cases hi : s = i
    · subst hi
      have hself : (addNewFlow c s fl (e.now c.io) io).pcpServers s =
          { c.pcpServers s with nextTimeout := e.now c.io } := Function.update_self ..
      refine .inr ⟨?_, hl.1, .inr rfl⟩
      rw [hself]
      rfl
    · have hother : (addNewFlow c i fl (e.now c.io) io).pcpServers s = c.pcpServers s :=
        Function.update_of_ne hi ..
      rw [hother]
      exact .inr ⟨hsame, hl.1, .inl rfl⟩
  | link c p f => exact .inr ⟨hsame, hl.1, .inl rfl⟩
  | update c f v h =>
    right
    rw [pcpFlowUpdated_server, pcpFlowUpdated_length]
    simp only [Ctx.setFlow_heap, Function.update_self, h.pcpServerIndx]
    split
    · rename_i hi
      exact ⟨rfl, hl.1, .inr hi.1.symm⟩
    · exact ⟨hsame, hl.1, .inl rfl⟩
  | close c f h =>
    right
    rw [zeroLifetime, pcpFlowUpdated_server, pcpFlowUpdated_length]
    simp only [Ctx.modFlow, Ctx.setFlow_heap, Function.update_self]
    split
    · rename_i hi
      exact ⟨rfl, hl.1, .inr hi.1.symm⟩
    · exact ⟨hsame, hl.1, .inl rfl⟩
  | fail c f h => exact .inr ⟨hsame, hl.1, .inl rfl⟩
  | delete c f =>
    have hd := pcpDeleteFlowIntern_deleted c f
    refine .inr ⟨?_, hd.length ▸ hl.1, .inl ?_⟩
    · rcases hd.server s with h | h
      · rw [h]
        exact hsame
      · rw [h]
        rfl
    · rcases hd.server s with h | h <;> rw [h]

/-- The record in any slot: an update at most of the ping flow and the timer, a cleared slot, or a
registration. -/
theorem CallAct.record (h : CallAct e k c c') (i : Nat) :
    (c.pcpServers i).SameBut (c'.pcpServers i) ∨ c'.pcpServers i = .zero ∨
      Registered i (c.pcpServers i) (c'.pcpServers i) ∨
      ∃ found, Reregistered found (c.pcpServers i) (c'.pcpServers i) := by
  have hsame := Server.SameBut.refl (c.pcpServers i)
  have htimer : ∀ t, (c.pcpServers i).SameBut { c.pcpServers i with nextTimeout := t } := fun _ => rfl
  cases h with
  | env h =>
    rw [h.eq]
    exact .inl hsame
  | array c arr len hold hnew hlen =>
    by_cases hi : i < c.pcpServersLength
    · have heq : arr i = c.pcpServers i := hold i hi
      exact .inl (heq ▸ hsame)
    · exact .inr (.inl (hnew i (Nat.not_lt.mp hi)))
  | fresh c s v hs hu h =>
    by_cases hi : i = s
    · subst hi
      rw [Ctx.setServer_pcpServers, Function.update_self]
      exact .inr (.inr (.inl h))
    · rw [Ctx.setServer_pcpServers, Function.update_of_ne hi]
      exact .inl hsame
  | again c s found v hl h =>
    by_cases hi : i = s
    · subst hi
      rw [Ctx.setServer_pcpServers, Function.update_self]
      exact .inr (.inr (.inr ⟨found, h⟩))
    · rw [Ctx.setServer_pcpServers, Function.update_of_ne hi]
      exact .inl hsame
  | create c s fl io hl h hs ht =>
    rw [addNewFlow_server]
    split
    · rename_i hi
      subst hi
      exact .inl (htimer _)
    · exact .inl hsame
  | link | fail => exact .inl hsame
  | update c f v h =>
    rw [pcpFlowUpdated_server]
    split
    · exact .inl (htimer _)
    · exact .inl hsame
  | close c f h =>
    rw [zeroLifetime, pcpFlowUpdated_server]
    split
    · exact .inl (htimer _)
    · exact .inl hsame
  | delete c f =>
    rcases (pcpDeleteFlowIntern_deleted c f).server i with h | h
    · rw [h]
      exact .inl hsame
    · rw [h]
      exact .inl rfl

/-- No act makes a server ping with a flow. -/
theorem CallAct.pingFlowMsg (h : CallAct e k c c') {i : Nat} {p : FlowId}
    (hp : (c'.pcpServers i).pingFlowMsg = some p) : (c.pcpServers i).pingFlowMsg = some p := by
  cases h with
  | env h => rwa [h.eq] at hp
  | array c arr len hold hnew hlen =>
    change (arr i).pingFlowMsg = some p at hp
    by_cases hi : i < c.pcpServersLength
    · rwa [hold i hi] at hp
    · rw [hnew i (Nat.not_lt.mp hi)] at hp
      cases hp
  | fresh c s v hs hu h =>
    by_cases hi : i = s
    · subst hi
      rwa [Ctx.setServer_pcpServers, Function.update_self, h.pingFlowMsg] at hp
    · rwa [Ctx.setServer_pcpServers, Function.update_of_ne hi] at hp
  | again c s found v hl h =>
    by_cases hi : i = s
    · subst hi
      rwa [Ctx.setServer_pcpServers, Function.update_self, h.pingFlowMsg] at hp
    · rwa [Ctx.setServer_pcpServers, Function.update_of_ne hi] at hp
  | create c s fl io hl h hs ht =>
    rw [addNewFlow_server] at hp
    split at hp
    · rename_i hi
      subst hi
      exact hp
    · exact hp
  | link | fail => exact hp
  | update c g v h =>
    rw [pcpFlowUpdated_server] at hp
    split at hp <;> exact hp
  | close c g h =>
    rw [zeroLifetime, pcpFlowUpdated_server] at hp
    split at hp <;> exact hp
  | delete c g =>
    rcases (pcpDeleteFlowIntern_deleted c g).server i with h | h
    · rwa [h] at hp
    · rw [h] at hp
      cases hp

/-- Nor one that waits for an answer to a ping. -/
theorem CallAct.waitPingResp (h : CallAct e k c c') {i : Nat}
    (hst : (c'.pcpServers i).serverState = .waitPingResp) :
    (c.pcpServers i).serverState = .waitPingResp := by
  rcases h.record i with hsame | hzero | hreg | ⟨found, hre⟩
  · exact hsame.serverState.symm.trans hst
  · rw [hzero] at hst
    cases hst
  · rcases hreg.state with ⟨h, -⟩ | h | h <;> (rw [hst] at h; cases h)
  · have h := hre.state
    rw [hst] at h
    cases found <;> cases h

/-- A flow stays with its server. -/
theorem CallAct.pcpServerIndx {f : FlowId} (h : CallAct e k c c') (hf : f < c.heapTop) :
    (c'.heap f).pcpServerIndx = (c.heap f).pcpServerIndx := by
  have hflow := h.altered fun _ => Nat.ne_of_lt hf
  generalize c'.heap f = w at hflow ⊢
  cases hflow with
  | link | fail => rfl
  | update h => exact h.pcpServerIndx

/-- The record after the acts of a call that does not register the server again. -/
theorem CallActs.server {K : CallKind → Prop} (h : CallActs e K c c') (hl : Live c s)
    (hK : ∀ found, ¬ K (.again s found)) : (c.pcpServers s).SameBut (c'.pcpServers s) ∧ Live c' s := by
  refine h.invariant (I := fun a => (c.pcpServers s).SameBut (a.pcpServers s) ∧ Live a s)
    (fun k a b hi hk hact => ?_) ⟨.refl _, hl⟩
  rcases hact.server hi.2 with ⟨found, rfl⟩ | ⟨hsame, hlen, -⟩
  · exact absurd hk (hK found)
  · exact ⟨hi.1.trans hsame, hlen, hsame.serverState ▸ hi.2.2⟩

/-- And the timer, if the acts change no flow of the server and add none. -/
theorem CallActs.nextTimeout {K : CallKind → Prop} (h : CallActs e K c c') (hl : Live c s)
    (hK : ∀ found, ¬ K (.again s found)) (hwake : ∀ k, K k → ¬ k.Wakes c s)
    (hflow : ∀ f, K (.update f) ∨ K (.close f) → f < c.heapTop) :
    (c'.pcpServers s).nextTimeout = (c.pcpServers s).nextTimeout := by
  have hinv := h.invariant
    (I := fun a => Live a s ∧ (a.pcpServers s).nextTimeout = (c.pcpServers s).nextTimeout ∧
      c.heapTop ≤ a.heapTop ∧
      ∀ f, f < c.heapTop → (a.heap f).pcpServerIndx = (c.heap f).pcpServerIndx)
    (fun k a b hi hk hact => ?_) ⟨hl, rfl, Nat.le_refl _, fun _ _ => rfl⟩
  · exact hinv.2.1
  · obtain ⟨hla, htimer, htop, hindx⟩ := hi
    rcases hact.server hla with ⟨found, rfl⟩ | ⟨hsame, hlen, htime⟩
    · exact absurd hk (hK found)
    · refine ⟨⟨hlen, hsame.serverState ▸ hla.2⟩, ?_, Nat.le_trans htop hact.silent.heapTop,
        fun f hf => ?_⟩
      · rcases htime with htime | hwakes
        · exact htime.trans htimer
        · refine absurd ?_ (hwake k hk)
          cases k with
          | create i => exact hwakes
          | update f => exact (hindx f (hflow f (.inl hk))).symm.trans hwakes
          | close f => exact (hindx f (hflow f (.inr hk))).symm.trans hwakes
          | env | fresh | again | link | delete => exact hwakes.elim
      · rw [hact.pcpServerIndx (Nat.lt_of_lt_of_le hf htop)]
        exact hindx f hf

end Acts

/-! ## Calls -/

/-- Whether the call sets the timer of server `s` to the time of day: it makes a flow for the server, or
changes a flow of the server. -/
def Op.wakes (e : Env) (c : Ctx) (s : Nat) : Op → Bool
  | .newFlow src dst _ protocol _ =>
    match (newFlowKey e c src dst protocol).1 with
    | some kd => (flowKeyFor kd (c.pcpServers s)).isSome
    | none => false
  | .learnDscp .. =>
    (flowKeyFor { FlowKeyData.zero with operation := opcodeSadscp } (c.pcpServers s)).isSome
  | .deleteFlow _ => false
  | op => op.target.any fun f => (c.chain f).any fun g => (c.heap g).pcpServerIndx == s

section Calls

variable {e : Env} {c c' : Ctx} {s : Nat}

theorem chainAndAssignSrcIp_server (d : CaasiData) (a : ChainAcc) (i : Nat)
    (hkey : flowKeyFor d.kd (a.ctx.pcpServers s) = none) :
    (chainAndAssignSrcIp e d a i).ctx.pcpServers s = a.ctx.pcpServers s := by
  unfold chainAndAssignSrcIp
  split
  · rfl
  · by_cases hi : s = i
    · subst hi
      rw [hkey]
    · cases flowKeyFor d.kd (a.ctx.pcpServers i) with
      | none => rfl
      | some kd =>
        have hcreate : (pcpCreateFlow e a.ctx i kd).2.pcpServers = a.ctx.pcpServers := by
          unfold pcpCreateFlow
          split <;> rfl
        dsimp only
        rcases hr : pcpCreateFlow e a.ctx i kd with ⟨r, c₁⟩
        rw [hr] at hcreate
        cases r with
        | none => exact congrFun hcreate s
        | some f =>
          have hinit : (initFlow e c₁ f i d).pcpServers s = a.ctx.pcpServers s := by
            rw [← hcreate]
            exact Function.update_of_ne hi ..
          cases a.fprev with
          | none => exact hinit
          | some p => exact hinit

theorem chainFlows_server (d : CaasiData) (hkey : flowKeyFor d.kd (c.pcpServers s) = none) :
    (chainFlows e c d).ctx.pcpServers s = c.pcpServers s := by
  refine List.foldlRecOn (motive := fun a : ChainAcc => a.ctx.pcpServers s = c.pcpServers s) _ _ rfl
    fun a ha i _ => ?_
  rw [chainAndAssignSrcIp_server d a i (ha ▸ hkey), ha]

theorem pcpDeleteFlow_nextTimeout (c : Ctx) (f : FlowId) (s : Nat) :
    ((pcpDeleteFlow c f).pcpServers s).nextTimeout = (c.pcpServers s).nextTimeout := by
  refine List.foldlRecOn (motive := fun a : Ctx => (a.pcpServers s).nextTimeout = (c.pcpServers s).nextTimeout)
    _ _ rfl fun a ha g _ => ?_
  rcases (pcpDeleteFlowIntern_deleted a g).server s with h | h
  · rw [h, ha]
  · rw [h]
    exact ha

theorem pcpNewFlow_nextTimeout {src : SockAddr} {dst ext : Option SockAddr} {protocol : UInt8}
    {lifetime : UInt32} (hw : (Op.newFlow src dst ext protocol lifetime).wakes e c s = false) :
    ((pcpNewFlow e c src dst ext protocol lifetime).2.pcpServers s).nextTimeout =
      (c.pcpServers s).nextTimeout := by
  obtain ⟨l, hl⟩ := newFlowKey_env e c src dst protocol
  unfold pcpNewFlow
  simp only [Op.wakes] at hw
  rcases hk : newFlowKey e c src dst protocol with ⟨r, c₁⟩
  rw [hk] at hl hw
  simp only at hl hw
  subst hl
  cases r with
  | none => rfl
  | some kd =>
    have hkey : flowKeyFor kd (c.pcpServers s) = none := by simpa using hw
    dsimp only
    split
    · rfl
    · have hchain := chainFlows_server (e := e) (c := { c with lookups := l })
        ⟨kd, lifetime, some ‹_›, 0, none⟩ hkey
      generalize chainFlows e _ _ = a at hchain ⊢
      split
      · cases a.ffirst with
        | none => exact congrArg Server.nextTimeout hchain
        | some f =>
          exact (pcpDeleteFlow_nextTimeout a.ctx f s).trans (congrArg Server.nextTimeout hchain)
      · exact congrArg Server.nextTimeout hchain

/-- A call that neither wakes the server nor registers it again leaves its timer alone. -/
theorem Op.exec_nextTimeout {op : Op} {n : Nat} (hc : CtxOk c) (hl : Live c s) (hp : op.isPlain = true)
    (hlive : ∀ f ∈ op.target, ∀ g ∈ c.chain f, g ∈ c.allFlows) (h : op.exec e n c = some c')
    (hr : op.reregisters c ≠ some s) (hw : op.wakes e c s = false) :
    (c'.pcpServers s).nextTimeout = (c.pcpServers s).nextTimeout := by
  have hacts := Op.exec_acts hc hp h
  have hagain : ∀ found, ¬ op.kinds e c (.again s found) := fun _ hk => hr (Op.kinds_again hk)
  have hsetter : ∀ f, op.target = some f → op.wakes e c s =
      (op.target.any fun f => (c.chain f).any fun g => (c.heap g).pcpServerIndx == s) →
      op.kinds e c = SetterKinds c f →
      (c'.pcpServers s).nextTimeout = (c.pcpServers s).nextTimeout := by
    intro f hf hw' hK
    rw [hw', hf] at hw
    simp only [Option.any_some, List.any_eq_false, beq_iff_eq] at hw
    refine hacts.nextTimeout hl hagain (fun k hk => ?_) fun g hg => ?_
    · rw [hK] at hk
      cases k with
      | update g => exact hw g hk
      | env => exact id
      | fresh | again | create | link | close | delete => exact hk.elim
    · rw [hK] at hg
      rcases hg with hg | hg
      · exact (hc.wf 0).alloc (hlive f hf g hg)
      · exact hg.elim
  cases op with
  | addServer | addGws =>
    refine hacts.nextTimeout hl hagain (fun k hk => ?_) fun g hg => ?_
    · cases k with
      | env | fresh | again => exact id
      | create | link | update | close | delete => exact hk.elim
    · rcases hg with hg | hg <;> exact hg.elim
  | newFlow src dst ext p l =>
    cases h
    exact pcpNewFlow_nextTimeout hw
  | learnDscp d l j a =>
    cases h
    have hkey : flowKeyFor { FlowKeyData.zero with operation := opcodeSadscp } (c.pcpServers s) =
        none := by simpa [Op.wakes] using hw
    exact congrArg Server.nextTimeout (chainFlows_server _ hkey)
  | deleteFlow f =>
    cases h
    exact pcpDeleteFlow_nextTimeout c f s
  | setFlowChangeCb b =>
    cases h
    rfl
  | closeFlow | pulse => cases hp
  | setLifetime f | set3rdPartyOpt f | setFilterOpt f | setPreferFailureOpt f | setUserid f
  | setLocation f | setDeviceid f | addMd f | setFlowp f => exact hsetter f rfl rfl rfl

end Calls

/-! ## Steps of a run -/

def MicroOp.wakes (e : Env) (c : Ctx) (s : Nat) : MicroOp → Bool
  | .call op => op.wakes e c s
  | .close f => (c.chain f).any fun g => (c.heap g).pcpServerIndx == s
  | _ => false

/-- The step is one of the server's state machine. -/
def MicroOp.runs (s : Nat) : MicroOp → Bool
  | .recv _ i | .fire i => i == s
  | _ => false

def MicroOp.reregisters (c : Ctx) : MicroOp → Option Nat
  | .call op => op.reregisters c
  | _ => none

section Steps

variable {e : Env} {c c' : Ctx} {s : Nat}

theorem step_exec {op : Op} {n : Nat} (h : step e n c op = some c') :
    (∀ f ∈ op.target, ∀ g ∈ c.chain f, g ∈ c.allFlows) ∧ op.exec e n c = some c' := by
  unfold step at h
  split at h
  · exact ⟨‹_›, h⟩
  · cases h

theorem settle_server (s i : Nat) (c : Ctx) :
    (c.pcpServers i).SameBut ((settle s c).pcpServers i) ∧
      ((settle s c).pcpServers i).nextTimeout.us = (c.pcpServers i).nextTimeout.us := by
  unfold settle
  split
  · exact ⟨.refl _, rfl⟩
  · by_cases hi : i = s
    · subst hi
      have hself : (alignNext c.tick i).pcpServers i =
          { c.pcpServers i with nextTimeout := timevalAlign (c.pcpServers i).nextTimeout } :=
        alignNext_self
      rw [hself]
      exact ⟨rfl, us_timevalAlign _⟩
    · have hother : (alignNext c.tick s).pcpServers i = c.pcpServers i :=
        Function.update_of_ne hi ..
      rw [hother]
      exact ⟨.refl _, rfl⟩

/-- The record of a server after a step that is not its own and does not register it again. -/
theorem Micro.server {l : MicroOp} (h : Micro e l c c') (hc : CtxOk c) (hl : Live c s)
    (hrun : l.runs s = false) (hr : l.reregisters c ≠ some s) :
    (c.pcpServers s).SameBut (c'.pcpServers s) ∧ Live c' s ∧
      (l.wakes e c s = false → (c'.pcpServers s).nextTimeout.us = (c.pcpServers s).nextTimeout.us) := by
  have hothers : ∀ {i : Nat} {a b : Ctx}, s ≠ i → Frame i a b → a.pcpServers s = c.pcpServers s →
      a.pcpServersLength = c.pcpServersLength →
      (c.pcpServers s).SameBut (b.pcpServers s) ∧ Live b s ∧
        (b.pcpServers s).nextTimeout.us = (c.pcpServers s).nextTimeout.us := by
    intro i a b hi hf ha hlen
    have heq : b.pcpServers s = c.pcpServers s := (hf.others s hi).trans ha
    rw [Live, heq, hf.length, hlen]
    exact ⟨.refl _, hl, rfl⟩
  cases h with
  | @call op c c' hp h =>
    obtain ⟨hlive, hexec⟩ := step_exec h
    have hagain : ∀ found, ¬ op.kinds e c (.again s found) := fun _ hk => hr (Op.kinds_again hk)
    obtain ⟨hsame, hl'⟩ := (Op.exec_acts hc hp hexec).server hl hagain
    refine ⟨hsame, hl', fun hw => ?_⟩
    exact congrArg Timeval.us (Op.exec_nextTimeout hc hl hp hlive hexec hr hw)
  | @close f c hlive =>
    have hagain : ∀ found, ¬ ∃ g ∈ c.chain f, CallKind.again s found = .close g := by
      rintro found ⟨g, -, hg⟩
      cases hg
    obtain ⟨hsame, hl'⟩ := (closeChain_acts (e := e) f).server hl hagain
    refine ⟨hsame, hl', fun hw => congrArg Timeval.us ?_⟩
    simp only [MicroOp.wakes, List.any_eq_false, beq_iff_eq] at hw
    refine (closeChain_acts (e := e) f).nextTimeout hl hagain ?_ ?_
    · rintro k ⟨g, hg, rfl⟩
      exact hw g hg
    · rintro g (⟨g', -, hg⟩ | ⟨g', hm, hg⟩)
      · cases hg
      · cases hg
        exact hc.alloc (hlive g hm)
  | quiet => exact ⟨.refl _, hl, fun _ => rfl⟩
  | drop h =>
    obtain ⟨⟨m, rfl⟩, -⟩ := received_eq h
    exact ⟨.refl _, hl, fun _ => rfl⟩
  | @recv dg i c c₁ h =>
    have hi : s ≠ i := fun heq => ne_of_beq_false hrun heq.symm
    obtain ⟨hacts, -, -⟩ := recv_acts h hc
    obtain ⟨⟨m, rfl⟩, -⟩ := received_eq h
    obtain ⟨h₁, h₂, h₃⟩ := hothers hi hacts.frame rfl rfl
    exact ⟨h₁, h₂, fun _ => h₃⟩
  | @fire i c hli hd =>
    have hi : s ≠ i := fun heq => ne_of_beq_false hrun heq.symm
    obtain ⟨h₁, h₂, h₃⟩ := hothers hi (fire_acts (e := e) (hc.wf _) hli.2).frame rfl rfl
    exact ⟨h₁, h₂, fun _ => h₃⟩
  | @settle i c hli hd =>
    obtain ⟨hsame, htimer⟩ := settle_server i s c
    refine ⟨hsame, ⟨?_, hsame.serverState ▸ hl.2⟩, fun _ => htimer⟩
    have hset : Acts e i [.own] c (LibPcp.settle i c) := settle_acts
    exact hset.frame.length ▸ hl.1

/-- A property of a server's record that all steps but the server's own keep. -/
structure KeptByOthers (I : Server → Prop) : Prop where
  same : ∀ {v w}, v.SameBut w → I v → I w
  zero : I .zero
  registered : ∀ {i v w}, Registered i v w → I w
  reregistered : ∀ {found v w}, Reregistered found v w → I w

theorem KeptByOthers.callActs {I : Server → Prop} (hI : KeptByOthers I) {K : CallKind → Prop}
    (h : CallActs e K c c') (hi : I (c.pcpServers s)) : I (c'.pcpServers s) := by
  refine h.invariant (I := fun a => I (a.pcpServers s)) (fun k a b ha _ hact => ?_) hi
  rcases hact.record s with hsame | hzero | hreg | ⟨found, hre⟩
  · exact hI.same hsame ha
  · exact hzero ▸ hI.zero
  · exact hI.registered hreg
  · exact hI.reregistered hre

theorem KeptByOthers.micro {I : Server → Prop} (hI : KeptByOthers I) {l : MicroOp}
    (h : Micro e l c c') (hc : CtxOk c) (hrun : l.runs s = false) (hi : I (c.pcpServers s)) :
    I (c'.pcpServers s) := by
  cases h with
  | @call op c c' hp h => exact hI.callActs (Op.exec_acts hc hp (step_exec h).2) hi
  | @close f c hlive => exact hI.callActs (closeChain_acts (e := e) f) hi
  | quiet => exact hi
  | drop h =>
    obtain ⟨⟨m, rfl⟩, -⟩ := received_eq h
    exact hi
  | @recv dg i c c₁ h =>
    have hne : s ≠ i := fun heq => ne_of_beq_false hrun heq.symm
    obtain ⟨hacts, -, -⟩ := recv_acts h hc
    obtain ⟨⟨m, rfl⟩, -⟩ := received_eq h
    rw [hacts.frame.others s hne]
    exact hi
  | @fire i c hl hd =>
    have hne : s ≠ i := fun heq => ne_of_beq_false hrun heq.symm
    rw [(fire_acts (e := e) (hc.wf _) hl.2).frame.others s hne]
    exact hi
  | @settle i c hl hd => exact hI.same (settle_server i s c).1 hi

theorem Micro.ticks {l : MicroOp} (h : Micro e l c c') (hc : CtxOk c) : c.io.ticks ≤ c'.io.ticks := by
  cases h with
  | @call op c c' hp h => exact (Op.exec_acts hc hp (step_exec h).2).silent.ticks
  | @close f c hlive => exact (closeChain_acts (e := e) f).silent.ticks
  | quiet => exact Nat.le_refl _
  | drop h =>
    obtain ⟨⟨m, rfl⟩, -⟩ := received_eq h
    exact Nat.le_succ _
  | recv h =>
    obtain ⟨hacts, -, -⟩ := recv_acts h hc
    obtain ⟨⟨m, rfl⟩, -⟩ := received_eq h
    exact Nat.le_trans (Nat.le_succ _) hacts.frame.ticks
  | fire hl hd => exact (fire_acts (hc.wf _) hl.2).frame.ticks
  | @settle i c hl hd =>
    have hset : Acts e i [.own] c (LibPcp.settle i c) := settle_acts
    exact hset.frame.ticks

end Steps

end LibPcp
