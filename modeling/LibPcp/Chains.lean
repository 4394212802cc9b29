import LibPcp.Reach

/-!
# LibPcp.Chains

The chains `pcp_new_flow` makes.

A flow is linked to a flow allocated after it, so a chain ends before the bound of `Ctx.chain` is
reached (`Reachable.chained`), and it is the same list as long as its links are.
-/

namespace LibPcp

open LabelledSteps

/-- `l` is the whole chain that starts with `o`. -/
def Chained (heap : FlowId → Flow) : Option FlowId → List FlowId → Prop
  | none, l => l = []
  | some _, [] => False
  | some f, g :: l => g = f ∧ Chained heap (heap f).nextChild l

theorem Chained.chainAux {heap : FlowId → Flow} {o : Option FlowId} {l : List FlowId} {n : Nat}
    (h : Chained heap o l) (hn : l.length ≤ n + 1) : chainAux heap n o = l := by
  induction l generalizing o n with
  | nil =>
    cases o with
    | none => rw [LibPcp.chainAux]
    | some f => exact h.elim
  | cons g l ih =>
    cases o with
    | none => cases h
    | some f =>
      obtain ⟨rfl, h⟩ := h
      cases n with
      | zero =>
        have hnil : l = [] := List.length_eq_zero_iff.mp (by simpa using hn)
        rw [LibPcp.chainAux, hnil]
      | succ n => rw [LibPcp.chainAux, ih h (by simpa using hn)]

/-- A chain is the same while its flows keep their links. -/
theorem Chained.congr {heap heap' : FlowId → Flow} {o : Option FlowId} {l : List FlowId}
    (h : Chained heap o l) (hl : ∀ f ∈ l, (heap' f).nextChild = (heap f).nextChild) :
    Chained heap' o l := by
  induction l generalizing o with
  | nil =>
    cases o with
    | none => rfl
    | some f => exact h.elim
  | cons g l ih =>
    cases o with
    | none => cases h
    | some f =>
      obtain ⟨rfl, h⟩ := h
      refine ⟨rfl, ?_⟩
      rw [hl g List.mem_cons_self]
      exact ih h fun f hf => hl f (List.mem_cons_of_mem g hf)

/-- Links lead to flows allocated later. -/
def LinksForward (c : Ctx) : Prop :=
  ∀ f g : Nat, f < c.heapTop → (c.heap f).nextChild = some g → f < g ∧ g < c.heapTop

/-- The chain from an allocated flow ends. -/
theorem LinksForward.chained {c : Ctx} (h : LinksForward c) {f : Nat} (hf : f < c.heapTop) :
    ∃ l, Chained c.heap (some f) l ∧ l.length ≤ c.heapTop - f ∧ ∀ g ∈ l, g < c.heapTop := by
  -- the distance to the top of the heap shrinks with every link
  obtain ⟨d, hd⟩ : ∃ d : Nat, c.heapTop ≤ f + d := ⟨c.heapTop, Nat.le_add_left _ _⟩
  induction d generalizing f with
  | zero => exact absurd hf (Nat.not_lt.mpr hd)
  | succ d ih =>
    cases hn : (c.heap f).nextChild with
    | none =>
      refine ⟨[f], ⟨rfl, by rw [hn]; rfl⟩, ?_, by simpa using hf⟩
      exact Nat.sub_pos_of_lt hf
    | some g =>
      obtain ⟨hlt, hg⟩ := h f g hf hn
      obtain ⟨l, hl, hlen, hall⟩ := ih hg (Nat.le_trans hd (show f + (d + 1) ≤ g + d by omega))
      refine ⟨f :: l, ⟨rfl, by rw [hn]; exact hl⟩, ?_, ?_⟩
      · rw [List.length_cons]
        omega
      · intro x hx
        rcases List.mem_cons.mp hx with rfl | hx
        · exact hf
        · exact hall x hx

theorem LinksForward.chain {c : Ctx} (h : LinksForward c) {f : Nat} (hf : f < c.heapTop) :
    Chained c.heap (some f) (c.chain f) ∧ (c.chain f).length ≤ c.heapTop ∧
      ∀ g ∈ c.chain f, g < c.heapTop := by
  obtain ⟨l, hl, hlen, hall⟩ := h.chained hf
  have heq : c.chain f = l := hl.chainAux (by omega)
  rw [heq]
  exact ⟨hl, by omega, hall⟩

/-! ## Links are kept -/

section Kept

variable {e : Env} {c c' : Ctx}

/-- Links stay and new flows have none. -/
theorem LinksForward.congr (h : LinksForward c) (htop : c.heapTop ≤ c'.heapTop)
    (hold : ∀ f : Nat, f < c.heapTop → (c'.heap f).nextChild = (c.heap f).nextChild)
    (hnew : ∀ f : Nat, c.heapTop ≤ f → f < c'.heapTop → (c'.heap f).nextChild = none) :
    LinksForward c' := by
  intro f g hf hg
  by_cases hlt : f < c.heapTop
  · rw [hold f hlt] at hg
    obtain ⟨h₁, h₂⟩ := h f g hlt hg
    exact ⟨h₁, Nat.lt_of_lt_of_le h₂ htop⟩
  · rw [hnew f (Nat.le_of_not_lt hlt) hf] at hg
    cases hg

/-- Links stay and nothing is allocated. -/
theorem LinksForward.same (h : LinksForward c) (htop : c'.heapTop = c.heapTop)
    (hold : ∀ f, (c'.heap f).nextChild = (c.heap f).nextChild) : LinksForward c' :=
  h.congr htop.ge (fun f _ => hold f) fun _ h₁ h₂ => absurd (htop ▸ h₂) (Nat.not_lt.mpr h₁)

theorem LinksForward.setFlow (h : LinksForward c) {f : FlowId} {v : Flow}
    (hv : v.nextChild = (c.heap f).nextChild) : LinksForward (c.setFlow f v) := by
  refine h.same rfl fun g => ?_
  by_cases hg : g = f
  · subst hg
    rw [Ctx.setFlow_heap, Function.update_self]
    exact hv
  · rw [Ctx.setFlow_heap, Function.update_of_ne hg]

theorem handleFlowEvent_nextChild {f : FlowId} {ev : FlowEvent} {m : Option RecvMsg}
    (hev : ev ≠ .msgSent) (g : FlowId) :
    ((handleFlowEvent e c f ev m).heap g).nextChild = (c.heap g).nextChild := by
  rw [handleFlowEvent_heap]
  by_cases hg : g = f
  · subst hg
    rw [Function.update_self]
    exact (flowStep_moves (c.flowEnv e g m) (c.heap g) c.io hev).frame.kept.nextChild
  · rw [Function.update_of_ne hg]

theorem LinksForward.event (h : LinksForward c) {f : FlowId} {ev : FlowEvent} {m : Option RecvMsg}
    (hev : ev ≠ .msgSent) : LinksForward (handleFlowEvent e c f ev m) :=
  h.same (handleFlowEvent_heapTop ..) fun g => handleFlowEvent_nextChild hev g

theorem LinksForward.act {s : Nat} {k : ActKind} (h : LinksForward c) (ha : Act e s k c c') :
    LinksForward c' := by
  cases ha with
  | tick | server | extAddr | version | reveal => exact h
  | reset c f r ho => exact h.setFlow rfl
  | putBack c f ho => exact h.setFlow rfl
  | event c f ev ho hev => exact h.event hev.ne_msgSent
  | align k c f hk ht => exact h.setFlow rfl
  | expire k c f hk ht =>
    have hal : LinksForward (c.tick.modFlow f alignTimer) := LinksForward.setFlow (c := c.tick) h rfl
    exact hal.event (by simp)
  | response c f ho => exact h.event (by simp)
  | announce c =>
    rcases createNatpmpAnnMsg_cases e c s with heq | ⟨fl, -, hn, -, -, -, -, heq⟩
    · rw [heq]
      exact h
    · have hheap : (createNatpmpAnnMsg e c s).2.heap = Function.update c.heap c.heapTop
          { fl with keyBucket := some (computeFlowKey fl.kd) } := by
        rw [heq]
        simp [pcpDbAddFlow, Ctx.modFlow, Ctx.modServer, Ctx.callocCall]
      have htop : (createNatpmpAnnMsg e c s).2.heapTop = c.heapTop + 1 := by
        rw [heq]
        rfl
      refine h.congr (htop ▸ Nat.le_succ _) (fun f hf => ?_) fun f h₁ h₂ => ?_
      · rw [hheap, Function.update_of_ne (Nat.ne_of_lt hf)]
      · have hf : f = c.heapTop := Nat.le_antisymm (Nat.le_of_lt_succ (Nat.lt_of_lt_of_eq h₂ htop)) h₁
        rw [hheap, hf, Function.update_self]
        exact hn

/-- The acts of a call that creates no flow. -/
theorem LinksForward.callAct {k : CallKind} (h : LinksForward c) (ha : CallAct e k c c')
    (hk : ∀ s, k ≠ .create s) (hk' : ∀ f, k ≠ .link f) : LinksForward c' := by
  cases ha with
  | env heq =>
    rw [heq.eq]
    exact h
  | array | fresh | again => exact h
  | create c s => exact absurd rfl (hk s)
  | link c p => exact absurd rfl (hk' p)
  | update c f v hv =>
    refine h.same (pcpFlowUpdated_heapTop ..) fun g => ?_
    rw [pcpFlowUpdated_heap]
    by_cases hg : g = f
    · subst hg
      simp only [Ctx.setFlow_heap, Function.update_self]
      exact hv.nextChild
    · rw [Function.update_of_ne hg, Ctx.setFlow_heap, Function.update_of_ne hg]
  | close c f hst =>
    refine h.same (pcpFlowUpdated_heapTop ..) fun g => ?_
    rw [zeroLifetime_heap]
    by_cases hg : g = f
    · subst hg
      rw [Function.update_self]
      rfl
    · rw [Function.update_of_ne hg]
  | fail c f hst => exact h.setFlow rfl
  | delete c f =>
    refine h.same (pcpDeleteFlowIntern_deleted c f).heapTop fun g => ?_
    obtain ⟨b, hb⟩ := (pcpDeleteFlowIntern_deleted c f).heap g
    rw [hb]

theorem LinksForward.deleteFlow (h : LinksForward c) (f : FlowId) : LinksForward (pcpDeleteFlow c f) :=
  (pcpDeleteFlow_acts (e := Env.calm {}) (K := fun k => ∃ g, k = .delete g) f
    fun g _ => ⟨g, rfl⟩).invariant (I := LinksForward)
    (fun k a b hi hk hact => by
      obtain ⟨g, rfl⟩ := hk
      exact hi.callAct hact (fun s hs => by cases hs) fun f hf => by cases hf) h

theorem newFlowFields_nextChild (copied : Bool) (d : CaasiData) (f : Flow) :
    (newFlowFields copied d f).nextChild = f.nextChild := by
  unfold newFlowFields
  dsimp only
  repeat' split
  all_goals rfl

/-- A new flow is linked from the last one of its chain, which is older. -/
theorem chainAndAssignSrcIp_links (d : CaasiData) (a : ChainAcc) (s : Nat)
    (h : LinksForward a.ctx ∧ ∀ p, a.fprev = some p → p < a.ctx.heapTop) :
    LinksForward (chainAndAssignSrcIp e d a s).ctx ∧
      ∀ p, (chainAndAssignSrcIp e d a s).fprev = some p →
        p < (chainAndAssignSrcIp e d a s).ctx.heapTop := by
  unfold chainAndAssignSrcIp
  split
  · exact h
  · cases flowKeyFor d.kd (a.ctx.pcpServers s) with
    | none => exact h
    | some kd =>
      unfold pcpCreateFlow
      by_cases hal : e.calloc a.ctx.io.callocs = true
      · simp only [if_pos hal]
        generalize hfl : ({ Flow.zero with
          pcpServerIndx := (a.ctx.pcpServers s).index, kd := kd, keyBucket := none } : Flow) = fl
        have hinit := initFlow_eq e a.ctx s d fl a.ctx.callocCall.io
        have hctx : initFlow e { a.ctx.callocCall.setFlow a.ctx.heapTop fl with
            heapTop := a.ctx.heapTop + 1 } a.ctx.heapTop s d = _ := hinit
        rw [hctx]
        generalize e.now a.ctx.callocCall.io = t
        generalize e.strdup a.ctx.heapTop = copied
        generalize a.ctx.callocCall.io.tick = io
        have hnone : (initialFlow copied (a.ctx.pcpServers s) t d fl).nextChild = none := by
          rw [initialFlow, newFlowFields_nextChild, ← hfl]
          rfl
        generalize initialFlow copied (a.ctx.pcpServers s) t d fl = w at hnone
        have htop : (addNewFlow a.ctx s w t io).heapTop = a.ctx.heapTop + 1 := rfl
        have hadd : LinksForward (addNewFlow a.ctx s w t io) := by
          refine h.1.congr (htop ▸ Nat.le_succ _) (fun f hf => ?_) fun f h₁ h₂ => ?_
          · rw [addNewFlow_heap, if_neg (Nat.ne_of_lt hf)]
          · have hf : f = a.ctx.heapTop :=
              Nat.le_antisymm (Nat.le_of_lt_succ (Nat.lt_of_lt_of_eq h₂ htop)) h₁
            rw [addNewFlow_heap, if_pos hf]
            exact hnone
        cases hp : a.fprev with
        | none =>
          refine ⟨hadd, fun p hp' => ?_⟩
          cases hp'
          exact Nat.lt_succ_self _
        | some p =>
          have hlt := h.2 p hp
          refine ⟨fun f g hf hg => ?_, fun q hq => ?_⟩
          · by_cases hfp : f = p
            · subst hfp
              simp only [Ctx.modFlow, Ctx.setFlow_heap, Function.update_self,
                Option.some.injEq] at hg
              subst hg
              exact ⟨hlt, Nat.lt_succ_self _⟩
            · simp only [Ctx.modFlow, Ctx.setFlow_heap, Function.update_of_ne hfp] at hg
              exact hadd f g hf hg
          · cases hq
            exact Nat.lt_succ_self _
      · simp only [if_neg hal]
        exact h

theorem LinksForward.chainFlows (h : LinksForward c) (d : CaasiData) :
    LinksForward (chainFlows e c d).ctx := by
  have hfold := List.foldlRecOn
    (motive := fun a => LinksForward a.ctx ∧ ∀ p, a.fprev = some p → p < a.ctx.heapTop)
    (List.range c.pcpServersLength) (chainAndAssignSrcIp e d) (b := { ctx := c })
    ⟨h, fun p hp => by cases hp⟩ fun a ha s _ => chainAndAssignSrcIp_links d a s ha
  exact hfold.1

theorem LinksForward.newFlow (h : LinksForward c) (src : SockAddr) (dst ext : Option SockAddr)
    (protocol : UInt8) (lifetime : UInt32) :
    LinksForward (pcpNewFlow e c src dst ext protocol lifetime).2 := by
  obtain ⟨n, hn⟩ := newFlowKey_env e c src dst protocol
  have h₁ : LinksForward { c with lookups := n } := h
  unfold pcpNewFlow
  rcases hk : newFlowKey e c src dst protocol with ⟨r, c₁⟩
  rw [hk] at hn
  simp only at hn
  subst hn
  cases r with
  | none => exact h₁
  | some kd =>
    dsimp only
    split
    · exact h₁
    · have hchain := h₁.chainFlows (e := e) ⟨kd, lifetime, some ‹_›, 0, none⟩
      generalize LibPcp.chainFlows e _ _ = a at hchain ⊢
      split
      · cases a.ffirst with
        | none => exact hchain
        | some f => exact hchain.deleteFlow f
      · exact hchain

end Kept

theorem linksForward_kept (e : Env) : KeptByServers e LinksForward :=
  ⟨fun hact h => h.act hact, fun _ h => h⟩

theorem Step.linksForward {e : Env} {c c' : Ctx} {op : Op} (h : Step e c op c') (hc : CtxOk c)
    (hl : LinksForward c) : LinksForward c' := by
  have hcalls : ∀ {K : CallKind → Prop} {b : Ctx}, CallActs e K c b → (∀ s, ¬ K (.create s)) →
      (∀ f, ¬ K (.link f)) → LinksForward b := by
    intro K b h hcr hli
    refine h.invariant (I := LinksForward) (fun k _ _ hi hk hact => ?_) hl
    refine hi.callAct hact ?_ ?_
    · rintro s rfl
      exact hcr s hk
    · rintro f rfl
      exact hli f hk
  cases (h.cases hc).1 with
  | close hlive hr hm ht =>
    refine (linksForward_kept e).pulse hr hm ht ((closeChain_acts _).ctxOk hc)
      (hcalls (closeChain_acts _) ?_ ?_)
    · rintro s ⟨g, -, hg⟩
      cases hg
    · rintro f ⟨g, -, hg⟩
      cases hg
  | pulse hr hm ht => exact (linksForward_kept e).pulse hr hm ht hc hl
  | call hp hstep ha =>
    cases op with
    | newFlow src dst ext p l =>
      unfold step at hstep
      split at hstep <;> cases hstep
      exact hl.newFlow src dst ext p l
    | learnDscp d l j a =>
      unfold step at hstep
      split at hstep <;> cases hstep
      exact hl.chainFlows _
    | closeFlow | pulse => cases hp
    | deleteFlow f =>
      refine hcalls ha ?_ ?_
      · rintro s ⟨g, -, hg⟩
        cases hg
      · rintro s ⟨g, -, hg⟩
        cases hg
    | setFlowChangeCb b =>
      refine hcalls ha ?_ ?_
      · rintro s hs
        cases hs
      · rintro s hs
        cases hs
    | addServer | addGws | setLifetime | set3rdPartyOpt | setFilterOpt | setPreferFailureOpt | setUserid
    | setLocation | setDeviceid | addMd | setFlowp =>
      exact hcalls ha (fun _ hk => hk.elim) fun _ hk => hk.elim

theorem Reachable.linksForward {e : Env} {c : Ctx} (h : Reachable e c) : LinksForward c := by
  have hinv : CtxOk c ∧ LinksForward c :=
    Steps.invariant (I := fun c => CtxOk c ∧ LinksForward c)
      (fun _ _ _ hi _ hs => ⟨(hs.cases hi.1).2, hs.linksForward hi.1 hi.2⟩) h
      ⟨.empty, fun f _ hf => absurd hf (Nat.not_lt_zero f)⟩
  exact hinv.2

end LibPcp
