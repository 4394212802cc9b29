import LibPcp.FanOut
import LibPcp.Metadata

/-!
# LibPcp.Handles

The pointers an application holds (`pcp_new_flow`, `pcp_learn_dscp` to get them, `pcp_delete_flow` to
give them back).

`step` makes no call with a pointer to a chain of which a flow has been deleted. Here nothing checks
that: the application makes calls with pointers it has got and not yet deleted, in any order and with
pulses in between.

* `Held`: the chains of the pointers are apart from each other and make up the table, but for the
  announcements of NAT-PMP that the client itself has put there.
* `AppStep.held`: every call and every pulse keeps that.
* `app_never_dangles`: so such an application never breaks the contract of `step`.
-/

namespace LibPcp

open HashBuckets LabelledSteps

variable {e : Env} {c c' : Ctx} {hs : List FlowId}

/-! ## The application -/

/-- The pointers the application holds after a call. A null pointer is not held. -/
def Op.handles (e : Env) (c : Ctx) (hs : List FlowId) : Op → List FlowId
  | .newFlow src dst ext p l => (pcpNewFlow e c src dst ext p l).1.toList ++ hs
  | .learnDscp d l j a => (pcpLearnDscp e c d l j a).1.toList ++ hs
  | .deleteFlow f => hs.erase f
  | _ => hs

/-- A call with a pointer that is held, whatever that points to. -/
def AppStep (e : Env) (op : Op) (a b : Ctx × List FlowId) : Prop :=
  (∀ f ∈ op.target, f ∈ a.2) ∧ (∃ n, op.exec e n a.1 = some b.1) ∧ b.2 = op.handles e a.1 a.2

/-- Runs of the client with such an application. -/
abbrev AppRuns (e : Env) : Ctx × List FlowId → Ctx × List FlowId → Prop :=
  Steps (AppStep e) fun _ _ => True

/-- The chains of the pointers held share no flow, and their flows are those of the table. -/
structure Held (c : Ctx) (hs : List FlowId) : Prop where
  nodup : (hs.flatMap c.chain).Nodup
  table : ∀ g ∈ hs.flatMap c.chain, g ∈ c.allFlows
  all : ∀ g ∈ c.allFlows, g ∈ hs.flatMap c.chain ∨ (c.heap g).kd.operation = natpmpOpcodeAnnounce

theorem Held.chain_mem (h : Held c hs) {f : FlowId} (hf : f ∈ hs) : ∀ g ∈ c.chain f, g ∈ c.allFlows :=
  fun g hg => h.table g (List.mem_flatMap.mpr ⟨f, hf, hg⟩)

theorem Held.alloc (h : Held c hs) (ht : TableOk c) {f : FlowId} (hf : f ∈ hs) : f < c.heapTop :=
  ht.alloc (h.chain_mem hf f (mem_chain_self c f))

/-- Calls with the pointers held are within the contract. -/
theorem Held.within (h : Held c hs) {op : Op} (ht : ∀ f ∈ op.target, f ∈ hs) (e : Env) (n : Nat) :
    step e n c op = op.exec e n c :=
  if_pos fun f hf => h.chain_mem (ht f hf)

/-! ## Calls that retain every flow -/

/-- The flows of `c` are in `c'` as well, and what is new there are announcements. -/
structure Retains (c c' : Ctx) : Prop where
  heapTop : c.heapTop ≤ c'.heapTop
  link : ∀ f, f < c.heapTop → (c'.heap f).nextChild = (c.heap f).nextChild
  kd : ∀ f, f < c.heapTop → (c'.heap f).kd = (c.heap f).kd
  table : ∀ f ∈ c.allFlows, f ∈ c'.allFlows
  added : ∀ f ∈ c'.allFlows, f ∈ c.allFlows ∨
    f < c'.heapTop ∧ (c'.heap f).kd.operation = natpmpOpcodeAnnounce

theorem Retains.refl (c : Ctx) : Retains c c :=
  ⟨Nat.le_refl _, fun _ _ => rfl, fun _ _ => rfl, fun _ hf => hf, fun _ hf => .inl hf⟩

theorem Retains.trans {c'' : Ctx} (h₁ : Retains c c') (h₂ : Retains c' c'') : Retains c c'' where
  heapTop := Nat.le_trans h₁.heapTop h₂.heapTop
  link f hf := (h₂.link f (Nat.lt_of_lt_of_le hf h₁.heapTop)).trans (h₁.link f hf)
  kd f hf := (h₂.kd f (Nat.lt_of_lt_of_le hf h₁.heapTop)).trans (h₁.kd f hf)
  table f hf := h₂.table f (h₁.table f hf)
  added f hf := by
    obtain hold | hnew := h₂.added f hf
    · obtain hold | ⟨hlt, hop⟩ := h₁.added f hold
      · exact .inl hold
      · exact .inr ⟨Nat.lt_of_lt_of_le hlt h₂.heapTop, (h₂.kd f hlt).symm ▸ hop⟩
    · exact .inr hnew

/-- Flows are changed, but not in their keys and links. -/
theorem Retains.of_heap (hflows : c'.flows = c.flows) (htop : c'.heapTop = c.heapTop)
    (hheap : ∀ f, (c'.heap f).nextChild = (c.heap f).nextChild ∧ (c'.heap f).kd = (c.heap f).kd) :
    Retains c c' := by
  have hall : c'.allFlows = c.allFlows := by rw [Ctx.allFlows, hflows, Ctx.allFlows]
  refine ⟨htop.ge, fun f _ => (hheap f).1, fun f _ => (hheap f).2, ?_, ?_⟩
  · intro f hf
    rw [hall]
    exact hf
  · intro f hf
    rw [hall] at hf
    exact .inl hf

theorem Act.retains {s : Nat} {k : ActKind} (h : Act e s k c c') : Retains c c' where
  heapTop := h.frame.heapTop
  link f hf := (h.frame.flow f hf).nextChild
  kd f hf := (h.frame.flow f hf).kd
  table _ hf := h.frame.allFlows hf
  added f hf := by
    obtain ⟨b, hb, hm⟩ := mem_allFlows.mp hf
    obtain hold | ⟨-, hann⟩ := h.frame.added b f hm
    · exact .inl (mem_allFlows.mpr ⟨b, hb, hold⟩)
    · exact .inr ⟨hann.own.1, hann.operation⟩

/-- The acts of a call that neither makes nor deletes a flow. -/
theorem CallAct.retains {k : CallKind} (h : CallAct e k c c') (hc : ∀ s, k ≠ .create s)
    (hl : ∀ f, k ≠ .link f) (hd : ∀ f, k ≠ .delete f) : Retains c c' := by
  cases h with
  | env heq =>
    rw [heq.eq]
    exact .of_heap rfl rfl fun _ => ⟨rfl, rfl⟩
  | array | fresh | again => exact .of_heap rfl rfl fun _ => ⟨rfl, rfl⟩
  | create c s => exact absurd rfl (hc s)
  | link c p => exact absurd rfl (hl p)
  | delete c f => exact absurd rfl (hd f)
  | update c f v hv =>
    refine .of_heap (pcpFlowUpdated_flows e (c.setFlow f v) f) (pcpFlowUpdated_heapTop ..) fun g => ?_
    rw [pcpFlowUpdated_heap]
    by_cases hg : g = f
    · subst hg
      simp only [Ctx.setFlow_heap, Function.update_self]
      exact ⟨hv.nextChild, hv.kd⟩
    · rw [Function.update_of_ne hg, Ctx.setFlow_heap, Function.update_of_ne hg]
      exact ⟨rfl, rfl⟩
  | close c f hst =>
    refine .of_heap (pcpFlowUpdated_flows e (c.modFlow f _) f) (pcpFlowUpdated_heapTop ..) fun g => ?_
    rw [zeroLifetime_heap]
    by_cases hg : g = f
    · subst hg
      rw [Function.update_self]
      exact ⟨rfl, rfl⟩
    · rw [Function.update_of_ne hg]
      exact ⟨rfl, rfl⟩
  | fail c f hst =>
    refine .of_heap rfl rfl fun g => ?_
    by_cases hg : g = f
    · subst hg
      simp [failFlow, Ctx.modFlow]
    · simp [failFlow, Ctx.modFlow, hg]

theorem closeChain_retains (c : Ctx) (f : FlowId) : Retains c (closeChain e c f) := by
  refine (closeChain_acts f).relate .refl (fun _ _ _ => .trans) fun k a b hk hact => ?_
  obtain ⟨g, -, rfl⟩ := hk
  refine hact.retains ?_ ?_ ?_
  all_goals
    intro x hx
    cases hx

theorem retains_kept (e : Env) (c : Ctx) : KeptByServers e (Retains c) :=
  ⟨fun hact h => h.trans hact.retains, fun _ h => h.trans (.of_heap rfl rfl fun _ => ⟨rfl, rfl⟩)⟩

/-- The chain of a flow that is retained. -/
theorem Retains.chain (h : Retains c c') (hl : LinksForward c) {f : Nat} (hf : f < c.heapTop) :
    c'.chain f = c.chain f := by
  obtain ⟨hchain, hlen, halloc⟩ := hl.chain hf
  have hsame := hchain.congr fun g hg => h.link g (halloc g hg)
  exact hsame.chainAux (Nat.le_succ_of_le (Nat.le_trans hlen h.heapTop))

theorem Retains.held (h : Retains c c') (hc : CtxOk c) (hl : LinksForward c) (hheld : Held c hs) :
    Held c' hs := by
  have hchains : hs.flatMap c'.chain = hs.flatMap c.chain :=
    List.flatMap_congr fun f hf => h.chain hl (hheld.alloc hc.table hf)
  refine ⟨?_, ?_, ?_⟩
  · rw [hchains]
    exact hheld.nodup
  · rw [hchains]
    exact fun g hg => h.table g (hheld.table g hg)
  · rw [hchains]
    intro g hg
    obtain hold | ⟨-, hann⟩ := h.added g hg
    · rw [h.kd g (hc.alloc hold)]
      exact hheld.all g hold
    · exact .inr hann

/-! ## New flows -/

/-- The new flows are the chain of the pointer that is returned. -/
structure Creates (c c' : Ctx) (r : Option FlowId) : Prop where
  heapTop : c.heapTop ≤ c'.heapTop
  grown : Grown c c' (r.toList.flatMap c'.chain)

theorem Creates.none (h : Grown c c' []) (htop : c.heapTop ≤ c'.heapTop) : Creates c c' none := ⟨htop, h⟩

theorem pcpDeleteFlow_heapTop (c : Ctx) (f : FlowId) : (pcpDeleteFlow c f).heapTop = c.heapTop := by
  unfold pcpDeleteFlow
  generalize c.chain f = l
  induction l generalizing c with
  | nil => rfl
  | cons g l ih => exact (ih _).trans (pcpDeleteFlowIntern_deleted c g).heapTop

theorem FanOut.creates {d : CaasiData} {S : List Nat} {a : ChainAcc} (h : FanOut c d S a) :
    Creates c a.ctx a.ffirst := by
  refine ⟨h.top ▸ Nat.le_add_right _ _, ?_⟩
  cases hf : a.ffirst with
  | none =>
    have hempty : newFlows c S.length = [] := List.head?_eq_none_iff.mp (h.chain.head?.symm.trans hf)
    rw [Option.toList_none, List.flatMap_nil, ← hempty]
    exact h.grown
  | some f =>
    rw [Option.toList_some, List.flatMap_singleton, h.chain_eq hf]
    exact h.grown

theorem pcpNewFlow_creates (ht : TableOk c) (src : SockAddr) (dst ext : Option SockAddr) (protocol : UInt8)
    (lifetime : UInt32) :
    Creates c (pcpNewFlow e c src dst ext protocol lifetime).2
      (pcpNewFlow e c src dst ext protocol lifetime).1 := by
  by_cases hnone : (newFlowKey e c src dst protocol).1 = none ∨ ext.or (defaultExtAddr src) = none
  · have hnothing : ∃ n, pcpNewFlow e c src dst ext protocol lifetime = (none, { c with lookups := n }) :=
      pcpNewFlow_none hnone
    obtain ⟨n, heq⟩ := hnothing
    rw [heq]
    exact .none ((Grown.refl c).congr rfl rfl (fun _ _ => rfl) fun _ hf => by cases hf) (Nat.le_refl _)
  · obtain ⟨hkey, hext⟩ := not_or.mp hnone
    obtain ⟨kd, hkey⟩ := Option.ne_none_iff_exists'.mp hkey
    obtain ⟨ext', hext⟩ := Option.ne_none_iff_exists'.mp hext
    obtain ⟨a, S, d, -, -, hfan, -, heq⟩ := pcpNewFlow_key lifetime hkey hext
    have hcreates := hfan.creates
    rw [heq]
    by_cases hstop : a.stopped = true
    · rw [if_pos hstop]
      cases hf : a.ffirst with
      | none =>
        rw [hf] at hcreates
        exact hcreates
      | some f =>
        rw [hf] at hcreates
        have hundo := hcreates.grown.deleteAll ht
        rw [Option.toList_some, List.flatMap_singleton] at hundo
        refine .none hundo ?_
        rw [pcpDeleteFlow_heapTop]
        exact hcreates.heapTop
    · rw [if_neg hstop]
      exact hcreates

theorem pcpLearnDscp_creates (delayTol lossTol jitterTol : UInt8) (appName : Option (List UInt8)) :
    Creates c (pcpLearnDscp e c delayTol lossTol jitterTol appName).2
      (pcpLearnDscp e c delayTol lossTol jitterTol appName).1 := by
  unfold pcpLearnDscp chainFlows
  obtain ⟨S, hfan, -, -⟩ := FanOut.pass e c
    ⟨{ FlowKeyData.zero with operation := opcodeSadscp }, 0, none,
      ((delayTol &&& 3) <<< 6) ||| ((lossTol &&& 3) <<< 4) ||| ((jitterTol &&& 3) <<< 2), appName⟩
    c.pcpServersLength
  exact hfan.creates

/-- The chains from before keep to their flows. -/
theorem Creates.held {r : Option FlowId} (h : Creates c c' r) (hc : CtxOk c) (hl : LinksForward c)
    (hheld : Held c hs) : Held c' (r.toList ++ hs) := by
  have hold : ∀ f ∈ hs, c'.chain f = c.chain f := by
    intro f hf
    obtain ⟨hchain, hlen, halloc⟩ := hl.chain (hheld.alloc hc.table hf)
    have hsame : Chained c'.heap (some f) (c.chain f) := by
      refine hchain.congr fun g hg => ?_
      rw [h.grown.old g (halloc g hg)]
    exact hsame.chainAux (Nat.le_succ_of_le (Nat.le_trans hlen h.heapTop))
  have hchains : hs.flatMap c'.chain = hs.flatMap c.chain := List.flatMap_congr hold
  have hmem : ∀ g, g ∈ c'.allFlows ↔ g ∈ r.toList.flatMap c'.chain ∨ g ∈ c.allFlows := by
    intro g
    simp only [mem_allFlows, h.grown.buckets, List.mem_append, mem_bucket]
    constructor
    · rintro ⟨b, hb, hm | ⟨hm, -⟩⟩
      · exact .inr ⟨b, hb, hm⟩
      · exact .inl hm
    · rintro (hm | ⟨b, hb, hm⟩)
      · exact ⟨c'.flowKey g, computeFlowKey_lt _, .inr ⟨hm, rfl⟩⟩
      · exact ⟨b, hb, .inl hm⟩
  refine ⟨?_, ?_, ?_⟩
  · rw [List.flatMap_append, hchains]
    refine List.nodup_append.mpr ⟨h.grown.nodup, hheld.nodup, ?_⟩
    rintro f hf g hg rfl
    exact absurd (hc.alloc (hheld.table f hg)) (Nat.not_lt.mpr (h.grown.new f hf))
  · intro g hg
    rw [List.flatMap_append, hchains] at hg
    exact (hmem g).mpr ((List.mem_append.mp hg).imp_right (hheld.table g))
  · intro g hg
    rw [List.flatMap_append, hchains]
    obtain hnew | hg := (hmem g).mp hg
    · exact .inl (List.mem_append_left _ hnew)
    · rw [h.grown.old g (hc.alloc hg)]
      exact (hheld.all g hg).imp_left (List.mem_append_right _)

/-! ## Deleted flows -/

theorem pcpDbRemFlow_allFlows (hc : TableOk c) {f : FlowId} (hf : f ∈ c.allFlows) (g : FlowId) :
    g ∈ (pcpDbRemFlow c f).2.allFlows ↔ g ∈ c.allFlows ∧ g ≠ f := by
  obtain ⟨b, hb, hm⟩ := mem_allFlows.mp hf
  have heq : (pcpDbRemFlow c f).2.flows = Function.update c.flows b ((c.flows b).erase f) := by
    unfold pcpDbRemFlow
    rw [(hc.bucket b f hm).1]
    dsimp only
    rw [if_pos hm]
  simp only [mem_allFlows, heq]
  constructor
  · rintro ⟨k, hk, hg⟩
    by_cases hkb : k = b
    · subst hkb
      rw [Function.update_self, (hc.nodup k).mem_erase_iff] at hg
      exact ⟨⟨k, hk, hg.2⟩, hg.1⟩
    · rw [Function.update_of_ne hkb] at hg
      refine ⟨⟨k, hk, hg⟩, ?_⟩
      rintro rfl
      exact hkb ((hc.bucket k g hg).2.symm.trans (hc.bucket b g hm).2)
  · rintro ⟨⟨k, hk, hg⟩, hne⟩
    refine ⟨k, hk, ?_⟩
    by_cases hkb : k = b
    · subst hkb
      rw [Function.update_self, (hc.nodup k).mem_erase_iff]
      exact ⟨hne, hg⟩
    · rwa [Function.update_of_ne hkb]

theorem pcpDeleteFlowIntern_allFlows (hc : TableOk c) {f : FlowId} (hf : f ∈ c.allFlows) (g : FlowId) :
    g ∈ (pcpDeleteFlowIntern c f).allFlows ↔ g ∈ c.allFlows ∧ g ≠ f := by
  obtain heq | ⟨s, -, heq⟩ := pcpDeleteFlowIntern_cases c f
  · rw [heq]
    exact pcpDbRemFlow_allFlows hc hf g
  · rw [heq]
    exact pcpDbRemFlow_allFlows hc hf g

/-- Deleting the flows of a list leaves the others. -/
theorem deleteAll_spec {l : List FlowId} (hc : CtxOk c) (hl : l.Nodup) (hmem : ∀ f ∈ l, f ∈ c.allFlows) :
    (∀ g, g ∈ (l.foldl pcpDeleteFlowIntern c).allFlows ↔ g ∈ c.allFlows ∧ g ∉ l) ∧
      (l.foldl pcpDeleteFlowIntern c).heapTop = c.heapTop ∧
      ∀ g, ((l.foldl pcpDeleteFlowIntern c).heap g).nextChild = (c.heap g).nextChild ∧
        ((l.foldl pcpDeleteFlowIntern c).heap g).kd = (c.heap g).kd := by
  induction l generalizing c with
  | nil => exact ⟨fun g => by simp, rfl, fun g => ⟨rfl, rfl⟩⟩
  | cons f l ih =>
    obtain ⟨hfirst, hrest⟩ := List.forall_mem_cons.mp hmem
    obtain ⟨hnot, hnodup⟩ := List.nodup_cons.mp hl
    have hdel := pcpDeleteFlowIntern_deleted c f
    have hstep := pcpDeleteFlowIntern_allFlows hc.table hfirst
    have hstill : ∀ g ∈ l, g ∈ (pcpDeleteFlowIntern c f).allFlows := by
      intro g hg
      refine (hstep g).mpr ⟨hrest g hg, ?_⟩
      rintro rfl
      exact hnot hg
    obtain ⟨hall, htop, hheap⟩ := ih (hc.deleteFlow f) hnodup hstill
    refine ⟨?_, htop.trans hdel.heapTop, ?_⟩
    · intro g
      rw [List.foldl_cons, hall, hstep, List.mem_cons, not_or, and_assoc]
    · intro g
      obtain ⟨k, hk⟩ := hdel.heap g
      rw [List.foldl_cons, (hheap g).1, (hheap g).2, hk]
      exact ⟨rfl, rfl⟩

theorem Held.delete (h : Held c hs) (hc : CtxOk c) (hl : LinksForward c) {f : FlowId} (hf : f ∈ hs) :
    Held (pcpDeleteFlow c f) (hs.erase f) := by
  -- the chain of `f` first, then the others
  have hperm : (hs.flatMap c.chain).Perm (c.chain f ++ (hs.erase f).flatMap c.chain) :=
    (List.perm_cons_erase hf).flatMap_right c.chain
  have hnodup := hperm.nodup_iff.mp h.nodup
  obtain ⟨hfirst, hrest, hapart⟩ := List.nodup_append.mp hnodup
  obtain ⟨hall, htop, hheap⟩ := deleteAll_spec hc hfirst (h.chain_mem hf)
  have hchain : ∀ g ∈ hs.erase f, (pcpDeleteFlow c f).chain g = c.chain g := by
    intro g hg
    obtain ⟨hchain, hlen, -⟩ := hl.chain (h.alloc hc.table (List.mem_of_mem_erase hg))
    have hsame : Chained (pcpDeleteFlow c f).heap (some g) (c.chain g) :=
      hchain.congr fun x _ => (hheap x).1
    refine hsame.chainAux (Nat.le_succ_of_le (hlen.trans ?_))
    exact htop.ge
  have hchains : (hs.erase f).flatMap (pcpDeleteFlow c f).chain = (hs.erase f).flatMap c.chain :=
    List.flatMap_congr hchain
  refine ⟨?_, ?_, ?_⟩
  · rw [hchains]
    exact hrest
  · rw [hchains]
    intro g hg
    refine (hall g).mpr ⟨h.table g (hperm.mem_iff.mpr (List.mem_append_right _ hg)), fun hg' => ?_⟩
    exact hapart g hg' g hg rfl
  · rw [hchains]
    intro g hg
    obtain ⟨hg, hnot⟩ := (hall g).mp hg
    have hkd : ((pcpDeleteFlow c f).heap g).kd = (c.heap g).kd := (hheap g).2
    rw [hkd]
    refine (h.all g hg).imp_left fun hm => ?_
    exact (List.mem_append.mp (hperm.mem_iff.mp hm)).resolve_left hnot

/-! ## Runs -/

/-- Calls that neither make flows for the application nor delete them. -/
def Op.keepsFlows : Op → Bool
  | .newFlow .. | .learnDscp .. | .deleteFlow .. => false
  | _ => true

theorem Step.retains {op : Op} (h : Step e c op c') (hc : CtxOk c) (hop : op.keepsFlows = true) :
    Retains c c' := by
  have hcalls : ∀ {K : CallKind → Prop}, CallActs e K c c' → (∀ s, ¬ K (.create s)) →
      (∀ f, ¬ K (.link f)) → (∀ f, ¬ K (.delete f)) → Retains c c' := by
    intro K hacts hcreate hlink hdelete
    refine hacts.relate .refl (fun _ _ _ => .trans) fun k a b hk hact => hact.retains ?_ ?_ ?_
    · rintro s rfl
      exact hcreate s hk
    · rintro f rfl
      exact hlink f hk
    · rintro f rfl
      exact hdelete f hk
  cases (h.cases hc).1 with
  | close hlive hrecv hm hts =>
    exact (retains_kept e c).pulse hrecv hm hts ((closeChain_acts _).ctxOk hc) (closeChain_retains c _)
  | pulse hrecv hm hts => exact (retains_kept e c).pulse hrecv hm hts hc (.refl c)
  | call hp hplain hacts =>
    cases op with
    | newFlow | learnDscp | deleteFlow => cases hop
    | closeFlow | pulse => cases hp
    | setFlowChangeCb b =>
      refine hcalls hacts ?_ ?_ ?_
      all_goals
        intro x hx
        cases hx
    | addServer | addGws | setLifetime | set3rdPartyOpt | setFilterOpt | setPreferFailureOpt | setUserid
    | setLocation | setDeviceid | addMd | setFlowp =>
      exact hcalls hacts (fun _ hk => hk.elim) (fun _ hk => hk.elim) fun _ hk => hk.elim

theorem Op.handles_keepsFlows {op : Op} (hop : op.keepsFlows = true) (e : Env) (c : Ctx) (hs : List FlowId) :
    op.handles e c hs = hs := by
  cases op with
  | newFlow | learnDscp | deleteFlow => cases hop
  | _ => rfl

/-- One call with a pointer that is held. -/
theorem AppStep.held {op : Op} {hs' : List FlowId} (h : AppStep e op (c, hs) (c', hs'))
    (hr : Reachable e c) (hheld : Held c hs) : Step e c op c' ∧ Held c' hs' := by
  obtain ⟨ht, ⟨n, hexec⟩, hhs⟩ := h
  dsimp only at ht hexec hhs
  have hc := hr.ctxOk
  have hl := hr.linksForward
  have hstep : Step e c op c' := ⟨n, (hheld.within ht e n).trans hexec⟩
  refine ⟨hstep, ?_⟩
  by_cases hop : op.keepsFlows = true
  · rw [hhs, Op.handles_keepsFlows hop]
    exact (hstep.retains hc hop).held hc hl hheld
  · cases op with
    | newFlow src dst ext p l =>
      obtain rfl := Option.some.inj hexec
      rw [hhs]
      exact (pcpNewFlow_creates hc.table src dst ext p l).held hc hl hheld
    | learnDscp d l j a =>
      obtain rfl := Option.some.inj hexec
      rw [hhs]
      exact (pcpLearnDscp_creates d l j a).held hc hl hheld
    | deleteFlow f =>
      obtain rfl := Option.some.inj hexec
      rw [hhs]
      exact hheld.delete hc hl (ht f rfl)
    | _ => exact absurd rfl hop

/-- `AppStep` with one bound for all calls. -/
def appStep (e : Env) (n : Nat) (a : Ctx × List FlowId) (op : Op) : Option (Ctx × List FlowId) :=
  if ∀ f ∈ op.target, f ∈ a.2 then (op.exec e n a.1).map (·, op.handles e a.1 a.2) else none

theorem AppRuns.follow {n : Nat} {a b : Ctx × List FlowId} {ops : List Op}
    (h : follow (appStep e n) a ops = some b) : AppRuns e a b := by
  refine Steps.of_follow (fun a op b hstep => ⟨trivial, ?_⟩) h
  unfold appStep at hstep
  split at hstep
  · rename_i ht
    obtain ⟨c', hexec, rfl⟩ := Option.map_eq_some_iff.mp hstep
    exact ⟨ht, ⟨n, hexec⟩, rfl⟩
  · cases hstep

/-- Two flows for each of two calls, of which the first two are deleted. -/
def appDeletes : List Op :=
  [.addServer (.inet 0x0A000001 0) 2, .addServer (.inet 0x0A000003 0) 2,
   .newFlow (.inet 0x0A000002 80) none none 6 60, .newFlow (.inet 0x0A000002 443) none none 6 60,
   .setLifetime 0 120, .pulse none .zero, .deleteFlow 0, .pulse none .zero]

end LibPcp
