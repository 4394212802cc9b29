import LibPcp.Chains
import LibPcp.FlowTable

/-!
# LibPcp.FanOut

`pcp_new_flow` makes one flow for every server that suits the source, or none.

`Grown` is a flow table to which a list of new flows was added, in this order; deleting the flows
again gives back the table it started from. `FanOut` is the state of the pass over the servers when it
made flows for the slots `S`.
-/

namespace LibPcp

open HashBuckets

variable {e : Env} {b c : Ctx} {fs : List FlowId}

/-! ## A table that grew -/

/-- The table of `c` is that of `b` with the flows `fs` behind the flows `b` has. -/
structure Grown (b c : Ctx) (fs : List FlowId) : Prop where
  buckets : ∀ k, c.flows k = b.flows k ++ bucket c.flowKey fs k
  count : c.flowCnt = b.flowCnt + fs.length
  old : ∀ f, f < b.heapTop → c.heap f = b.heap f
  new : ∀ f ∈ fs, b.heapTop ≤ f
  nodup : fs.Nodup
  present : ∀ f ∈ fs, (c.heap f).keyBucket = some (c.flowKey f)

theorem Grown.refl (b : Ctx) : Grown b b [] :=
  ⟨fun _ => (List.append_nil _).symm, rfl, fun _ _ => rfl, by simp, List.nodup_nil, by simp⟩

/-- The keys and buckets of the flows of `c` are all that matters. -/
theorem Grown.congr {c' : Ctx} (h : Grown b c fs) (hflows : c'.flows = c.flows)
    (hcnt : c'.flowCnt = c.flowCnt) (hold : ∀ f, f < b.heapTop → c'.heap f = c.heap f)
    (hnew : ∀ f ∈ fs, (c'.heap f).kd = (c.heap f).kd ∧ (c'.heap f).keyBucket = (c.heap f).keyBucket) :
    Grown b c' fs := by
  have hkey : ∀ f ∈ fs, c'.flowKey f = c.flowKey f := fun f hf => by
    unfold Ctx.flowKey
    rw [(hnew f hf).1]
  refine ⟨fun k => ?_, hcnt.trans h.count, fun f hf => (hold f hf).trans (h.old f hf), h.new, h.nodup,
    fun f hf => ?_⟩
  · rw [hflows, h.buckets, bucket_congr hkey]
  · rw [(hnew f hf).2, h.present f hf, hkey f hf]

/-- A flow created for server `s` goes behind the others. -/
theorem Grown.append (h : Grown b c fs) (htop : b.heapTop ≤ c.heapTop)
    (hlt : ∀ f ∈ fs, f < c.heapTop) (s : Nat) (fl : Flow) (t : Timeval) (io : Io) :
    Grown b (addNewFlow c s fl t io) (fs ++ [c.heapTop]) := by
  have hold : ∀ f, f ≠ c.heapTop → (addNewFlow c s fl t io).heap f = c.heap f := fun f hf => by
    rw [addNewFlow_heap, if_neg hf]
  have hself : (addNewFlow c s fl t io).heap c.heapTop =
      { fl with keyBucket := some (computeFlowKey fl.kd) } := by
    rw [addNewFlow_heap, if_pos rfl]
  have hnewkey : (addNewFlow c s fl t io).flowKey c.heapTop = computeFlowKey fl.kd := by
    unfold Ctx.flowKey
    rw [hself]
  have hkey : ∀ f ∈ fs, (addNewFlow c s fl t io).flowKey f = c.flowKey f := fun f hf => by
    unfold Ctx.flowKey
    rw [hold f (Nat.ne_of_lt (hlt f hf))]
  have hflows : (addNewFlow c s fl t io).flows = Function.update c.flows (computeFlowKey fl.kd)
      (c.flows (computeFlowKey fl.kd) ++ [c.heapTop]) := by
    simp [addNewFlow, pcpDbAddFlow, Ctx.setNextTimeout, Ctx.modServer, Ctx.modFlow]
  refine ⟨fun k => ?_, ?_, fun f hf => ?_, fun f hf => ?_, ?_, fun f hf => ?_⟩
  · rw [hflows]
    by_cases hk : k = computeFlowKey fl.kd
    · subst hk
      rw [Function.update_self, ← hnewkey, bucket_append_self, bucket_congr hkey, hnewkey, h.buckets,
        List.append_assoc]
    · rw [Function.update_of_ne hk, bucket_append_of_ne (hnewkey.symm ▸ hk), bucket_congr hkey,
        h.buckets]
  · change c.flowCnt + 1 = _
    rw [h.count, List.length_append, List.length_singleton]
    omega
  · rw [hold f (Nat.ne_of_lt (Nat.lt_of_lt_of_le hf htop))]
    exact h.old f hf
  · rcases List.mem_append.mp hf with hf | hf
    · exact h.new f hf
    · rw [List.mem_singleton.mp hf]
      exact htop
  · exact List.nodup_append.mpr ⟨h.nodup, List.nodup_singleton _, fun f hf g hg hfg =>
      absurd (hlt f hf) (by rw [hfg, List.mem_singleton.mp hg]; exact Nat.lt_irrefl _)⟩
  · rcases List.mem_append.mp hf with hf | hf
    · rw [hold f (Nat.ne_of_lt (hlt f hf)), hkey f hf]
      exact h.present f hf
    · rw [List.mem_singleton.mp hf, hself, hnewkey]

/-- What deleting a flow of the table does to it. -/
theorem Grown.delete {f : FlowId} (ht : TableOk b) (h : Grown b c (f :: fs)) :
    Grown b (pcpDeleteFlowIntern c f) fs := by
  have hrem : Grown b (pcpDbRemFlow c f).2 fs := by
    have hb := h.present f List.mem_cons_self
    have hbucket : ∀ k, c.flows k = b.flows k ++ bucket c.flowKey (f :: fs) k := h.buckets
    have hmem : f ∈ c.flows (c.flowKey f) := by
      rw [hbucket]
      exact List.mem_append_right _ (mem_bucket.mpr ⟨List.mem_cons_self, rfl⟩)
    have hnot : ∀ k, f ∉ b.flows k := fun k hk =>
      absurd (ht.fresh k f hk) (Nat.not_lt.mpr (h.new f List.mem_cons_self))
    have heq : (pcpDbRemFlow c f).2 =
        { c.modFlow f (fun v => { v with keyBucket := none }) with
          flows := Function.update c.flows (c.flowKey f) ((c.flows (c.flowKey f)).erase f)
          flowCnt := c.flowCnt - 1 } := by
      unfold pcpDbRemFlow
      rw [hb]
      exact congrArg Prod.snd (if_pos hmem)
    have hne : ∀ g ∈ fs, g ≠ f := fun g hg hgf => (List.nodup_cons.mp h.nodup).1 (hgf ▸ hg)
    have hkey : (pcpDbRemFlow c f).2.flowKey = c.flowKey := by
      rw [heq]
      exact flowKey_setBucket c f none
    have hheap : ∀ g, g ≠ f → (pcpDbRemFlow c f).2.heap g = c.heap g := fun g hg => by
      rw [heq]
      simp [Ctx.modFlow, hg]
    refine ⟨fun k => ?_, ?_, fun g hg => ?_, fun g hg => h.new g (List.mem_cons_of_mem f hg),
      (List.nodup_cons.mp h.nodup).2, fun g hg => ?_⟩
    · rw [hkey]
      have hfirst : bucket c.flowKey fs k = (bucket c.flowKey (f :: fs) k).erase f := by
        rw [← bucket_erase, List.erase_cons_head]
      rw [hfirst, ← List.erase_append_right _ (hnot k), ← hbucket, heq]
      dsimp only
      by_cases hk : k = c.flowKey f
      · subst hk
        exact Function.update_self ..
      · rw [Function.update_of_ne hk, List.erase_of_not_mem]
        intro hm
        rw [hbucket] at hm
        rcases List.mem_append.mp hm with hm | hm
        · exact hnot k hm
        · exact hk (mem_bucket.mp hm).2.symm
    · rw [heq]
      change c.flowCnt - 1 = _
      rw [h.count, List.length_cons]
      omega
    · rw [hheap g fun hgf => absurd hg (Nat.not_lt.mpr (hgf ▸ h.new f List.mem_cons_self))]
      exact h.old g hg
    · rw [hheap g (hne g hg), hkey]
      exact h.present g (List.mem_cons_of_mem f hg)
  rcases pcpDeleteFlowIntern_cases c f with heq | ⟨s, hl, heq⟩
  · rw [heq]
    exact hrem
  · rw [heq]
    exact hrem.congr rfl rfl (fun _ _ => rfl) fun _ _ => ⟨rfl, rfl⟩

/-- Deleting the flows that were added gives the table back. -/
theorem Grown.deleteAll (ht : TableOk b) (h : Grown b c fs) :
    Grown b (fs.foldl pcpDeleteFlowIntern c) [] := by
  induction fs generalizing c with
  | nil => exact h
  | cons f fs ih => exact ih (h.delete ht)

/-! ## The servers a flow is made for -/

/-- Source address and scope of a key. -/
def FlowKeyData.source (kd : FlowKeyData) : In6Addr × UInt32 := (kd.srcIp, kd.scopeId)

/-- The server takes part in a flow from `source`: it is in use, and has an address of the same family
and the same scope. For an any-address each server's own source is taken, which suits. -/
def Suits (source : In6Addr × UInt32) (v : Server) : Prop :=
  v.serverState ≠ .unitialized ∧ v.serverState ≠ .notWorking ∧
    (source.1.isAny = true ∨ haveSameAf source.1 v.srcIp = true ∧ source.2 = v.pcpScopeId)

instance (source : In6Addr × UInt32) (v : Server) : Decidable (Suits source v) :=
  inferInstanceAs (Decidable (_ ∧ _))

/-- The key of the flow made for the server. -/
def flowKeyOn (kd : FlowKeyData) (v : Server) : FlowKeyData :=
  { kd with
    srcIp := if kd.srcIp.isAny then v.srcIp else kd.srcIp
    scopeId := v.pcpScopeId
    pcpServerIp := v.pcpIp
    nonce := v.nonce }

theorem flowKeyFor_eq {v : Server} (kd : FlowKeyData) (hv : v.serverState ≠ .unitialized) :
    flowKeyFor kd v = if Suits kd.source v then some (flowKeyOn kd v) else none := by
  unfold flowKeyFor Suits flowKeyOn FlowKeyData.source
  by_cases hw : v.serverState = .notWorking
  · simp [hw]
  · by_cases hany : kd.srcIp.isAny = true
    · simp [hw, hv, hany, haveSameAf]
    · by_cases haf : haveSameAf kd.srcIp v.srcIp = true
      · by_cases hsc : kd.scopeId = v.pcpScopeId
        · simp [hw, hv, hany, haf, hsc]
        · simp [hw, hany, haf, hsc]
      · simp [hw, hany, haf]

/-- The slots of the servers that suit, in increasing order. -/
def suitable (source : In6Addr × UInt32) (c : Ctx) (n : Nat) : List Nat :=
  (List.range n).filter fun i => Suits source (c.pcpServers i)

/-- The flows that are allocated next. -/
def newFlows (c : Ctx) (n : Nat) : List FlowId := List.range' c.heapTop n

theorem newFlows_succ (c : Ctx) (n : Nat) : newFlows c (n + 1) = newFlows c n ++ [c.heapTop + n] :=
  List.range'_1_concat

theorem mem_newFlows {n f : Nat} : f ∈ newFlows c n ↔ ∃ k, k < n ∧ f = c.heapTop + k := by
  unfold newFlows
  rw [List.mem_range'_1]
  constructor
  · rintro ⟨h₁, h₂⟩
    exact ⟨f - c.heapTop, by omega, by omega⟩
  · rintro ⟨k, hk, rfl⟩
    exact ⟨by omega, by omega⟩

/-! ## The pass over the servers -/

theorem Chained.snoc {heap heap' : FlowId → Flow} {o : Option FlowId} {l : List FlowId} {p f : FlowId}
    (h : Chained heap o (l ++ [p])) (hl : ∀ g ∈ l, (heap' g).nextChild = (heap g).nextChild)
    (hp : (heap' p).nextChild = some f) (hf : (heap' f).nextChild = none) :
    Chained heap' o (l ++ [p] ++ [f]) := by
  induction l generalizing o with
  | nil =>
    cases o with
    | none => cases h
    | some q =>
      obtain ⟨rfl, -⟩ := h
      refine ⟨rfl, ?_⟩
      rw [hp]
      exact ⟨rfl, by rw [hf]; rfl⟩
  | cons g l ih =>
    cases o with
    | none => cases h
    | some q =>
      obtain ⟨rfl, h⟩ := h
      refine ⟨rfl, ?_⟩
      rw [hl g List.mem_cons_self]
      exact ih h fun x hx => hl x (List.mem_cons_of_mem g hx)

/-- What `pcp_new_flow` asks of the flow for the server. -/
structure AskedOf (d : CaasiData) (v : Server) (fl : Flow) : Prop where
  kd : fl.kd = flowKeyOn d.kd v
  server : fl.pcpServerIndx = v.index
  lifetime : fl.lifetime = d.lifetime

/-- The pass has made flows for the slots `S`. -/
structure FanOut (c : Ctx) (d : CaasiData) (S : List Nat) (a : ChainAcc) : Prop where
  grown : Grown c a.ctx (newFlows c S.length)
  top : a.ctx.heapTop = c.heapTop + S.length
  length : a.ctx.pcpServersLength = c.pcpServersLength
  server : ∀ i, ∃ t, a.ctx.pcpServers i = { c.pcpServers i with nextTimeout := t }
  chain : Chained a.ctx.heap a.ffirst (newFlows c S.length)
  last : a.fprev = (newFlows c S.length).getLast?
  asked : ∀ k (hk : k < S.length), AskedOf d (c.pcpServers S[k]) (a.ctx.heap (c.heapTop + k))

theorem FanOut.start (c : Ctx) (d : CaasiData) : FanOut c d [] { ctx := c } :=
  ⟨.refl c, rfl, rfl, fun _ => ⟨_, rfl⟩, rfl, rfl, fun k hk => absurd hk (Nat.not_lt_zero k)⟩

/-- The flow as `pcp_create_flow` makes it. -/
def createdFlow (kd : FlowKeyData) (s : Server) : Flow :=
  { Flow.zero with pcpServerIndx := s.index, kd := kd, keyBucket := none }

/-- Allocating and initialising a flow is adding one flow to the table. -/
theorem pcpCreateFlow_adds {d : CaasiData} {s : Nat} (kd : FlowKeyData)
    (h : e.calloc c.io.callocs = true) :
    ∃ c₁, pcpCreateFlow e c s kd = (some c.heapTop, c₁) ∧ initFlow e c₁ c.heapTop s d =
      addNewFlow c s (initialFlow (e.strdup c.heapTop) (c.pcpServers s) (e.now c.io) d
        (createdFlow kd (c.pcpServers s))) (e.now c.io) c.callocCall.io.tick := by
  unfold pcpCreateFlow
  rw [if_pos h]
  exact ⟨_, rfl, initFlow_eq e c s d (createdFlow kd (c.pcpServers s)) c.callocCall.io⟩

/-- What the new flow has from the key and the data. -/
theorem pcpCreateFlow_eq {d : CaasiData} {s : Nat} (kd : FlowKeyData) (h : e.calloc c.io.callocs = true) :
    ∃ c₁ fl, pcpCreateFlow e c s kd = (some c.heapTop, c₁) ∧ initFlow e c₁ c.heapTop s d =
        addNewFlow c s fl (e.now c.io) c.callocCall.io.tick ∧
      fl.kd = kd ∧ fl.pcpServerIndx = (c.pcpServers s).index ∧ fl.lifetime = d.lifetime ∧
      fl.nextChild = none := by
  obtain ⟨c₁, hcreate, hinit⟩ := pcpCreateFlow_adds (d := d) (s := s) kd h
  obtain ⟨hkd, hix, -⟩ := newFlowFields_kept (e.strdup c.heapTop) d (createdFlow kd (c.pcpServers s))
  exact ⟨c₁, _, hcreate, hinit, hkd, hix, rfl, newFlowFields_nextChild _ d _⟩

/-- The turn of a server that suits, while memory lasts. -/
theorem FanOut.visit {d : CaasiData} {S : List Nat} {a : ChainAcc} {s : Nat} (h : FanOut c d S a)
    (hstop : a.stopped = false) (hs : a.ctx.pcpServers s = c.pcpServers s)
    (hsuits : Suits d.kd.source (c.pcpServers s)) (hcalloc : e.calloc a.ctx.io.callocs = true) :
    FanOut c d (S ++ [s]) (chainAndAssignSrcIp e d a s) ∧
      (chainAndAssignSrcIp e d a s).stopped = false ∧
      (chainAndAssignSrcIp e d a s).ctx.io.callocs = a.ctx.io.callocs + 1 ∧
      ∀ i, i ≠ s → (chainAndAssignSrcIp e d a s).ctx.pcpServers i = a.ctx.pcpServers i := by
  obtain ⟨c₁, fl, hcr, hinit, hkd, hix, hlife, hchild⟩ :=
    pcpCreateFlow_eq (d := d) (s := s) (flowKeyOn d.kd (c.pcpServers s)) hcalloc
  have hstart : ¬ (a.stopped = true ∨ (a.ctx.pcpServers s).serverState = .unitialized) := by
    rw [hstop, hs]
    simp [hsuits.1]
  have hkey : flowKeyFor d.kd (a.ctx.pcpServers s) = some (flowKeyOn d.kd (c.pcpServers s)) := by
    rw [hs, flowKeyFor_eq d.kd hsuits.1, if_pos hsuits]
  unfold chainAndAssignSrcIp
  simp only [if_neg hstart, hkey, hcr, hinit]
  generalize e.now a.ctx.io = t
  have hio : a.ctx.callocCall.io.tick.callocs = a.ctx.io.callocs + 1 := rfl
  generalize a.ctx.callocCall.io.tick = io at hio
  have hlen : (S ++ [s]).length = S.length + 1 := by simp
  have hnew : newFlows c (S.length + 1) = newFlows c S.length ++ [a.ctx.heapTop] := by
    rw [newFlows_succ, h.top]
  have hlt : ∀ f ∈ newFlows c S.length, f < a.ctx.heapTop := fun f hf => by
    obtain ⟨k, hk, rfl⟩ := mem_newFlows.mp hf
    rw [h.top]
    exact Nat.add_lt_add_left hk _
  have hgrown : Grown c (addNewFlow a.ctx s fl t io) (newFlows c (S ++ [s]).length) := by
    rw [hlen, hnew]
    exact h.grown.append (h.top ▸ Nat.le_add_right _ _) hlt s fl t io
  have hother : ∀ i, i ≠ s → (addNewFlow a.ctx s fl t io).pcpServers i = a.ctx.pcpServers i :=
    fun i hi => by rw [addNewFlow_server, if_neg hi]
  have hserver : ∀ i, ∃ t', (addNewFlow a.ctx s fl t io).pcpServers i =
      { c.pcpServers i with nextTimeout := t' } := fun i => by
    rw [addNewFlow_server]
    split
    · rename_i his
      rw [his, hs]
      exact ⟨t, rfl⟩
    · exact h.server i
  have hold : ∀ f, f < a.ctx.heapTop → (addNewFlow a.ctx s fl t io).heap f = a.ctx.heap f :=
    fun f hf => by rw [addNewFlow_heap, if_neg (Nat.ne_of_lt hf)]
  have hself : (addNewFlow a.ctx s fl t io).heap a.ctx.heapTop =
      { fl with keyBucket := some (computeFlowKey fl.kd) } := by rw [addNewFlow_heap, if_pos rfl]
  have hasked : ∀ k (hk : k < (S ++ [s]).length), AskedOf d (c.pcpServers (S ++ [s])[k])
      ((addNewFlow a.ctx s fl t io).heap (c.heapTop + k)) := fun k hk => by
    by_cases hkS : k < S.length
    · rw [List.getElem_append_left hkS, hold _ (h.top ▸ Nat.add_lt_add_left hkS _)]
      exact h.asked k hkS
    · have hkeq : k = S.length := by omega
      subst hkeq
      rw [List.getElem_concat_length rfl, ← h.top, hself]
      exact ⟨hkd, hix.trans (by rw [hs]), hlife⟩
  have hlast : some a.ctx.heapTop = (newFlows c (S ++ [s]).length).getLast? := by
    rw [hlen, hnew, List.getLast?_concat]
  have htop : a.ctx.heapTop + 1 = c.heapTop + (S ++ [s]).length := by
    rw [hlen, h.top]
    exact Nat.add_assoc ..
  cases hp : a.fprev with
  | none =>
    refine ⟨⟨hgrown, htop, h.length, hserver, ?_, hlast, hasked⟩, hstop, hio, hother⟩
    have hempty : newFlows c S.length = [] := List.getLast?_eq_none_iff.mp (h.last.symm.trans hp)
    rw [hlen, hnew, hempty]
    refine ⟨rfl, ?_⟩
    rw [hself, hchild]
    rfl
  | some p =>
    obtain ⟨l, hl⟩ := List.getLast?_eq_some_iff.mp (h.last.symm.trans hp)
    have hpS : p ∈ newFlows c S.length := hl ▸ List.mem_append_right _ (List.mem_singleton_self p)
    have hpl : ∀ f ∈ l, f ≠ p := fun f hf hfp => by
      have hnd := h.grown.nodup
      rw [hl] at hnd
      exact (List.nodup_append.mp hnd).2.2 f hf p (List.mem_singleton_self p) hfp
    have hptop : a.ctx.heapTop ≠ p := Nat.ne_of_gt (hlt p hpS)
    obtain ⟨k₀, hk₀, hpk⟩ := mem_newFlows.mp hpS
    -- only the link of the last flow changes
    have hlink : ∀ f, f ≠ p → ((addNewFlow a.ctx s fl t io).modFlow p
        fun v => { v with nextChild := some a.ctx.heapTop }).heap f =
          (addNewFlow a.ctx s fl t io).heap f := fun f hf => by
      rw [Ctx.modFlow, Ctx.setFlow_heap, Function.update_of_ne hf]
    have hlinkp : ((addNewFlow a.ctx s fl t io).modFlow p
        fun v => { v with nextChild := some a.ctx.heapTop }).heap p =
          { (addNewFlow a.ctx s fl t io).heap p with nextChild := some a.ctx.heapTop } := by
      rw [Ctx.modFlow, Ctx.setFlow_heap, Function.update_self]
    refine ⟨⟨hgrown.congr rfl rfl (fun f hf => hlink f ?_) fun f _ => ?_, htop, h.length, hserver,
      ?_, hlast, fun k hk => ?_⟩, hstop, hio, hother⟩
    · rw [hpk]
      exact Nat.ne_of_lt (Nat.lt_of_lt_of_le hf (Nat.le_add_right _ _))
    · by_cases hfp : f = p
      · subst hfp
        rw [hlinkp]
        exact ⟨rfl, rfl⟩
      · rw [hlink f hfp]
        exact ⟨rfl, rfl⟩
    · have hchain := h.chain
      rw [hl] at hchain
      rw [hlen, hnew, hl]
      refine hchain.snoc (fun f hf => ?_) (by rw [hlinkp]) ?_
      · rw [hlink f (hpl f hf), hold f (hlt f (hl ▸ List.mem_append_left _ hf))]
      · rw [hlink _ hptop, hself]
        exact hchild
    · by_cases hkp : c.heapTop + k = p
      · have hkask := hasked k hk
        rw [hkp] at hkask ⊢
        rw [hlinkp]
        exact ⟨hkask.kd, hkask.server, hkask.lifetime⟩
      · rw [hlink _ hkp]
        exact hasked k hk

/-- The pass over the first `n` slots made a flow for every server that suits, or a flow could not be
allocated when those for `S` were made. -/
inductive PassEnd (e : Env) (c : Ctx) (d : CaasiData) (n : Nat) (S : List Nat) (a : ChainAcc) : Prop where
  | whole (hstop : a.stopped = false) (hS : S = suitable d.kd.source c n)
      (hio : a.ctx.io.callocs = c.io.callocs + S.length)
      (hcalloc : ∀ k, k < S.length → e.calloc (c.io.callocs + k) = true)
  | broken (hstop : a.stopped = true) (hS : S.length < (suitable d.kd.source c n).length)
      (hcalloc : e.calloc (c.io.callocs + S.length) = false)

theorem suitable_succ (source : In6Addr × UInt32) (c : Ctx) (n : Nat) :
    suitable source c (n + 1) =
      suitable source c n ++ if Suits source (c.pcpServers n) then [n] else [] := by
  unfold suitable
  rw [List.range_succ, List.filter_append]
  by_cases h : Suits source (c.pcpServers n)
  · simp [h]
  · simp [h]

/-- A server that does not suit is passed over. -/
theorem chainAndAssignSrcIp_skip {d : CaasiData} {a : ChainAcc} {s : Nat}
    (h : a.stopped = true ∨ ¬ Suits d.kd.source (a.ctx.pcpServers s)) : chainAndAssignSrcIp e d a s = a := by
  unfold chainAndAssignSrcIp
  by_cases hskip : a.stopped = true ∨ (a.ctx.pcpServers s).serverState = .unitialized
  · rw [if_pos hskip]
  · rw [if_neg hskip]
    have hu : (a.ctx.pcpServers s).serverState ≠ .unitialized := fun hu => hskip (.inr hu)
    have hnot := h.resolve_left fun hstop => hskip (.inl hstop)
    rw [flowKeyFor_eq d.kd hu, if_neg hnot]

/-- The turn of a server that suits when there is no memory. -/
theorem FanOut.visit_fails {d : CaasiData} {S : List Nat} {a : ChainAcc} {s : Nat} (h : FanOut c d S a)
    (hstop : a.stopped = false) (hs : a.ctx.pcpServers s = c.pcpServers s)
    (hsuits : Suits d.kd.source (c.pcpServers s)) (hcalloc : e.calloc a.ctx.io.callocs = false) :
    FanOut c d S (chainAndAssignSrcIp e d a s) ∧ (chainAndAssignSrcIp e d a s).stopped = true ∧
      (chainAndAssignSrcIp e d a s).ctx.pcpServers = a.ctx.pcpServers := by
  have hstart : ¬ (a.stopped = true ∨ (a.ctx.pcpServers s).serverState = .unitialized) := by
    rw [hstop, hs]
    simp [hsuits.1]
  have hkey : flowKeyFor d.kd (a.ctx.pcpServers s) = some (flowKeyOn d.kd (c.pcpServers s)) := by
    rw [hs, flowKeyFor_eq d.kd hsuits.1, if_pos hsuits]
  unfold chainAndAssignSrcIp
  have hcr : pcpCreateFlow e a.ctx s (flowKeyOn d.kd (c.pcpServers s)) = (none, a.ctx.callocCall) := by
    unfold pcpCreateFlow
    rw [hcalloc]
    rfl
  rw [if_neg hstart, hkey]
  dsimp only
  rw [hcr]
  exact ⟨⟨h.grown.congr rfl rfl (fun _ _ => rfl) fun _ _ => ⟨rfl, rfl⟩, h.top, h.length, h.server,
    h.chain, h.last, h.asked⟩, rfl, rfl⟩

theorem FanOut.pass (e : Env) (c : Ctx) (d : CaasiData) (n : Nat) :
    ∃ S, FanOut c d S ((List.range n).foldl (chainAndAssignSrcIp e d) { ctx := c }) ∧
      (∀ i, n ≤ i → ((List.range n).foldl (chainAndAssignSrcIp e d) { ctx := c }).ctx.pcpServers i =
        c.pcpServers i) ∧
      PassEnd e c d n S ((List.range n).foldl (chainAndAssignSrcIp e d) { ctx := c }) := by
  induction n with
  | zero =>
    exact ⟨[], .start c d, fun _ _ => rfl, .whole rfl rfl rfl fun k hk => absurd hk (Nat.not_lt_zero k)⟩
  | succ n ih =>
    obtain ⟨S, hfan, hahead, hend⟩ := ih
    rw [List.range_succ, List.foldl_append, List.foldl_cons, List.foldl_nil]
    generalize (List.range n).foldl (chainAndAssignSrcIp e d) { ctx := c } = a at hfan hahead hend
    have hn := hahead n (Nat.le_refl n)
    cases hend with
    | broken hstop hS hcalloc =>
      rw [chainAndAssignSrcIp_skip (.inl hstop)]
      refine ⟨S, hfan, fun i hi => hahead i (Nat.le_of_succ_le hi), .broken hstop ?_ hcalloc⟩
      rw [suitable_succ, List.length_append]
      exact Nat.lt_of_lt_of_le hS (Nat.le_add_right _ _)
    | whole hstop hS hio hcalloc =>
      by_cases hsuits : Suits d.kd.source (c.pcpServers n)
      · have hsucc : suitable d.kd.source c (n + 1) = S ++ [n] := by rw [suitable_succ, if_pos hsuits, ← hS]
        cases hal : e.calloc a.ctx.io.callocs with
        | true =>
          obtain ⟨hfan', hstop', hio', hother⟩ := hfan.visit hstop hn hsuits hal
          refine ⟨S ++ [n], hfan', fun i hi => ?_, .whole hstop' hsucc.symm ?_ fun k hk => ?_⟩
          · rw [hother i (Nat.ne_of_gt hi)]
            exact hahead i (Nat.le_of_succ_le hi)
          · rw [hio', hio, List.length_append, List.length_singleton]
            exact Nat.add_assoc ..
          · rw [List.length_append, List.length_singleton] at hk
            rcases Nat.lt_succ_iff_lt_or_eq.mp hk with hk | rfl
            · exact hcalloc k hk
            · rw [← hio]
              exact hal
        | false =>
          obtain ⟨hfan', hstop', hsame⟩ := hfan.visit_fails hstop hn hsuits hal
          refine ⟨S, hfan', fun i hi => ?_, .broken hstop' ?_ ?_⟩
          · rw [hsame]
            exact hahead i (Nat.le_of_succ_le hi)
          · rw [hsucc, List.length_append]
            exact Nat.lt_succ_self _
          · rw [← hio]
            exact hal
      · rw [chainAndAssignSrcIp_skip (.inr (hn ▸ hsuits))]
        refine ⟨S, hfan, fun i hi => hahead i (Nat.le_of_succ_le hi), .whole hstop ?_ hio hcalloc⟩
        rw [suitable_succ, if_neg hsuits, List.append_nil]
        exact hS

/-! ## What a new flow holds -/

/-- A flow as it is made for some server, whatever its bucket and its place in the chain. -/
def Made (copied : Bool) (d : CaasiData) (fl : Flow) : Prop :=
  ∃ v t kd kb n, kd.operation = d.kd.operation ∧
    fl = { initialFlow copied v t d (createdFlow kd v) with keyBucket := kb, nextChild := n }

theorem Made.linked {copied : Bool} {d : CaasiData} {fl : Flow} (h : Made copied d fl)
    (n : Option FlowId) : Made copied d { fl with nextChild := n } := by
  obtain ⟨v, t, kd, kb, -, hop, rfl⟩ := h
  exact ⟨v, t, kd, kb, n, hop, rfl⟩

/-- The flows from `n` on were made by the pass. -/
structure AllMade (e : Env) (n : Nat) (d : CaasiData) (c : Ctx) : Prop where
  top : n ≤ c.heapTop
  made : ∀ f, n ≤ f → f < c.heapTop → Made (e.strdup f) d (c.heap f)

theorem AllMade.add {n : Nat} {d : CaasiData} (h : AllMade e n d c) {s : Nat} {kd : FlowKeyData}
    (hop : kd.operation = d.kd.operation) (t t' : Timeval) (io : Io) :
    AllMade e n d (addNewFlow c s (initialFlow (e.strdup c.heapTop) (c.pcpServers s) t d
      (createdFlow kd (c.pcpServers s))) t' io) := by
  refine ⟨Nat.le_succ_of_le h.top, fun f hf hlt => ?_⟩
  rw [addNewFlow_heap]
  by_cases hself : f = c.heapTop
  · rw [if_pos hself, hself]
    exact ⟨_, t, kd, _, _, hop, rfl⟩
  · rw [if_neg hself]
    exact h.made f hf (Nat.lt_of_le_of_ne (Nat.le_of_lt_succ hlt) hself)

theorem AllMade.link {n : Nat} {d : CaasiData} (h : AllMade e n d c) (p : FlowId) (o : Option FlowId) :
    AllMade e n d (c.modFlow p fun v => { v with nextChild := o }) := by
  refine ⟨h.top, fun f hf hlt => ?_⟩
  rw [Ctx.modFlow, Ctx.setFlow_heap]
  by_cases hp : f = p
  · subst hp
    rw [Function.update_self]
    exact (h.made f hf hlt).linked o
  · rw [Function.update_of_ne hp]
    exact h.made f hf hlt

theorem chainAndAssignSrcIp_made {n : Nat} {d : CaasiData} {a : ChainAcc} (h : AllMade e n d a.ctx)
    (s : Nat) : AllMade e n d (chainAndAssignSrcIp e d a s).ctx := by
  unfold chainAndAssignSrcIp
  by_cases hskip : a.stopped = true ∨ (a.ctx.pcpServers s).serverState = .unitialized
  · rw [if_pos hskip]
    exact h
  rw [if_neg hskip]
  cases hkey : flowKeyFor d.kd (a.ctx.pcpServers s) with
  | none => exact h
  | some kd =>
    obtain ⟨-, -, hop, -⟩ := flowKeyFor_some hkey
    cases hal : e.calloc a.ctx.io.callocs with
    | false =>
      have hcreate : pcpCreateFlow e a.ctx s kd = (none, a.ctx.callocCall) := by
        unfold pcpCreateFlow
        rw [hal]
        rfl
      simp only [hcreate]
      exact ⟨h.top, h.made⟩
    | true =>
      obtain ⟨c₁, hcreate, hinit⟩ := pcpCreateFlow_adds (d := d) (s := s) kd hal
      simp only [hcreate, hinit]
      have hadd := h.add (s := s) hop (e.now a.ctx.io) (e.now a.ctx.io) a.ctx.callocCall.io.tick
      cases a.fprev with
      | none => exact hadd
      | some p => exact hadd.link p _

theorem chainFlows_made (e : Env) (c : Ctx) (d : CaasiData) :
    AllMade e c.heapTop d (chainFlows e c d).ctx := by
  have hstart : AllMade e c.heapTop d c :=
    ⟨le_refl _, fun f hf hlt => absurd hlt (Nat.not_lt.mpr hf)⟩
  unfold chainFlows
  generalize List.range c.pcpServersLength = l
  have hfold : ∀ a : ChainAcc, AllMade e c.heapTop d a.ctx →
      AllMade e c.heapTop d (l.foldl (chainAndAssignSrcIp e d) a).ctx := by
    induction l with
    | nil => exact fun _ h => h
    | cons s l ih => exact fun a h => ih _ (chainAndAssignSrcIp_made h s)
  exact hfold { ctx := c } hstart

/-! ## `pcp_new_flow` -/

/-- Address, port and scope `pcp_new_flow` reads from an address; an unknown family has none. -/
def addrOf (a : SockAddr) : In6Addr × UInt16 × UInt32 := pcpFillIn6Addr (.any, 0, 0) a

/-- The source address and scope: those given, or for a peer and an any-address the kernel's. -/
def resolvedSource (e : Env) (c : Ctx) (src : SockAddr) (dst : Option SockAddr) : In6Addr × UInt32 :=
  match peerAddr dst with
  | none => ((addrOf src).1, (addrOf src).2.2)
  | some d =>
    if (addrOf src).1.isAny then
      match src with
      | .inet .. => ((findsaddr e c).1.getD (addrOf src).1, (addrOf src).2.2)
      | _ => (findsaddr6 e c (addrOf d).1 (addrOf src).2.2).1.getD ((addrOf src).1, (addrOf src).2.2)
    else ((addrOf src).1, (addrOf src).2.2)

/-- What the arguments of `pcp_new_flow` say about the key. -/
structure AsksFor (e : Env) (c : Ctx) (src : SockAddr) (dst : Option SockAddr) (protocol : UInt8)
    (kd : FlowKeyData) : Prop where
  operation : kd.operation = if (peerAddr dst).isSome then opcodePeer else opcodeMap
  source : kd.source = resolvedSource e c src dst
  protocol : kd.protocol = protocol
  srcPort : kd.srcPort = (addrOf src).2.1
  peer : (kd.dstIp, kd.dstPort) =
    (peerAddr dst).elim (.any, 0) fun d => ((addrOf d).1, (addrOf d).2.1)

theorem asksFor_peer {src : SockAddr} {dst : Option SockAddr} {d : SockAddr} {protocol : UInt8}
    {ip : In6Addr} {sc : UInt32} (hp : peerAddr dst = some d)
    (hsource : (ip, sc) = resolvedSource e c src dst) :
    AsksFor e c src dst protocol { FlowKeyData.zero with
      srcIp := ip, srcPort := (addrOf src).2.1, scopeId := sc, protocol := protocol,
      dstIp := (addrOf d).1, dstPort := (addrOf d).2.1, operation := opcodePeer } :=
  ⟨by rw [hp]; rfl, hsource, rfl, rfl, by rw [hp]; rfl⟩

/-- The key of a peer when the source is no IPv4 address. -/
theorem newFlowKey_source6 {src : SockAddr} {dst : Option SockAddr} {d : SockAddr} {protocol : UInt8}
    {kd : FlowKeyData} (hsrc : ∀ a p, src ≠ .inet a p) (hp : peerAddr dst = some d)
    (h : (newFlowKey e c src dst protocol).1 = some kd) : AsksFor e c src dst protocol kd := by
  have hsource : resolvedSource e c src dst = if (addrOf src).1.isAny then
      (findsaddr6 e c (addrOf d).1 (addrOf src).2.2).1.getD ((addrOf src).1, (addrOf src).2.2)
      else ((addrOf src).1, (addrOf src).2.2) := by
    rw [resolvedSource, hp]
    dsimp only
    split
    · split
      · exact absurd rfl (hsrc _ _)
      · rfl
    · rfl
  unfold newFlowKey at h
  rw [hp] at h
  dsimp only at h
  split at h
  · exact absurd rfl (hsrc _ _)
  · split at h
    · rename_i hany
      rw [addrOf, if_pos hany] at hsource
      split at h
      · rename_i hf
        rw [addrOf, hf] at hsource
        cases h
        exact asksFor_peer hp hsource.symm
      · rename_i hf
        rw [addrOf, hf] at hsource
        cases h
        exact asksFor_peer hp hsource.symm
    · rename_i hany
      rw [addrOf, if_neg hany] at hsource
      split at h
      · cases h
      · cases h
        exact asksFor_peer hp hsource.symm

theorem newFlowKey_asksFor {src : SockAddr} {dst : Option SockAddr} {protocol : UInt8}
    {kd : FlowKeyData} (h : (newFlowKey e c src dst protocol).1 = some kd) :
    AsksFor e c src dst protocol kd := by
  cases hp : peerAddr dst with
  | none =>
    unfold newFlowKey at h
    rw [hp] at h
    cases h
    exact ⟨by rw [hp]; rfl, by rw [resolvedSource, hp]; rfl, rfl, rfl, by rw [hp]; rfl⟩
  | some d =>
    cases src with
    | inet a p =>
      have hsrc : resolvedSource e c (.inet a p) dst = if (addrOf (.inet a p)).1.isAny then
          ((findsaddr e c).1.getD (.v4mapped a), 0) else (.v4mapped a, 0) := by
        rw [resolvedSource, hp]
        rfl
      have hany : (addrOf (.inet a p)).1.isAny = (a == 0) := by
        simp [addrOf, pcpFillIn6Addr, In6Addr.isAny, In6Addr.isV4mapped, In6Addr.v4mapped, In6Addr.any]
      rw [hany] at hsrc
      unfold newFlowKey at h
      rw [hp] at h
      dsimp only at h
      split at h
      · rename_i ha
        obtain rfl : a = 0 := ha
        rw [beq_self_eq_true, if_pos rfl] at hsrc
        split at h
        · rename_i hf
          rw [hf] at hsrc
          cases h
          exact asksFor_peer hp hsrc.symm
        · rename_i hf
          rw [hf] at hsrc
          cases h
          exact asksFor_peer hp hsrc.symm
      · rename_i ha
        have ha : ¬ a = 0 := ha
        cases h
        rw [if_neg (by simpa using ha)] at hsrc
        exact asksFor_peer hp hsrc.symm
    | inet6 a p sc =>
      exact newFlowKey_source6 (by simp) hp h
    | other a p sc =>
      exact newFlowKey_source6 (by simp) hp h

/-- `c'` has one new flow for each of the server slots `S` besides what `c` has, chained in this order,
and `r` is the first of them. -/
structure FannedOut (c c' : Ctx) (kd : FlowKeyData) (lifetime : UInt32) (S : List Nat)
    (r : Option FlowId) : Prop where
  first : r = (newFlows c S.length).head?
  chain : ∀ f, r = some f → c'.chain f = newFlows c S.length
  unlisted : ∀ f ∈ newFlows c S.length, f ∉ c.allFlows
  asked : ∀ k (hk : k < S.length), (c'.heap (c.heapTop + k)).kd = flowKeyOn kd (c.pcpServers S[k]) ∧
    (c'.heap (c.heapTop + k)).pcpServerIndx = S[k] ∧ (c'.heap (c.heapTop + k)).lifetime = lifetime
  buckets : ∀ b, c'.flows b = c.flows b ++ (newFlows c S.length).filter fun f => c'.flowKey f = b
  count : c'.flowCnt = c.flowCnt + S.length
  old : ∀ f, f < c.heapTop → c'.heap f = c.heap f

/-- The table of `c'` is that of `c`. -/
structure SameTable (c c' : Ctx) : Prop where
  buckets : c'.flows = c.flows
  count : c'.flowCnt = c.flowCnt
  old : ∀ f, f < c.heapTop → c'.heap f = c.heap f

theorem Grown.sameTable (h : Grown b c []) : SameTable b c :=
  ⟨funext fun k => (h.buckets k).trans (List.append_nil _), h.count, h.old⟩

theorem Chained.head? {heap : FlowId → Flow} {o : Option FlowId} {l : List FlowId}
    (h : Chained heap o l) : o = l.head? := by
  cases o with
  | none =>
    cases l with
    | nil => rfl
    | cons g l => cases h
  | some f =>
    cases l with
    | nil => exact h.elim
    | cons g l => rw [h.1, List.head?_cons]

theorem FanOut.chain_eq {d : CaasiData} {S : List Nat} {a : ChainAcc} (h : FanOut c d S a) {f : FlowId}
    (hf : a.ffirst = some f) : a.ctx.chain f = newFlows c S.length := by
  refine (hf ▸ h.chain).chainAux ?_
  rw [h.top, newFlows, List.length_range']
  omega

/-- Without a key or an external address there is no flow. -/
theorem pcpNewFlow_none {src : SockAddr} {dst ext : Option SockAddr} {protocol : UInt8} {lifetime : UInt32}
    (h : (newFlowKey e c src dst protocol).1 = none ∨ ext.or (defaultExtAddr src) = none) :
    ∃ n, pcpNewFlow e c src dst ext protocol lifetime = (none, { c with lookups := n }) := by
  obtain ⟨n, hn⟩ := newFlowKey_env e c src dst protocol
  rcases hk : newFlowKey e c src dst protocol with ⟨r, c₁⟩
  rw [hk] at h hn
  dsimp only at h hn
  subst hn
  unfold pcpNewFlow
  rw [hk]
  cases r with
  | none => exact ⟨n, rfl⟩
  | some kd =>
    have hext := h.resolve_left (by simp)
    dsimp only
    rw [hext]
    exact ⟨n, rfl⟩

/-- What `pcp_new_flow` does with a key. -/
theorem pcpNewFlow_key {src : SockAddr} {dst ext : Option SockAddr} {protocol : UInt8}
    (lifetime : UInt32) {kd : FlowKeyData} {ext' : SockAddr}
    (hkey : (newFlowKey e c src dst protocol).1 = some kd)
    (hext : ext.or (defaultExtAddr src) = some ext') :
    ∃ a S d, d.kd = kd ∧ d.lifetime = lifetime ∧ FanOut c d S a ∧
      PassEnd e c d c.pcpServersLength S a ∧
      pcpNewFlow e c src dst ext protocol lifetime = if a.stopped then
        (none, match a.ffirst with
          | some f => pcpDeleteFlow a.ctx f
          | none => a.ctx)
      else (a.ffirst, a.ctx) := by
  obtain ⟨l, hl⟩ := newFlowKey_env e c src dst protocol
  rcases hk : newFlowKey e c src dst protocol with ⟨r, c₁⟩
  rw [hk] at hl hkey
  dsimp only at hl hkey
  subst hl hkey
  obtain ⟨S, hfan, -, hend⟩ := FanOut.pass e { c with lookups := l } ⟨kd, lifetime, some ext', 0, none⟩
    c.pcpServersLength
  refine ⟨_, S, ⟨kd, lifetime, some ext', 0, none⟩, rfl, rfl,
    ⟨⟨hfan.grown.1, hfan.grown.2, hfan.grown.3, hfan.grown.4, hfan.grown.5, hfan.grown.6⟩, hfan.top,
      hfan.length, hfan.server, hfan.chain, hfan.last, hfan.asked⟩, ?_, ?_⟩
  · cases hend with
    | whole hstop hS hio hcalloc => exact .whole hstop hS hio hcalloc
    | broken hstop hS hcalloc => exact .broken hstop hS hcalloc
  · unfold pcpNewFlow
    rw [hk]
    dsimp only
    rw [hext]
    rfl

/-- One flow is made for every server that suits, or none: when a flow cannot be allocated, the table is
as it was. -/
theorem newFlow_fans_out (hc : CtxOk c) {src : SockAddr} {dst ext : Option SockAddr}
    {protocol : UInt8} {kd : FlowKeyData} {ext' : SockAddr} (lifetime : UInt32)
    (hkey : (newFlowKey e c src dst protocol).1 = some kd)
    (hext : ext.or (defaultExtAddr src) = some ext') :
    AsksFor e c src dst protocol kd ∧
      ((∀ k, k < (suitable (resolvedSource e c src dst) c c.pcpServersLength).length →
          e.calloc (c.io.callocs + k) = true) →
        FannedOut c (pcpNewFlow e c src dst ext protocol lifetime).2 kd lifetime
          (suitable (resolvedSource e c src dst) c c.pcpServersLength)
          (pcpNewFlow e c src dst ext protocol lifetime).1) ∧
      ((∃ k, k < (suitable (resolvedSource e c src dst) c c.pcpServersLength).length ∧
          e.calloc (c.io.callocs + k) = false) →
        (pcpNewFlow e c src dst ext protocol lifetime).1 = none ∧
          SameTable c (pcpNewFlow e c src dst ext protocol lifetime).2) := by
  have hasks := newFlowKey_asksFor hkey
  refine ⟨hasks, ?_⟩
  obtain ⟨a, S, d, rfl, rfl, hfan, hend, heq⟩ := pcpNewFlow_key lifetime hkey hext
  rw [heq, ← hasks.source]
  cases hend with
  | whole hstop hS hio hcalloc =>
    rw [← hS, hstop, if_neg Bool.false_ne_true]
    refine ⟨fun _ => ?_, fun ⟨k, hk, hfail⟩ => absurd (hcalloc k hk) (by rw [hfail]; simp)⟩
    refine ⟨hfan.chain.head?, fun f hf => hfan.chain_eq hf, fun f hf hm => ?_, fun k hk => ?_,
      hfan.grown.buckets, ?_, hfan.grown.old⟩
    · exact absurd (hc.table.alloc hm) (Nat.not_lt.mpr (hfan.grown.new f hf))
    · obtain ⟨hkd, hix, hlife⟩ := hfan.asked k hk
      have hmem : S[k] ∈ suitable d.kd.source c c.pcpServersLength := hS ▸ List.getElem_mem hk
      have hsuits := of_decide_eq_true (List.mem_filter.mp hmem).2
      exact ⟨hkd, hix.trans (hc.index hsuits.1), hlife⟩
    · rw [hfan.grown.count, newFlows, List.length_range']
  | broken hstop hS hcalloc =>
    rw [hstop]
    refine ⟨fun hall => absurd (hall _ hS) (by rw [hcalloc]; simp), fun _ => ⟨rfl, ?_⟩⟩
    cases hf : a.ffirst with
    | none =>
      have hempty : newFlows c S.length = [] := List.head?_eq_none_iff.mp (hfan.chain.head?.symm.trans hf)
      have hgrown := hfan.grown
      rw [hempty] at hgrown
      exact hgrown.sameTable
    | some f =>
      have hundo := hfan.grown.deleteAll hc.table
      rw [← hfan.chain_eq hf] at hundo
      exact hundo.sameTable

/-- The servers `10.0.0.1` and `10.0.0.3`. -/
def twoKnown : Ctx :=
  runTo (.calm {}) (fun _ _ => True) 1 {} [.addServer (.inet 0x0A000001 0) 2, .addServer (.inet 0x0A000003 0) 2]

/-- Memory for the server array and for one flow. -/
def tightEnv : Env := { Env.calm {} with calloc := fun n => n < 2 }

/-- The key of a mapping of `10.0.0.2:80`, before a server is chosen. -/
def mapKey : FlowKeyData :=
  { FlowKeyData.zero with
    operation := opcodeMap, srcIp := .v4mapped 0x0A000002, srcPort := 80, protocol := 6 }

theorem newFlow_fans_out_two :
    FannedOut twoKnown (pcpNewFlow (.calm {}) twoKnown (.inet 0x0A000002 80) none none 6 60).2 mapKey
        60 [0, 1] (some 0) ∧
      SameTable twoKnown (pcpNewFlow tightEnv twoKnown (.inet 0x0A000002 80) none none 6 60).2 := by
  have hc : CtxOk twoKnown := Reachable.ctxOk (e := .calm {}) (Runs.runTo (by decide +kernel))
  have hS : suitable (resolvedSource (.calm {}) twoKnown (.inet 0x0A000002 80) none) twoKnown
      twoKnown.pcpServersLength = [0, 1] := by decide +kernel
  have hext : (none : Option SockAddr).or (defaultExtAddr (.inet 0x0A000002 80)) = some (.inet 0 0) := rfl
  have hkey : (newFlowKey (.calm {}) twoKnown (.inet 0x0A000002 80) none 6).1 = some mapKey := rfl
  have htight : (newFlowKey tightEnv twoKnown (.inet 0x0A000002 80) none 6).1 = some mapKey := rfl
  have hcalm := (newFlow_fans_out hc 60 hkey hext).2.1 fun _ _ => rfl
  have hfirst : (pcpNewFlow (.calm {}) twoKnown (.inet 0x0A000002 80) none none 6 60).1 = some 0 := by
    decide +kernel
  rw [hS, hfirst] at hcalm
  exact ⟨hcalm, ((newFlow_fans_out hc 60 htight hext).2.2 ⟨1, by decide +kernel, by decide +kernel⟩).2⟩

/-! ## Servers that will not serve -/

/-- The registration of the server was completed. -/
def Serves (v : Server) : Prop := v.serverState ≠ .allocated ∧ v.serverState ≠ .unitialized

instance (v : Server) : Decidable (Serves v) := inferInstanceAs (Decidable (_ ∧ _))

/-- The flows of a chain are on servers that will serve them exactly when no server left as allocated
suits the source. -/
theorem newFlow_on_serving_iff (hr : Reachable e c) {c' : Ctx} {src : SockAddr}
    {dst ext : Option SockAddr} {protocol : UInt8} {lifetime : UInt32} {f : FlowId}
    (h : pcpNewFlow e c src dst ext protocol lifetime = (some f, c')) :
    (∀ g ∈ c'.chain f, Serves (c'.pcpServers (c'.heap g).pcpServerIndx)) ↔
      ∀ s, Live c s → (c.pcpServers s).serverState = .allocated →
        ¬ Suits (resolvedSource e c src dst) (c.pcpServers s) := by
  have hc := hr.ctxOk
  cases hkey : (newFlowKey e c src dst protocol).1 with
  | none =>
    obtain ⟨n, hn⟩ : ∃ n, pcpNewFlow e c src dst ext protocol lifetime = (none, { c with lookups := n }) :=
      pcpNewFlow_none (.inl hkey)
    rw [hn] at h
    cases h
  | some kd =>
    cases hext : ext.or (defaultExtAddr src) with
    | none =>
      obtain ⟨n, hn⟩ : ∃ n, pcpNewFlow e c src dst ext protocol lifetime = (none, { c with lookups := n }) :=
        pcpNewFlow_none (.inr hext)
      rw [hn] at h
      cases h
    | some ext' =>
      have hsource := (newFlowKey_asksFor hkey).source
      obtain ⟨a, S, d, rfl, rfl, hfan, hend, heq⟩ := pcpNewFlow_key lifetime hkey hext
      rw [← hsource]
      cases hend with
      | broken hstop hS hcalloc =>
        rw [h, hstop] at heq
        cases heq
      | whole hstop hS hio hcalloc =>
        rw [h, hstop, if_neg Bool.false_ne_true] at heq
        obtain ⟨hf, rfl⟩ := Prod.mk.inj heq
        rw [hfan.chain_eq hf.symm]
        have hserver (k : Nat) (hk : k < S.length) : Live c S[k] ∧ Suits d.kd.source (c.pcpServers S[k]) ∧
            (a.ctx.heap (c.heapTop + k)).pcpServerIndx = S[k] := by
          have hmem : S[k] ∈ suitable d.kd.source c c.pcpServersLength := hS ▸ List.getElem_mem hk
          obtain ⟨hrange, hsuits⟩ := List.mem_filter.mp hmem
          have hsuits := of_decide_eq_true hsuits
          exact ⟨⟨List.mem_range.mp hrange, hsuits.1⟩, hsuits,
            (hfan.asked k hk).server.trans (hc.index hsuits.1)⟩
        have hstate (i : Nat) : (a.ctx.pcpServers i).serverState = (c.pcpServers i).serverState := by
          obtain ⟨t, ht⟩ := hfan.server i
          rw [ht]
        constructor
        · intro hserves s hl hst hsuits
          have hmem : s ∈ S := hS ▸ List.mem_filter.mpr ⟨List.mem_range.mpr hl.1, decide_eq_true hsuits⟩
          obtain ⟨k, hk, rfl⟩ := List.getElem_of_mem hmem
          have hbad := hserves (c.heapTop + k) (mem_newFlows.mpr ⟨k, hk, rfl⟩)
          rw [(hserver k hk).2.2, Serves, hstate] at hbad
          exact hbad.1 hst
        · intro hnone g hg
          obtain ⟨k, hk, rfl⟩ := mem_newFlows.mp hg
          obtain ⟨hl, hsuits, hix⟩ := hserver k hk
          rw [hix, Serves, hstate]
          exact ⟨fun hst => hnone _ hl hst hsuits, hl.2⟩

theorem newFlow_on_serving_iff_two :
    let c := (pcpNewFlow (.calm {}) twoKnown (.inet 0x0A000002 80) none none 6 60).2
    c.chain 0 = [0, 1] ∧ Serves (c.pcpServers (c.heap 0).pcpServerIndx) ∧
      Serves (c.pcpServers (c.heap 1).pcpServerIndx) := by
  intro c
  have hreach : Reachable (.calm {}) twoKnown := Runs.runTo (by decide +kernel)
  have hnone : ∀ s, s < twoKnown.pcpServersLength →
      (twoKnown.pcpServers s).serverState ≠ .allocated := by decide +kernel
  have hchain : c.chain 0 = [0, 1] := by decide +kernel
  have hall : ∀ g ∈ c.chain 0, Serves (c.pcpServers (c.heap g).pcpServerIndx) :=
    (newFlow_on_serving_iff hreach (Prod.ext (by decide +kernel) rfl)).mpr
      fun s hl hst => absurd hst (hnone s hl.1)
  rw [hchain] at hall
  exact ⟨hchain, hall 0 (by simp), hall 1 (by simp)⟩

/-- The first gateway has no route. -/
def deadGatewayEnv : Env :=
  { Env.calm {} with lookup := fun n => if n = 0 then none else some (.v4mapped 0x0A000002, 0) }

/-- The context after autodiscovery found two gateways. -/
def twoGateways : Ctx :=
  runTo deadGatewayEnv (fun _ _ => True) 1 {}
    [.addGws [(.v4mapped 0x0A000001, 0), (.v4mapped 0x0A000003, 0)]]

/-- A flow from an any-address gets a child on the gateway that was not initialised. -/
theorem newFlow_on_allocated :
    ¬ ∀ (e : Env) (c c' : Ctx) (src : SockAddr) (dst ext : Option SockAddr) (protocol : UInt8)
      (lifetime : UInt32) (f : FlowId), Reachable e c →
      pcpNewFlow e c src dst ext protocol lifetime = (some f, c') →
      ∀ g ∈ c'.chain f, Serves (c'.pcpServers (c'.heap g).pcpServerIndx) := by
  intro hall
  have hserves := hall deadGatewayEnv twoGateways _ (.inet 0 80) none none 6 60 0
    (Runs.runTo (by decide +kernel)) (Prod.ext (by decide +kernel) rfl) 0 (by decide +kernel)
  revert hserves
  decide +kernel

end LibPcp
