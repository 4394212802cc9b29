import LibPcp.Buckets
import LibPcp.ClientDb

/-!
# LibPcp.FlowTable

The flow table as an insertion-ordered multimap.

The abstract table is the list of the flows in it, in the order they were added. `Refines c l` says
how the hash buckets, the cached bucket numbers and the counter of `c` represent `l`; every operation
of the table is then an append to the list, an erasure, or a search for the first match.
-/

namespace LibPcp

open ByteBuffer HashBuckets

/-- The operations on the table, and the creation of flows for it. -/
inductive DbOp where
  | create (s : Nat) (kd : FlowKeyData)
  | add (f : FlowId)
  | rem (f : FlowId)
  | delete (f : FlowId)

def DbOp.run (e : Env) (c : Ctx) : DbOp → Ctx
  | .create s kd => (pcpCreateFlow e c s kd).2
  | .add f => pcpDbAddFlow c (some f)
  | .rem f => (pcpDbRemFlow c f).2
  | .delete f => pcpDeleteFlowIntern c f

/-- Pointers are to flows that were created, and no flow is added twice. -/
def DbOp.Allowed (c : Ctx) : DbOp → Prop
  | .create .. => True
  | .add f => f < c.heapTop ∧ f ∉ c.allFlows
  | .rem f | .delete f => f < c.heapTop

/-- The same on the list of the flows in the table. -/
def DbOp.spec (l : List FlowId) : DbOp → List FlowId
  | .create .. => l
  | .add f => l ++ [f]
  | .rem f | .delete f => l.erase f

/-- Every operation is allowed where it is made. -/
def AllowedFrom (e : Env) : Ctx → List DbOp → Prop
  | _, [] => True
  | c, op :: ops => op.Allowed c ∧ AllowedFrom e (op.run e c) ops

def Ctx.flowKey (c : Ctx) (f : FlowId) : Nat := computeFlowKey (c.heap f).kd

/-- The table of `c` represents the list `l`. -/
structure Refines (c : Ctx) (l : List FlowId) : Prop where
  buckets : ∀ b, c.flows b = bucket c.flowKey l b
  nodup : l.Nodup
  alloc : ∀ f ∈ l, f < c.heapTop
  present : ∀ f ∈ l, (c.heap f).keyBucket = some (c.flowKey f)
  absent : ∀ f, f < c.heapTop → f ∉ l → (c.heap f).keyBucket = none
  count : c.flowCnt = l.length

/-- No flow is in the table yet. -/
structure EmptyTable (c : Ctx) : Prop where
  flows : ∀ b, c.flows b = []
  flowCnt : c.flowCnt = 0
  keyBucket : ∀ f, f < c.heapTop → (c.heap f).keyBucket = none

/-! ## Keys are compared as bytes -/

theorem be32_inj {a b : UInt32} (h : be32 a = be32 b) : a = b := by
  have ha := Buf.u32_of_slice (Buf.slice_ofList (be32 a))
  have hb := Buf.u32_of_slice (Buf.slice_ofList (be32 b))
  rw [h] at ha
  exact ha.symm.trans hb

theorem be16_inj {a b : UInt16} (h : be16 a = be16 b) : a = b := by
  have ha := Buf.u16_of_slice (Buf.slice_ofList (be16 a))
  have hb := Buf.u16_of_slice (Buf.slice_ofList (be16 b))
  rw [h] at ha
  exact ha.symm.trans hb

theorem In6Addr.bytes_inj {a b : In6Addr} (h : a.bytes = b.bytes) : a = b := by
  obtain ⟨a0, a1, a2, a3⟩ := a
  obtain ⟨b0, b1, b2, b3⟩ := b
  obtain ⟨h, h3⟩ := List.append_inj' h rfl
  obtain ⟨h, h2⟩ := List.append_inj' h rfl
  obtain ⟨h0, h1⟩ := List.append_inj' h rfl
  obtain rfl : a0 = b0 := be32_inj h0
  obtain rfl : a1 = b1 := be32_inj h1
  obtain rfl : a2 = b2 := be32_inj h2
  obtain rfl : a3 = b3 := be32_inj h3
  rfl

theorem Nonce.bytes_inj {a b : Nonce} (h : a.bytes = b.bytes) : a = b := by
  obtain ⟨a0, a1, a2⟩ := a
  obtain ⟨b0, b1, b2⟩ := b
  obtain ⟨h, h2⟩ := List.append_inj' h rfl
  obtain ⟨h0, h1⟩ := List.append_inj' h rfl
  obtain rfl : a0 = b0 := be32_inj h0
  obtain rfl : a1 = b1 := be32_inj h1
  obtain rfl : a2 = b2 := be32_inj h2
  rfl

/-- Two keys with the same memory image are the same key. -/
theorem FlowKeyData.bytes_inj {a b : FlowKeyData} (h : a.bytes = b.bytes) : a = b := by
  obtain ⟨op, src, server, scope, nonce, proto, sport, dst, dport⟩ := a
  obtain ⟨op', src', server', scope', nonce', proto', sport', dst', dport'⟩ := b
  obtain ⟨h, -⟩ := List.append_inj' h rfl
  obtain ⟨h, hdport⟩ := List.append_inj' h rfl
  obtain ⟨h, hdst⟩ := List.append_inj' h rfl
  obtain ⟨h, hsport⟩ := List.append_inj' h rfl
  obtain ⟨h, hproto⟩ := List.append_inj' h rfl
  obtain ⟨h, hnonce⟩ := List.append_inj' h rfl
  obtain ⟨h, hscope⟩ := List.append_inj' h rfl
  obtain ⟨h, hserver⟩ := List.append_inj' h rfl
  obtain ⟨hop, hsrc⟩ := List.append_inj' h rfl
  cases hop
  cases hproto
  obtain rfl : src = src' := In6Addr.bytes_inj hsrc
  obtain rfl : server = server' := In6Addr.bytes_inj hserver
  obtain rfl : scope = scope' := be32_inj (List.reverse_injective hscope)
  obtain rfl : nonce = nonce' := Nonce.bytes_inj hnonce
  obtain rfl : sport = sport' := be16_inj hsport
  obtain rfl : dst = dst' := In6Addr.bytes_inj hdst
  obtain rfl : dport = dport' := be16_inj hdport
  rfl

/-! ## The operations -/

section Refines

variable {e : Env} {c : Ctx} {l : List FlowId}

theorem EmptyTable.refines (h : EmptyTable c) : Refines c [] :=
  ⟨fun b => h.flows b, List.nodup_nil, by simp, by simp, fun f hf _ => h.keyBucket f hf, h.flowCnt⟩

theorem Refines.mem_flows (h : Refines c l) {f : FlowId} {b : Nat} :
    f ∈ c.flows b ↔ f ∈ l ∧ c.flowKey f = b := by
  rw [h.buckets, mem_bucket]

theorem Refines.mem_allFlows (h : Refines c l) {f : FlowId} : f ∈ c.allFlows ↔ f ∈ l := by
  rw [LibPcp.mem_allFlows]
  constructor
  · rintro ⟨b, -, hm⟩
    exact (h.mem_flows.mp hm).1
  · intro hf
    exact ⟨c.flowKey f, computeFlowKey_lt _, h.mem_flows.mpr ⟨hf, rfl⟩⟩

/-- The table, the flows of the list and the absence of all others carry over to `c'`. -/
theorem Refines.congr {c' : Ctx} (h : Refines c l) (hflows : c'.flows = c.flows)
    (hcnt : c'.flowCnt = c.flowCnt) (htop : c.heapTop ≤ c'.heapTop)
    (hold : ∀ f, f < c.heapTop → (c'.heap f).kd = (c.heap f).kd ∧
      (c'.heap f).keyBucket = (c.heap f).keyBucket)
    (hnew : ∀ f, c.heapTop ≤ f → f < c'.heapTop → (c'.heap f).keyBucket = none) : Refines c' l := by
  have hkey : ∀ f ∈ l, c'.flowKey f = c.flowKey f := fun f hf => by
    rw [Ctx.flowKey, (hold f (h.alloc f hf)).1]
    rfl
  refine ⟨fun b => ?_, h.nodup, fun f hf => Nat.lt_of_lt_of_le (h.alloc f hf) htop, fun f hf => ?_,
    fun f hf hnot => ?_, hcnt.trans h.count⟩
  · rw [hflows, h.buckets, bucket_congr hkey]
  · rw [(hold f (h.alloc f hf)).2, hkey f hf]
    exact h.present f hf
  · rcases Nat.lt_or_ge f c.heapTop with hlt | hge
    · rw [(hold f hlt).2]
      exact h.absent f hlt hnot
    · exact hnew f hge hf

theorem Refines.create (h : Refines c l) (s : Nat) (kd : FlowKeyData) :
    Refines (pcpCreateFlow e c s kd).2 l := by
  unfold pcpCreateFlow
  split
  · refine h.congr rfl rfl (Nat.le_succ _) (fun f hf => ?_) fun f hge hlt => ?_
    · simp only [Ctx.setFlow_heap, Function.update_of_ne (Nat.ne_of_lt hf)]
      exact ⟨rfl, rfl⟩
    · have hf : f = c.heapTop := Nat.le_antisymm (Nat.lt_succ_iff.mp hlt) hge
      subst hf
      simp
  · exact h.congr rfl rfl (Nat.le_refl _) (fun _ _ => ⟨rfl, rfl⟩)
      fun f hge hlt => absurd hlt (Nat.not_lt.mpr hge)

/-- Setting the cached bucket number of one flow keeps all keys. -/
theorem flowKey_setBucket (c : Ctx) (f : FlowId) (k : Option Nat) :
    (c.modFlow f fun v => { v with keyBucket := k }).flowKey = c.flowKey := by
  funext g
  unfold Ctx.flowKey Ctx.modFlow
  rw [Ctx.setFlow_heap]
  by_cases hg : g = f
  · subst hg
    rw [Function.update_self]
  · rw [Function.update_of_ne hg]

theorem Refines.add (h : Refines c l) {f : FlowId} (hf : f < c.heapTop) (hnot : f ∉ l) :
    Refines (pcpDbAddFlow c (some f)) (l ++ [f]) := by
  have hkey : (pcpDbAddFlow c (some f)).flowKey = c.flowKey := flowKey_setBucket c f _
  have hheap : ∀ g, (pcpDbAddFlow c (some f)).heap g =
      if g = f then { c.heap f with keyBucket := some (c.flowKey f) } else c.heap g := by
    intro g
    by_cases hg : g = f
    · subst hg
      simp [pcpDbAddFlow, Ctx.modFlow, Ctx.flowKey]
    · simp [pcpDbAddFlow, Ctx.modFlow, hg]
  refine ⟨fun b => ?_, ?_, fun g hg => ?_, fun g hg => ?_, fun g hg hgn => ?_, ?_⟩
  · rw [hkey]
    simp only [pcpDbAddFlow]
    by_cases hb : b = c.flowKey f
    · subst hb
      rw [bucket_append_self, ← h.buckets]
      exact Function.update_self ..
    · rw [bucket_append_of_ne hb, ← h.buckets]
      exact Function.update_of_ne hb ..
  · exact List.nodup_append.mpr ⟨h.nodup, List.nodup_singleton f, fun a ha b hb hab =>
      hnot (List.mem_singleton.mp hb ▸ hab ▸ ha)⟩
  · rcases List.mem_append.mp hg with hg | hg
    · exact h.alloc g hg
    · rw [List.mem_singleton.mp hg]
      exact hf
  · rw [hheap, hkey]
    split
    · rename_i hgf
      rw [hgf]
    · rename_i hgf
      refine h.present g ((List.mem_append.mp hg).resolve_right fun hs => ?_)
      exact hgf (List.mem_singleton.mp hs)
  · have hgf : g ≠ f := by
      rintro rfl
      exact hgn (by simp)
    rw [hheap, if_neg hgf]
    exact h.absent g hg fun hm => hgn (List.mem_append_left _ hm)
  · rw [List.length_append, ← h.count]
    rfl

/-- A flow that is not in the table is not found, and nothing changes. -/
theorem Refines.rem_absent (h : Refines c l) {f : FlowId} (hf : f < c.heapTop) (hnot : f ∉ l) :
    (pcpDbRemFlow c f).1 = .notFound ∧ (pcpDbRemFlow c f).2 = c := by
  unfold pcpDbRemFlow
  rw [h.absent f hf hnot]
  exact ⟨rfl, rfl⟩

theorem Refines.rem_present (h : Refines c l) {f : FlowId} (hf : f ∈ l) :
    (pcpDbRemFlow c f).1 = .success ∧ Refines (pcpDbRemFlow c f).2 (l.erase f) := by
  have hmem : f ∈ c.flows (c.flowKey f) := h.mem_flows.mpr ⟨hf, rfl⟩
  have heq : (pcpDbRemFlow c f).2 =
      { c.modFlow f (fun v => { v with keyBucket := none }) with
        flows := Function.update c.flows (c.flowKey f) ((c.flows (c.flowKey f)).erase f)
        flowCnt := c.flowCnt - 1 } := by
    unfold pcpDbRemFlow
    rw [h.present f hf]
    exact congrArg Prod.snd (if_pos hmem)
  have herr : (pcpDbRemFlow c f).1 = .success := by
    unfold pcpDbRemFlow
    rw [h.present f hf]
    exact congrArg Prod.fst (if_pos hmem)
  refine ⟨herr, ?_⟩
  rw [heq]
  have hkey : ∀ (fl : Nat → List FlowId) (n : Nat),
      ({ c.modFlow f (fun v => { v with keyBucket := none }) with
        flows := fl, flowCnt := n } : Ctx).flowKey = c.flowKey := fun _ _ => flowKey_setBucket c f none
  refine ⟨fun b => ?_, h.nodup.erase f, fun g hg => h.alloc g (List.mem_of_mem_erase hg),
    fun g hg => ?_, fun g hg hgn => ?_, ?_⟩
  · rw [hkey, bucket_erase, ← h.buckets]
    dsimp only
    by_cases hb : b = c.flowKey f
    · subst hb
      exact Function.update_self ..
    · rw [Function.update_of_ne hb, List.erase_of_not_mem]
      intro hm
      exact hb (h.mem_flows.mp hm).2.symm
  · obtain ⟨hgf, hgl⟩ := h.nodup.mem_erase_iff.mp hg
    rw [hkey]
    simp only [Ctx.modFlow, Ctx.setFlow_heap, Function.update_of_ne hgf]
    exact h.present g hgl
  · simp only [Ctx.modFlow, Ctx.setFlow_heap]
    by_cases hgf : g = f
    · subst hgf
      rw [Function.update_self]
    · rw [Function.update_of_ne hgf]
      exact h.absent g hg fun hm => hgn (h.nodup.mem_erase_iff.mpr ⟨hgf, hm⟩)
  · rw [List.length_erase_of_mem hf, ← h.count]

theorem Refines.rem (h : Refines c l) {f : FlowId} (hf : f < c.heapTop) :
    Refines (pcpDbRemFlow c f).2 (l.erase f) := by
  by_cases hm : f ∈ l
  · exact (h.rem_present hm).2
  · rw [(h.rem_absent hf hm).2, List.erase_of_not_mem hm]
    exact h

theorem Refines.delete (h : Refines c l) {f : FlowId} (hf : f < c.heapTop) :
    Refines (pcpDeleteFlowIntern c f) (l.erase f) := by
  have hrem := h.rem hf
  have hserver : ∀ (s : Nat) (g : Server → Server),
      Refines ((pcpDbRemFlow c f).2.modServer s g) (l.erase f) := fun s g =>
    hrem.congr rfl rfl (Nat.le_refl _) (fun _ _ => ⟨rfl, rfl⟩)
      fun f hge hlt => absurd hlt (Nat.not_lt.mpr hge)
  unfold pcpDeleteFlowIntern
  dsimp only
  split
  · split
    · exact hserver _ _
    · exact hrem
  · exact hrem

theorem DbOp.run_refines (op : DbOp) (hop : op.Allowed c) (h : Refines c l) :
    Refines (op.run e c) (op.spec l) := by
  cases op with
  | create s kd => exact h.create s kd
  | add f => exact h.add hop.1 fun hm => hop.2 (h.mem_allFlows.mpr hm)
  | rem f => exact h.rem hop
  | delete f => exact h.delete hop

theorem dbOps_refines (ops : List DbOp) (hops : AllowedFrom e c ops) (h : Refines c l) :
    Refines (ops.foldl (DbOp.run e) c) (ops.foldl DbOp.spec l) := by
  induction ops generalizing c l with
  | nil => exact h
  | cons op ops ih => exact ih hops.2 (op.run_refines hops.1 h)

/-- The search in one bucket finds the first match of the whole list. -/
theorem Refines.getFlow (h : Refines c l) (kd : FlowKeyData) (s : Nat) :
    pcpGetFlow c kd s = l.find? fun f =>
      (c.heap f).pcpServerIndx == (c.pcpServers s).index && (c.heap f).kd == kd := by
  unfold pcpGetFlow
  rw [h.buckets]
  refine find?_bucket fun f hf => ?_
  simp only [Bool.and_eq_true, beq_iff_eq] at hf
  rw [Ctx.flowKey, hf.2]

end Refines

/-- After every sequence of operations on an empty table, the table is the multimap that the same
sequence makes of the empty list. -/
theorem flow_table_refines_multimap (e : Env) (c₀ : Ctx) (h₀ : EmptyTable c₀) (ops : List DbOp)
    (hops : AllowedFrom e c₀ ops) :
    let c := ops.foldl (DbOp.run e) c₀
    let l := ops.foldl DbOp.spec []
    (∀ f, f ∈ c.allFlows ↔ f ∈ l) ∧ l.Nodup ∧
    (∀ f ∈ l, (c.heap f).keyBucket = some (computeFlowKey (c.heap f).kd) ∧
      computeFlowKey (c.heap f).kd < flowHashSize ∧
      ∀ b, (c.flows b).count f = if b = computeFlowKey (c.heap f).kd then 1 else 0) ∧
    (∀ f, f < c.heapTop → f ∉ l → (c.heap f).keyBucket = none ∧
      (pcpDbRemFlow c f).1 = .notFound ∧ (pcpDbRemFlow c f).2 = c) ∧
    c.flowCnt = l.length ∧
    ∀ kd s, pcpGetFlow c kd s = l.find? (fun f =>
        (c.heap f).pcpServerIndx == (c.pcpServers s).index && (c.heap f).kd.bytes == kd.bytes) ∧
      (pcpGetFlow c kd s = none ↔ ¬ ∃ f ∈ l,
        (c.heap f).pcpServerIndx = (c.pcpServers s).index ∧ (c.heap f).kd.bytes = kd.bytes) := by
  intro c l
  have h : Refines c l := dbOps_refines ops hops h₀.refines
  have hbytes : ∀ f kd, ((c.heap f).kd.bytes == kd.bytes) = ((c.heap f).kd == kd) := by
    intro f kd
    rw [Bool.eq_iff_iff, beq_iff_eq, beq_iff_eq]
    exact ⟨FlowKeyData.bytes_inj, fun hkd => by rw [hkd]⟩
  refine ⟨fun f => h.mem_allFlows, h.nodup, fun f hf => ?_, fun f hf hnot => ?_, h.count,
    fun kd s => ?_⟩
  · refine ⟨h.present f hf, computeFlowKey_lt _, fun b => ?_⟩
    rw [h.buckets]
    split
    · rename_i hb
      refine List.count_eq_one_of_mem (h.nodup.filter _) (mem_bucket.mpr ⟨hf, hb.symm⟩)
    · rename_i hb
      exact List.count_eq_zero_of_not_mem fun hm => hb (mem_bucket.mp hm).2.symm
  · exact ⟨h.absent f hf hnot, h.rem_absent hf hnot⟩
  · have hfind : pcpGetFlow c kd s = l.find? (fun f =>
        (c.heap f).pcpServerIndx == (c.pcpServers s).index && (c.heap f).kd.bytes == kd.bytes) := by
      simp only [hbytes]
      exact h.getFlow kd s
    refine ⟨hfind, ?_⟩
    rw [hfind, List.find?_eq_none]
    simp only [Bool.and_eq_true, beq_iff_eq, not_exists, not_and]

/-- Two flows with the same key, added one after the other: the search finds the first, and the
second once the first has been deleted. -/
theorem flow_table_refines_multimap_duplicate :
    let ops : List DbOp := [.create 0 .zero, .create 0 .zero, .add 1, .add 0, .delete 1]
    let c := ops.foldl (DbOp.run (.calm {})) {}
    (∀ f, f ∈ c.allFlows ↔ f ∈ ops.foldl DbOp.spec []) ∧ c.flowCnt = 1 ∧
      pcpGetFlow c .zero 0 = some 0 := by
  intro ops c
  have h := flow_table_refines_multimap (.calm {}) {} ⟨fun _ => rfl, rfl, fun f hf => by cases hf⟩ ops
    ⟨trivial, trivial, ⟨by decide, by decide +kernel⟩, ⟨by decide, by decide +kernel⟩,
      (show 1 < Ctx.heapTop _ by decide +kernel), trivial⟩
  exact ⟨h.1, h.2.2.2.2.1, (h.2.2.2.2.2 .zero 0).1.trans (by decide +kernel)⟩

end LibPcp
