import LibPcp.Chains
import LibPcp.InsertionMap
import LibPcp.MsgEncode

/-!
# LibPcp.Metadata

The metadata of a flow as a map from ids of 32 bits to values.

`recorded` is what a sequence of `pcp_flow_add_md` calls amounts to, and `HoldsMetadata` says that a
flow holds just that and puts it on the wire. The ids are stored with 16 bits (`storedId`), and an
entry is lost when `realloc` fails.

* `MdAdded`: what a call does to the flows of a chain, with `pcpFlowAddMd_added`.
* `addMds_puts`, `addMds_refused`: a sequence of calls with memory and without.
* `addMds_holds_iff`: when the flows hold what is recorded after every call.
-/

namespace LibPcp

open ByteBuffer InsertionMap

/-! ## What is recorded -/

/-- The distinct ids in the order of their first call, each with the last value given for it as far as
a flow has room for it. -/
def recorded (calls : List (UInt32 × List UInt8)) : List (UInt32 × List UInt8) :=
  summary [] (calls.map fun p => (p.1, p.2.take mdValMaxLen))

/-- A pair as an option: the id, the value, and zeros up to a multiple of four. -/
def mdOption (p : UInt32 × List UInt8) : Tlv :=
  ⟨optionMetadata, 0, be32 p.1 ++ p.2 ++ List.replicate (mdPadding p.2.length) 0⟩

/-- The options for the pairs with a value that is not empty. -/
def mdOptions (ps : List (UInt32 × List UInt8)) : List Tlv := (ps.filter (·.2 ≠ [])).map mdOption

/-- The entries of a flow. -/
def mdPairs (mds : List MdVal) : List (UInt32 × List UInt8) := mds.map fun m => (m.mdId.toUInt32, m.val)

/-- The flow holds what is recorded, and encodes it after its other options if all of it fits. -/
structure HoldsMetadata (cfg : Config) (calls : List (UInt32 × List UInt8)) (f : Flow) : Prop where
  entries : mdPairs f.mdVals = recorded calls
  options : ∀ c : Cursor, c.1.ZeroFrom c.2 →
    c.2 + (Tlv.bytesAll (fixedOptions cfg f ++ mdOptions (recorded calls))).length ≤ pcpMaxLen →
    buildPcpOptions cfg f c = Tlv.append c (fixedOptions cfg f ++ mdOptions (recorded calls))

/-- All values are encoded if they fit. -/
theorem fittingMd_all (mds : List MdVal) :
    ∀ cur, cur + (Tlv.bytesAll (mdOptions (mdPairs mds))).length ≤ pcpMaxLen →
      (fittingMd cur mds).map mdTlv = mdOptions (mdPairs mds) := by
  induction mds with
  | nil =>
    intro cur _
    rfl
  | cons md mds ih =>
    intro cur hfit
    by_cases hv : md.val = []
    · have hskip : mdOptions (mdPairs (md :: mds)) = mdOptions (mdPairs mds) := by
        simp [mdOptions, mdPairs, hv]
      rw [hskip] at hfit ⊢
      rw [fittingMd, if_neg fun h => h.1 hv]
      exact ih cur hfit
    · have hcons : mdOptions (mdPairs (md :: mds)) = mdTlv md :: mdOptions (mdPairs mds) := by
        simp [mdOptions, mdPairs, hv, mdOption, mdTlv]
      rw [hcons, Tlv.bytesAll_cons, List.length_append] at hfit
      rw [fittingMd, if_pos ⟨hv, by omega⟩, List.map_cons, hcons, ih _ (by omega)]

theorem HoldsMetadata.of_entries {cfg : Config} (hcfg : cfg.experimental = true)
    {calls : List (UInt32 × List UInt8)} {f : Flow} (h : mdPairs f.mdVals = recorded calls) :
    HoldsMetadata cfg calls f := by
  refine ⟨h, fun c hz hfit => ?_⟩
  rw [← h] at hfit ⊢
  rw [Tlv.bytesAll_append, List.length_append, ← Nat.add_assoc] at hfit
  rw [buildPcpOptions_eq cfg f hz, requestOptions, if_pos hcfg, fittingMd_all _ _ hfit]

theorem mem_keys_recorded {calls : List (UInt32 × List UInt8)} {k : UInt32} :
    k ∈ (recorded calls).map Prod.fst ↔ k ∈ calls.map Prod.fst := by
  rw [recorded, mem_keys_summary, List.map_map]
  rfl

/-! ## One call -/

/-- Every allocation from `a` up to `b` is granted. -/
def MemoryLasts (e : Env) (a b : Nat) : Prop := ∀ i, a ≤ i → i < b → e.calloc i = true

/-- The id as a flow stores it. -/
def storedId (mdId : UInt32) : UInt32 := mdId.toUInt16.toUInt32

theorem storedId_toNat (mdId : UInt32) : (storedId mdId).toNat = mdId.toNat % 2 ^ 16 := by
  simp [storedId]

/-- An id of 16 bits is stored as it is. -/
theorem storedId_of_lt {mdId : UInt32} (h : mdId.toNat < 2 ^ 16) : storedId mdId = mdId :=
  UInt32.toNat_inj.mp ((storedId_toNat mdId).trans (Nat.mod_eq_of_lt h))

section OneCall

variable {e : Env} {c c₁ c₂ : Ctx} {k : UInt32} {v : List UInt8} {l : List FlowId} {i f : FlowId}

theorem MemoryLasts.split {a b d : Nat} (h : MemoryLasts e a d) (hab : a ≤ b) (hbd : b ≤ d) :
    MemoryLasts e a b ∧ MemoryLasts e b d :=
  ⟨fun j ha hb => h j ha (Nat.lt_of_lt_of_le hb hbd), fun j hb hd => h j (Nat.le_trans hab hb) hd⟩

theorem MemoryLasts.trans {a b d : Nat} (h₁ : MemoryLasts e a b) (h₂ : MemoryLasts e b d) :
    MemoryLasts e a d := by
  intro j ha hd
  by_cases hb : j < b
  · exact h₁ j ha hb
  · exact h₂ j (Nat.le_of_not_lt hb) hd

/-- `pcp_db_add_md` sets the value of the stored id, or there is no memory for a new entry. -/
theorem pcpDbAddMd_cases (e : Env) (mdId : UInt32) (val : List UInt8) (f : Flow) (io : Io) :
    ∃ mds io', pcpDbAddMd e mdId.toUInt16 val f io = ({ f with mdVals := mds }, io') ∧
      io.callocs ≤ io'.callocs ∧
      (MemoryLasts e io.callocs io'.callocs →
        mdPairs mds = put (storedId mdId) (val.take mdValMaxLen) (mdPairs f.mdVals)) ∧
      (¬ MemoryLasts e io.callocs io'.callocs → storedId mdId ∉ (mdPairs mds).map Prod.fst) := by
  have hid : ∀ m : MdVal, m.mdId.toUInt32 = storedId mdId ↔ m.mdId = mdId.toUInt16 := by
    intro m
    rw [← UInt32.toNat_inj, ← UInt16.toNat_inj]
    rfl
  have hfind : (mdPairs f.mdVals).findIdx? (fun p => p.1 = storedId mdId) =
      f.mdVals.findIdx? (fun m => m.mdId = mdId.toUInt16) := by
    rw [mdPairs, List.findIdx?_map]
    congr 1
    funext m
    simp only [Function.comp, hid]
  unfold pcpDbAddMd
  cases hf : f.mdVals.findIdx? (fun m => m.mdId = mdId.toUInt16) with
  | some j =>
    refine ⟨_, _, rfl, Nat.le_refl _, fun _ => ?_, fun hm => ?_⟩
    · rw [put_of_findIdx? (hfind.trans hf), mdPairs, List.map_set]
      rfl
    · exact absurd (fun j ha hb => absurd hb (Nat.not_lt.mpr ha)) hm
  | none =>
    have hnew : ∀ p ∈ mdPairs f.mdVals, p.1 ≠ storedId mdId := by
      have hnone := List.findIdx?_eq_none_iff.mp (hfind.trans hf)
      exact fun p hp => of_decide_eq_false (hnone p hp)
    cases hal : e.calloc io.callocs with
    | true =>
      refine ⟨f.mdVals ++ [⟨mdId.toUInt16, val.take mdValMaxLen, by simp⟩],
        { io with callocs := io.callocs + 1 }, rfl, Nat.le_succ _, fun _ => ?_, fun hm => ?_⟩
      · rw [put_of_not_mem hnew, mdPairs, List.map_append]
        rfl
      · refine absurd (fun j ha hb => ?_) hm
        obtain rfl := Nat.le_antisymm ha (Nat.le_of_lt_succ hb)
        exact hal
    | false =>
      refine ⟨f.mdVals, { io with callocs := io.callocs + 1 }, rfl, Nat.le_succ _, fun hm => ?_,
        fun _ hmem => ?_⟩
      · rw [hm _ (Nat.le_refl _) (Nat.lt_succ_self _)] at hal
        cases hal
      · obtain ⟨p, hp, hk⟩ := List.mem_map.mp hmem
        exact hnew p hp hk

/-- What setting the value `v` for the id `k` does to the flows of a chain. -/
structure MdAdded (e : Env) (k : UInt32) (v : List UInt8) (l : List FlowId) (c c' : Ctx) : Prop where
  heapTop : c'.heapTop = c.heapTop
  link : ∀ g, (c'.heap g).nextChild = (c.heap g).nextChild
  callocs : c.io.callocs ≤ c'.io.callocs
  other : ∀ g, g ∉ l → (c'.heap g).mdVals = (c.heap g).mdVals
  put : MemoryLasts e c.io.callocs c'.io.callocs →
    ∀ g ∈ l, mdPairs (c'.heap g).mdVals = put k v (mdPairs (c.heap g).mdVals)
  refused : ¬ MemoryLasts e c.io.callocs c'.io.callocs →
    ∃ g ∈ l, k ∉ (mdPairs (c'.heap g).mdVals).map Prod.fst

theorem MdAdded.nil : MdAdded e k v [] c c :=
  ⟨rfl, fun _ => rfl, Nat.le_refl _, fun _ _ => rfl, fun _ _ hg => (List.not_mem_nil hg).elim,
    fun hm => absurd (fun _ ha hb => absurd hb (Nat.not_lt.mpr ha)) hm⟩

/-- One flow after the other. -/
theorem MdAdded.cons (h₁ : MdAdded e k v [i] c c₁) (h₂ : MdAdded e k v l c₁ c₂) (hi : i ∉ l) :
    MdAdded e k v (i :: l) c c₂ := by
  refine ⟨h₂.heapTop.trans h₁.heapTop, fun g => (h₂.link g).trans (h₁.link g),
    Nat.le_trans h₁.callocs h₂.callocs, fun g hg => ?_, fun hm g hg => ?_, fun hm => ?_⟩
  · have hgi : g ∉ [i] := fun h => hg (List.mem_cons.mpr (.inl (List.mem_singleton.mp h)))
    rw [h₂.other g fun h => hg (List.mem_cons_of_mem i h), h₁.other g hgi]
  · obtain ⟨hm₁, hm₂⟩ := hm.split h₁.callocs h₂.callocs
    rcases List.mem_cons.mp hg with rfl | hgl
    · rw [h₂.other g hi, h₁.put hm₁ g (List.mem_singleton.mpr rfl)]
    · have hgi : g ∉ [i] := fun h => hi (List.mem_singleton.mp h ▸ hgl)
      rw [h₂.put hm₂ g hgl, h₁.other g hgi]
  · by_cases hm₁ : MemoryLasts e c.io.callocs c₁.io.callocs
    · obtain ⟨g, hg, hk⟩ := h₂.refused fun hm₂ => hm (hm₁.trans hm₂)
      exact ⟨g, List.mem_cons_of_mem i hg, hk⟩
    · obtain ⟨g, hg, hk⟩ := h₁.refused hm₁
      obtain rfl := List.mem_singleton.mp hg
      exact ⟨g, List.mem_cons_self, by rwa [h₂.other g hi]⟩

/-- The body of the loop of `pcp_flow_add_md`. -/
def addMdTo (e : Env) (mdId : UInt32) (val : List UInt8) (c : Ctx) (i : FlowId) : Ctx :=
  match pcpDbAddMd e mdId.toUInt16 val (c.heap i) c.io with
  | (v, io) => pcpFlowUpdated e { c.setFlow i v with io := io } i

theorem addMdTo_added (mdId : UInt32) (val : List UInt8) :
    MdAdded e (storedId mdId) (val.take mdValMaxLen) [i] c (addMdTo e mdId val c i) := by
  obtain ⟨mds, io', hadd, hle, hput, hrefused⟩ := pcpDbAddMd_cases e mdId val (c.heap i) c.io
  have hio : (addMdTo e mdId val c i).io = io'.tick := by
    rw [addMdTo, hadd, pcpFlowUpdated_io]
  -- only the metadata and the state of the one flow change
  have hheap : (addMdTo e mdId val c i).heap =
      Function.update c.heap i (markUpdated (e.now io') { c.heap i with mdVals := mds }) := by
    rw [addMdTo, hadd, pcpFlowUpdated_heap, Ctx.setFlow_heap, Function.update_self, Function.update_idem]
  have hself : ((addMdTo e mdId val c i).heap i).mdVals = mds := by
    rw [hheap, Function.update_self]
    rfl
  have hother : ∀ g, g ≠ i → (addMdTo e mdId val c i).heap g = c.heap g := by
    intro g hg
    rw [hheap, Function.update_of_ne hg]
  refine ⟨?_, fun g => ?_, ?_, fun g hg => ?_, fun hm g hg => ?_, fun hm => ⟨i, List.mem_singleton.mpr rfl, ?_⟩⟩
  · rw [addMdTo, hadd, pcpFlowUpdated_heapTop]
    rfl
  · by_cases hg : g = i
    · subst hg
      rw [hheap, Function.update_self]
      rfl
    · rw [hother g hg]
  · rw [hio]
    exact hle
  · rw [hother g (by simpa using hg)]
  · obtain rfl := List.mem_singleton.mp hg
    rw [hself]
    rw [hio] at hm
    exact hput hm
  · rw [hself]
    rw [hio] at hm
    exact hrefused hm

/-- `pcp_flow_add_md`. -/
theorem pcpFlowAddMd_added (mdId : UInt32) (val : List UInt8) (hn : (c.chain f).Nodup) :
    MdAdded e (storedId mdId) (val.take mdValMaxLen) (c.chain f) c (pcpFlowAddMd e mdId val c f) := by
  have hloop : pcpFlowAddMd e mdId val c f = (c.chain f).foldl (addMdTo e mdId val) c := rfl
  rw [hloop]
  clear hloop
  generalize c.chain f = l at hn
  induction l generalizing c with
  | nil => exact .nil
  | cons i l ih =>
    obtain ⟨hi, hl⟩ := List.nodup_cons.mp hn
    exact (addMdTo_added mdId val).cons (ih hl) hi

end OneCall

/-! ## A sequence of calls -/

theorem chainAux_congr {heap heap' : FlowId → Flow}
    (h : ∀ g, (heap' g).nextChild = (heap g).nextChild) (n : Nat) :
    ∀ o, chainAux heap' n o = chainAux heap n o := by
  induction n with
  | zero =>
    intro o
    cases o <;> rfl
  | succ n ih =>
    intro o
    cases o with
    | none => rfl
    | some f => rw [chainAux, chainAux, h f, ih]

theorem mem_chain_self (c : Ctx) (f : FlowId) : f ∈ c.chain f := by
  unfold Ctx.chain
  cases c.heapTop <;> simp [chainAux]

/-- No flow is twice in its chain. -/
theorem LinksForward.nodup_chain {c : Ctx} (h : LinksForward c) {f : Nat} (hf : f < c.heapTop) :
    (c.chain f).Nodup := by
  obtain ⟨hchain, -, htop⟩ := h.chain hf
  generalize c.chain f = l at hchain htop
  -- the flows of the chain were allocated one after the other
  have hsorted : List.IsChain (fun a b : Nat => a < b) l := by
    generalize some f = o at hchain
    induction l generalizing o with
    | nil => exact .nil
    | cons g l ih =>
      cases o with
      | none => cases hchain
      | some f =>
        obtain ⟨rfl, hrest⟩ := hchain
        have hl := ih (fun x hx => htop x (List.mem_cons_of_mem g hx)) _ hrest
        cases l with
        | nil => exact .singleton g
        | cons x l =>
          cases hn : (c.heap g).nextChild with
          | none =>
            rw [hn] at hrest
            cases hrest
          | some y =>
            rw [hn] at hrest
            obtain ⟨rfl, -⟩ := hrest
            exact .cons_cons (h g x (htop g List.mem_cons_self) hn).1 hl
  exact (List.isChain_iff_pairwise.mp hsorted).imp Nat.ne_of_lt

/-- `pcp_flow_add_md`, once for each pair. -/
def addMds (e : Env) (calls : List (UInt32 × List UInt8)) (c : Ctx) (f : FlowId) : Ctx :=
  calls.foldl (fun c p => pcpFlowAddMd e p.1 p.2 c f) c

/-- The pair as a flow stores it. -/
def storedPair (p : UInt32 × List UInt8) : UInt32 × List UInt8 := (storedId p.1, p.2.take mdValMaxLen)

section Sequence

variable {e : Env} {c : Ctx} {f g : FlowId} {calls pre : List (UInt32 × List UInt8)}

theorem addMds_concat (calls : List (UInt32 × List UInt8)) (p : UInt32 × List UInt8) :
    addMds e (calls ++ [p]) c f = pcpFlowAddMd e p.1 p.2 (addMds e calls c f) f := by
  rw [addMds, List.foldl_append]
  rfl

theorem addMds_append (pre calls : List (UInt32 × List UInt8)) :
    addMds e (pre ++ calls) c f = addMds e calls (addMds e pre c f) f := List.foldl_append ..

/-- The chain is the same after the calls. -/
theorem addMds_chain (hn : (c.chain f).Nodup) (calls : List (UInt32 × List UInt8)) :
    (addMds e calls c f).chain f = c.chain f := by
  induction calls using List.reverseRecOn with
  | nil => rfl
  | append_singleton calls p ih =>
    have hadded := pcpFlowAddMd_added (e := e) p.1 p.2 (ih.symm ▸ hn)
    rw [addMds_concat, ← ih, Ctx.chain, hadded.heapTop, chainAux_congr hadded.link]
    rfl

/-- What the last call does. -/
theorem addMds_added (hn : (c.chain f).Nodup) (calls : List (UInt32 × List UInt8))
    (p : UInt32 × List UInt8) :
    MdAdded e (storedId p.1) (p.2.take mdValMaxLen) (c.chain f) (addMds e calls c f)
      (addMds e (calls ++ [p]) c f) := by
  have hchain := addMds_chain (e := e) hn calls
  rw [addMds_concat, ← hchain]
  exact pcpFlowAddMd_added p.1 p.2 (hchain.symm ▸ hn)

theorem addMds_callocs (hn : (c.chain f).Nodup) (calls : List (UInt32 × List UInt8)) :
    c.io.callocs ≤ (addMds e calls c f).io.callocs := by
  induction calls using List.reverseRecOn with
  | nil => exact Nat.le_refl _
  | append_singleton calls p ih => exact Nat.le_trans ih (addMds_added hn calls p).callocs

/-- With memory the calls are puts. -/
theorem addMds_puts (hn : (c.chain f).Nodup) (hg : g ∈ c.chain f)
    (hm : MemoryLasts e c.io.callocs (addMds e calls c f).io.callocs) :
    mdPairs ((addMds e calls c f).heap g).mdVals =
      puts (calls.map storedPair) (mdPairs (c.heap g).mdVals) := by
  induction calls using List.reverseRecOn with
  | nil => rfl
  | append_singleton calls p ih =>
    have hadded := addMds_added (e := e) hn calls p
    obtain ⟨hm₁, hm₂⟩ := hm.split (addMds_callocs hn calls) hadded.callocs
    rw [hadded.put hm₂ g hg, ih hm₁, List.map_append, puts, puts, List.foldl_append]
    rfl

/-- Without memory there is a call after which a flow lacks the id it was called with. -/
theorem addMds_refused (hn : (c.chain f).Nodup)
    (hm : ¬ MemoryLasts e c.io.callocs (addMds e calls c f).io.callocs) :
    ∃ pre p, pre ++ [p] <+: calls ∧ ∃ g ∈ c.chain f,
      storedId p.1 ∉ (mdPairs ((addMds e (pre ++ [p]) c f).heap g).mdVals).map Prod.fst := by
  induction calls using List.reverseRecOn with
  | nil => exact absurd (fun _ ha hb => absurd hb (Nat.not_lt.mpr ha)) hm
  | append_singleton calls p ih =>
    by_cases hm₁ : MemoryLasts e c.io.callocs (addMds e calls c f).io.callocs
    · obtain ⟨g, hg, hk⟩ := (addMds_added hn calls p).refused fun hm₂ => hm (hm₁.trans hm₂)
      exact ⟨calls, p, List.prefix_refl _, g, hg, hk⟩
    · obtain ⟨pre, q, hpre, hq⟩ := ih hm₁
      exact ⟨pre, q, hpre.trans (List.prefix_append calls [p]), hq⟩

/-- The ids that fit are stored as they are. -/
theorem map_storedPair (hfit : ∀ p ∈ calls, p.1.toNat < 2 ^ 16) :
    calls.map storedPair = calls.map fun p => (p.1, p.2.take mdValMaxLen) := by
  refine List.map_congr_left fun p hp => ?_
  rw [storedPair, storedId_of_lt (hfit p hp)]

/-- Calls that fit add to what is recorded. -/
theorem puts_recorded (prior : List (UInt32 × List UInt8)) (hfit : ∀ p ∈ calls, p.1.toNat < 2 ^ 16) :
    puts (calls.map storedPair) (recorded prior) = recorded (prior ++ calls) := by
  rw [map_storedPair hfit, recorded, recorded, ← puts_nil, ← puts_nil, List.map_append, puts, puts, puts,
    List.foldl_append]

/-- The flows of a chain hold the calls of the past, each its own. After every further call they hold it
in addition, exactly when the ids have 16 bits and no allocation for an entry is refused. -/
theorem addMds_holds_iff (hr : Reachable e c) (hf : f < c.heapTop) (hcfg : e.cfg.experimental = true)
    {prior : FlowId → List (UInt32 × List UInt8)}
    (hprior : ∀ g ∈ c.chain f, mdPairs (c.heap g).mdVals = recorded (prior g))
    (calls : List (UInt32 × List UInt8)) :
    (∀ pre, pre <+: calls → ∀ g ∈ c.chain f,
      HoldsMetadata e.cfg (prior g ++ pre) ((addMds e pre c f).heap g)) ↔
      (∀ p ∈ calls, p.1.toNat < 2 ^ 16) ∧
        MemoryLasts e c.io.callocs (addMds e calls c f).io.callocs := by
  have hn := hr.linksForward.nodup_chain hf
  constructor
  · intro hholds
    have hfit : ∀ p ∈ calls, p.1.toNat < 2 ^ 16 := by
      intro p hp
      have hentries := (hholds calls (List.prefix_refl _) f (mem_chain_self c f)).entries
      have hkey : p.1 ∈ (recorded (prior f ++ calls)).map Prod.fst :=
        mem_keys_recorded.mpr (List.mem_map.mpr ⟨p, List.mem_append_right _ hp, rfl⟩)
      rw [← hentries, mdPairs, List.map_map] at hkey
      obtain ⟨m, -, hm⟩ := List.mem_map.mp hkey
      rw [← hm]
      exact m.mdId.toNat_lt
    refine ⟨hfit, ?_⟩
    by_contra hm
    obtain ⟨pre, p, hpre, g, hg, hlost⟩ := addMds_refused hn hm
    have hp : p ∈ calls := hpre.subset (by simp)
    rw [(hholds _ hpre g hg).entries, storedId_of_lt (hfit p hp), mem_keys_recorded] at hlost
    exact hlost (by simp)
  · rintro ⟨hfit, hm⟩ pre ⟨rest, rfl⟩ g hg
    have hrest : (addMds e pre c f).io.callocs ≤ (addMds e (pre ++ rest) c f).io.callocs := by
      rw [addMds_append]
      exact addMds_callocs ((addMds_chain hn pre).symm ▸ hn) rest
    have hm₁ := (hm.split (addMds_callocs hn pre) hrest).1
    refine .of_entries hcfg ?_
    rw [addMds_puts hn hg hm₁, hprior g hg]
    exact puts_recorded (prior g) fun p hp => hfit p (List.mem_append_left rest hp)

end Sequence

/-- Two flows of one chain, in a build with the experimental options. -/
def mdEnv : Env := .calm { experimental := true }

def mdChain : Ctx :=
  runTo mdEnv (fun _ _ => True) 1 {}
    [.addServer (.inet 0x0A000001 0) 2, .addServer (.inet 0x0A000002 0) 2,
      .newFlow (.inet 0x0A000063 1234) none none 6 60]

/-- The last value of an id counts, and an empty one is not sent. -/
def mdCalls : List (UInt32 × List UInt8) := [(1, [0x61, 0x62, 0x63]), (7, [0x64]), (1, [0x65]), (7, [])]

theorem addMds_holds_iff_two :
    (mdChain.chain 0).length = 2 ∧ HoldsMetadata mdEnv.cfg mdCalls ((addMds mdEnv mdCalls mdChain 0).heap 1) := by
  have hr : Reachable mdEnv mdChain := Runs.runTo (by decide +kernel)
  have hempty : ∀ g ∈ mdChain.chain 0, mdPairs (mdChain.heap g).mdVals = recorded [] := by decide +kernel
  have hlen : (mdChain.chain 0).length = 2 := by decide +kernel
  have hmem : 1 ∈ mdChain.chain 0 := by decide +kernel
  have hfit : ∀ p ∈ mdCalls, p.1.toNat < 2 ^ 16 := by decide
  exact ⟨hlen, (addMds_holds_iff hr (by decide +kernel) rfl hempty mdCalls).mpr
    ⟨hfit, fun _ _ _ => rfl⟩ mdCalls (List.prefix_refl _) 1 hmem⟩

/-- Two ids with the same low 16 bits. -/
def clashingCalls : List (UInt32 × List UInt8) := [(1, [0x61]), (65537, [0x62])]

/-- They share one entry. -/
theorem addMds_mixes_ids :
    ¬ ∀ (e : Env) (c : Ctx) (f : FlowId) (calls : List (UInt32 × List UInt8)), Reachable e c →
      f < c.heapTop → e.cfg.experimental = true → (∀ g ∈ c.chain f, (c.heap g).mdVals = []) →
      MemoryLasts e c.io.callocs (addMds e calls c f).io.callocs → ∀ g ∈ c.chain f,
        HoldsMetadata e.cfg calls ((addMds e calls c f).heap g) := by
  intro hall
  have hr : Reachable mdEnv mdChain := Runs.runTo (by decide +kernel)
  have hempty : ∀ g ∈ mdChain.chain 0, (mdChain.heap g).mdVals = [] := by decide +kernel
  have hentries := (hall mdEnv mdChain 0 clashingCalls hr (by decide +kernel) rfl hempty
    (fun _ _ _ => rfl) 0 (mem_chain_self mdChain 0)).entries
  have hone : mdPairs ((addMds mdEnv clashingCalls mdChain 0).heap 0).mdVals = [(1, [0x62])] := by
    decide +kernel
  rw [hone] at hentries
  revert hentries
  decide +kernel

end LibPcp
