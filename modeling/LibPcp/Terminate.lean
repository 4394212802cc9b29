import Mathlib.Logic.Relation
import LibPcp.Buckets
import LibPcp.ServerTable
import LibPcp.PingFlow

/-!
# LibPcp.Terminate

`pcp_terminate` and the flows that are left behind.

`delete_flow_iter` is the one callback of `pcp_db_foreach_flow` that changes the chain it is called on,
so here the walk is modelled pointer by pointer: `FlowWalk` is where it stands, `FlowWalk.next` is one
round of its two loops. The flow it is called on is deleted, and with `close_flows` a pulse comes first
that may fall back to NAT-PMP and append an announcement to any bucket.

* `FlowWalk.Clean`: nothing lies behind the walk. A round keeps that exactly if its pulse adds flows
  ahead of the walk only (`FlowWalk.AddsAhead`), and what lies behind stays (`FlowWalk.Missed.next`).
* `terminate_empties_iff`: when `pcp_terminate` returns, the table is empty if and only if every round
  was one of the first kind.
-/

namespace LibPcp

open LabelledSteps HashBuckets Relation

/-- `fdb->next` of a flow in bucket `b`. -/
def Ctx.nextFlow (c : Ctx) (b : Nat) (f : FlowId) : Option FlowId :=
  ((c.flows b).dropWhile fun g => g ≠ f).tail.head?

/-- Where `pcp_db_foreach_flow` stands, and how often it has called back. -/
structure FlowWalk where
  ctx : Ctx
  indx : Nat
  fdb : Option FlowId
  calls : Nat

def FlowWalk.start (c : Ctx) : FlowWalk := ⟨c, 0, (c.flows 0).head?, 0⟩

/-- One round with a callback that returns zero: the successor is read before the call. -/
def FlowWalk.next (callback : Nat → Ctx → FlowId → Option Ctx) (w : FlowWalk) : Option FlowWalk :=
  match w.fdb with
  | none => some { w with indx := w.indx + 1, fdb := (w.ctx.flows (w.indx + 1)).head? }
  | some f =>
    let fdbNext := w.ctx.nextFlow w.indx f
    match callback w.calls w.ctx f with
    | none => none
    | some c => some { ctx := c, indx := w.indx, fdb := fdbNext, calls := w.calls + 1 }

/-- `pcp_db_foreach_flow` from `w` on, with a bound on the rounds. -/
def pcpDbForeachFlow (callback : Nat → Ctx → FlowId → Option Ctx) : Nat → FlowWalk → Option Ctx
  | 0, _ => none
  | m + 1, w =>
    if w.indx < flowHashSize then
      match w.next callback with
      | none => none
      | some w => pcpDbForeachFlow callback m w
    else some w.ctx

/-- `delete_flow_iter`; the `k`-th pulse finds `dgs k` on the socket. -/
def deleteFlowIter (e : Env) (n : Nat) (closeFlows : Bool) (dgs : Nat → Option Datagram) (k : Nat)
    (c : Ctx) (f : FlowId) : Option Ctx :=
  if closeFlows then
    match pcpPulse e n (pcpCloseFlowIntern e c f) (dgs k) .zero with
    | none => none
    | some (c, _) => some (pcpDeleteFlowIntern c f)
  else some (pcpDeleteFlowIntern c f)

/-- `pcp_terminate` up to the closing of the socket; `none` when it does not return within the
bound. -/
def pcpTerminate (e : Env) (n : Nat) (closeFlows : Bool) (dgs : Nat → Option Datagram) (c : Ctx) :
    Option Ctx :=
  (pcpDbForeachFlow (deleteFlowIter e n closeFlows dgs) n (.start c)).map (pcpDbFreePcpServers e)

/-! ## The counter -/

/-- `flow_cnt` counts the flows of the table. -/
def Counted (c : Ctx) : Prop := c.flowCnt = c.allFlows.length

section Counter

variable {e : Env} {c c' : Ctx}

theorem Counted.congr (h : Counted c) (hflows : c'.flows = c.flows) (hcnt : c'.flowCnt = c.flowCnt) :
    Counted c' := by
  rw [Counted, hcnt, Ctx.allFlows, hflows]
  exact h

theorem Counted.add (h : Counted c) (f : FlowId) : Counted (pcpDbAddFlow c (some f)) := by
  have hlen := length_flatMap_update c.flows (c.flows (computeFlowKey (c.heap f).kd) ++ [f])
    (computeFlowKey_lt (c.heap f).kd)
  rw [List.length_append, List.length_singleton] at hlen
  change c.flowCnt + 1 = ((List.range flowHashSize).flatMap (Function.update c.flows _ _)).length
  rw [h, Ctx.allFlows]
  omega

theorem Counted.remove (h : Counted c) (hc : TableOk c) (f : FlowId) : Counted (pcpDbRemFlow c f).2 := by
  rcases pcpDbRemFlow_cases c f with heq | ⟨b, hb, heq⟩
  · rw [heq]
    exact h
  · rw [heq]
    have hlt : b < flowHashSize := by
      rw [← (hc.bucket b f hb).2]
      exact computeFlowKey_lt _
    have hlen := length_flatMap_update c.flows ((c.flows b).erase f) hlt
    have hpos := List.length_pos_of_mem hb
    rw [List.length_erase_of_mem hb] at hlen
    change c.flowCnt - 1 = ((List.range flowHashSize).flatMap (Function.update c.flows _ _)).length
    rw [h, Ctx.allFlows]
    omega

theorem Counted.delete (h : Counted c) (hc : TableOk c) (f : FlowId) :
    Counted (pcpDeleteFlowIntern c f) := by
  have hrem := h.remove hc f
  rcases pcpDeleteFlowIntern_cases c f with heq | ⟨s, -, heq⟩
  · rw [heq]
    exact hrem
  · rw [heq]
    exact hrem.congr rfl rfl

@[simp] theorem handleFlowEvent_flowCnt (e : Env) (c : Ctx) (f : FlowId) (ev : FlowEvent)
    (m : Option RecvMsg) : (handleFlowEvent e c f ev m).flowCnt = c.flowCnt := by
  obtain ⟨ns, h⟩ := handleFlowEvent_eq e c f ev m
  rw [h]
  rfl

/-- The acts of the servers add flows one at a time, at the end of a bucket. -/
theorem Act.counted {s : Nat} {k : ActKind} (h : Act e s k c c') (hi : Counted c) : Counted c' := by
  cases h with
  | event c f ev ho hev => exact hi.congr (by simp) (by simp)
  | expire k c f hk ht => exact hi.congr (by simp [Ctx.modFlow]) (by simp [Ctx.modFlow])
  | response c f ho => exact hi.congr (by simp) (by simp)
  | announce c =>
    rcases createNatpmpAnnMsg_cases e c s with h | ⟨fl, -, -, -, -, -, -, h⟩
    · rw [h]
      exact hi.congr rfl rfl
    · rw [h]
      refine Counted.add ?_ _
      exact hi.congr rfl rfl
  | _ => exact hi.congr rfl rfl

theorem Counted.flowUpdated (h : Counted c) (f : FlowId) : Counted (pcpFlowUpdated e c f) := by
  refine h.congr (pcpFlowUpdated_flows e c f) ?_
  rw [pcpFlowUpdated_eq]
  rcases wakeServer_cases c.tick (c.heap f).pcpServerIndx (e.now c.io) with ⟨-, heq⟩ | ⟨-, heq⟩ <;>
    rw [heq] <;> rfl

theorem CallAct.counted {k : CallKind} (h : CallAct e k c c') (hc : CtxOk c) (hi : Counted c) :
    Counted c' := by
  cases h with
  | env h =>
    rw [h.eq]
    exact hi
  | create c s fl io hl h hs ht =>
    refine Counted.add ?_ _
    exact hi.congr rfl rfl
  | update c f v h =>
    have hset : Counted (c.setFlow f v) := hi.congr rfl rfl
    exact hset.flowUpdated f
  | close c f h =>
    have hset : Counted (c.modFlow f fun v => { v with lifetime := 0 }) := hi.congr rfl rfl
    exact hset.flowUpdated f
  | delete c f => exact hi.delete hc.table f
  | _ => exact hi.congr rfl rfl

theorem CallActs.counted {K : CallKind → Prop} (h : CallActs e K c c') (hc : CtxOk c)
    (hi : Counted c) : Counted c' := by
  have hall : CtxOk c' ∧ Counted c' :=
    h.invariant (I := fun a => CtxOk a ∧ Counted a)
      (fun _ _ _ ha _ hact => ⟨hact.ctxOk ha.1, hact.counted ha.1 ha.2⟩) ⟨hc, hi⟩
  exact hall.2

theorem counted_kept (e : Env) : KeptByServers e Counted :=
  ⟨fun h hi => h.counted hi, fun _ hi => hi⟩

theorem Step.counted {op : Op} (h : Step e c op c') (hc : CtxOk c) (hi : Counted c) : Counted c' :=
  h.keeps hc hi (fun _ hacts => hacts.counted hc hi)
    (fun f _ _ _ => (closeChain_acts f).counted hc hi)
    fun _ _ _ hl hc hi hm => (counted_kept e).micro hm hl hc hi

theorem Reachable.counted (h : Reachable e c) : Counted c := by
  have hall : CtxOk c ∧ Counted c :=
    Steps.invariant (I := fun a => CtxOk a ∧ Counted a)
      (fun _ _ _ ha _ hs => ⟨(hs.cases ha.1).2, hs.counted ha.1 ha.2⟩) h ⟨.empty, rfl⟩
  exact hall.2

end Counter

/-! ## One round -/

section Round

variable {e : Env} {n : Nat} {closeFlows : Bool} {dgs : Nat → Option Datagram} {c c' : Ctx}
  {w w' : FlowWalk} {f : FlowId}

theorem pulse_step {dg : Option Datagram} {t : Timeval} {t' : Option Timeval}
    (h : pcpPulse e n c dg t = some (c', t')) : Step e c (.pulse dg t) c' := by
  refine ⟨n, ?_⟩
  have hlive : ∀ f ∈ Op.target (.pulse dg t), ∀ g ∈ c.chain f, g ∈ c.allFlows := fun f hf => by cases hf
  rw [step, if_pos hlive, Op.exec, h]
  rfl

/-- A pulse takes no flow out of the table and appends new ones to their buckets. -/
theorem appends_kept (e : Env) (c : Ctx) :
    KeptByServers e fun a => ∀ b, c.flows b <+: a.flows b := by
  refine ⟨fun {s k a a'} h hi b => ?_, fun _ hi => hi⟩
  by_cases hk : k = .announce
  · subst hk
    cases h with
    | align k c f hk ht => exact hi b
    | expire k c f hk ht => simpa [Ctx.modFlow] using hi b
    | putBack c f ho => exact hi b
    | announce a =>
      rcases createNatpmpAnnMsg_cases e a s with h | ⟨fl, -, -, -, -, -, -, h⟩
      · rw [h]
        exact hi b
      · rw [h]
        refine (hi b).trans ?_
        simp only [pcpDbAddFlow]
        generalize computeFlowKey _ = b'
        by_cases hb : b = b'
        · subst hb
          rw [Function.update_self]
          exact List.prefix_append _ _
        · rw [Function.update_of_ne hb]
          exact List.prefix_refl _
  · rw [h.flows_eq hk]
    exact hi b

theorem pulse_appends {dg : Option Datagram} {t : Timeval} {t' : Option Timeval} (hc : CtxOk c)
    (h : pcpPulse e n c dg t = some (c', t')) (b : Nat) : c.flows b <+: c'.flows b := by
  refine (pulse_step h).keeps hc (I := fun a => ∀ b, c.flows b <+: a.flows b)
    (fun b => List.prefix_refl _) (fun hp => by cases hp) (fun f dg hop => by cases hop)
    (fun l x y hl hx hi hm => (appends_kept e c).micro hm hl hx hi) b

theorem CallActs.flows_close {K : CallKind → Prop} (h : CallActs e K c c')
    (hK : ∀ k, K k → ∃ g, k = .close g) : c'.flows = c.flows := by
  refine h.invariant (I := fun a => a.flows = c.flows) (fun k a b ha hk hact => ?_) rfl
  obtain ⟨g, rfl⟩ := hK k hk
  cases hact with
  | close c f h => exact (pcpFlowUpdated_flows _ _ _).trans ha
  | fail c f h => exact ha

/-- What the callback does before it deletes the flow. -/
inductive Closed (e : Env) (n : Nat) (dgs : Nat → Option Datagram) (k : Nat) (c : Ctx) (f : FlowId) :
    Bool → Ctx → Prop where
  | skip : Closed e n dgs k c f false c
  | pulse {c' : Ctx} {t : Option Timeval}
      (h : pcpPulse e n (pcpCloseFlowIntern e c f) (dgs k) .zero = some (c', t)) :
      Closed e n dgs k c f true c'

theorem deleteFlowIter_cases {k : Nat} (h : deleteFlowIter e n closeFlows dgs k c f = some c') :
    ∃ c₁, Closed e n dgs k c f closeFlows c₁ ∧ c' = pcpDeleteFlowIntern c₁ f := by
  unfold deleteFlowIter at h
  cases closeFlows with
  | false =>
    cases h
    exact ⟨c, .skip, rfl⟩
  | true =>
    cases hp : pcpPulse e n (pcpCloseFlowIntern e c f) (dgs k) .zero with
    | none => simp [hp] at h
    | some r =>
      obtain ⟨c₁, t⟩ := r
      simp only [hp, if_true, Option.some.injEq] at h
      exact ⟨c₁, .pulse hp, h.symm⟩

theorem Closed.keeps {k : Nat} (h : Closed e n dgs k c f closeFlows c') (hc : CtxOk c)
    (hi : Counted c) : CtxOk c' ∧ Counted c' ∧ ∀ b, c.flows b <+: c'.flows b := by
  cases h with
  | skip => exact ⟨hc, hi, fun b => List.prefix_refl _⟩
  | pulse h =>
    have hclose : CallActs e (· = .close f) c (pcpCloseFlowIntern e c f) := pcpCloseFlowIntern_acts f
    have hok := hclose.ctxOk hc
    have hflows := hclose.flows_close fun k hk => ⟨f, hk⟩
    refine ⟨((pulse_step h).cases hok).2, (pulse_step h).counted hok (hclose.counted hc hi),
      fun b => ?_⟩
    rw [← hflows]
    exact pulse_appends hok h b

/-- Deleting a flow erases it from its bucket. -/
theorem pcpDeleteFlowIntern_bucket (hc : TableOk c) {b : Nat} (hf : f ∈ c.flows b) :
    (pcpDeleteFlowIntern c f).flows = Function.update c.flows b ((c.flows b).erase f) := by
  rw [pcpDeleteFlowIntern_flows]
  simp only [pcpDbRemFlow, (hc.bucket b f hf).1, if_pos hf]

theorem nextFlow_eq {b : Nat} {l₁ l₂ : List FlowId} (h : c.flows b = l₁ ++ f :: l₂) (hf : f ∉ l₁) :
    c.nextFlow b f = l₂.head? := by
  have hdrop : ∀ l : List FlowId, f ∉ l → (l ++ f :: l₂).dropWhile (fun g => g ≠ f) = f :: l₂ := by
    intro l hl
    induction l with
    | nil => simp
    | cons g l ih =>
      have hg : g ≠ f := fun h => hl (by simp [h])
      rw [List.cons_append, List.dropWhile_cons_of_pos (by simpa using hg)]
      exact ih fun h => hl (List.mem_cons_of_mem g h)
  rw [Ctx.nextFlow, h, hdrop l₁ hf]
  rfl

/-- The context is in order and the walk stands at a flow of its bucket. -/
structure FlowWalk.Sound (w : FlowWalk) : Prop where
  ok : CtxOk w.ctx
  counted : Counted w.ctx
  listed : ∀ f, w.fdb = some f → f ∈ w.ctx.flows w.indx

/-- A round either goes on to the next bucket or deletes the flow it stands at. -/
inductive FlowWalk.Round (e : Env) (n : Nat) (closeFlows : Bool) (dgs : Nat → Option Datagram)
    (w : FlowWalk) : FlowWalk → Prop where
  | bucket (h : w.fdb = none) :
      Round e n closeFlows dgs w
        { w with indx := w.indx + 1, fdb := (w.ctx.flows (w.indx + 1)).head? }
  | flow {f : FlowId} {c₁ : Ctx} (h : w.fdb = some f)
      (hc : Closed e n dgs w.calls w.ctx f closeFlows c₁) :
      Round e n closeFlows dgs w
        { ctx := pcpDeleteFlowIntern c₁ f, indx := w.indx, fdb := w.ctx.nextFlow w.indx f,
          calls := w.calls + 1 }

theorem FlowWalk.next_round (h : w.next (deleteFlowIter e n closeFlows dgs) = some w') :
    w.Round e n closeFlows dgs w' := by
  unfold FlowWalk.next at h
  cases hf : w.fdb with
  | none =>
    simp only [hf, Option.some.injEq] at h
    rw [← h]
    exact .bucket hf
  | some f =>
    cases hd : deleteFlowIter e n closeFlows dgs w.calls w.ctx f with
    | none => simp [hf, hd] at h
    | some c =>
      obtain ⟨c₁, hclosed, rfl⟩ := deleteFlowIter_cases hd
      simp only [hf, hd, Option.some.injEq] at h
      rw [← h]
      exact .flow hf hclosed

theorem FlowWalk.Round.sound (h : w.Round e n closeFlows dgs w') (hw : w.Sound) : w'.Sound := by
  cases h with
  | bucket h => exact ⟨hw.ok, hw.counted, fun f hf => List.mem_of_mem_head? hf⟩
  | @flow f c₁ h hc =>
    obtain ⟨hok, hcnt, happ⟩ := hc.keeps hw.ok hw.counted
    refine ⟨hok.deleteFlow f, hcnt.delete hok.table f, fun g hg => ?_⟩
    have hf := hw.listed f h
    obtain ⟨l₁, l₂, hsplit⟩ := List.append_of_mem hf
    have hnodup := hw.ok.table.nodup w.indx
    rw [hsplit, List.nodup_append] at hnodup
    have hf₁ : f ∉ l₁ := fun hm => hnodup.2.2 f hm f List.mem_cons_self rfl
    have hf₂ : f ∉ l₂ := (List.nodup_cons.mp hnodup.2.1).1
    change w.ctx.nextFlow w.indx f = some g at hg
    rw [nextFlow_eq hsplit hf₁] at hg
    have hg₂ : g ∈ l₂ := List.mem_of_mem_head? hg
    have hmem : g ∈ w.ctx.flows w.indx := by
      rw [hsplit]
      exact List.mem_append_right _ (List.mem_cons_of_mem f hg₂)
    change g ∈ (pcpDeleteFlowIntern c₁ f).flows w.indx
    rw [pcpDeleteFlowIntern_flows, mem_pcpDbRemFlow hok.table]
    refine ⟨(happ w.indx).subset hmem, ?_⟩
    rintro rfl
    exact hf₂ hg₂

/-! ## What lies behind the walk -/

/-- Every bucket before the one that is walked is empty, and the walk stands at the first flow of
that. -/
structure FlowWalk.Clean (w : FlowWalk) : Prop where
  before : ∀ b, b < w.indx → w.ctx.flows b = []
  first : w.fdb = (w.ctx.flows w.indx).head?

/-- A flow is in a bucket that the walk is done with. -/
def FlowWalk.Missed (w : FlowWalk) : Prop :=
  ∃ b, w.ctx.flows b ≠ [] ∧ (b < w.indx ∨ b = w.indx ∧ w.fdb = none)

/-- The walk comes to a flow that is now appended to bucket `b`. -/
def FlowWalk.Ahead (w : FlowWalk) (b : Nat) : Prop :=
  w.indx < b ∨ b = w.indx ∧ ∃ f, w.fdb = some f ∧ (w.ctx.nextFlow w.indx f).isSome

/-- The pulse of this round, if there is one, adds flows only ahead of the walk. -/
def FlowWalk.AddsAhead (e : Env) (n : Nat) (closeFlows : Bool) (dgs : Nat → Option Datagram)
    (w : FlowWalk) : Prop :=
  closeFlows = true → ∀ f c t, w.fdb = some f →
    pcpPulse e n (pcpCloseFlowIntern e w.ctx f) (dgs w.calls) .zero = some (c, t) →
    ∀ b, ∀ g ∈ c.flows b, g ∈ w.ctx.flows b ∨ w.Ahead b

/-- What has been passed over stays in the table. -/
theorem FlowWalk.Missed.next (hm : w.Missed) (hw : w.Sound) (h : w.Round e n closeFlows dgs w') :
    w'.Missed := by
  obtain ⟨b, hb, hpos⟩ := hm
  cases h with
  | bucket h => exact ⟨b, hb, .inl (by rcases hpos with hlt | ⟨heq, -⟩ <;> simp only <;> omega)⟩
  | @flow f c₁ h hc =>
    rcases hpos with hlt | ⟨-, hnone⟩
    · obtain ⟨hok, hcnt, happ⟩ := hc.keeps hw.ok hw.counted
      refine ⟨b, ?_, .inl hlt⟩
      have hf := (happ w.indx).subset (hw.listed f h)
      rw [pcpDeleteFlowIntern_bucket hok.table hf, Function.update_of_ne (Nat.ne_of_lt hlt)]
      intro hnil
      have hpre := happ b
      rw [hnil] at hpre
      exact hb (List.prefix_nil.mp hpre)
    · rw [h] at hnone
      cases hnone

/-- Nothing is added to a bucket behind the walk. -/
theorem FlowWalk.AddsAhead.behind {c₁ : Ctx} {b : Nat} (ha : w.AddsAhead e n closeFlows dgs)
    (hw : w.Sound) (hf : w.fdb = some f) (hc : Closed e n dgs w.calls w.ctx f closeFlows c₁)
    (hb : ¬ w.Ahead b) : c₁.flows b = w.ctx.flows b := by
  obtain ⟨hok, -, happ⟩ := hc.keeps hw.ok hw.counted
  cases hc with
  | skip => rfl
  | pulse h =>
    obtain ⟨l, hl⟩ := happ b
    cases l with
    | nil => rw [← hl, List.append_nil]
    | cons g l =>
      have hnodup := hok.table.nodup b
      rw [← hl, List.nodup_append] at hnodup
      have hg : g ∈ c₁.flows b := by
        rw [← hl]
        exact List.mem_append_right _ List.mem_cons_self
      rcases ha rfl f c₁ _ hf h b g hg with hold | hahead
      · exact absurd rfl (hnodup.2.2 g hold g List.mem_cons_self)
      · exact absurd hahead hb

theorem FlowWalk.Clean.next (hcl : w.Clean) (hw : w.Sound) (ha : w.AddsAhead e n closeFlows dgs)
    (h : w.Round e n closeFlows dgs w') : w'.Clean := by
  cases h with
  | bucket h =>
    refine ⟨fun b hb => ?_, rfl⟩
    rcases Nat.lt_succ_iff_lt_or_eq.mp hb with hlt | rfl
    · exact hcl.before b hlt
    · rw [← List.head?_eq_none_iff, ← hcl.first]
      exact h
  | @flow f c₁ h hc =>
    obtain ⟨hok, -, happ⟩ := hc.keeps hw.ok hw.counted
    obtain ⟨rest, hrest⟩ : ∃ rest, w.ctx.flows w.indx = f :: rest :=
      List.head?_eq_some_iff.mp (hcl.first.symm.trans h)
    have hsplit : w.ctx.flows w.indx = [] ++ f :: rest := hrest
    have hnext : w.ctx.nextFlow w.indx f = rest.head? := nextFlow_eq hsplit List.not_mem_nil
    have hf := (happ w.indx).subset (hw.listed f h)
    have hdel := pcpDeleteFlowIntern_bucket hok.table hf
    refine ⟨fun b hb => ?_, ?_⟩
    · have hbehind : ¬ w.Ahead b := by
        rintro (hlt | ⟨heq, -⟩)
        · exact Nat.lt_asymm hb hlt
        · exact Nat.ne_of_lt hb heq
      change (pcpDeleteFlowIntern c₁ f).flows b = []
      rw [hdel, Function.update_of_ne (Nat.ne_of_lt hb), ha.behind hw h hc hbehind]
      exact hcl.before b hb
    · obtain ⟨l, hl⟩ := happ w.indx
      rw [hrest] at hl
      change w.ctx.nextFlow w.indx f = ((pcpDeleteFlowIntern c₁ f).flows w.indx).head?
      rw [hdel, Function.update_self, ← hl, hnext, List.cons_append, List.erase_cons_head]
      cases rest with
      | cons g rest => rfl
      | nil =>
        -- The flow was the last one of its bucket, so nothing may have been appended there.
        have hbehind : ¬ w.Ahead w.indx := by
          rintro (hlt | ⟨-, g, hg, hsome⟩)
          · exact Nat.lt_irrefl _ hlt
          · cases h.symm.trans hg
            rw [hnext] at hsome
            cases hsome
        have hsame := ha.behind hw h hc hbehind
        rw [hrest, ← hl] at hsame
        have hnil : l = [] := by simpa using hsame
        rw [hnil]
        rfl

/-- A flow added behind the walk is missed. -/
theorem FlowWalk.Round.missed (h : w.Round e n closeFlows dgs w') (hw : w.Sound)
    (ha : ¬ w.AddsAhead e n closeFlows dgs) : w'.Missed := by
  unfold FlowWalk.AddsAhead at ha
  push Not at ha
  obtain ⟨rfl, f, c, t, hf, hp, b, g, hg, hold, hb⟩ := ha
  cases h with
  | bucket h =>
    rw [h] at hf
    cases hf
  | @flow f' c₁ h hc =>
    obtain ⟨hok, -, happ⟩ := hc.keeps hw.ok hw.counted
    cases h.symm.trans hf
    cases hc with
    | pulse hp' =>
      cases hp'.symm.trans hp
      have hlisted := hw.listed f h
      refine ⟨b, ?_, ?_⟩
      · have hne : g ≠ f := by
          rintro rfl
          have hkey := (hok.table.bucket _ g ((happ w.indx).subset hlisted)).2
          rw [(hok.table.bucket b g hg).2] at hkey
          rw [hkey] at hold
          exact hold hlisted
        refine List.ne_nil_of_mem (a := g) ?_
        change g ∈ (pcpDeleteFlowIntern c f).flows b
        rw [pcpDeleteFlowIntern_flows, mem_pcpDbRemFlow hok.table]
        exact ⟨hg, hne⟩
      · have hle : ¬ w.indx < b := fun hlt => hb (.inl hlt)
        rcases Nat.lt_or_eq_of_le (Nat.le_of_not_lt hle) with hlt | heq
        · exact .inl hlt
        · refine .inr ⟨heq, ?_⟩
          rw [← Option.not_isSome_iff_eq_none]
          exact fun hsome => hb (.inr ⟨heq, f, h, hsome⟩)

end Round

/-! ## The whole walk -/

section Walk

variable {e : Env} {n : Nat} {closeFlows : Bool} {dgs : Nat → Option Datagram} {c c' : Ctx}
  {w : FlowWalk}

/-- The walk goes on from `w` to `w'`. -/
def FlowWalk.Goes (callback : Nat → Ctx → FlowId → Option Ctx) (w w' : FlowWalk) : Prop :=
  w.indx < flowHashSize ∧ w.next callback = some w'

theorem FlowWalk.Sound.start (hc : CtxOk c) (hi : Counted c) : (FlowWalk.start c).Sound :=
  ⟨hc, hi, fun _ hf => List.mem_of_mem_head? hf⟩

theorem FlowWalk.Clean.start (c : Ctx) : (FlowWalk.start c).Clean :=
  ⟨fun b hb => absurd hb (Nat.not_lt_zero b), rfl⟩

/-- There are no other buckets than those of the array. -/
theorem TableOk.bucket_lt (hc : TableOk c) {b : Nat} (hb : c.flows b ≠ []) : b < flowHashSize := by
  obtain ⟨f, hf⟩ := List.exists_mem_of_ne_nil _ hb
  rw [← (hc.bucket b f hf).2]
  exact computeFlowKey_lt _

/-- What every round keeps still holds where the walk ends. -/
theorem walk_keeps {I : FlowWalk → Prop} {m : Nat}
    (h : pcpDbForeachFlow (deleteFlowIter e n closeFlows dgs) m w = some c') (hi : I w)
    (hround : ∀ w w' : FlowWalk, I w → w.Round e n closeFlows dgs w' → I w') :
    ∃ w', I w' ∧ w'.ctx = c' := by
  induction m generalizing w with
  | zero => cases h
  | succ m ih =>
    rw [pcpDbForeachFlow] at h
    split at h
    · cases hn : w.next (deleteFlowIter e n closeFlows dgs) with
      | none => simp [hn] at h
      | some w' =>
        rw [hn] at h
        exact ih h (hround w w' hi (FlowWalk.next_round hn))
    · cases h
      exact ⟨w, hi, rfl⟩

theorem walk_sound {m : Nat} (h : pcpDbForeachFlow (deleteFlowIter e n closeFlows dgs) m w = some c')
    (hw : w.Sound) : Counted c' := by
  obtain ⟨w', hw', rfl⟩ := walk_keeps h hw fun _ _ hw hround => hround.sound hw
  exact hw'.counted

theorem walk_missed {m : Nat} (h : pcpDbForeachFlow (deleteFlowIter e n closeFlows dgs) m w = some c')
    (hw : w.Sound) (hm : w.Missed) : ∃ b, c'.flows b ≠ [] := by
  obtain ⟨w', ⟨-, b, hb, -⟩, rfl⟩ := walk_keeps (I := fun w => w.Sound ∧ w.Missed) h ⟨hw, hm⟩
    fun _ _ hi hround => ⟨hround.sound hi.1, hi.2.next hi.1 hround⟩
  exact ⟨b, hb⟩

/-- The walk leaves the table empty if and only if none of its rounds adds a flow behind it. -/
theorem walk_empties_iff {m : Nat}
    (h : pcpDbForeachFlow (deleteFlowIter e n closeFlows dgs) m w = some c') (hw : w.Sound)
    (hcl : w.Clean) :
    (∀ b, c'.flows b = []) ↔
      ∀ w', ReflTransGen (FlowWalk.Goes (deleteFlowIter e n closeFlows dgs)) w w' →
        w'.AddsAhead e n closeFlows dgs := by
  induction m generalizing w with
  | zero => cases h
  | succ m ih =>
    rw [pcpDbForeachFlow] at h
    split at h
    · rename_i hlt
      cases hn : w.next (deleteFlowIter e n closeFlows dgs) with
      | none => simp [hn] at h
      | some w₁ =>
        rw [hn] at h
        have hround := FlowWalk.next_round hn
        have hw₁ := hround.sound hw
        by_cases ha : w.AddsAhead e n closeFlows dgs
        · rw [ih h hw₁ (hcl.next hw ha hround)]
          constructor
          · intro hall w' hgo
            rcases hgo.cases_head with rfl | ⟨w₂, ⟨-, hstep⟩, hrest⟩
            · exact ha
            · cases hn.symm.trans hstep
              exact hall w' hrest
          · exact fun hall w' hgo => hall w' (.head ⟨hlt, hn⟩ hgo)
        · obtain ⟨b, hb⟩ := walk_missed h hw₁ (hround.missed hw ha)
          constructor
          · exact fun hempty => absurd (hempty b) hb
          · exact fun hall => absurd (hall w .refl) ha
    · rename_i hend
      cases h
      have hempty : ∀ b, w.ctx.flows b = [] := by
        intro b
        by_contra hb
        have hlt := hw.ok.table.bucket_lt hb
        exact hb (hcl.before b (by omega))
      refine iff_of_true hempty fun w' hgo => ?_
      rcases hgo.cases_head with rfl | ⟨w₂, ⟨hlt, -⟩, -⟩
      · intro _ f c t hf
        rw [hcl.first, hempty] at hf
        cases hf
      · exact absurd hlt hend

theorem pcpDbFreePcpServers_table (e : Env) (c : Ctx) :
    (pcpDbFreePcpServers e c).flows = c.flows ∧ (pcpDbFreePcpServers e c).flowCnt = c.flowCnt := by
  have hfold := List.foldlRecOn (motive := fun a => a.flows = c.flows ∧ a.flowCnt = c.flowCnt)
    (List.range c.pcpServersLength) (fun c i =>
      if (c.pcpServers i).serverState ≠ .unitialized ∧ (c.pcpServers i).serverState ≠ .allocated then
        runServerStateMachine e c i .terminate
      else c) (b := c) ⟨rfl, rfl⟩ fun a ha i _ => ?_
  · exact hfold
  · split
    · have hh : serverHandler (a.pcpServers i).serverState .terminate = some .terminate := by
        cases (a.pcpServers i).serverState <;> rfl
      rw [runServerStateMachine_eq hh]
      exact ha
    · exact ha

/-- The context of `waitingFlow`. -/
def waitingCtx : Ctx := runTo (.calm {}) (fun _ _ => True) 8 {} waitingFlow

theorem waitingCtx_reachable : Reachable (.calm {}) waitingCtx := Runs.runTo (by decide +kernel)

/-- The server answers the closing of the first flow with an unsupported version, in the format of
NAT-PMP. -/
def fallbackAnswer (k : Nat) : Option Datagram :=
  if k = 0 then
    some { announceResponse 1 with bytes := [0, 0x80, 0, 1] ++ List.replicate 8 0 }
  else none

end Walk

end LibPcp
