import LibPcp.Reach

/-!
# LibPcp.ServerTable

The server array through registrations and the release of all servers.

`CtxOk` already says that a used slot knows its place. Here the remaining ways to change the array are
added: `pcp_new_server` called directly and `pcp_db_free_pcp_servers`. `TakesLowest` is what
`pcp_new_server` does with the array: the lowest free slot is taken, and the array grows when there is
none.
-/

namespace LibPcp

open LabelledSteps

/-- `get_pcp_server` with the index as the caller passes it, an `int`. -/
def getPcpServerInt (c : Ctx) (i : Int) : Option Nat := if i < 0 then none else getPcpServer c i.toNat

/-- `pcp_db_free_pcp_servers`: servers that run are terminated, then the array is freed. -/
def pcpDbFreePcpServers (e : Env) (c : Ctx) : Ctx :=
  let c := (List.range c.pcpServersLength).foldl (fun c i =>
    if (c.pcpServers i).serverState ≠ .unitialized ∧ (c.pcpServers i).serverState ≠ .allocated then
      runServerStateMachine e c i .terminate
    else c) c
  { c with pcpServers := fun _ => .zero, pcpServersLength := 0 }

/-- The calls that change the array. -/
inductive ServerOp where
  | newServer (ip : In6Addr) (port : UInt16) (scopeId : UInt32)
  | addServer (sa : SockAddr) (version : UInt8)
  | addGws (gws : List (In6Addr × UInt32))
  | free

def ServerOp.run (e : Env) (c : Ctx) : ServerOp → Ctx
  | .newServer ip port scopeId => (pcpNewServer e c ip port scopeId).2
  | .addServer sa version => (pcpAddServer e c sa version).2
  | .addGws gws => psdAddGws e gws c
  | .free => pcpDbFreePcpServers e c

/-! ## Taking a slot -/

/-- Slot `i` is the lowest free one of `c`, or the first one added, and the rest of the array stays. -/
structure TakesLowest (c c' : Ctx) (i : Nat) : Prop where
  le : i ≤ c.pcpServersLength
  lowest : ∀ j, j < i → (c.pcpServers j).serverState ≠ .unitialized
  free : i < c.pcpServersLength → (c.pcpServers i).serverState = .unitialized
  length : c'.pcpServersLength =
    if i < c.pcpServersLength then c.pcpServersLength
    else if c.pcpServersLength = 0 then pcpInitServerCount else 2 * c.pcpServersLength
  taken : i < c'.pcpServersLength ∧ (c'.pcpServers i).serverState ≠ .unitialized ∧
    (c'.pcpServers i).index = i
  others : ∀ j, j < c.pcpServersLength → j ≠ i → c'.pcpServers j = c.pcpServers j
  added : ∀ j, c.pcpServersLength ≤ j → j < c'.pcpServersLength → j ≠ i →
    (c'.pcpServers j).serverState = .unitialized

section New

variable {e : Env} {c : Ctx}

theorem newSlot_others (e : Env) (c : Ctx) (ip : In6Addr) (port : UInt16) (scopeId : UInt32) {i j : Nat}
    (h : j ≠ i) : (newSlot e c ip port scopeId i).pcpServers j = c.pcpServers j := by
  simp [newSlot, Ctx.modServer, h]

theorem freeSlot_lowest {i : Nat} (h : freeSlot c = some i) :
    ∀ j, j < i → (c.pcpServers j).serverState ≠ .unitialized := by
  intro j hj hu
  obtain ⟨-, -, hbefore⟩ := List.find?_range_eq_some.mp h
  have hj' := hbefore j hj
  simp [hu] at hj'

theorem freeSlot_none (h : freeSlot c = none) :
    ∀ j, j < c.pcpServersLength → (c.pcpServers j).serverState ≠ .unitialized := by
  intro j hj hu
  have hj' := List.find?_range_eq_none.mp h j hj
  simp [hu] at hj'

/-- The slot is filled in an array `c₁` that still has the slots of `c`. -/
theorem newSlot_taken (ip : In6Addr) (port : UInt16) (scopeId : UInt32) {i : Nat}
    (c₁ : Ctx) (hi : i < c₁.pcpServersLength) :
    i < (newSlot e c₁ ip port scopeId i).pcpServersLength ∧
      ((newSlot e c₁ ip port scopeId i).pcpServers i).serverState ≠ .unitialized ∧
      ((newSlot e c₁ ip port scopeId i).pcpServers i).index = i := by
  rw [newSlot_self]
  exact ⟨hi, by simp [initServer], rfl⟩

theorem pcpNewServer_takesLowest {ip : In6Addr} {port : UInt16} {scopeId : UInt32} {i : Nat} {c' : Ctx}
    (h : pcpNewServer e c ip port scopeId = (some i, c')) : TakesLowest c c' i := by
  unfold pcpNewServer at h
  by_cases hz : c.pcpServersLength = 0
  · -- the first server: five empty slots, of which the first is taken
    unfold allocServers at h
    rw [if_pos hz] at h
    cases hcalloc : e.calloc c.io.callocs with
    | false => simp [hcalloc] at h
    | true =>
      simp only [hcalloc, if_true] at h
      have hfree : freeSlot { c.callocCall with
          pcpServers := fun _ => .zero, pcpServersLength := pcpInitServerCount } = some 0 := rfl
      simp only [hfree, Prod.mk.injEq, Option.some.injEq] at h
      obtain ⟨rfl, rfl⟩ := h
      refine ⟨Nat.zero_le _, by simp, fun hlt => ?_, ?_, ?_, fun j hj => ?_, fun j _ _ hne => ?_⟩
      · exact absurd hlt (by simp [hz])
      · simp [hz, Ctx.modServer]
      · exact newSlot_taken ip port scopeId _ (Nat.succ_pos 4)
      · exact absurd hj (by simp [hz])
      · simp [Ctx.modServer, hne, Server.zero]
  · have halloc : allocServers e c = some c := by rw [allocServers, if_neg hz]
    rw [halloc] at h
    dsimp only at h
    cases hf : freeSlot c with
    | some k =>
      simp only [hf, Prod.mk.injEq, Option.some.injEq] at h
      obtain ⟨rfl, rfl⟩ := h
      obtain ⟨hk, hu⟩ := freeSlot_some hf
      refine ⟨Nat.le_of_lt hk, freeSlot_lowest hf, fun _ => hu, ?_, newSlot_taken ip port scopeId c hk,
        fun j _ hne => newSlot_others e c ip port scopeId hne, fun j hle hlt => ?_⟩
      · rw [if_pos hk]
        rfl
      · exact absurd hlt (Nat.not_lt.mpr hle)
    | none =>
      rw [hf] at h
      dsimp only at h
      cases hcalloc : e.calloc c.io.callocs with
      | false => simp [growServers, hcalloc] at h
      | true =>
        simp only [growServers, hcalloc, if_true, Prod.mk.injEq, Option.some.injEq] at h
        obtain ⟨rfl, rfl⟩ := h
        have hlen : c.pcpServersLength <<< 1 = 2 * c.pcpServersLength := by
          rw [Nat.shiftLeft_eq]
          omega
        refine ⟨Nat.le_refl _, freeSlot_none hf, fun hlt => absurd hlt (Nat.lt_irrefl _), ?_, ?_,
          fun j hj hne => ?_, fun j hle _ hne => ?_⟩
        · rw [if_neg (Nat.lt_irrefl _), if_neg hz]
          exact hlen
        · refine newSlot_taken ip port scopeId _ ?_
          change c.pcpServersLength < c.pcpServersLength <<< 1
          omega
        · simp [Ctx.modServer, hne, hj]
        · simp [Ctx.modServer, hne, Nat.not_lt.mpr hle, Server.zero]

/-- When memory runs out, the array stays as it was. -/
theorem pcpNewServer_none {ip : In6Addr} {port : UInt16} {scopeId : UInt32} {c' : Ctx}
    (h : pcpNewServer e c ip port scopeId = (none, c')) :
    c'.pcpServers = c.pcpServers ∧ c'.pcpServersLength = c.pcpServersLength := by
  unfold pcpNewServer at h
  by_cases hz : c.pcpServersLength = 0
  · unfold allocServers at h
    rw [if_pos hz] at h
    cases hcalloc : e.calloc c.io.callocs with
    | false =>
      simp only [hcalloc, Bool.false_eq_true, if_false, Prod.mk.injEq, true_and] at h
      rw [← h]
      exact ⟨rfl, rfl⟩
    | true =>
      simp only [hcalloc, if_true] at h
      have hfree : freeSlot { c.callocCall with
          pcpServers := fun _ => .zero, pcpServersLength := pcpInitServerCount } = some 0 := rfl
      simp [hfree] at h
  · have halloc : allocServers e c = some c := by rw [allocServers, if_neg hz]
    rw [halloc] at h
    dsimp only at h
    cases hf : freeSlot c with
    | some k => simp [hf] at h
    | none =>
      rw [hf] at h
      dsimp only at h
      cases hcalloc : e.calloc c.io.callocs with
      | false =>
        simp only [growServers, hcalloc, Bool.false_eq_true, if_false, Prod.mk.injEq, true_and] at h
        rw [← h]
        exact ⟨rfl, rfl⟩
      | true => simp [growServers, hcalloc] at h

theorem getPcpServerInt_eq_some {i : Int} {s : Nat} :
    getPcpServerInt c i = some s ↔
      0 ≤ i ∧ i < c.pcpServersLength ∧ (c.pcpServers i.toNat).serverState ≠ .unitialized ∧
        s = i.toNat := by
  unfold getPcpServerInt
  split
  · rename_i hneg
    simp only [reduceCtorEq, false_iff]
    omega
  · rename_i hpos
    constructor
    · intro h
      obtain ⟨rfl, hlt, hst⟩ := getPcpServer_eq_some h
      exact ⟨by omega, by omega, hst, rfl⟩
    · rintro ⟨h0, hlt, hst, rfl⟩
      exact if_pos ⟨by omega, hst⟩

end New

/-! ## Sequences of calls -/

/-- Terminating a server changes its record only. -/
theorem terminate_flows (e : Env) (c : Ctx) (i : Nat) :
    (runServerStateMachine e c i .terminate).flows = c.flows ∧
      (runServerStateMachine e c i .terminate).heap = c.heap ∧
      (runServerStateMachine e c i .terminate).heapTop = c.heapTop := by
  have hh : serverHandler (c.pcpServers i).serverState .terminate = some .terminate := by
    cases (c.pcpServers i).serverState <;> rfl
  rw [runServerStateMachine_eq hh]
  exact ⟨rfl, rfl, rfl⟩

theorem pcpDbFreePcpServers_ctxOk {e : Env} {c : Ctx} (hc : CtxOk c) :
    CtxOk (pcpDbFreePcpServers e c) := by
  have ht : TableOk ((List.range c.pcpServersLength).foldl (fun c i =>
      if (c.pcpServers i).serverState ≠ .unitialized ∧ (c.pcpServers i).serverState ≠ .allocated then
        runServerStateMachine e c i .terminate
      else c) c) := by
    refine List.foldlRecOn (motive := TableOk) _ _ hc.table fun a ha i _ => ?_
    split
    · obtain ⟨hf, hh, ht⟩ := terminate_flows e a i
      exact ha.congr hf (Nat.le_of_eq ht.symm) fun f _ => by rw [hh]; exact ⟨rfl, rfl⟩
    · exact ha
  refine ⟨⟨ht.bucket, ht.nodup, ht.fresh⟩, fun _ => .inl rfl, fun i p hp => ?_⟩
  cases hp

theorem ServerOp.run_ctxOk {e : Env} {c : Ctx} (op : ServerOp) (hc : CtxOk c) :
    CtxOk (op.run e c) := by
  cases op with
  | newServer ip port scopeId =>
    simp only [ServerOp.run]
    rcases pcpNewServer_spec e c ip port scopeId with ⟨-, hacts⟩ | ⟨i, c₁, hacts, hi, hu, heq⟩
    · exact hacts.ctxOk hc
    · rw [heq]
      have hslot := initServer_slotOk e.cfg ip port scopeId (e.nonce c₁.nonces) i (c₁.pcpServers i)
      have hfresh : CallAct e (.fresh i) c₁ (c₁.setServer i
          (initServer e.cfg ip port scopeId (e.nonce c₁.nonces) i (c₁.pcpServers i))) :=
        .fresh c₁ i _ hi hu ⟨hslot, rfl, rfl, UInt8.le_refl _, .inr (.inl rfl)⟩
      exact (EnvOnly.nonces _ _).ctxOk (hfresh.ctxOk (hacts.ctxOk hc))
  | addServer sa version => exact (pcpAddServer_acts hc sa version).ctxOk hc
  | addGws gws => exact (psdAddGws_acts gws).ctxOk hc
  | free => exact pcpDbFreePcpServers_ctxOk hc

theorem serverOps_ctxOk (e : Env) (ops : List ServerOp) {c : Ctx} (hc : CtxOk c) :
    CtxOk (ops.foldl (ServerOp.run e) c) := by
  induction ops generalizing c with
  | nil => exact hc
  | cons op ops ih => exact ih (op.run_ctxOk hc)

/-- Six registrations fill the first five slots and make the array grow. -/
example : (pcpNewServer (.calm {}) ((List.replicate 5 (ServerOp.newServer .any 0 0)).foldl
    (ServerOp.run (.calm {})) {}) .any 0 0).1 = some 5 := by decide +kernel

end LibPcp
