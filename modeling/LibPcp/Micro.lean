import LibPcp.Handlers
import LibPcp.Run

/-!
# LibPcp.Micro

A run in its smallest steps.

`hserver_iter` is a sequence of timeouts that are due (`fire`), ended by a look at the timer that finds
it off or in the future (`settle`). A pulse is one received datagram or none and then such steps of
the servers in turn. `Micro` has these steps and the application's calls as its transitions, so
that a moment inside a pulse is a state like any other; every run is a sequence of them
(`Reachable.micros`).
-/

namespace LibPcp

open LabelledSteps

/-! ## Timeouts of a server -/

/-- The server's timer is on and has run out. -/
def Due (e : Env) (c : Ctx) (s : Nat) : Prop :=
  (c.pcpServers s).nextTimeout.isZero = false ∧
    (c.pcpServers s).nextTimeout.us ≤ (e.now c.io).us

instance (e : Env) (c : Ctx) (s : Nat) : Decidable (Due e c s) :=
  inferInstanceAs (Decidable (_ ∧ _))

def alignNext (c : Ctx) (s : Nat) : Ctx :=
  c.setNextTimeout s (timevalAlign (c.pcpServers s).nextTimeout)

/-- A round of the loop of `hserver_iter` with the timer due. -/
def fire (e : Env) (s : Nat) (c : Ctx) : Ctx :=
  runServerStateMachine e (alignNext c.tick s) s .timeout

/-- The round that ends the loop. -/
def settle (s : Nat) (c : Ctx) : Ctx :=
  if (c.pcpServers s).nextTimeout.isZero then c.tick else alignNext c.tick s

theorem hserverLoop_succ (e : Env) (s n : Nat) (c : Ctx) :
    ∃ t, hserverLoop e s (n + 1) c =
      if Due e c s then hserverLoop e s n (fire e s c) else some (t, settle s c) := by
  have hsub : ∀ t, (timevalSubtractInto (c.pcpServers s).nextTimeout t).1 =
      decide ((c.pcpServers s).nextTimeout.us ≤ t.us) := by
    intro t
    rw [Bool.eq_iff_iff, timevalSubtractInto_fst, decide_eq_true_eq]
  cases hz : (c.pcpServers s).nextTimeout.isZero with
  | true =>
    refine ⟨e.now c.io, ?_⟩
    rw [if_neg (by simp [Due, hz])]
    simp only [hserverLoop, Ctx.tick_pcpServers, hz, if_true, settle]
  | false =>
    refine ⟨(timevalSubtractInto (c.pcpServers s).nextTimeout (e.now c.io)).2.2, ?_⟩
    by_cases hd : (c.pcpServers s).nextTimeout.us ≤ (e.now c.io).us
    · rw [if_pos ⟨hz, hd⟩]
      simp only [hserverLoop, Ctx.tick_pcpServers, hz, hsub, hd, decide_true, if_true,
        timevalSubtractInto_x, Bool.false_eq_true, if_false]
      rfl
    · rw [if_neg fun h => hd h.2]
      simp only [hserverLoop, Ctx.tick_pcpServers, hz, hsub, hd, decide_false, if_false,
        timevalSubtractInto_x, Bool.false_eq_true, settle]
      rfl

/-- Timeouts of `s` one after the other, each of them due. -/
inductive Fires (e : Env) (s : Nat) : Ctx → Ctx → Prop where
  | nil (c : Ctx) : Fires e s c c
  | cons {c c' : Ctx} (hdue : Due e c s) (h : Fires e s (fire e s c) c') : Fires e s c c'

theorem hserverLoop_some {e : Env} {s n : Nat} {c c' : Ctx} {t : Timeval}
    (h : hserverLoop e s n c = some (t, c')) :
    ∃ c₁, Fires e s c c₁ ∧ ¬ Due e c₁ s ∧ c' = settle s c₁ := by
  induction n generalizing c with
  | zero => simp [hserverLoop] at h
  | succ n ih =>
    obtain ⟨t', heq⟩ := hserverLoop_succ e s n c
    rw [heq] at h
    by_cases hd : Due e c s
    · rw [if_pos hd] at h
      obtain ⟨c₁, hf, hnd, hc⟩ := ih h
      exact ⟨c₁, .cons hd hf, hnd, hc⟩
    · rw [if_neg hd] at h
      cases h
      exact ⟨c, .nil c, hd, rfl⟩

theorem hserverIter_some {e : Env} {n s : Nat} {ev : ServerEvent} {c c' : Ctx}
    {t t' : Option Timeval} (h : hserverIter e n ev c s t = some (c', t'))
    (hlive : (c.pcpServers s).serverState ≠ .unitialized) :
    ∃ c₁, Fires e s (if ev ≠ .timeout then runServerStateMachine e c s ev else c) c₁ ∧
      ¬ Due e c₁ s ∧ c' = settle s c₁ := by
  unfold hserverIter at h
  rw [if_neg hlive] at h
  dsimp only at h
  split at h
  · cases h
  · rename_i ctv c₂ hloop
    have hc : c₂ = c' := by
      split at h
      · cases h; rfl
      · split at h
        · cases h; rfl
        · split at h <;> (cases h; rfl)
    subst hc
    exact hserverLoop_some hloop

theorem hserverIter_unitialized {e : Env} {n s : Nat} {ev : ServerEvent} {c c' : Ctx}
    {t t' : Option Timeval} (h : hserverIter e n ev c s t = some (c', t'))
    (hlive : (c.pcpServers s).serverState = .unitialized) : c' = c := by
  unfold hserverIter at h
  rw [if_pos hlive] at h
  cases h
  rfl

/-! ## Micro-steps -/

inductive MicroOp where
  -- a call that does not pulse
  | call (op : Op)
  -- `pcp_close_flow` before its pulse
  | close (f : FlowId)
  -- what a pulse finds on the socket: nothing, a datagram that is dropped, a response of a server
  | quiet
  | drop (dg : Datagram)
  | recv (dg : Datagram) (s : Nat)
  | fire (s : Nat)
  | settle (s : Nat)

/-- Whether the call returns without a pulse. -/
def Op.isPlain : Op → Bool
  | .closeFlow .. | .pulse .. => false
  | _ => true

def Live (c : Ctx) (s : Nat) : Prop :=
  s < c.pcpServersLength ∧ (c.pcpServers s).serverState ≠ .unitialized

instance (c : Ctx) (s : Nat) : Decidable (Live c s) := inferInstanceAs (Decidable (_ ∧ _))

theorem serverOf_of_live {a : Ctx} {i : Nat} (hl : Live a i) : serverOf a i = some (a.pcpServers i) := by
  have hget : getPcpServer a i = some i := if_pos hl
  rw [serverOf, hget]
  rfl

inductive Micro (e : Env) : MicroOp → Ctx → Ctx → Prop where
  | call {op : Op} {c c' : Ctx} (hp : op.isPlain) (h : step e 0 c op = some c') :
      Micro e (.call op) c c'
  | close {f : FlowId} {c : Ctx} (hl : ∀ g ∈ c.chain f, g ∈ c.allFlows) :
      Micro e (.close f) c (closeChain e c f)
  | quiet (c : Ctx) : Micro e .quiet c { c with msg := .zero }
  | drop {dg : Datagram} {c c' : Ctx} (h : acceptMsg e (readMsg e c dg) = (none, c')) :
      Micro e (.drop dg) c c'
  | recv {dg : Datagram} {s : Nat} {c c' : Ctx} (h : acceptMsg e (readMsg e c dg) = (some s, c')) :
      Micro e (.recv dg s) c (runServerStateMachine e c' s .ioEvent)
  | fire {s : Nat} {c : Ctx} (hl : Live c s) (hd : Due e c s) : Micro e (.fire s) c (fire e s c)
  | settle {s : Nat} {c : Ctx} (hl : Live c s) (hd : ¬ Due e c s) : Micro e (.settle s) c (settle s c)

/-- Sequences of micro-steps that `P` allows. -/
abbrev Micros (e : Env) (P : Ctx → MicroOp → Prop) : Ctx → Ctx → Prop := Steps (Micro e) P

/-- The steps of the second half of a pulse. -/
def MicroOp.isTimer : MicroOp → Bool
  | .fire _ | .settle _ => true
  | _ => false

/-- The steps of a pulse. -/
def MicroOp.isPulse : MicroOp → Bool
  | .call _ | .close _ => false
  | _ => true

/-- The first step of a pulse that finds `dg`. -/
def MicroOp.Receives (dg : Option Datagram) : MicroOp → Prop
  | .quiet => dg = none
  | .drop d => dg = some d
  | .recv d _ => dg = some d
  | _ => False

abbrev TimerSteps (e : Env) : Ctx → Ctx → Prop := Micros e fun _ l => l.isTimer

/-! ## Well-formed contexts -/

/-- A slot that has been used: it knows its place, and its family is the one of its address. -/
structure SlotOk (i : Nat) (v : Server) : Prop where
  index : v.index = i
  af : v.af = .inet → v.pcpIp.isV4mapped = true

/-- The table is in order, used slots are, and ping flows belong to their servers. -/
structure CtxOk (c : Ctx) : Prop where
  table : TableOk c
  slot : ∀ i, c.pcpServers i = .zero ∨ SlotOk i (c.pcpServers i)
  ping : ∀ i p, (c.pcpServers i).pingFlowMsg = some p → Own c i p

theorem CtxOk.wf {c : Ctx} (h : CtxOk c) (s : Nat) : Wf c s := ⟨h.table, h.ping s⟩

theorem CtxOk.alloc {c : Ctx} (h : CtxOk c) {f : FlowId} (hf : f ∈ c.allFlows) : f < c.heapTop :=
  (h.wf 0).alloc hf

theorem CtxOk.used {c : Ctx} (h : CtxOk c) {s : Nat}
    (hs : (c.pcpServers s).serverState ≠ .unitialized) : SlotOk s (c.pcpServers s) := by
  rcases h.slot s with hz | hi
  · rw [hz] at hs
    exact absurd rfl hs
  · exact hi

theorem CtxOk.index {c : Ctx} (h : CtxOk c) {s : Nat}
    (hs : (c.pcpServers s).serverState ≠ .unitialized) : (c.pcpServers s).index = s :=
  (h.used hs).index

theorem Acts.ctxOk {e : Env} {s : Nat} {K : List ActKind} {c c' : Ctx} (h : Acts e s K c c')
    (hc : CtxOk c) (hs : (c.pcpServers s).serverState ≠ .unitialized) : CtxOk c' := by
  have hf := h.frame
  refine ⟨h.tableOk hc.table, fun i => ?_, fun i p hp => ?_⟩
  · by_cases hi : i = s
    · subst hi
      refine .inr ⟨hf.same.index.trans (hc.index hs), ?_⟩
      rw [hf.same.af, hf.same.pcpIp]
      exact (hc.used hs).af
    · rw [hf.others i hi]
      exact hc.slot i
  · by_cases hi : i = s
    · subst hi
      exact (h.wf (hc.wf i)).ping p hp
    · rw [hf.others i hi] at hp
      exact hf.own (hc.ping i p hp)

section Live

variable {e : Env} {s i : Nat} {c c' : Ctx}

theorem Frame.live_iff (h : Frame s c c') : Live c' i ↔ Live c i := by
  rw [Live, Live, h.length, ne_eq, ne_eq, (h.same_all i).live]

theorem alignNext_acts {L : List ActKind} : Acts e s (.own :: L) c (alignNext c s) :=
  setNextTimeout_acts _

theorem settle_acts {L : List ActKind} : Acts e s (.own :: L) c (settle s c) := by
  unfold settle
  split
  · exact tick_acts
  · exact tick_acts.trans alignNext_acts

/-- Every kind of act. -/
def allKinds : List ActKind := [.own, .walk, .response, .version, .reveal, .announce]

theorem mem_allKinds (k : ActKind) : k ∈ allKinds := by cases k <;> simp [allKinds]

theorem Acts.allKinds {K : List ActKind} (h : Acts e s K c c') : Acts e s allKinds c c' :=
  h.mono fun _ k _ => mem_allKinds k

/-- Some row of the table applies to every state and event. -/
theorem serverHandler_total (st : ServerState) (ev : ServerEvent) : ∃ h, serverHandler st ev = some h := by
  cases st <;> cases ev <;> exact ⟨_, rfl⟩

theorem runServerStateMachine_allKinds (ev : ServerEvent) (hw : Wf c s)
    (hs : (c.pcpServers s).serverState ≠ .unitialized) :
    Acts e s LibPcp.allKinds c (runServerStateMachine e c s ev) := by
  obtain ⟨h, hh⟩ := serverHandler_total (c.pcpServers s).serverState ev
  exact (runServerStateMachine_acts hh hw hs).allKinds

/-- The context in which a timeout is dispatched. -/
theorem fireStart_acts {L : List ActKind} : Acts e s (.own :: L) c (alignNext c.tick s) :=
  tick_acts.trans alignNext_acts

theorem alignNext_self : (alignNext c s).pcpServers s =
    { c.pcpServers s with nextTimeout := timevalAlign (c.pcpServers s).nextTimeout } :=
  Ctx.setNextTimeout_self ..

theorem alignNext_state : ((alignNext c s).pcpServers s).serverState = (c.pcpServers s).serverState := by
  rw [alignNext_self]

theorem fire_acts (hw : Wf c s) (hs : (c.pcpServers s).serverState ≠ .unitialized) :
    Acts e s LibPcp.allKinds c (fire e s c) := by
  have h : Acts e s LibPcp.allKinds c (alignNext c.tick s) := fireStart_acts
  refine h.trans (runServerStateMachine_allKinds .timeout (h.wf hw) ?_)
  rw [alignNext_state]
  exact hs

end Live

/-! ## Pulses are sequences of micro-steps -/

section Pulse

variable {e : Env} {n s : Nat} {c c' : Ctx}

/-- The loop of `hserver_iter`, with the facts about its steps that need the context to be in order. -/
theorem Fires.timerSteps (h : Fires e s c c') (hc : CtxOk c) (hl : Live c s) :
    TimerSteps e c c' ∧ CtxOk c' ∧ Live c' s ∧ c'.pcpServersLength = c.pcpServersLength := by
  induction h with
  | nil c => exact ⟨.refl, hc, hl, rfl⟩
  | @cons a _ hdue _ ih =>
    have hacts := fire_acts (e := e) (hc.wf s) hl.2
    obtain ⟨h₁, h₂, h₃, h₄⟩ := ih (hacts.ctxOk hc hl.2) (hacts.frame.live_iff.mpr hl)
    exact ⟨Steps.trans (.single (.fire hl hdue) rfl) h₁, h₂, h₃, h₄.trans hacts.frame.length⟩

theorem hserverIter_timeout {t t' : Option Timeval}
    (h : hserverIter e n .timeout c s t = some (c', t')) (hc : CtxOk c) (hs : s < c.pcpServersLength) :
    TimerSteps e c c' ∧ CtxOk c' ∧ c'.pcpServersLength = c.pcpServersLength := by
  by_cases hu : (c.pcpServers s).serverState = .unitialized
  · rw [hserverIter_unitialized h hu]
    exact ⟨.refl, hc, rfl⟩
  · obtain ⟨c₁, hf, hnd, rfl⟩ := hserverIter_some h hu
    rw [if_neg (by simp)] at hf
    obtain ⟨h₁, h₂, h₃, h₄⟩ := hf.timerSteps hc ⟨hs, hu⟩
    have hset : Acts e s [.own] c₁ (settle s c₁) := settle_acts
    exact ⟨h₁.trans (.single (.settle h₃ hnd) rfl), hset.ctxOk h₂ h₃.2,
      hset.frame.length.trans h₄⟩

theorem pulseTimeouts_timer {ss : List Nat} {t t' : Option Timeval}
    (h : pulseTimeouts e n ss c t = some (c', t')) (hc : CtxOk c)
    (hs : ∀ s ∈ ss, s < c.pcpServersLength) : TimerSteps e c c' ∧ CtxOk c' := by
  induction ss generalizing c t with
  | nil => cases h; exact ⟨.refl, hc⟩
  | cons s ss ih =>
    simp only [pulseTimeouts] at h
    cases hi : hserverIter e n .timeout c s t with
    | none => rw [hi] at h; cases h
    | some r =>
      obtain ⟨c₁, t₁⟩ := r
      rw [hi] at h
      obtain ⟨h₁, h₂, h₃⟩ := hserverIter_timeout hi hc (hs s List.mem_cons_self)
      obtain ⟨h₄, h₅⟩ := ih h h₂ fun i hi => h₃ ▸ hs i (List.mem_cons_of_mem s hi)
      exact ⟨h₁.trans h₄, h₅⟩

theorem CtxOk.withMsg (hc : CtxOk c) (m : RecvMsg) : CtxOk { c with msg := m } :=
  ⟨⟨hc.table.bucket, hc.table.nodup, hc.table.fresh⟩, hc.slot, hc.ping⟩

theorem readMsg_eq (e : Env) (c : Ctx) (dg : Datagram) :
    ∃ m, readMsg e c dg = { c.tick with msg := m } :=
  ⟨_, rfl⟩

/-- Accepting a datagram only fills in the message, and finds an initialised server. -/
theorem acceptMsg_eq (e : Env) (c : Ctx) :
    (∃ m, (acceptMsg e c).2 = { c with msg := m }) ∧
      ∀ s, (acceptMsg e c).1 = some s → Live c s := by
  unfold acceptMsg
  split
  · split
    · dsimp only
      split
      · rename_i i hs
        refine ⟨⟨_, rfl⟩, fun s h => ?_⟩
        cases h
        exact mem_servers.mp (List.mem_of_find?_eq_some hs)
      · exact ⟨⟨_, rfl⟩, by simp⟩
    · exact ⟨⟨_, rfl⟩, by simp⟩
  · exact ⟨⟨c.msg, rfl⟩, by simp⟩

/-- What a received datagram leaves before it is processed. -/
theorem received_eq {dg : Datagram} {r : Option Nat} (h : acceptMsg e (readMsg e c dg) = (r, c')) :
    (∃ m, c' = { c.tick with msg := m }) ∧ ∀ s, r = some s → Live c s := by
  obtain ⟨m₀, h₀⟩ := readMsg_eq e c dg
  obtain ⟨⟨m, hm⟩, hlive⟩ := acceptMsg_eq e (readMsg e c dg)
  rw [h] at hm hlive
  rw [h₀] at hm hlive
  exact ⟨⟨m, hm⟩, hlive⟩

theorem CtxOk.received (hc : CtxOk c) {dg : Datagram} {r : Option Nat}
    (h : acceptMsg e (readMsg e c dg) = (r, c')) : CtxOk c' := by
  obtain ⟨⟨m, rfl⟩, -⟩ := received_eq h
  exact ⟨⟨hc.table.bucket, hc.table.nodup, hc.table.fresh⟩, hc.slot, hc.ping⟩

/-- The response of a server is dispatched to it. -/
theorem recv_acts {dg : Datagram} (h : acceptMsg e (readMsg e c dg) = (some s, c')) (hc : CtxOk c) :
    Acts e s allKinds c' (runServerStateMachine e c' s .ioEvent) ∧ Live c' s ∧
      c'.pcpServersLength = c.pcpServersLength := by
  have hc' := hc.received h
  obtain ⟨⟨m, rfl⟩, hlive⟩ := received_eq h
  have hl : Live { c.tick with msg := m } s := hlive s rfl
  exact ⟨runServerStateMachine_allKinds .ioEvent (hc'.wf s) hl.2, hl, rfl⟩

theorem pulseRecv_micro {dg : Option Datagram} (h : pulseRecv e n c dg = some c') (hc : CtxOk c) :
    ∃ l c₁, l.Receives dg ∧ Micro e l c c₁ ∧ TimerSteps e c₁ c' ∧ CtxOk c' ∧
      c'.pcpServersLength = c.pcpServersLength := by
  cases dg with
  | none =>
    cases h
    exact ⟨.quiet, _, rfl, .quiet c, .refl, hc.withMsg _, rfl⟩
  | some dg =>
    simp only [pulseRecv] at h
    rcases ha : acceptMsg e (readMsg e c dg) with ⟨r, c₂⟩
    rw [ha] at h
    cases r with
    | none =>
      cases h
      obtain ⟨⟨m, hm⟩, -⟩ := received_eq ha
      exact ⟨.drop dg, _, rfl, .drop ha, .refl, hc.received ha, by rw [hm]; rfl⟩
    | some s =>
      obtain ⟨hacts, hl, hlen⟩ := recv_acts ha hc
      have hok := hacts.ctxOk (hc.received ha) hl.2
      simp only [Option.map_eq_some_iff] at h
      obtain ⟨⟨c₃, t⟩, hi, rfl⟩ := h
      obtain ⟨c₄, hf, hnd, rfl⟩ := hserverIter_some hi hl.2
      rw [if_pos (by simp)] at hf
      obtain ⟨h₁, h₂, h₃, h₄⟩ := hf.timerSteps hok (hacts.frame.live_iff.mpr hl)
      have hset : Acts e s [.own] c₄ (settle s c₄) := settle_acts
      refine ⟨.recv dg s, _, rfl, .recv ha, h₁.trans (.single (.settle h₃ hnd) rfl),
        hset.ctxOk h₂ h₃.2, ?_⟩
      rw [hset.frame.length, h₄, hacts.frame.length, hlen]

/-- A pulse: one step for what the socket holds, then timer steps. -/
theorem pcpPulse_micro {dg : Option Datagram} {t : Timeval} {t' : Option Timeval}
    (h : pcpPulse e n c dg t = some (c', t')) (hc : CtxOk c) :
    ∃ l c₁, l.Receives dg ∧ Micro e l c c₁ ∧ TimerSteps e c₁ c' ∧ CtxOk c' := by
  unfold pcpPulse at h
  split at h
  · cases h
  · rename_i c₂ hr
    obtain ⟨l, c₁, hl, hm, hts, hok, -⟩ := pulseRecv_micro hr hc
    obtain ⟨h₁, h₂⟩ := pulseTimeouts_timer h hok fun s hs => List.mem_range.mp hs
    exact ⟨l, c₁, hl, hm, hts.trans h₁, h₂⟩

end Pulse

/-! ## Computing micro-steps -/

/-- The context after the step `l`, if there is one. -/
def microStep (e : Env) (c : Ctx) : MicroOp → Option Ctx
  | .call op => if op.isPlain then step e 0 c op else none
  | .close f => if ∀ g ∈ c.chain f, g ∈ c.allFlows then some (closeChain e c f) else none
  | .quiet => some { c with msg := .zero }
  | .drop dg =>
    match acceptMsg e (readMsg e c dg) with
    | (none, c') => some c'
    | (some _, _) => none
  | .recv dg s =>
    match acceptMsg e (readMsg e c dg) with
    | (none, _) => none
    | (some s', c') => if s' = s then some (runServerStateMachine e c' s .ioEvent) else none
  | .fire s => if Live c s ∧ Due e c s then some (LibPcp.fire e s c) else none
  | .settle s => if Live c s ∧ ¬ Due e c s then some (LibPcp.settle s c) else none

theorem Micro.of_microStep {e : Env} {c c' : Ctx} {l : MicroOp} (h : microStep e c l = some c') :
    Micro e l c c' := by
  cases l with
  | call op =>
    simp only [microStep] at h
    split at h
    · exact .call ‹_› h
    · cases h
  | close f =>
    simp only [microStep] at h
    split at h
    · cases h
      exact .close ‹_›
    · cases h
  | quiet =>
    cases h
    exact .quiet c
  | drop dg =>
    simp only [microStep] at h
    split at h
    · cases h
      exact .drop ‹_›
    · cases h
  | recv dg s =>
    simp only [microStep] at h
    split at h
    · cases h
    · split at h
      · rename_i heq hs
        subst hs
        cases h
        exact .recv heq
      · cases h
  | fire s =>
    simp only [microStep] at h
    split at h
    · rename_i hd
      cases h
      exact .fire hd.1 hd.2
    · cases h
  | settle s =>
    simp only [microStep] at h
    split at h
    · rename_i hd
      cases h
      exact .settle hd.1 hd.2
    · cases h

/-- The context after the steps `ls`, all of which `P` has to allow. -/
def microsTo (e : Env) (P : Ctx → MicroOp → Prop) [∀ c l, Decidable (P c l)] (c : Ctx)
    (ls : List MicroOp) : Option Ctx :=
  follow (fun c l => if P c l then microStep e c l else none) c ls

theorem Micros.of_microsTo {e : Env} {P : Ctx → MicroOp → Prop} [∀ c l, Decidable (P c l)]
    {c d : Ctx} {ls : List MicroOp} (h : (microsTo e P c ls).isSome = true) :
    Micros e P c ((microsTo e P c ls).getD d) := by
  obtain ⟨c', hc'⟩ := Option.isSome_iff_exists.mp h
  rw [hc', Option.getD_some]
  refine Steps.of_follow (fun a l b hl => ?_) hc'
  split at hl
  · exact ⟨‹_›, .of_microStep hl⟩
  · cases hl

end LibPcp
