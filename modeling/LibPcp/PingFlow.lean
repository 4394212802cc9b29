import LibPcp.Woken

/-!
# LibPcp.PingFlow

`ping_flow_msg` never points to a flow that has been deleted.

The pointer is written when a ping flow is chosen from the table and when an announcement is created
and added to it. `pcp_delete_flow_intern` clears it only if the flow's server can be looked up, which
it can as long as the server is registered. So the invariant is about servers too: one with a ping flow
is live.

* `ping_flow_listed`: it holds in every run in which `pcp_add_server` does not fail.
-/

namespace LibPcp

open LabelledSteps

/-- A server with a ping flow is registered, and the flow is in the table. -/
def PingsListed (c : Ctx) : Prop :=
  ∀ s p, (c.pcpServers s).pingFlowMsg = some p → Live c s ∧ p ∈ c.allFlows

section Acts

variable {e : Env} {s : Nat} {c c' : Ctx}

theorem PingsListed.keep (h : PingsListed c)
    (hping : ∀ i p, (c'.pcpServers i).pingFlowMsg = some p → (c.pcpServers i).pingFlowMsg = some p)
    (hlive : ∀ i, Live c i → Live c' i) (hflows : ∀ f ∈ c.allFlows, f ∈ c'.allFlows) :
    PingsListed c' := by
  intro i p hp
  obtain ⟨hl, hm⟩ := h i p (hping i p hp)
  exact ⟨hlive i hl, hflows p hm⟩

/-- A new ping flow is in the table. -/
theorem Act.ping {k : ActKind} (h : Act e s k c c') {p : FlowId}
    (hp : (c'.pcpServers s).pingFlowMsg = some p) :
    (c.pcpServers s).pingFlowMsg = some p ∨ p ∈ c'.allFlows := by
  cases h with
  | tick c => exact .inl hp
  | server c v h hkeep =>
    rw [Ctx.setServer_pcpServers, Function.update_self] at hp
    exact (hkeep p hp).imp_right (·.2)
  | reset c f r ho => exact .inl hp
  | putBack c f ho => exact .inl hp
  | event c f ev ho hev => exact .inl (by simpa using hp)
  | align k c f hk ht => exact .inl hp
  | expire k c f hk ht => exact .inl (by simpa [Ctx.modFlow] using hp)
  | response c f ho => exact .inl (by simpa using hp)
  | extAddr c a => exact .inl hp
  | version c n => exact .inl (by simpa [Ctx.modServer] using hp)
  | reveal c f h => exact .inl (by simpa [Ctx.modServer] using hp)
  | announce c =>
    rcases createNatpmpAnnMsg_cases e c s with h | ⟨fl, -, -, -, -, -, -, h⟩
    · rw [h] at hp
      simp [Ctx.modServer] at hp
    · rw [h] at hp ⊢
      simp only [pcpDbAddFlow, Ctx.modFlow, Ctx.modServer, Ctx.setFlow_pcpServers,
        Ctx.setServer_pcpServers, Function.update_self, Option.some.injEq] at hp
      subst hp
      exact .inr (mem_allFlows.mpr
        ⟨_, computeFlowKey_lt _, mem_pcpDbAddFlow.mpr (.inr ⟨rfl, rfl⟩)⟩)

theorem Act.pingsListed {k : ActKind} (h : Act e s k c c') (hl : Live c s) (hi : PingsListed c) :
    PingsListed c' := by
  have hframe := h.frame
  intro i p hp
  rw [hframe.live_iff]
  by_cases his : i = s
  · subst his
    refine ⟨hl, (h.ping hp).elim (fun hold => ?_) id⟩
    exact hframe.allFlows (hi i p hold).2
  · rw [hframe.others i his] at hp
    exact ⟨(hi i p hp).1, hframe.allFlows (hi i p hp).2⟩

theorem Acts.pingsListed {K : List ActKind} (h : Acts e s K c c') (hl : Live c s)
    (hi : PingsListed c) : PingsListed c' := by
  have hall : Live c' s ∧ PingsListed c' :=
    h.invariant (I := fun a => Live a s ∧ PingsListed a)
      (fun _ _ _ ha _ hact => ⟨hact.frame.live_iff.mpr ha.1, hact.pingsListed ha.1 ha.2⟩) ⟨hl, hi⟩
  exact hall.2

theorem Micro.pingsListed {l : MicroOp} (h : Micro e l c c') (hl : l.isPulse = true) (hc : CtxOk c)
    (hi : PingsListed c) : PingsListed c' := by
  have hreceived : ∀ {dg : Datagram} {r : Option Nat} {a : Ctx},
      acceptMsg e (readMsg e c dg) = (r, a) → PingsListed a := by
    intro dg r a h
    obtain ⟨⟨m, rfl⟩, -⟩ := received_eq h
    exact hi
  cases h with
  | call hp h => cases hl
  | close hlive => cases hl
  | quiet => exact hi
  | drop h => exact hreceived h
  | recv h =>
    obtain ⟨hacts, hlive, -⟩ := recv_acts h hc
    exact hacts.pingsListed hlive (hreceived h)
  | fire hlive hd => exact (fire_acts (hc.wf _) hlive.2).pingsListed hlive hi
  | @settle i c hlive hd =>
    have hset : Acts e i [.own] c (LibPcp.settle i c) := settle_acts
    exact hset.pingsListed hlive hi

end Acts

/-! ## Calls -/

section Calls

variable {e : Env} {c c' : Ctx}

/-- A flow is taken out of the one bucket it is in. -/
theorem mem_pcpDbRemFlow (h : TableOk c) {f g : FlowId} {b : Nat} :
    g ∈ (pcpDbRemFlow c f).2.flows b ↔ g ∈ c.flows b ∧ g ≠ f := by
  by_cases hf : ∃ b', f ∈ c.flows b'
  · obtain ⟨b', hb'⟩ := hf
    simp only [pcpDbRemFlow, (h.bucket b' f hb').1, if_pos hb']
    by_cases hb : b = b'
    · subst hb
      rw [Function.update_self, (h.nodup b).mem_erase_iff]
      exact and_comm
    · rw [Function.update_of_ne hb]
      refine (and_iff_left_of_imp ?_).symm
      rintro hm rfl
      have hbuckets := (h.bucket b g hm).2.symm.trans (h.bucket b' g hb').2
      exact hb hbuckets
  · rcases pcpDbRemFlow_cases c f with heq | ⟨b', hb', -⟩
    · rw [heq]
      refine (and_iff_left_of_imp ?_).symm
      rintro hm rfl
      exact hf ⟨b, hm⟩
    · exact absurd ⟨b', hb'⟩ hf

theorem pcpDeleteFlowIntern_flows (c : Ctx) (f : FlowId) :
    (pcpDeleteFlowIntern c f).flows = (pcpDbRemFlow c f).2.flows := by
  rcases pcpDeleteFlowIntern_cases c f with h | ⟨s, -, h⟩
  · rw [h]
  · rw [h]
    rfl

/-- The flow that is deleted is no server's ping flow any more. -/
theorem PingsListed.delete (hi : PingsListed c) (hc : CtxOk c) (f : FlowId) :
    PingsListed (pcpDeleteFlowIntern c f) := by
  obtain ⟨hdel, hservers⟩ := pcpDbRemFlow_deleted c f
  have hlive : ∀ i, Live (pcpDbRemFlow c f).2 i ↔ Live c i := by
    intro i
    rw [Live, Live, hservers, hdel.length]
  have hindx : ∀ g, ((pcpDbRemFlow c f).2.heap g).pcpServerIndx = (c.heap g).pcpServerIndx := by
    intro g
    obtain ⟨k, hk⟩ := hdel.heap g
    rw [hk]
  intro i p hp
  by_cases hpf : (c.pcpServers i).pingFlowMsg = some f
  · -- The server can be looked up, so its pointer is cleared.
    have hl := (hi i f hpf).1
    have hown : (c.heap f).pcpServerIndx = i := (hc.ping i f hpf).2.trans (hc.used hl.2).index
    have hget : getPcpServer (pcpDbRemFlow c f).2 ((pcpDbRemFlow c f).2.heap f).pcpServerIndx = some i := by
      rw [hindx, hown]
      exact if_pos ((hlive i).mpr hl)
    simp only [pcpDeleteFlowIntern, hget, hservers, hpf, if_true, Ctx.modServer_self] at hp
    cases hp
  · have hold : (c.pcpServers i).pingFlowMsg = some p := by
      rcases (pcpDeleteFlowIntern_deleted c f).server i with h | h
      · rwa [h] at hp
      · rw [h] at hp
        cases hp
    obtain ⟨hl, hm⟩ := hi i p hold
    have hne : p ≠ f := by
      rintro rfl
      exact hpf hold
    refine ⟨?_, ?_⟩
    · rcases (pcpDeleteFlowIntern_deleted c f).server i with h | h
      all_goals
        rw [Live, (pcpDeleteFlowIntern_deleted c f).length, h]
        exact hl
    · obtain ⟨b, hb, hmb⟩ := mem_allFlows.mp hm
      refine mem_allFlows.mpr ⟨b, hb, ?_⟩
      rw [pcpDeleteFlowIntern_flows, mem_pcpDbRemFlow hc.table]
      exact ⟨hmb, hne⟩

/-- Every act of a call but a registration in vain. -/
theorem CallAct.pingsListed {k : CallKind} (h : CallAct e k c c') (hk : ∀ s, k ≠ .again s false)
    (hc : CtxOk c) (hi : PingsListed c) : PingsListed c' := by
  have hping : ∀ i p, (c'.pcpServers i).pingFlowMsg = some p → (c.pcpServers i).pingFlowMsg = some p :=
    fun i p hp => h.pingFlowMsg hp
  have hlive : ∀ i, Live c i → Live c' i := by
    intro i hl
    rcases h.server hl with ⟨found, rfl⟩ | ⟨hsame, hlen, -⟩
    · cases h with
      | again c s found v hl h =>
        refine ⟨hl.1, ?_⟩
        rw [Ctx.setServer_pcpServers, Function.update_self, h.state]
        cases found with
        | true => decide
        | false => exact absurd rfl (hk i)
    · exact ⟨hlen, hsame.serverState ▸ hl.2⟩
  cases h with
  | env h =>
    refine hi.keep hping hlive fun g hg => ?_
    rw [h.eq]
    exact hg
  | array | fresh | again | link | fail => exact hi.keep hping hlive fun g hg => hg
  | create c s fl io hl h hs ht =>
    refine hi.keep hping hlive fun g hg => ?_
    obtain ⟨b, hb, hm⟩ := mem_allFlows.mp hg
    exact mem_allFlows.mpr ⟨b, hb, mem_addNewFlow.mpr (.inl hm)⟩
  | update c f v h =>
    refine hi.keep hping hlive fun g hg => ?_
    rwa [Ctx.allFlows, pcpFlowUpdated_flows]
  | close c f h =>
    refine hi.keep hping hlive fun g hg => ?_
    rwa [Ctx.allFlows, zeroLifetime, pcpFlowUpdated_flows]
  | delete c f => exact hi.delete hc f

theorem CallActs.pingsListed {K : CallKind → Prop} (h : CallActs e K c c')
    (hK : ∀ s, ¬ K (.again s false)) (hc : CtxOk c) (hi : PingsListed c) : PingsListed c' := by
  have hall : CtxOk c' ∧ PingsListed c' := by
    refine h.invariant (I := fun a => CtxOk a ∧ PingsListed a) (fun k a b ha hk hact => ?_) ⟨hc, hi⟩
    refine ⟨hact.ctxOk ha.1, hact.pingsListed (fun s hs => hK s ?_) ha.1 ha.2⟩
    rwa [hs] at hk
  exact hall.2

end Calls

/-! ## Runs -/

section Runs

variable {e : Env} {c c' : Ctx}

/-- The call does not fail to add a server. -/
def Op.addsServer (e : Env) (c : Ctx) : Op → Bool
  | .addServer sa version => (pcpAddServer e c sa version).1.isSome
  | _ => true

/-- `pcp_add_server` does not fail. -/
def AddsServer (e : Env) (c : Ctx) (op : Op) : Prop := op.addsServer e c = true

instance (e : Env) (c : Ctx) (op : Op) : Decidable (AddsServer e c op) :=
  inferInstanceAs (Decidable (_ = true))

theorem registerServer_known {version : UInt8} {s : Nat}
    (h : (registerServer e version c s).1.isSome = true) :
    SourceKnown e c (c.pcpServers s) = true := by
  have hself : (c.modServer s fun v =>
      { v with pcpVersion := version, serverState := .allocated }).pcpServers s =
      { c.pcpServers s with pcpVersion := version, serverState := .allocated } := Ctx.modServer_self ..
  obtain ⟨a, l, hspec⟩ := psdFillPcpServerSrc_spec e
    (c.modServer s fun v => { v with pcpVersion := version, serverState := .allocated }) s
  rw [hself] at hspec
  rcases hspec with ⟨-, hfill⟩ | ⟨hk, -⟩
  · simp only [registerServer, hfill] at h
    cases h
  · exact hk

/-- A server that is registered again has a source address. -/
theorem Op.kinds_found {op : Op} (h : AddsServer e c op) (s : Nat) :
    ¬ op.kinds e c (.again s false) := by
  cases op with
  | addServer sa version =>
    rintro ⟨hv, hs, hfound⟩
    have hle : ¬ version > pcpMaxSupportedVersion := UInt8.not_lt.mpr hv
    simp only [AddsServer, Op.addsServer, pcpAddServer, if_neg hle, psdAddPcpServer, hs] at h
    have hknown := registerServer_known h
    rw [Ctx.modServer_self] at hknown
    change SourceKnown e c (c.pcpServers s) = true at hknown
    rw [hknown] at hfound
    cases hfound
  | addGws | newFlow | learnDscp | closeFlow | pulse => exact id
  | setLifetime | set3rdPartyOpt | setFilterOpt | setPreferFailureOpt | setUserid | setLocation
  | setDeviceid | addMd | setFlowp => exact id
  | deleteFlow f =>
    rintro ⟨g, -, hg⟩
    cases hg
  | setFlowChangeCb b => exact fun h => by cases h

theorem Step.pingsListed {op : Op} (h : Step e c op c') (hop : AddsServer e c op) (hc : CtxOk c)
    (hi : PingsListed c) : PingsListed c' := by
  refine h.keeps hc hi (fun _ hacts => hacts.pingsListed (Op.kinds_found hop) hc hi)
    (fun f dg _ _ => ?_) fun l a b hl ha hia hm => hm.pingsListed hl ha hia
  refine (closeChain_acts f).pingsListed (fun s hs => ?_) hc hi
  obtain ⟨g, -, hg⟩ := hs
  cases hg

/-- Between the calls of a run in which every server can be added, the ping flow of a server is a flow
of the table and of that server. -/
theorem ping_flow_listed (h : Runs e (AddsServer e) {} c) (s : Nat) (p : FlowId)
    (hp : (c.pcpServers s).pingFlowMsg = some p) :
    p ∈ c.allFlows ∧ (c.heap p).pcpServerIndx = (c.pcpServers s).index := by
  have hall : CtxOk c ∧ PingsListed c :=
    h.invariant (I := fun a => CtxOk a ∧ PingsListed a)
      (fun op a b ha hop hs => ⟨(hs.cases ha.1).2, hs.pingsListed hop ha.1 ha.2⟩)
      ⟨.empty, fun _ _ h => by cases h⟩
  exact ⟨(hall.2 s p hp).2, (hall.1.ping s p hp).2⟩

/-- The server has fallen back to NAT-PMP and pings with an announcement, the flow it pinged with before
has been deleted. -/
def announces : Ctx :=
  runTo (.calm {}) (AddsServer (.calm {})) 8 {}
    (waitingFlow ++
      [.pulse (some { announceResponse 1 with bytes := [0, 0x80, 0, 1] ++ List.replicate 8 0 }) .zero,
       .deleteFlow 0])

theorem ping_flow_listed_announcement :
    (announces.pcpServers 0).pingFlowMsg = some 1 ∧ 1 ∈ announces.allFlows ∧
      (announces.heap 1).pcpServerIndx = (announces.pcpServers 0).index := by
  have hping : (announces.pcpServers 0).pingFlowMsg = some 1 := by decide +kernel
  have hrun : Runs (.calm {}) (AddsServer (.calm {})) {} announces := Runs.runTo (by decide +kernel)
  exact ⟨hping, ping_flow_listed hrun 0 1 hping⟩

end Runs

end LibPcp
