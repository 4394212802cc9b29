import LibPcp.Reach

/-!
# LibPcp.Attachment

Flows stay attached to the server they were created for.

A flow refers to its server by a slot of the server array. `Attached` says that the slot of every flow
in the table is free or holds the server with the address and nonce of the flow's key, and that what
has been sent for the flow went to that address.

Registering a server again frees its slot when no source address is found, with its flows still in the
table. The next new server takes the slot over together with these flows (`slot_taken_over`). In runs
in which new servers come only while no flow is orphaned like that, flows stay attached.
-/

namespace LibPcp

open LabelledSteps

/-- The slot of `f` holds the server `f` was created for. -/
structure HomeOf (c : Ctx) (f : FlowId) : Prop where
  pcpIp : (c.pcpServers (c.heap f).pcpServerIndx).pcpIp = (c.heap f).kd.pcpServerIp
  nonce : (c.pcpServers (c.heap f).pcpServerIndx).nonce = (c.heap f).kd.nonce

/-- A discovered gateway without a source address. Its flows have never sent anything. -/
def Dormant (c : Ctx) (i : Nat) : Prop :=
  (c.pcpServers i).serverState = .allocated ∧
    ∀ f ∈ c.allFlows, (c.heap f).pcpServerIndx = i → ¬ (c.heap f).state.Reacts

structure Attached (c : Ctx) : Prop where
  bound : ∀ f ∈ c.allFlows, (c.heap f).pcpServerIndx < c.pcpServersLength
  home : ∀ f ∈ c.allFlows, Live c (c.heap f).pcpServerIndx → HomeOf c f
  saddr : ∀ i, Live c i → SaddrOk (c.pcpServers i) ∨ Dormant c i
  log : ∀ p ∈ c.io.sent, p.flow < c.heapTop ∧ (p.flow ∈ c.allFlows →
    (serverAddr p.dest).1 = (c.heap p.flow).kd.pcpServerIp)

section Acts

variable {e : Env} {s : Nat} {k : ActKind} {c c' : Ctx}

theorem Frame.mem_allFlows {f : FlowId} (h : Frame s c c') (hf : f ∈ c'.allFlows) :
    f ∈ c.allFlows ∨ (c.heapTop ≤ f ∧ Announces c' s f) := by
  obtain ⟨b, hb, hm⟩ := LibPcp.mem_allFlows.mp hf
  exact (h.added b f hm).imp_left fun hm => LibPcp.mem_allFlows.mpr ⟨b, hb, hm⟩

theorem Frame.home {f : FlowId} (h : Frame s c c') (hf : f < c.heapTop) (hh : HomeOf c f) :
    HomeOf c' f := by
  have hk := h.flow f hf
  have hs := h.same_all (c.heap f).pcpServerIndx
  refine ⟨?_, ?_⟩
  · rw [hk.pcpServerIndx, hs.pcpIp, hk.kd]
    exact hh.pcpIp
  · rw [hk.pcpServerIndx, hs.nonce, hk.kd]
    exact hh.nonce

theorem Server.Same.saddrOk {v w : Server} (h : v.Same w) (hv : SaddrOk v) : SaddrOk w := by
  unfold SaddrOk
  rw [h.pcpServerSaddr, h.pcpIp]
  exact hv

/-- A server that can send has its address set, so its acts keep the attachment. -/
theorem Act.attached (h : Act e s k c c') (hc : CtxOk c) (hl : Live c s)
    (hs : SaddrOk (c.pcpServers s)) (ha : Attached c) : Attached c' := by
  have hf := h.frame
  have hix : (c.pcpServers s).index = s := hc.index hl.2
  have hix' : (c'.pcpServers s).index = s := hf.same.index.trans hix
  have hbound : ∀ f ∈ c'.allFlows, (c'.heap f).pcpServerIndx < c'.pcpServersLength := by
    intro f hm
    rw [hf.length]
    rcases hf.mem_allFlows hm with hm | ⟨-, hann⟩
    · rw [(hf.flow f (hc.alloc hm)).pcpServerIndx]
      exact ha.bound f hm
    · rw [hann.own.2.trans hix']
      exact hl.1
  have hhome : ∀ f ∈ c'.allFlows, Live c' (c'.heap f).pcpServerIndx → HomeOf c' f := by
    intro f hm hlf
    rcases hf.mem_allFlows hm with hm | ⟨-, hann⟩
    · have hlt := hc.alloc hm
      rw [(hf.flow f hlt).pcpServerIndx] at hlf
      exact hf.home hlt (ha.home f hm (hf.live_iff.mp hlf))
    · have hi : (c'.heap f).pcpServerIndx = s := hann.own.2.trans hix'
      refine ⟨?_, ?_⟩
      · rw [hi]
        exact hann.pcpServerIp.symm
      · rw [hi]
        exact hann.nonce.symm
  have hsaddr : ∀ i, Live c' i → SaddrOk (c'.pcpServers i) ∨ Dormant c' i := by
    intro i hli
    by_cases hi : i = s
    · subst hi
      exact .inl (hf.same.saddrOk hs)
    · refine (ha.saddr i (hf.live_iff.mp hli)).imp (hf.same_all i).saddrOk fun hd => ?_
      refine ⟨by rw [hf.others i hi]; exact hd.1, fun f hm hidx => ?_⟩
      rcases hf.mem_allFlows hm with hm | ⟨-, hann⟩
      · have hlt := hc.alloc hm
        rw [(hf.flow f hlt).pcpServerIndx] at hidx
        have hnr := hd.2 f hm hidx
        have hne : (c.heap f).pcpServerIndx ≠ (c.pcpServers s).index := by
          rw [hidx, hix]
          exact hi
        rcases h.foreign hlt hne with heq | ⟨-, -, -, heq⟩
        · rw [heq]
          exact hnr
        · rw [heq hnr]
          exact hnr
      · exact absurd (hidx.symm.trans (hann.own.2.trans hix')) hi
  refine ⟨hbound, hhome, hsaddr, ?_⟩
  obtain ⟨new, hnew, hp⟩ := hf.sent
  obtain ⟨new', hnew', hp'⟩ := h.sent
  have heq : new' = new := List.append_cancel_right (hnew'.symm.trans hnew)
  subst heq
  intro p hmem
  rw [hnew] at hmem
  rcases List.mem_append.mp hmem with hmem | hmem
  · have hr := hp p hmem
    refine ⟨hr.alloc, fun hm => ?_⟩
    have hh := hhome p.flow hm (hr.server ▸ hr.live)
    have hok : SaddrOk (c'.pcpServers p.server) := by
      rcases hp' p hmem with ho | ⟨-, hm', -, hreact⟩
      · have hidx : p.server = s := by
          rw [hr.server, (hf.flow _ ho.1).pcpServerIndx, ho.2, hix]
        rw [hidx]
        exact hf.same.saddrOk hs
      · refine (hf.same_all p.server).saddrOk ?_
        have hsrv : p.server = (c.heap p.flow).pcpServerIndx :=
          hr.server.trans (hf.flow _ (hc.alloc hm')).pcpServerIndx
        rcases ha.saddr p.server (hf.live_iff.mp hr.live) with hok | hd
        · exact hok
        · exact absurd hreact (hd.2 p.flow hm' hsrv.symm)
    calc (serverAddr p.dest).1
        = (serverAddr (c'.pcpServers p.server).pcpServerSaddr).1 := by rw [hr.dest]
      _ = (c'.pcpServers p.server).pcpIp := hok
      _ = (c'.heap p.flow).kd.pcpServerIp := by rw [hr.server]; exact hh.pcpIp
  · obtain ⟨hlt, hlog⟩ := ha.log p hmem
    refine ⟨Nat.lt_of_lt_of_le hlt hf.heapTop, fun hm => ?_⟩
    rw [(hf.flow _ hlt).kd]
    rcases hf.mem_allFlows hm with hm | ⟨hle, -⟩
    · exact hlog hm
    · exact absurd hlt (Nat.not_lt.mpr hle)

theorem Acts.attached {K : List ActKind} (h : Acts e s K c c') (hc : CtxOk c) (hl : Live c s)
    (hs : SaddrOk (c.pcpServers s)) (ha : Attached c) : Attached c' := by
  have hall : CtxOk c' ∧ Live c' s ∧ SaddrOk (c'.pcpServers s) ∧ Attached c' := by
    refine h.invariant (I := fun a => CtxOk a ∧ Live a s ∧ SaddrOk (a.pcpServers s) ∧ Attached a)
      (fun k a b hi hk hact => ?_) ⟨hc, hl, hs, ha⟩
    obtain ⟨hca, hla, hsa, haa⟩ := hi
    have hacts : Acts e s K a b := hact.single hk
    exact ⟨hacts.ctxOk hca hla.2, hact.frame.live_iff.mpr hla, hact.frame.same.saddrOk hsa,
      hact.attached hca hla hsa haa⟩
  exact hall.2.2.2

end Acts

/-! ## Changes that do not send -/

section Quiet

variable {c c' : Ctx}

/-- Flows keep their key and server and do not start to react to timers, servers keep their address
and state, and no flow is added to the table. -/
theorem Attached.congr (ha : Attached c) (htable : ∀ f ∈ c'.allFlows, f ∈ c.allFlows)
    (hheap : ∀ f, (c'.heap f).kd = (c.heap f).kd ∧
      (c'.heap f).pcpServerIndx = (c.heap f).pcpServerIndx ∧
      ((c'.heap f).state.Reacts → (c.heap f).state.Reacts))
    (htop : c'.heapTop = c.heapTop) (hlen : c'.pcpServersLength = c.pcpServersLength)
    (hserv : ∀ i, (c.pcpServers i).Same (c'.pcpServers i) ∧
      (c'.pcpServers i).serverState = (c.pcpServers i).serverState)
    (hsent : c'.io.sent = c.io.sent) : Attached c' := by
  have hlive : ∀ i, Live c' i ↔ Live c i := fun i => by rw [Live, Live, hlen, (hserv i).2]
  refine ⟨fun f hf => ?_, fun f hf hl => ?_, fun i hi => ?_, fun p hp => ?_⟩
  · rw [hlen, (hheap f).2.1]
    exact ha.bound f (htable f hf)
  · obtain ⟨hkd, hix, -⟩ := hheap f
    rw [hix] at hl
    have hh := ha.home f (htable f hf) ((hlive _).mp hl)
    refine ⟨?_, ?_⟩
    · rw [hix, hkd, (hserv _).1.pcpIp]
      exact hh.pcpIp
    · rw [hix, hkd, (hserv _).1.nonce]
      exact hh.nonce
  · refine (ha.saddr i ((hlive i).mp hi)).imp (hserv i).1.saddrOk fun hd => ⟨?_, fun f hf hix => ?_⟩
    · rw [(hserv i).2]
      exact hd.1
    · rw [(hheap f).2.1] at hix
      exact fun hr => hd.2 f (htable f hf) hix ((hheap f).2.2 hr)
  · rw [hsent] at hp
    obtain ⟨hlt, hlog⟩ := ha.log p hp
    refine ⟨htop ▸ hlt, fun hm => ?_⟩
    rw [(hheap p.flow).1]
    exact hlog (htable _ hm)

theorem Attached.setFlow (ha : Attached c) {f : FlowId} {v : Flow} (hkd : v.kd = (c.heap f).kd)
    (hix : v.pcpServerIndx = (c.heap f).pcpServerIndx)
    (hr : v.state.Reacts → (c.heap f).state.Reacts) : Attached (c.setFlow f v) := by
  refine ha.congr (fun _ h => h) (fun g => ?_) rfl rfl (fun _ => ⟨.refl _, rfl⟩) rfl
  by_cases hg : g = f
  · subst hg
    rw [Ctx.setFlow_heap, Function.update_self]
    exact ⟨hkd, hix, hr⟩
  · rw [Ctx.setFlow_heap, Function.update_of_ne hg]
    exact ⟨rfl, rfl, id⟩

theorem Attached.setServer (ha : Attached c) {s : Nat} {v : Server} (h : (c.pcpServers s).Same v)
    (hst : v.serverState = (c.pcpServers s).serverState) : Attached (c.setServer s v) := by
  refine ha.congr (fun _ h => h) (fun _ => ⟨rfl, rfl, id⟩) rfl rfl (fun i => ?_) rfl
  by_cases hi : i = s
  · subst hi
    rw [Ctx.setServer_pcpServers, Function.update_self]
    exact ⟨h, hst⟩
  · rw [Ctx.setServer_pcpServers, Function.update_of_ne hi]
    exact ⟨.refl _, rfl⟩

theorem Attached.setNextTimeout (ha : Attached c) (s : Nat) (t : Timeval) :
    Attached (c.setNextTimeout s t) :=
  ha.setServer ⟨rfl, rfl, rfl, rfl, rfl, rfl, rfl, rfl, .rfl⟩ rfl

theorem Attached.tick (ha : Attached c) : Attached c.tick :=
  ha.congr (fun _ h => h) (fun _ => ⟨rfl, rfl, id⟩) rfl rfl (fun _ => ⟨.refl _, rfl⟩) rfl

theorem Attached.withMsg (ha : Attached c) (m : RecvMsg) : Attached { c with msg := m } :=
  ha.congr (fun _ h => h) (fun _ => ⟨rfl, rfl, id⟩) rfl rfl (fun _ => ⟨.refl _, rfl⟩) rfl

theorem FlowState.reacts_iff_isInactive (st : FlowState) : st.Reacts ↔ st.isInactive = false := by
  cases st <;> decide

theorem Attached.flowUpdated (ha : Attached c) (e : Env) (f : FlowId) :
    Attached (pcpFlowUpdated e c f) := by
  have hwake : ∀ i t, Attached (wakeServer c.tick i t) ∧ (wakeServer c.tick i t).heap = c.heap := by
    intro i t
    rcases wakeServer_cases c.tick i t with ⟨-, h⟩ | ⟨-, h⟩ <;> rw [h]
    · exact ⟨ha.tick, rfl⟩
    · exact ⟨ha.tick.setNextTimeout _ _, rfl⟩
  obtain ⟨hw, hheap⟩ := hwake (c.heap f).pcpServerIndx (e.now c.io)
  rw [pcpFlowUpdated_eq, Ctx.modFlow]
  refine hw.setFlow rfl rfl fun hr => ?_
  rw [markUpdated_state] at hr
  split at hr
  · exact hr
  · rename_i hi
    exact (FlowState.reacts_iff_isInactive _).mpr (by simpa using hi)

theorem Deleted.attached (h : Deleted c c') (ha : Attached c) : Attached c' := by
  refine ha.congr (fun g hg => ?_) (fun g => ?_) h.heapTop h.length (fun i => ?_) (by rw [h.io])
  · obtain ⟨b, hb, hm⟩ := mem_allFlows.mp hg
    exact mem_allFlows.mpr ⟨b, hb, h.table b g hm⟩
  · obtain ⟨k, hk⟩ := h.heap g
    rw [hk]
    exact ⟨rfl, rfl, id⟩
  · rcases h.server i with hi | hi <;> rw [hi]
    · exact ⟨.refl _, rfl⟩
    · exact ⟨⟨rfl, rfl, rfl, rfl, rfl, rfl, rfl, rfl, .rfl⟩, rfl⟩

end Quiet

/-! ## Calls -/

section Calls

variable {e : Env} {c c' : Ctx}

/-- No flow of the table refers to slot `s`. -/
def Vacant (c : Ctx) (s : Nat) : Prop := ∀ f ∈ c.allFlows, (c.heap f).pcpServerIndx ≠ s

/-- The record of slot `s` is replaced. -/
theorem Attached.replace (ha : Attached c) {s : Nat} {v : Server}
    (hhome : Vacant c s ∨ (Live c s ∧ v.pcpIp = (c.pcpServers s).pcpIp ∧
      v.nonce = (c.pcpServers s).nonce))
    (hs : v.serverState ≠ .unitialized → SaddrOk v ∨ (Vacant c s ∧ v.serverState = .allocated)) :
    Attached (c.setServer s v) := by
  have hself : (c.setServer s v).pcpServers s = v := by
    rw [Ctx.setServer_pcpServers, Function.update_self]
  have hother : ∀ i, i ≠ s → (c.setServer s v).pcpServers i = c.pcpServers i := fun i hi => by
    rw [Ctx.setServer_pcpServers, Function.update_of_ne hi]
  refine ⟨ha.bound, fun f hf hl => ?_, fun i hi => ?_, ha.log⟩
  · by_cases hix : (c.heap f).pcpServerIndx = s
    · rcases hhome with hv | ⟨hlive, hip, hn⟩
      · exact absurd hix (hv f hf)
      · have hh := ha.home f hf (hix ▸ hlive)
        refine ⟨?_, ?_⟩
        · rw [Ctx.setServer_heap, hix, hself, hip, ← hh.pcpIp, hix]
        · rw [Ctx.setServer_heap, hix, hself, hn, ← hh.nonce, hix]
    · obtain ⟨hlt, hst⟩ := hl
      rw [Ctx.setServer_heap, hother _ hix] at hst
      have hh := ha.home f hf ⟨hlt, hst⟩
      refine ⟨?_, ?_⟩
      · rw [Ctx.setServer_heap, hother _ hix]
        exact hh.pcpIp
      · rw [Ctx.setServer_heap, hother _ hix]
        exact hh.nonce
  · obtain ⟨hlt, hst⟩ := hi
    by_cases his : i = s
    · subst his
      rw [hself] at hst
      rcases hs hst with hok | ⟨hv, hal⟩
      · exact .inl (by rw [hself]; exact hok)
      · exact .inr ⟨by rw [hself]; exact hal, fun f hf hix => absurd hix (hv f hf)⟩
    · rw [hother i his] at hst
      refine (ha.saddr i ⟨hlt, hst⟩).imp (fun hok => ?_) fun hd => ⟨?_, hd.2⟩
      · rw [hother i his]
        exact hok
      · rw [hother i his]
        exact hd.1

/-- A new flow is created for the server in its slot. -/
theorem Attached.addNewFlow (ha : Attached c) (hc : CtxOk c) {s : Nat} {fl : Flow} {io : Io}
    {t : Timeval} (hl : Live c s) (h : Created (c.pcpServers s) t fl)
    (hs : io.sent = c.io.sent) : Attached (addNewFlow c s fl t io) := by
  have hix : (c.pcpServers s).index = s := hc.index hl.2
  have hsame : ∀ i, (c.pcpServers i).Same ((LibPcp.addNewFlow c s fl t io).pcpServers i) ∧
      ((LibPcp.addNewFlow c s fl t io).pcpServers i).serverState = (c.pcpServers i).serverState := by
    intro i
    rw [addNewFlow_server]
    split
    · rename_i hi
      subst hi
      exact ⟨⟨rfl, rfl, rfl, rfl, rfl, rfl, rfl, rfl, .rfl⟩, rfl⟩
    · exact ⟨.refl _, rfl⟩
  have hlive : ∀ i, Live (LibPcp.addNewFlow c s fl t io) i ↔ Live c i := fun i => by
    rw [Live, Live, (hsame i).2]
    rfl
  have hmem : ∀ f ∈ (LibPcp.addNewFlow c s fl t io).allFlows, f ∈ c.allFlows ∨ f = c.heapTop := by
    intro f hf
    obtain ⟨b, hb, hm⟩ := mem_allFlows.mp hf
    exact (mem_addNewFlow.mp hm).imp (fun hm => mem_allFlows.mpr ⟨b, hb, hm⟩) And.left
  have hold : ∀ f, f < c.heapTop → (LibPcp.addNewFlow c s fl t io).heap f = c.heap f := fun f hf => by
    rw [addNewFlow_heap, if_neg (Nat.ne_of_lt hf)]
  have hnew : (LibPcp.addNewFlow c s fl t io).heap c.heapTop =
      { fl with keyBucket := some (computeFlowKey fl.kd) } := by
    rw [addNewFlow_heap, if_pos rfl]
  refine ⟨fun f hf => ?_, fun f hf hlf => ?_, fun i hi => ?_, fun p hp => ?_⟩
  · rcases hmem f hf with hm | rfl
    · rw [hold f (hc.alloc hm)]
      exact ha.bound f hm
    · rw [hnew]
      exact (h.pcpServerIndx.trans hix).symm ▸ hl.1
  · rcases hmem f hf with hm | rfl
    · rw [hold f (hc.alloc hm)] at hlf
      have hh := ha.home f hm ((hlive _).mp hlf)
      refine ⟨?_, ?_⟩
      all_goals rw [hold f (hc.alloc hm)]
      · rw [(hsame _).1.pcpIp]
        exact hh.pcpIp
      · rw [(hsame _).1.nonce]
        exact hh.nonce
    · have hfi : fl.pcpServerIndx = s := h.pcpServerIndx.trans hix
      refine ⟨?_, ?_⟩
      all_goals rw [hnew]
      · rw [hfi, (hsame s).1.pcpIp]
        exact h.pcpServerIp.symm
      · rw [hfi, (hsame s).1.nonce]
        exact h.nonce.symm
  · refine (ha.saddr i ((hlive i).mp hi)).imp (hsame i).1.saddrOk fun hd => ?_
    refine ⟨by rw [(hsame i).2]; exact hd.1, fun f hf hfi => ?_⟩
    rcases hmem f hf with hm | rfl
    · rw [hold f (hc.alloc hm)] at hfi ⊢
      exact hd.2 f hm hfi
    · rw [hnew] at hfi ⊢
      have hsi : s = i := hix.symm.trans (h.pcpServerIndx.symm.trans hfi)
      have hst := h.state
      rw [hsi, hd.1] at hst
      rw [show fl.state = .waitForServerInit from hst]
      decide
  · change p ∈ io.sent at hp
    rw [hs] at hp
    obtain ⟨hlt, hlog⟩ := ha.log p hp
    refine ⟨Nat.lt_succ_of_lt hlt, fun hm => ?_⟩
    rw [hold _ hlt]
    exact hlog ((hmem _ hm).resolve_right (Nat.ne_of_lt hlt))

/-- No flow of the table refers to a free slot. -/
def NoOrphans (c : Ctx) : Prop := ∀ f ∈ c.allFlows, Live c (c.heap f).pcpServerIndx

instance (c : Ctx) : Decidable (NoOrphans c) :=
  inferInstanceAs (Decidable (∀ f ∈ c.allFlows, _))

theorem CallAct.attached {k : CallKind} (h : CallAct e k c c') (hc : CtxOk c) (ha : Attached c)
    (hk : ∀ s, k = .fresh s → NoOrphans c) : Attached c' := by
  cases h with
  | env h =>
    have hsent := h.sent
    rw [h.eq]
    exact ha.congr (fun _ h => h) (fun _ => ⟨rfl, rfl, id⟩) rfl rfl (fun _ => ⟨.refl _, rfl⟩) hsent
  | array c arr len hold hnew hlen =>
    have hlive : ∀ i, (arr i).serverState ≠ .unitialized → arr i = c.pcpServers i ∧ Live c i := by
      intro i hst
      rcases Nat.lt_or_ge i c.pcpServersLength with hlt | hge
      · have harr := hold i hlt
        exact ⟨harr, hlt, harr ▸ hst⟩
      · rw [hnew i hge] at hst
        exact absurd rfl hst
    refine ⟨fun f hf => Nat.lt_of_lt_of_le (ha.bound f hf) hlen, fun f hf hl => ?_, fun i hi => ?_,
      ha.log⟩
    · obtain ⟨harr, hl⟩ := hlive _ hl.2
      have hh := ha.home f hf hl
      exact ⟨by simp only [harr]; exact hh.pcpIp, by simp only [harr]; exact hh.nonce⟩
    · obtain ⟨harr, hl⟩ := hlive i hi.2
      simp only [Dormant, harr]
      exact ha.saddr i hl
  | fresh c s v hs hu h =>
    have hv : Vacant c s := fun f hf hix => (hix ▸ hk s rfl f hf).2 hu
    refine ha.replace (.inl hv) fun hne => ?_
    rcases h.state with h | h | h
    · exact .inl h.2.2
    · exact .inr ⟨hv, h⟩
    · exact absurd h hne
  | again c s found v hl h =>
    refine ha.replace (.inr ⟨hl, h.pcpIp, h.nonce⟩) fun hne => ?_
    cases found with
    | true => exact .inl (h.ping rfl).2
    | false => exact absurd h.state hne
  | create c s fl io hl h hs ht => exact ha.addNewFlow hc hl h hs
  | link c p f => exact ha.setFlow rfl rfl id
  | update c f v h =>
    exact (ha.setFlow h.kd h.pcpServerIndx (by rw [h.state]; exact id)).flowUpdated e f
  | close c f h =>
    have hzero : Attached (c.modFlow f fun v => { v with lifetime := 0 }) := ha.setFlow rfl rfl id
    exact hzero.flowUpdated e f
  | fail c f h =>
    refine ha.setFlow rfl rfl fun hr => ?_
    exact absurd hr (show ¬ FlowState.failed.Reacts by decide)
  | delete c f => exact (pcpDeleteFlowIntern_deleted c f).attached ha

/-- Putting a server into a free slot orphans nothing. -/
theorem CallAct.noOrphans {k : CallKind} (h : CallAct e k c c') (hk : k = .env ∨ ∃ s, k = .fresh s)
    (hn : NoOrphans c) : NoOrphans c' := by
  cases h with
  | env h =>
    rw [h.eq]
    exact hn
  | array c arr len hold hnew hlen =>
    intro f hf
    have hl := hn f hf
    exact ⟨Nat.lt_of_lt_of_le hl.1 hlen, by simp only [hold _ hl.1]; exact hl.2⟩
  | fresh c s v hs hu h =>
    intro f hf
    have hl := hn f hf
    have hix : (c.heap f).pcpServerIndx ≠ s := by
      intro hix
      rw [hix] at hl
      exact hl.2 hu
    refine ⟨hl.1, ?_⟩
    rw [Ctx.setServer_heap, Ctx.setServer_pcpServers, Function.update_of_ne hix]
    exact hl.2
  | again | create | link | update | close | fail | delete =>
    rcases hk with hk | ⟨_, hk⟩ <;> cases hk

theorem CallActs.attached {K : CallKind → Prop} (h : CallActs e K c c') (hc : CtxOk c)
    (ha : Attached c) (hK : ∀ s, K (.fresh s) →
      NoOrphans c ∧ ∀ k, K k → k = .env ∨ ∃ i, k = .fresh i) : Attached c' := by
  have hall : CtxOk c' ∧ Attached c' ∧ ∀ s, K (.fresh s) → NoOrphans c' := by
    refine h.invariant (I := fun a => CtxOk a ∧ Attached a ∧ ∀ s, K (.fresh s) → NoOrphans a)
      (fun k a b hi hk hact => ?_) ⟨hc, ha, fun s hs => (hK s hs).1⟩
    obtain ⟨hca, haa, hna⟩ := hi
    refine ⟨hact.ctxOk hca, hact.attached hca haa fun s hs => hna s (hs ▸ hk), fun s hs => ?_⟩
    exact hact.noOrphans ((hK s hs).2 k hk) (hna s hs)
  exact hall.2.1

end Calls

/-! ## Runs -/

section Runs

variable {e : Env} {c c' : Ctx}

theorem Attached.received (ha : Attached c) {dg : Datagram} {r : Option Nat}
    (h : acceptMsg e (readMsg e c dg) = (r, c')) : Attached c' := by
  obtain ⟨⟨m, rfl⟩, -⟩ := received_eq h
  exact ha.tick.withMsg m

/-- A server without a source address ignores every event. -/
theorem runServerStateMachine_allocated {s : Nat} {ev : ServerEvent} (hev : ev ≠ .terminate)
    (hst : (c.pcpServers s).serverState = .allocated) :
    runServerStateMachine e c s ev = c.setNextTimeout s .zero := by
  have hh : serverHandler (c.pcpServers s).serverState ev = some .ignoreEvents := by
    rw [hst]
    cases ev with
    | timeout => rfl
    | ioEvent => rfl
    | terminate => exact absurd rfl hev
  rw [runServerStateMachine_eq hh]
  simp [ServerHandler.run, ignoreEvents, Ctx.setNextTimeout, Ctx.modServer, Ctx.setServer]

theorem Attached.dispatch (ha : Attached c) (hc : CtxOk c) {s : Nat} (hl : Live c s)
    {ev : ServerEvent} (hev : ev ≠ .terminate) : Attached (runServerStateMachine e c s ev) := by
  rcases ha.saddr s hl with hs | hd
  · exact (runServerStateMachine_allKinds ev (hc.wf s) hl.2).attached hc hl hs ha
  · rw [runServerStateMachine_allocated hev hd.1]
    exact ha.setNextTimeout s _

theorem Attached.alignNext (ha : Attached c) (s : Nat) : Attached (alignNext c s) :=
  ha.setNextTimeout s _

/-- The steps of a pulse keep the attachment. -/
theorem Micro.attached {l : MicroOp} (h : Micro e l c c') (hl : l.isPulse = true) (hc : CtxOk c)
    (ha : Attached c) : Attached c' := by
  cases h with
  | call hp h => cases hl
  | close hlive => cases hl
  | quiet => exact ha.withMsg _
  | drop h => exact ha.received h
  | recv h =>
    obtain ⟨-, hlive, -⟩ := recv_acts h hc
    exact (ha.received h).dispatch (hc.received h) hlive (by simp)
  | @fire s c hlive hd =>
    have hstart : Acts e s [.own] c (LibPcp.alignNext c.tick s) := fireStart_acts
    exact (ha.tick.alignNext s).dispatch (hstart.ctxOk hc hlive.2) (hstart.frame.live_iff.mpr hlive)
      (by simp)
  | @settle s c hlive hd =>
    unfold LibPcp.settle
    split
    · exact ha.tick
    · exact ha.tick.alignNext s

/-- New servers are added only while no flow refers to a free slot. -/
def SlotsClear (c : Ctx) (op : Op) : Prop := op.takesSlot c = true → NoOrphans c

instance (c : Ctx) (op : Op) : Decidable (SlotsClear c op) :=
  inferInstanceAs (Decidable (_ → _))

theorem Step.attached {op : Op} (h : Step e c op c') (hop : SlotsClear c op) (hc : CtxOk c)
    (ha : Attached c) : Attached c' := by
  refine h.keeps hc ha (fun _ hacts => ?_) (fun f dg _ _ => ?_)
    fun l a b hl hok ha hm => hm.attached hl hok ha
  · refine hacts.attached hc ha fun s hs => ?_
    obtain ⟨htake, hkinds⟩ := Op.kinds_fresh hs
    exact ⟨hop htake, hkinds⟩
  · refine (closeChain_acts f).attached hc ha fun s hs => ?_
    obtain ⟨g, -, hg⟩ := hs
    cases hg

theorem Attached.empty : Attached {} :=
  ⟨fun f hf => absurd hf (by simp [Ctx.allFlows]), fun f hf => absurd hf (by simp [Ctx.allFlows]),
    fun i hi => absurd hi.1 (Nat.not_lt_zero i), fun p hp => by cases hp⟩

/-- Flows stay attached to the server they were created for, in every run in which no new server is
added while a flow of the table refers to a free slot. -/
theorem flows_stay_attached (h : Runs e SlotsClear {} c) :
    (∀ f ∈ c.allFlows, Live c (c.heap f).pcpServerIndx →
      (c.pcpServers (c.heap f).pcpServerIndx).pcpIp = (c.heap f).kd.pcpServerIp ∧
      (c.pcpServers (c.heap f).pcpServerIndx).nonce = (c.heap f).kd.nonce) ∧
    ∀ p ∈ c.io.sent, p.flow ∈ c.allFlows →
      (serverAddr p.dest).1 = (c.heap p.flow).kd.pcpServerIp := by
  have hall : CtxOk c ∧ Attached c :=
    h.invariant (I := fun a => CtxOk a ∧ Attached a)
      (fun op a b ha hop hs => ⟨(hs.cases ha.1).2, hs.attached hop ha.1 ha.2⟩) ⟨.empty, .empty⟩
  obtain ⟨-, ha⟩ := hall
  refine ⟨fun f hf hl => ?_, fun p hp => (ha.log p hp).2⟩
  exact ⟨(ha.home f hf hl).pcpIp, (ha.home f hf hl).nonce⟩

end Runs

/-! ## A slot taken over -/

/-- The second lookup of a source address fails. -/
def flakyEnv : Env :=
  { Env.calm {} with
    lookup := fun i => if i = 1 then none else some (.v4mapped 0x0A000002, 0)
    nonce := fun i => ⟨UInt32.ofNat i, 2, 3⟩ }

/-- A flow is created on `10.0.0.1`, which is then registered again in vain; `10.0.0.3` gets the slot
and pings with that flow. -/
def takeOver : List Op :=
  [.addServer (.inet 0x0A000001 0) 2, .newFlow (.inet 0x0A000002 80) none none 6 60,
   .addServer (.inet 0x0A000001 0) 2, .addServer (.inet 0x0A000003 0) 2,
   .newFlow (.inet 0x0A000002 83) none none 6 60, .pulse none .zero]

theorem slot_taken_over : ∃ e c, Reachable e c ∧
    (∃ f ∈ c.allFlows, Live c (c.heap f).pcpServerIndx ∧
      (c.pcpServers (c.heap f).pcpServerIndx).pcpIp ≠ (c.heap f).kd.pcpServerIp ∧
      (c.pcpServers (c.heap f).pcpServerIndx).nonce ≠ (c.heap f).kd.nonce) ∧
    ∃ p ∈ c.io.sent, p.flow ∈ c.allFlows ∧
      (serverAddr p.dest).1 ≠ (c.heap p.flow).kd.pcpServerIp := by
  refine ⟨flakyEnv, runTo flakyEnv (fun _ _ => True) 8 {} takeOver, Runs.runTo ?_, ?_, ?_⟩
  · decide +kernel
  · decide +kernel
  · decide +kernel

/-- The same start, but no other server comes: registering in vain does not hurt by itself. -/
theorem flows_stay_attached_flaky :
    let c := runTo flakyEnv SlotsClear 8 {}
      [.addServer (.inet 0x0A000001 0) 2, .newFlow (.inet 0x0A000002 80) none none 6 60,
       .pulse none .zero, .addServer (.inet 0x0A000001 0) 2]
    (∀ f ∈ c.allFlows, Live c (c.heap f).pcpServerIndx →
      (c.pcpServers (c.heap f).pcpServerIndx).pcpIp = (c.heap f).kd.pcpServerIp ∧
      (c.pcpServers (c.heap f).pcpServerIndx).nonce = (c.heap f).kd.nonce) ∧
    ∀ p ∈ c.io.sent, p.flow ∈ c.allFlows →
      (serverAddr p.dest).1 = (c.heap p.flow).kd.pcpServerIp :=
  flows_stay_attached (Runs.runTo (by decide +kernel))

end LibPcp
