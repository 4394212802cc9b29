import LibPcp.Quarantine
import LibPcp.Registration

/-!
# LibPcp.Asleep

A known server that is registered again.

`psd_fill_pcp_server_src` was written for new servers: it takes the server back to `pss_ping` and turns
its timer off. A new server is woken by the flows that are made for it. One that is registered again has
its flows already, and no pulse turns the timer on, so the timers of its flows wait for a response or
for another call.
-/

namespace LibPcp

open LabelledSteps

variable {e : Env} {c c' : Ctx}

/-- A pulse before the time `T`. -/
def PulseBefore (e : Env) (T : Int) (c : Ctx) (op : Op) : Prop :=
  (∃ dg t, op = .pulse dg t) ∧ (e.now c.io).us < T

/-- The pulse from `c` to `c'` handles a timeout of flow `f`. -/
def TimesOut (f : FlowId) (c c' : Ctx) : Prop :=
  ∃ new, c'.handled = new ++ c.handled ∧ ∃ h ∈ new, h.flow = f ∧ h.ev = .flowTimedout

/-- Whatever pulses come before `T`, server `s` has a timer that runs out by then, and a pulse from then
on handles the timer of `f`. -/
def WakeupKept (e : Env) (c : Ctx) (s : Nat) (f : FlowId) (T : Int) : Prop :=
  ∀ d, Runs e (PulseBefore e T) c d →
    (d.pcpServers s).nextTimeout.isZero = false ∧ (d.pcpServers s).nextTimeout.us ≤ T ∧
      ∀ dg t d', Step e d (.pulse dg t) d' → T ≤ (e.now d.io).us → TimesOut f d d'

/-- The record of a known server after it was registered again. -/
theorem pcpAddServer_known {sa : SockAddr} {version : UInt8} {s i : Nat}
    (hg : getPcpServerByIp c (serverAddr sa).1 (serverAddr sa).2.2 = some s)
    (h : pcpAddServer e c sa version = (some i, c')) :
    (c'.pcpServers s).nextTimeout = .zero ∧ (c'.pcpServers s).serverState = .ping := by
  unfold pcpAddServer at h
  split at h
  · cases h
  · simp only [psdAddPcpServer, hg] at h
    generalize (if (serverAddr sa).2.1 = 0 then pcpServerPort else (serverAddr sa).2.1) = port at h
    obtain ⟨w, l, hw, -, -, -, -, -, -, -, hst, hping⟩ := registerServer_spec e version
      (c.modServer s fun v => { v with pcpPort := port }) s
    have hsome : (registerServer e version (c.modServer s fun v => { v with pcpPort := port }) s).1.isSome =
        true := by rw [h]; rfl
    have hknown := registerServer_known hsome
    rw [h] at hw
    rw [hknown] at hst
    simp only at hw
    subst hw
    refine ⟨?_, ?_⟩
    · simpa using (hping hknown).1
    · simpa using hst

/-- The steps of pulses without a response of the server leave a timer off that is off. -/
theorem asleep_step {s : Nat} {l : MicroOp} (h : Micro e l c c') (hc : CtxOk c)
    (hpulse : l.isPulse = true) (hhear : l.hears s = false)
    (hz : (c.pcpServers s).nextTimeout.isZero = true) : (c'.pcpServers s).nextTimeout.isZero = true := by
  cases h with
  | call | close => cases hpulse
  | quiet => exact hz
  | drop h =>
    obtain ⟨⟨m, rfl⟩, -⟩ := received_eq h
    exact hz
  | @recv dg i c c₁ h =>
    have hne : s ≠ i := fun heq => ne_of_beq_false hhear heq.symm
    obtain ⟨hacts, -, -⟩ := recv_acts h hc
    obtain ⟨⟨m, rfl⟩, -⟩ := received_eq h
    rw [hacts.frame.others s hne]
    exact hz
  | @fire i c hl hd =>
    by_cases hi : s = i
    · subst hi
      rw [hd.1] at hz
      cases hz
    · rw [(fire_acts (e := e) (hc.wf i) hl.2).frame.others s hi]
      exact hz
  | @settle i c hl hd =>
    by_cases hi : s = i
    · subst hi
      rw [LibPcp.settle, if_pos hz]
      exact hz
    · rw [(settle_acts (e := e) (L := [])).frame.others s hi]
      exact hz

/-- A known server that is registered again has no wake-up, for whatever flow and time, and pulses do
not give it one. -/
theorem reregistered_asleep {sa : SockAddr} {version : UInt8} {s i : Nat} (hc : CtxOk c)
    (hg : getPcpServerByIp c (serverAddr sa).1 (serverAddr sa).2.2 = some s)
    (h : pcpAddServer e c sa version = (some i, c')) (f : FlowId) (T : Int) :
    ¬ WakeupKept e c' s f T ∧
      ∀ d, Micros e (fun _ l => l.isPulse = true ∧ l.hears s = false) c' d →
        (d.pcpServers s).nextTimeout.isZero = true := by
  have hz : (c'.pcpServers s).nextTimeout.isZero = true := by
    rw [(pcpAddServer_known hg h).1]
    rfl
  have hc' : CtxOk c' := by
    have hacts := (pcpAddServer_acts (e := e) hc sa version).ctxOk hc
    rwa [h] at hacts
  refine ⟨fun hkept => ?_, fun d hrun => ?_⟩
  · have hon := (hkept c' .refl).1
    rw [hz] at hon
    cases hon
  · have hinv := hrun.invariant (I := fun a => CtxOk a ∧ (a.pcpServers s).nextTimeout.isZero = true)
      (fun l a b ha hl hstep => ⟨hstep.ctxOk hl.1 ha.1, asleep_step hstep ha.1 hl.1 hl.2 ha.2⟩) ⟨hc', hz⟩
    exact hinv.2

/-- Flow 0 has its mapping, and its renewal is due at time 1030. -/
def mappedFlow : Ctx :=
  runTo (.calm {}) (fun _ _ => True) 12 {}
    (waitingFlow ++ [.pulse (some (mapResponse 0 60 1000 0x0B000001)) .zero])

/-- Its server is added again. -/
def addedAgain : Ctx := (pcpAddServer (.calm {}) mappedFlow (.inet 0x0A000001 0) 2).2

theorem reregistered_asleep_renewal :
    ¬ WakeupKept (.calm {}) addedAgain 0 0 1030000000 ∧
      ∀ d, Micros (.calm {}) (fun _ l => l.isPulse = true ∧ l.hears 0 = false) addedAgain d →
        (d.pcpServers 0).nextTimeout.isZero = true := by
  have hc : CtxOk mappedFlow := Reachable.ctxOk (e := .calm {}) (Runs.runTo (by decide +kernel))
  have hg : getPcpServerByIp mappedFlow (serverAddr (.inet 0x0A000001 0)).1
      (serverAddr (.inet 0x0A000001 0)).2.2 = some 0 := by decide +kernel
  have hi : (pcpAddServer (.calm {}) mappedFlow (.inet 0x0A000001 0) 2).1 = some 0 := by decide +kernel
  exact reregistered_asleep hc hg (Prod.ext hi (by rw [addedAgain])) 0 1030000000

theorem reregistered_wakeup_lost :
    ¬ ∀ (e : Env) (c c' : Ctx) (sa : SockAddr) (version : UInt8) (s i : Nat) (f : FlowId),
      Reachable e c → (c.pcpServers s).serverState = .waitIo →
      getPcpServerByIp c (serverAddr sa).1 (serverAddr sa).2.2 = some s →
      f ∈ c.allFlows → (c.heap f).pcpServerIndx = s → (c.heap f).timeout.isZero = false →
      pcpAddServer e c sa version = (some i, c') →
      WakeupKept e c' s f (c.heap f).timeout.us := by
  intro hall
  have hi : (pcpAddServer (.calm {}) mappedFlow (.inet 0x0A000001 0) 2).1 = some 0 := by decide +kernel
  have hkept := hall (.calm {}) mappedFlow addedAgain (.inet 0x0A000001 0) 2 0 0 0
    (Runs.runTo (by decide +kernel)) (by decide +kernel) (by decide +kernel) (by decide +kernel)
    (by decide +kernel) (by decide +kernel) (Prod.ext hi (by rw [addedAgain]))
  have hon := (hkept addedAgain .refl).1
  revert hon
  decide +kernel

end LibPcp
