import LibPcp.Gateways
import LibPcp.Registration

/-!
# LibPcp.Discovery

Automatic discovery (`psd_add_gws`, called by `pcp_init`) from the answers of the kernel to the servers.

A gateway gets a slot of the table of servers unless it has one. Its source address may not be found;
the slot is taken nevertheless.

* `gatewayStep_discovers`: one gateway, and `psdAddGws_discovers` all of them.
* `psdAddGwsIo_dump`: the addresses of the servers in use after the discovery are those from before and
  the gateways of the dump, and the servers from before are as they were.
-/

namespace LibPcp

open ByteBuffer

variable {e : Env} {c c' c'' : Ctx}

/-- The whole of `psd_add_gws`. An error of `getgateways` is a count of gateways below zero. -/
def psdAddGwsIo (h : HostOrder) (pid : UInt32) (e : Env) (io : NlIo) (c : Ctx) : Option Ctx :=
  (getgateways h pid io).map fun
    | .ok gws => psdAddGws e gws c
    | .error _ => c

/-- The servers of `c` are kept, and each address with `found` has one. -/
structure Discovers (c c' : Ctx) (found : In6Addr → Prop) : Prop where
  kept : ∀ s, Live c s → Live c' s ∧ c'.pcpServers s = c.pcpServers s
  new : ∀ s, Live c' s → Live c s ∨ found (c'.pcpServers s).pcpIp
  all : ∀ ip, found ip → ∃ s, Live c' s ∧ (c'.pcpServers s).pcpIp = ip

theorem Discovers.refl (c : Ctx) : Discovers c c fun _ => False :=
  ⟨fun _ hl => ⟨hl, rfl⟩, fun _ hl => .inl hl, fun _ hf => hf.elim⟩

theorem Discovers.trans {found found' : In6Addr → Prop} (h₁ : Discovers c c' found)
    (h₂ : Discovers c' c'' found') : Discovers c c'' fun ip => found ip ∨ found' ip := by
  refine ⟨?_, ?_, ?_⟩
  · intro s hl
    obtain ⟨hl', heq⟩ := h₁.kept s hl
    obtain ⟨hl'', heq'⟩ := h₂.kept s hl'
    exact ⟨hl'', heq'.trans heq⟩
  · intro s hl''
    obtain hl' | hfound := h₂.new s hl''
    · obtain hl | hfound := h₁.new s hl'
      · exact .inl hl
      · rw [(h₂.kept s hl').2]
        exact .inr (.inl hfound)
    · exact .inr (.inr hfound)
  · rintro ip (hfound | hfound)
    · obtain ⟨s, hl', hip⟩ := h₁.all ip hfound
      obtain ⟨hl'', heq⟩ := h₂.kept s hl'
      exact ⟨s, hl'', heq ▸ hip⟩
    · exact h₂.all ip hfound

theorem Discovers.congr {found found' : In6Addr → Prop} (h : Discovers c c' found)
    (hiff : ∀ ip, found ip ↔ found' ip) : Discovers c c' found' := by
  rwa [show found' = found from funext fun ip => propext (hiff ip).symm]

/-- With enough memory there is a slot. -/
theorem pcpNewServer_some (hcalloc : ∀ n, e.calloc n = true) (c : Ctx) (ip : In6Addr) (port : UInt16)
    (scopeId : UInt32) : ∃ i c', pcpNewServer e c ip port scopeId = (some i, c') := by
  unfold pcpNewServer allocServers
  by_cases hz : c.pcpServersLength = 0
  · simp only [if_pos hz, hcalloc, if_true]
    split
    · exact ⟨_, _, rfl⟩
    · simp only [growServers, hcalloc, if_true]
      exact ⟨_, _, rfl⟩
  · simp only [if_neg hz]
    split
    · exact ⟨_, _, rfl⟩
    · simp only [growServers, hcalloc, if_true]
      exact ⟨_, _, rfl⟩

/-- The body of the loop over the gateways. -/
def gatewayStep (e : Env) (c : Ctx) (gw : In6Addr × UInt32) : Ctx := psdAddGws e [gw] c

theorem psdAddGws_cons (gw : In6Addr × UInt32) (gws : List (In6Addr × UInt32)) :
    psdAddGws e (gw :: gws) c = psdAddGws e gws (gatewayStep e c gw) := rfl

/-- Looking for the source address changes the new record only, which stays in use. -/
theorem psdFillPcpServerSrc_record {s : Nat} (hs : (c.pcpServers s).serverState ≠ .unitialized) :
    ∃ w l, (psdFillPcpServerSrc e c s).2 = { c.setServer s w with lookups := l } ∧
      w.serverState ≠ .unitialized ∧ w.pcpIp = (c.pcpServers s).pcpIp := by
  obtain ⟨a, l, hspec⟩ := psdFillPcpServerSrc_spec e c s
  obtain ⟨-, hfill⟩ | ⟨-, -, src, scope, hfill⟩ := hspec
  · rw [hfill]
    exact ⟨(c.pcpServers s).setSaddr a, l, rfl, hs, rfl⟩
  · rw [hfill]
    refine ⟨_, l, rfl, ?_, rfl⟩
    simp [startPing]

theorem gatewayStep_discovers (hcalloc : ∀ n, e.calloc n = true) (c : Ctx) (gw : In6Addr × UInt32) :
    Discovers c (gatewayStep e c gw) fun ip => ip = gw.1 ∧ ¬ gw.1.isAny = true := by
  simp only [gatewayStep, psdAddGws, List.foldl_cons, List.foldl_nil]
  by_cases hany : gw.1.isAny = true
  · rw [if_pos hany]
    exact (Discovers.refl c).congr fun ip => ⟨False.elim, fun hip => hip.2 hany⟩
  rw [if_neg hany]
  cases hget : getPcpServerByIp c gw.1 gw.2 with
  | some s =>
    have haddr := getPcpServerByIp_hasAddr hget
    refine ⟨fun _ hl => ⟨hl, rfl⟩, fun _ hl => .inl hl, ?_⟩
    rintro ip ⟨rfl, -⟩
    exact ⟨s, getPcpServerByIp_live hget, haddr.1⟩
  | none =>
    obtain ⟨i, c₁, hnew⟩ := pcpNewServer_some hcalloc c gw.1 pcpServerPort gw.2
    have htakes := pcpNewServer_takesLowest hnew
    have hip := (pcpNewServer_hasAddr hnew).1.1
    have hslot : getPcpServer c₁ i = some i := getPcpServer_live ⟨htakes.taken.1, htakes.taken.2.1⟩
    obtain ⟨w, l, hfill, hw, hwip⟩ := psdFillPcpServerSrc_record (e := e) htakes.taken.2.1
    simp only [Option.isSome_none, Bool.false_eq_true, if_false, hnew, hslot, hfill]
    have hlive : ∀ s, Live { c₁.setServer i w with lookups := l } s ↔ s = i ∨ Live c s :=
      fun s => (setServer_live ⟨htakes.taken.1, htakes.taken.2.1⟩ hw s).trans (htakes.live s)
    have hself : (c₁.setServer i w).pcpServers i = w := by
      rw [Ctx.setServer_pcpServers, Function.update_self]
    refine ⟨?_, ?_, ?_⟩
    · intro s hl
      have hne : s ≠ i := by
        rintro rfl
        exact hl.2 (htakes.free hl.1)
      refine ⟨(hlive s).mpr (.inr hl), ?_⟩
      change (c₁.setServer i w).pcpServers s = c.pcpServers s
      rw [Ctx.setServer_pcpServers, Function.update_of_ne hne, htakes.others s hl.1 hne]
    · intro s hl
      obtain rfl | hl := (hlive s).mp hl
      · refine .inr ⟨?_, hany⟩
        change ((c₁.setServer s w).pcpServers s).pcpIp = gw.1
        rw [hself, hwip, hip]
      · exact .inl hl
    · rintro ip ⟨rfl, -⟩
      refine ⟨i, (hlive i).mpr (.inl rfl), ?_⟩
      change ((c₁.setServer i w).pcpServers i).pcpIp = gw.1
      rw [hself, hwip, hip]

theorem psdAddGws_discovers (hcalloc : ∀ n, e.calloc n = true) (c : Ctx) (gws : List (In6Addr × UInt32)) :
    Discovers c (psdAddGws e gws c) fun ip => (∃ gw ∈ gws, gw.1 = ip) ∧ ¬ ip.isAny = true := by
  induction gws generalizing c with
  | nil => exact (Discovers.refl c).congr (by simp)
  | cons gw gws ih =>
    rw [psdAddGws_cons]
    refine ((gatewayStep_discovers hcalloc c gw).trans (ih _)).congr fun ip => ?_
    constructor
    · rintro (⟨rfl, hany⟩ | ⟨⟨gw', hmem, hip⟩, hany⟩)
      · exact ⟨⟨gw, List.mem_cons_self, rfl⟩, hany⟩
      · exact ⟨⟨gw', List.mem_cons_of_mem gw hmem, hip⟩, hany⟩
    · rintro ⟨⟨gw', hmem, rfl⟩, hany⟩
      rcases List.mem_cons.mp hmem with rfl | hmem
      · exact .inl ⟨rfl, hany⟩
      · exact .inr ⟨⟨gw', hmem, rfl⟩, hany⟩

/-- A gateway of a route in the dump, if the dump fits. -/
def InDump (h : HostOrder) (pid : UInt32) (groups : List (List Route)) (ip : In6Addr) : Prop :=
  (dumpBytes h pid groups).length + 20 ≤ bufSize ∧ ¬ ip.isAny = true ∧
    ∃ g ∈ groups, ∃ r ∈ g, ∃ scopeId, r.found = some (ip, scopeId)

/-- Every gateway of the dump has a server afterwards, and no other address has got one; a dump that does
not fit leaves the context as it was. Memory suffices. -/
theorem psdAddGwsIo_dump {h : HostOrder} {pid : UInt32} {groups : List (List Route)} {realloc : Nat → Bool}
    (hwf : Dump.Wf h groups) (hrealloc : ∀ n, realloc n = true) (hcalloc : ∀ n, e.calloc n = true) (c : Ctx) :
    ∃ c', psdAddGwsIo h pid e ⟨true, true, nlDump h pid groups, realloc⟩ c = some c' ∧
      Discovers c c' (InDump h pid groups) ∧
      (bufSize < (dumpBytes h pid groups).length + 20 → c' = c) := by
  by_cases hover : bufSize < (dumpBytes h pid groups).length + 20
  · rw [psdAddGwsIo, getgateways_overrun hwf realloc hover]
    refine ⟨c, rfl, (Discovers.refl c).congr fun ip => ⟨False.elim, fun hin => ?_⟩, fun _ => rfl⟩
    exact absurd hin.1 (Nat.not_le.mpr hover)
  · rw [psdAddGwsIo, getgateways_collects hwf realloc hover, if_pos fun k _ => hrealloc k]
    refine ⟨_, rfl, (psdAddGws_discovers hcalloc c _).congr fun ip => ?_, fun h => absurd h hover⟩
    simp only [List.mem_filterMap, List.mem_flatten, Prod.exists, exists_and_right, exists_eq_right]
    constructor
    · rintro ⟨⟨scopeId, r, ⟨g, hg, hr⟩, hfound⟩, hany⟩
      exact ⟨Nat.not_lt.mp hover, hany, g, hg, r, hr, scopeId, hfound⟩
    · rintro ⟨-, hany, g, hg, r, hr, scopeId, hfound⟩
      exact ⟨⟨scopeId, r, ⟨g, hg, hr⟩, hfound⟩, hany⟩

/-- Of the gateways of `defaultRoutes` the one with an IPv4 address is a server now. -/
theorem psdAddGwsIo_dump_default :
    ∃ c', psdAddGwsIo .little 7 (.calm {}) ⟨true, true, nlDump .little 7 defaultRoutes, fun _ => true⟩ {} =
        some c' ∧
      ∃ s, Live c' s ∧ (c'.pcpServers s).pcpIp = .v4mapped 0xC0000201 := by
  obtain ⟨c', hdump, hfound, -⟩ := @psdAddGwsIo_dump (.calm {}) .little 7 defaultRoutes (fun _ => true)
    defaultRoutes_wf (fun _ => rfl) (fun _ => rfl) {}
  refine ⟨c', hdump, hfound.all _ ⟨by decide +kernel, by decide, ?_⟩⟩
  exact ⟨_, List.mem_cons_self, _, List.mem_cons_self, 2, by decide⟩

end LibPcp
