import LibPcp.FanOut

/-!
# LibPcp.Families

Address families in `pcp_new_flow`.

`KeepsFamilies`: addresses of different families are refused, and an IPv4 flow to a peer has IPv4
addresses. The check for a mismatch is the last arm of a chain of conditions which an IPv4 source
leaves before, and a source that stays unspecified is replaced by that of each server.

* `FannedOut.mem_new`, `FannedOut.none_iff`: what was created, read off the table.
* `newFlow_keepsFamilies_iff`: the families are kept exactly when no server is `Mixing` or the flows
  cannot be allocated.
-/

namespace LibPcp

/-! ## Families of an address -/

def SockAddr.isInet : SockAddr → Bool
  | .inet .. => true
  | _ => false

/-- IPv4 or IPv6. -/
def SockAddr.isIp : SockAddr → Bool
  | .other .. => false
  | _ => true

/-- The any-address, as `IPV6_IS_ADDR_ANY` has it. -/
def SockAddr.isAny (a : SockAddr) : Bool := (addrOf a).1.isAny

/-- What becomes of the families when `r` is the outcome of `pcp_new_flow`. -/
structure KeepsFamilies (c : Ctx) (src dst : SockAddr) (r : Option FlowId × Ctx) : Prop where
  mismatch : src.sameFamily dst = false → src.isAny = false → r.1 = none ∧ SameTable c r.2
  mapped : src.isInet = true → dst.isInet = true → ∀ f ∈ r.2.allFlows, f ∉ c.allFlows →
    (r.2.heap f).kd.operation = opcodePeer →
      (r.2.heap f).kd.srcIp.isV4mapped = true ∧ (r.2.heap f).kd.dstIp.isV4mapped = true

theorem KeepsFamilies.of_none {c : Ctx} {src dst : SockAddr} {r : Option FlowId × Ctx} (h : r.1 = none)
    (hsame : SameTable c r.2) : KeepsFamilies c src dst r := by
  have hall : r.2.allFlows = c.allFlows := by rw [Ctx.allFlows, Ctx.allFlows, hsame.buckets]
  exact ⟨fun _ _ => ⟨h, hsame⟩, fun _ _ f hf hnew => absurd (hall ▸ hf) hnew⟩

/-! ## What was created -/

section Created

variable {c c' : Ctx} {kd : FlowKeyData} {lifetime : UInt32} {S : List Nat} {r : Option FlowId}

/-- The new flows are those of the table that were not there before. -/
theorem FannedOut.mem_new (h : FannedOut c c' kd lifetime S r) {f : FlowId} :
    f ∈ c'.allFlows ∧ f ∉ c.allFlows ↔ f ∈ newFlows c S.length := by
  constructor
  · rintro ⟨hf, hnot⟩
    obtain ⟨b, hb, hm⟩ := mem_allFlows.mp hf
    rw [h.buckets b] at hm
    cases List.mem_append.mp hm with
    | inl hold => exact absurd (mem_allFlows.mpr ⟨b, hb, hold⟩) hnot
    | inr hnew => exact List.mem_of_mem_filter hnew
  · intro hf
    refine ⟨mem_allFlows.mpr ⟨c'.flowKey f, computeFlowKey_lt _, ?_⟩, h.unlisted f hf⟩
    rw [h.buckets]
    exact List.mem_append_right _ (List.mem_filter.mpr ⟨hf, decide_eq_true rfl⟩)

/-- No flow was made when no server suits. -/
theorem FannedOut.none_iff (h : FannedOut c c' kd lifetime S r) : r = none ∧ SameTable c c' ↔ S = [] := by
  constructor
  · rintro ⟨rfl, -⟩
    have hnew := List.head?_eq_none_iff.mp h.first.symm
    have hlen := congrArg List.length hnew
    rw [newFlows, List.length_range'] at hlen
    exact List.length_eq_zero_iff.mp hlen
  · rintro rfl
    refine ⟨h.first, funext fun b => ?_, h.count, h.old⟩
    rw [h.buckets b]
    exact List.append_nil _

/-- The addresses of the new flows. -/
theorem FannedOut.addresses (h : FannedOut c c' kd lifetime S r) (hop : kd.operation = opcodePeer)
    (P : In6Addr → In6Addr → Prop) :
    (∀ f ∈ c'.allFlows, f ∉ c.allFlows → (c'.heap f).kd.operation = opcodePeer →
      P (c'.heap f).kd.srcIp (c'.heap f).kd.dstIp) ↔
      ∀ s ∈ S, P (if kd.srcIp.isAny then (c.pcpServers s).srcIp else kd.srcIp) kd.dstIp := by
  constructor
  · intro hall s hs
    obtain ⟨k, hk, rfl⟩ := List.getElem_of_mem hs
    obtain ⟨hf, hnot⟩ := h.mem_new.mpr (mem_newFlows.mpr ⟨k, hk, rfl⟩)
    have hkd := (h.asked k hk).1
    have hp := hall (c.heapTop + k) hf hnot (by rw [hkd]; exact hop)
    rw [hkd] at hp
    exact hp
  · intro hall f hf hnot _
    obtain ⟨k, hk, rfl⟩ := mem_newFlows.mp (h.mem_new.mp ⟨hf, hnot⟩)
    rw [(h.asked k hk).1]
    exact hall S[k] (List.getElem_mem hk)

end Created

/-! ## The families of a call -/

section Call

variable {e : Env} {c : Ctx} {src dst : SockAddr} {ext : Option SockAddr} {protocol : UInt8}
  {lifetime : UInt32}

/-- The slots of the servers that get a flow. -/
def chosen (e : Env) (c : Ctx) (src dst : SockAddr) : List Nat :=
  suitable (resolvedSource e c src (some dst)) c c.pcpServersLength

/-- The flow for the server in slot `s` mixes the families: with an IPv4 source nobody looks at the
family of the peer, and a source that is still unspecified becomes that of the server. -/
def Mixing (e : Env) (c : Ctx) (src dst : SockAddr) (s : Nat) : Prop :=
  src.isInet = true ∧ s ∈ chosen e c src dst ∧
    if dst.isInet = true then
      (resolvedSource e c src (some dst)).1.isAny = true ∧ (c.pcpServers s).srcIp.isV4mapped = false
    else src.isAny = false

/-- The kernel's answer is an IPv4 address. -/
theorem resolvedSource_mapped (hsrc : src.isInet = true) :
    (resolvedSource e c src (some dst)).1.isV4mapped = true := by
  cases src with
  | inet a p =>
    have hlookup : ((findsaddr e c).1.getD (.v4mapped a)).isV4mapped = true := by
      unfold findsaddr
      rcases e.findSrc c with ⟨o, c₁⟩
      cases o <;> rfl
    unfold resolvedSource
    repeat' split
    · rfl
    · exact hlookup
    · rename_i hno
      exact absurd rfl (hno a p)
    · rfl
  | inet6 | other => cases hsrc

/-- An IPv4 source is never refused for its family. -/
theorem newFlowKey_inet (e : Env) (c : Ctx) (dst : SockAddr) (protocol : UInt8)
    (hsrc : src.isInet = true) :
    ∃ kd, (newFlowKey e c src (some dst) protocol).1 = some kd := by
  cases src with
  | inet a p =>
    unfold newFlowKey
    cases peerAddr (some dst) with
    | none => exact ⟨_, rfl⟩
    | some d =>
      dsimp only
      split
      · split <;> exact ⟨_, rfl⟩
      · exact ⟨_, rfl⟩
  | inet6 | other => cases hsrc

/-- An IPv6 source is. -/
theorem newFlowKey_refuses (hsrc : src.isInet = false) (hdst : peerAddr (some dst) = some dst)
    (hany : src.isAny = false) (hdiff : src.sameFamily dst = false) :
    (newFlowKey e c src (some dst) protocol).1 = none := by
  have hdiff' : dst.sameFamily src = false := by
    rw [← hdiff]
    cases src <;> cases dst <;> rfl
  have hnot : ¬ (addrOf src).1.isAny = true := by
    rw [SockAddr.isAny] at hany
    simp [hany]
  unfold newFlowKey
  rw [hdst]
  dsimp only
  split
  · cases hsrc
  · rw [addrOf] at hnot
    rw [if_neg hnot, hdiff']
    rfl

section FannedOut

variable {kd : FlowKeyData} {r : Option FlowId × Ctx}

/-- Both addresses are IPv4 addresses. -/
theorem FannedOut.keeps_inet (h : FannedOut c r.2 kd lifetime (chosen e c src dst) r.1)
    (hasks : AsksFor e c src (some dst) protocol kd) (hdst : peerAddr (some dst) = some dst)
    (hsi : src.isInet = true) (hdi : dst.isInet = true) :
    KeepsFamilies c src dst r ↔ ∀ s, ¬ Mixing e c src dst s := by
  have hop : kd.operation = opcodePeer := by
    rw [hasks.operation, hdst]
    rfl
  have hsource : kd.srcIp = (resolvedSource e c src (some dst)).1 := congrArg Prod.fst hasks.source
  have hpeer : kd.dstIp.isV4mapped = true := by
    have hp := congrArg Prod.fst hasks.peer
    dsimp only at hp
    rw [hp, hdst]
    cases dst with
    | inet b q => rfl
    | inet6 | other => cases hdi
  have haddr := h.addresses hop fun a b => a.isV4mapped = true ∧ b.isV4mapped = true
  constructor
  · rintro hkeeps s ⟨-, hs, hmix⟩
    rw [if_pos hdi] at hmix
    have hmapped := (haddr.mp (hkeeps.mapped hsi hdi) s hs).1
    rw [hsource, if_pos hmix.1, hmix.2] at hmapped
    cases hmapped
  · intro hno
    refine ⟨fun hdiff => ?_, fun _ _ => haddr.mpr fun s hs => ⟨?_, hpeer⟩⟩
    · cases src <;> cases dst <;> simp [SockAddr.sameFamily, SockAddr.isInet] at hdiff hsi hdi
    · rw [hsource]
      by_cases hany : (resolvedSource e c src (some dst)).1.isAny = true
      · rw [if_pos hany]
        by_contra hv
        exact hno s ⟨hsi, hs, by rw [if_pos hdi]; exact ⟨hany, by simpa using hv⟩⟩
      · rw [if_neg hany]
        exact resolvedSource_mapped hsi

/-- An IPv4 source with an IPv6 peer. -/
theorem FannedOut.keeps_mixed (h : FannedOut c r.2 kd lifetime (chosen e c src dst) r.1)
    (hsi : src.isInet = true) (hdi : dst.isInet = false) :
    KeepsFamilies c src dst r ↔ ∀ s, ¬ Mixing e c src dst s := by
  have hnot : ¬ dst.isInet = true := by simp [hdi]
  constructor
  · rintro hkeeps s ⟨-, hs, hmix⟩
    rw [if_neg hnot] at hmix
    have hdiff : src.sameFamily dst = false := by
      cases src <;> cases dst <;> simp [SockAddr.sameFamily, SockAddr.isInet] at hsi hdi ⊢
    have hnone := h.none_iff.mp (hkeeps.mismatch hdiff hmix)
    rw [hnone] at hs
    cases hs
  · intro hno
    refine ⟨fun _ hany => h.none_iff.mpr (List.eq_nil_iff_forall_not_mem.mpr fun s hs => ?_),
      fun _ hdi' => absurd hdi' hnot⟩
    exact hno s ⟨hsi, hs, by rw [if_neg hnot]; exact hany⟩

end FannedOut

/-- The families are kept exactly when no server mixes them, or the memory for the flows runs out and
all of them are taken back. -/
theorem newFlow_keepsFamilies_iff (hr : Reachable e c) (hsrc : src.isIp = true)
    (hdst : peerAddr (some dst) = some dst) :
    KeepsFamilies c src dst (pcpNewFlow e c src (some dst) ext protocol lifetime) ↔
      (∀ s, ¬ Mixing e c src dst s) ∨
        ∃ k, k < (chosen e c src dst).length ∧ e.calloc (c.io.callocs + k) = false := by
  cases hinet : src.isInet with
  | false =>
    -- an IPv6 source: the check is made
    have hkeeps : KeepsFamilies c src dst (pcpNewFlow e c src (some dst) ext protocol lifetime) := by
      refine ⟨fun hdiff hany => ?_, fun h => ?_⟩
      · obtain ⟨n, hn⟩ : ∃ n, pcpNewFlow e c src (some dst) ext protocol lifetime =
            (none, { c with lookups := n }) :=
          pcpNewFlow_none (.inl (newFlowKey_refuses hinet hdst hany hdiff))
        rw [hn]
        exact ⟨rfl, rfl, rfl, fun _ _ => rfl⟩
      · rw [hinet] at h
        cases h
    refine ⟨fun _ => .inl fun s hs => ?_, fun _ => hkeeps⟩
    rw [Mixing, hinet] at hs
    cases hs.1
  | true =>
    obtain ⟨kd, hkey⟩ := newFlowKey_inet e c dst protocol hinet
    obtain ⟨ext', hext⟩ : ∃ ext', ext.or (defaultExtAddr src) = some ext' := by
      cases ext with
      | some x => exact ⟨x, rfl⟩
      | none =>
        cases src with
        | inet | inet6 => exact ⟨_, rfl⟩
        | other => cases hsrc
    obtain ⟨hasks, hmade, hundone⟩ := newFlow_fans_out hr.ctxOk lifetime hkey hext
    by_cases hfail : ∃ k, k < (chosen e c src dst).length ∧ e.calloc (c.io.callocs + k) = false
    · obtain ⟨hnone, hsame⟩ := hundone hfail
      exact ⟨fun _ => .inr hfail, fun _ => .of_none hnone hsame⟩
    · have hfan := hmade fun k hk => by
        by_contra hno
        exact hfail ⟨k, hk, by simpa using hno⟩
      rw [or_iff_left hfail]
      cases hdi : dst.isInet with
      | true => exact hfan.keeps_inet hasks hdst hinet hdi
      | false => exact hfan.keeps_mixed hinet hdi

end Call

/-- An IPv4 server. -/
def inetServer : Ctx := runTo (.calm {}) (fun _ _ => True) 1 {} [.addServer (.inet 0x0A000001 0) 2]

/-- Families that are kept: an IPv4 peer of an IPv4 source. -/
theorem newFlow_keepsFamilies_iff_inet :
    KeepsFamilies inetServer (.inet 0x0A000002 80) (.inet 0x0B000001 443)
      (pcpNewFlow (.calm {}) inetServer (.inet 0x0A000002 80) (some (.inet 0x0B000001 443)) none 6 60) := by
  have hr : Reachable (.calm {}) inetServer := Runs.runTo (by decide +kernel)
  have hsource : (resolvedSource (.calm {}) inetServer (.inet 0x0A000002 80)
      (some (.inet 0x0B000001 443))).1.isAny = false := by decide +kernel
  refine (newFlow_keepsFamilies_iff hr rfl rfl).mpr (.inl ?_)
  rintro s ⟨-, -, hany, -⟩
  rw [hsource] at hany
  cases hany

/-- A flow from `10.0.0.2` to `2001:db8::1` is created. -/
theorem newFlow_mixes_families :
    ¬ ∀ (e : Env) (c : Ctx) (src dst : SockAddr) (ext : Option SockAddr) (protocol : UInt8)
      (lifetime : UInt32), Reachable e c → src.isIp = true → peerAddr (some dst) = some dst →
      KeepsFamilies c src dst (pcpNewFlow e c src (some dst) ext protocol lifetime) := by
  intro hall
  have hr : Reachable (.calm {}) inetServer := Runs.runTo (by decide +kernel)
  have hnone := ((hall (.calm {}) inetServer (.inet 0x0A000002 80)
    (.inet6 ⟨0x20010DB8, 0, 0, 1⟩ 443 0) none 6 60 hr rfl rfl).mismatch rfl rfl).1
  revert hnone
  decide +kernel

end LibPcp
