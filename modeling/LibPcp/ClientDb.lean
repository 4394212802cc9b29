import Mathlib.Data.List.Nodup
import LibPcp.Types

/-!
# LibPcp.ClientDb

The flow table and the server array (`pcp_client_db.c`).

A flow pointer is a `FlowId` into `Ctx.heap`; the allocator hands out a new id on every successful
call, so two flows never share one. A server pointer is its position in the array. The iterators of
the source become folds over `Ctx.allFlows` and over the positions of the array: the callbacks that a
pulse passes to `pcp_db_foreach_flow` and `pcp_db_foreach_server` do not change the chain they are
called on.
-/

namespace LibPcp

open ByteBuffer

/-- Memory image of `struct flow_key_data`: fields in order, with the compiler's padding. The scope
is the one field in host byte order. -/
def FlowKeyData.bytes (kd : FlowKeyData) : List UInt8 :=
  [kd.operation, 0, 0, 0] ++ kd.srcIp.bytes ++ kd.pcpServerIp.bytes ++ (be32 kd.scopeId).reverse ++
    kd.nonce.bytes ++ [kd.protocol, 0] ++ be16 kd.srcPort ++ kd.dstIp.bytes ++ be16 kd.dstPort ++
    [0, 0]

def hashByte (h : UInt32) (k : UInt8) : UInt32 :=
  let ho := h &&& 0xff000000
  let h := h <<< 8
  let h := h ^^^ (ho >>> 24)
  h ^^^ k.toUInt32

def computeFlowKey (kd : FlowKeyData) : Nat :=
  ((kd.bytes.foldr (fun k h => hashByte h k) 0 * 0x9E3779B9) >>> 27).toNat

theorem computeFlowKey_lt (kd : FlowKeyData) : computeFlowKey kd < flowHashSize := by
  have h : ∀ x : UInt32, (x >>> 27).toNat < 2 ^ 5 := by
    intro x
    have hx := x.toNat_lt
    rw [UInt32.toNat_shiftRight, Nat.shiftRight_eq_div_pow]
    simp only [UInt32.toNat_ofNat, Nat.reduceMod, Nat.reducePow]
    omega
  exact Nat.lt_of_lt_of_le (h _) (by decide)

/-! ## Flows -/

/-- The flows of the table in the order `pcp_db_foreach_flow` visits them. -/
def Ctx.allFlows (c : Ctx) : List FlowId := (List.range flowHashSize).flatMap c.flows

/-- `calloc` of `n` bytes succeeds or not; the counter moves on. -/
def Ctx.callocCall (c : Ctx) : Ctx := { c with io := { c.io with callocs := c.io.callocs + 1 } }

def pcpCreateFlow (e : Env) (c : Ctx) (s : Nat) (kd : FlowKeyData) : Option FlowId × Ctx :=
  if e.calloc c.io.callocs then
    let f : Flow := { Flow.zero with
      pcpServerIndx := (c.pcpServers s).index, kd := kd, keyBucket := none }
    (some c.heapTop, { c.callocCall.setFlow c.heapTop f with heapTop := c.heapTop + 1 })
  else (none, c.callocCall)

def Flow.clearMsgBuf (f : Flow) : Flow := { f with pcpMsgBuffer := none, pcpMsgLen := 0 }

/-- `pcp_db_add_flow`; the error for a `NULL` flow changes nothing. -/
def pcpDbAddFlow (c : Ctx) : Option FlowId → Ctx
  | none => c
  | some f =>
    let indx := computeFlowKey (c.heap f).kd
    { c.modFlow f (fun v => { v with keyBucket := some indx }) with
      flows := Function.update c.flows indx (c.flows indx ++ [f])
      flowCnt := c.flowCnt + 1 }

def pcpGetFlow (c : Ctx) (kd : FlowKeyData) (s : Nat) : Option FlowId :=
  (c.flows (computeFlowKey kd)).find? fun f =>
    (c.heap f).pcpServerIndx == (c.pcpServers s).index && (c.heap f).kd == kd

def pcpDbRemFlow (c : Ctx) (f : FlowId) : Errno × Ctx :=
  match (c.heap f).keyBucket with
  | none => (.notFound, c)
  | some b =>
    if f ∈ c.flows b then
      (.success, { c.modFlow f (fun v => { v with keyBucket := none }) with
        flows := Function.update c.flows b ((c.flows b).erase f)
        flowCnt := c.flowCnt - 1 })
    else (.notFound, c)

/-! ## Servers -/

/-- `get_pcp_server`. The index is an `int`, which holds every index of an array that fits in
memory. -/
def getPcpServer (c : Ctx) (i : Nat) : Option Nat :=
  if i < c.pcpServersLength ∧ (c.pcpServers i).serverState ≠ .unitialized then some i else none

/-- The record behind the pointer `get_pcp_server` returns. -/
def serverOf (c : Ctx) (i : Nat) : Option Server := (getPcpServer c i).map c.pcpServers

def pcpDeleteFlowIntern (c : Ctx) (f : FlowId) : Ctx :=
  let c := (pcpDbRemFlow c f).2
  match getPcpServer c (c.heap f).pcpServerIndx with
  | some s =>
    if (c.pcpServers s).pingFlowMsg = some f then
      c.modServer s fun v => { v with pingFlowMsg := none }
    else c
  | none => c

/-- `pcp_db_add_md`. `realloc` may fail, then nothing changes. -/
def pcpDbAddMd (e : Env) (mdId : UInt16) (val : List UInt8) (f : Flow) (io : Io) : Flow × Io :=
  let md : MdVal := ⟨mdId, val.take mdValMaxLen, by simp⟩
  match f.mdVals.findIdx? (fun v => v.mdId = mdId) with
  | some i => ({ f with mdVals := f.mdVals.set i md }, io)
  | none =>
    let io' := { io with callocs := io.callocs + 1 }
    if e.calloc io.callocs then ({ f with mdVals := f.mdVals ++ [md] }, io') else (f, io')

def pcpInitServerCount : Nat := 5

/-- The first unused record. -/
def freeSlot (c : Ctx) : Option Nat :=
  (List.range c.pcpServersLength).find? fun i => (c.pcpServers i).serverState = .unitialized

/-- The array is allocated on first use. -/
def allocServers (e : Env) (c : Ctx) : Option Ctx :=
  if c.pcpServersLength = 0 then
    if e.calloc c.io.callocs then
      some { c.callocCall with
        pcpServers := fun _ => .zero, pcpServersLength := pcpInitServerCount }
    else none
  else some c

/-- The array is doubled when every record is in use. -/
def growServers (e : Env) (c : Ctx) : Option Ctx :=
  if e.calloc c.io.callocs then
    some { c.callocCall with
      pcpServers := fun i => if i < c.pcpServersLength then c.pcpServers i else .zero
      pcpServersLength := c.pcpServersLength <<< 1 }
  else none

/-- The fields `pcp_new_server` sets; the others keep what an earlier use of the record left. -/
def initServer (cfg : Config) (ip : In6Addr) (port : UInt16) (scopeId : UInt32) (nonce : Nonce)
    (i : Nat) (s : Server) : Server :=
  { s with
    epoch := 0xFFFFFFFF
    af := if cfg.useIpv6Socket then .inet6 else if ip.isV4mapped then .inet else .inet6
    pcpIp := ip
    pcpPort := port
    pcpScopeId := if ip.isLinklocal then scopeId else 0
    serverState := .allocated
    pcpVersion := pcpMaxSupportedVersion
    nonce := nonce
    index := i }

/-- `pcp_new_server`; `none` is `PCP_ERR_NO_MEM`. -/
def pcpNewServer (e : Env) (c : Ctx) (ip : In6Addr) (port : UInt16) (scopeId : UInt32) :
    Option Nat × Ctx :=
  match allocServers e c with
  | none => (none, c.callocCall)
  | some c =>
    let fill (c : Ctx) (i : Nat) : Option Nat × Ctx :=
      (some i, { c.modServer i (initServer e.cfg ip port scopeId (e.nonce c.nonces) i) with
        nonces := c.nonces + 1 })
    match freeSlot c with
    | some i => fill c i
    | none =>
      match growServers e c with
      | some c' => fill c' c.pcpServersLength
      | none => (none, c.callocCall)

/-- Positions `pcp_db_foreach_server` calls its callback on. -/
def Ctx.servers (c : Ctx) : List Nat :=
  (List.range c.pcpServersLength).filter fun i => (c.pcpServers i).serverState ≠ .unitialized

def getPcpServerByIp (c : Ctx) (ip : In6Addr) (scopeId : UInt32) : Option Nat :=
  let scope := if ip.isLinklocal then scopeId else 0
  c.servers.find? fun i => (c.pcpServers i).pcpIp == ip && (c.pcpServers i).pcpScopeId == scope

/-! ## Membership in the table -/

/-- Every flow of the table is in the bucket of its key, once, and points back to it; ids not yet
handed out are in no bucket. -/
structure TableOk (c : Ctx) : Prop where
  bucket : ∀ b f, f ∈ c.flows b → (c.heap f).keyBucket = some b ∧ computeFlowKey (c.heap f).kd = b
  nodup : ∀ b, (c.flows b).Nodup
  fresh : ∀ b f, f ∈ c.flows b → f < c.heapTop

theorem mem_allFlows {c : Ctx} {f : FlowId} :
    f ∈ c.allFlows ↔ ∃ b, b < flowHashSize ∧ f ∈ c.flows b := by
  simp [Ctx.allFlows, List.mem_flatMap]

theorem TableOk.mem_bucket {c : Ctx} (h : TableOk c) {f : FlowId} (hf : f ∈ c.allFlows) :
    f ∈ c.flows (computeFlowKey (c.heap f).kd) := by
  obtain ⟨b, _, hb⟩ := mem_allFlows.mp hf
  rw [(h.bucket b f hb).2]
  exact hb

theorem TableOk.alloc {c : Ctx} (h : TableOk c) {f : FlowId} (hf : f ∈ c.allFlows) :
    f < c.heapTop :=
  h.fresh _ f (h.mem_bucket hf)

/-- A flow of the table is visited once by every pass. -/
theorem TableOk.allFlows_nodup {a : Ctx} (h : TableOk a) : a.allFlows.Nodup := by
  unfold Ctx.allFlows
  rw [List.nodup_flatMap]
  refine ⟨fun b _ => h.nodup b, List.nodup_range.imp fun {b₁ b₂} hne f h₁ h₂ => hne ?_⟩
  exact (h.bucket b₁ f h₁).2.symm.trans (h.bucket b₂ f h₂).2

theorem pcpGetFlow_some {c : Ctx} {kd : FlowKeyData} {s : Nat} {f : FlowId}
    (h : pcpGetFlow c kd s = some f) :
    f ∈ c.allFlows ∧ (c.heap f).pcpServerIndx = (c.pcpServers s).index ∧ (c.heap f).kd = kd := by
  have hmem := List.mem_of_find?_eq_some h
  have hp := List.find?_some h
  simp only [Bool.and_eq_true, beq_iff_eq] at hp
  exact ⟨mem_allFlows.mpr ⟨_, computeFlowKey_lt kd, hmem⟩, hp.1, hp.2⟩

theorem getPcpServer_eq_some {c : Ctx} {i s : Nat} (h : getPcpServer c i = some s) :
    s = i ∧ i < c.pcpServersLength ∧ (c.pcpServers i).serverState ≠ .unitialized := by
  simp only [getPcpServer] at h
  split at h
  · rename_i hc
    cases h
    exact ⟨rfl, hc⟩
  · cases h

theorem mem_servers {c : Ctx} {i : Nat} :
    i ∈ c.servers ↔ i < c.pcpServersLength ∧ (c.pcpServers i).serverState ≠ .unitialized := by
  simp [Ctx.servers]

end LibPcp
