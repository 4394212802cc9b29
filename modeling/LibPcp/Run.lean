import LibPcp.Steps
import LibPcp.Api

/-!
# LibPcp.Run

Runs of the client: sequences of application calls and pulses.

`step e n c op` is one call with bound `n` on the rounds of each `hserver_iter`; it is `none` when the
call does not return within the bound or breaks the contract of the interface by passing a pointer
to a chain with a flow that is not live. `Step` and `Runs` quantify over the bound.
-/

namespace LibPcp

open ByteBuffer LabelledSteps

/-- A call into the library, with what the socket holds when it pulses. -/
inductive Op where
  | addServer (sa : SockAddr) (version : UInt8)
  | addGws (gws : List (In6Addr × UInt32))
  | newFlow (src : SockAddr) (dst ext : Option SockAddr) (protocol : UInt8) (lifetime : UInt32)
  | learnDscp (delayTol lossTol jitterTol : UInt8) (appName : Option (List UInt8))
  | setLifetime (f : FlowId) (lifetime : UInt32)
  | set3rdPartyOpt (f : FlowId) (addr : SockAddr)
  | setFilterOpt (f : FlowId) (addr : SockAddr) (filterPrefix : UInt8)
  | setPreferFailureOpt (f : FlowId)
  | setUserid (f : FlowId) (user : Vector UInt8 maxUserId)
  | setLocation (f : FlowId) (loc : Vector UInt8 maxGeoStr)
  | setDeviceid (f : FlowId) (dev : Vector UInt8 maxDeviceId)
  | addMd (f : FlowId) (mdId : UInt32) (val : List UInt8)
  | setFlowp (f : FlowId) (dscpUp dscpDown : UInt8)
  | closeFlow (f : FlowId) (dg : Option Datagram)
  | deleteFlow (f : FlowId)
  | setFlowChangeCb (installed : Bool)
  | pulse (dg : Option Datagram) (nextTimeout : Timeval)

/-- The setter a call stands for, and the flow it is called on. -/
def Op.setter (e : Env) : Op → Option (FlowId × (Ctx → FlowId → Ctx))
  | .setLifetime f l => some (f, pcpFlowSetLifetime e l)
  | .set3rdPartyOpt f a => some (f, pcpFlowSet3rdPartyOpt e a)
  | .setFilterOpt f a p => some (f, pcpFlowSetFilterOpt e a p)
  | .setPreferFailureOpt f => some (f, pcpFlowSetPreferFailureOpt e)
  | .setUserid f u => some (f, pcpFlowSetUserid e u)
  | .setLocation f l => some (f, pcpFlowSetLocation e l)
  | .setDeviceid f d => some (f, pcpFlowSetDeviceid e d)
  | .addMd f i v => some (f, pcpFlowAddMd e i v)
  | .setFlowp f u d => some (f, pcpFlowSetFlowp e u d)
  | _ => none

/-- The flow a call is made on. -/
def Op.target : Op → Option FlowId
  | .setLifetime f _ | .set3rdPartyOpt f _ | .setFilterOpt f _ _ | .setPreferFailureOpt f
  | .setUserid f _ | .setLocation f _ | .setDeviceid f _ | .addMd f _ _ | .setFlowp f _ _
  | .closeFlow f _ | .deleteFlow f => some f
  | _ => none

/-- What the call does, whatever it is called on. -/
def Op.exec (e : Env) (n : Nat) (c : Ctx) : Op → Option Ctx
  | .addServer sa v => some (pcpAddServer e c sa v).2
  | .addGws gws => some (psdAddGws e gws c)
  | .newFlow src dst ext p l => some (pcpNewFlow e c src dst ext p l).2
  | .learnDscp d l j a => some (pcpLearnDscp e c d l j a).2
  | .closeFlow f dg => pcpCloseFlow e n c f dg
  | .deleteFlow f => some (pcpDeleteFlow c f)
  | .setFlowChangeCb b => some { c with flowChangeCb := b }
  | .pulse dg t => (pcpPulse e n c dg t).map (·.1)
  | op => (op.setter e).map fun p => p.2 c p.1

def step (e : Env) (n : Nat) (c : Ctx) (op : Op) : Option Ctx :=
  if ∀ f ∈ op.target, ∀ g ∈ c.chain f, g ∈ c.allFlows then op.exec e n c else none

def Step (e : Env) (c : Ctx) (op : Op) (c' : Ctx) : Prop := ∃ n, step e n c op = some c'

/-- Runs in which every call is made in a context where `P` allows it. -/
abbrev Runs (e : Env) (P : Ctx → Op → Prop) : Ctx → Ctx → Prop :=
  Steps (fun op c c' => Step e c op c') P

/-- Contexts the client can be in. -/
def Reachable (e : Env) (c : Ctx) : Prop := Runs e (fun _ _ => True) {} c

theorem Reachable.runs {e : Env} {P : Ctx → Op → Prop} {c c' : Ctx} (hc : Reachable e c)
    (h : Runs e P c c') : Reachable e c' :=
  Steps.trans hc (h.mono fun _ _ _ => trivial)

/-- The calls `ops` with one bound for all of them; `none` if one is not allowed or does not
return. -/
def runOps (e : Env) (P : Ctx → Op → Prop) [∀ c op, Decidable (P c op)] (n : Nat) :
    Ctx → List Op → Option Ctx
  | c, [] => some c
  | c, op :: ops =>
    if P c op then
      match step e n c op with
      | none => none
      | some c₁ => runOps e P n c₁ ops
    else none

theorem Runs.of_runOps {e : Env} {P : Ctx → Op → Prop} [∀ c op, Decidable (P c op)] {n : Nat}
    {c c' : Ctx} {ops : List Op} (h : runOps e P n c ops = some c') : Runs e P c c' := by
  induction ops generalizing c with
  | nil => cases h; exact .refl
  | cons op ops ih =>
    simp only [runOps] at h
    split at h
    · rename_i hp
      cases hs : step e n c op with
      | none => rw [hs] at h; cases h
      | some c₁ =>
        rw [hs] at h
        exact Steps.trans (.single ⟨n, hs⟩ hp) (ih h)
    · cases h

/-- The context at the end of the calls `ops`. -/
def runTo (e : Env) (P : Ctx → Op → Prop) [∀ c op, Decidable (P c op)] (n : Nat) (c : Ctx)
    (ops : List Op) : Ctx :=
  (runOps e P n c ops).getD c

theorem Runs.runTo {e : Env} {P : Ctx → Op → Prop} [∀ c op, Decidable (P c op)] {n : Nat} {c : Ctx}
    {ops : List Op} (h : (runOps e P n c ops).isSome = true) : Runs e P c (runTo e P n c ops) := by
  obtain ⟨c', hc'⟩ := Option.isSome_iff_exists.mp h
  rw [LibPcp.runTo, hc']
  exact .of_runOps hc'

/-- The context after the call `op`. -/
def stepTo (e : Env) (n : Nat) (c : Ctx) (op : Op) : Ctx := (step e n c op).getD c

theorem Step.stepTo {e : Env} {n : Nat} {c : Ctx} {op : Op} (h : (step e n c op).isSome = true) :
    Step e c op (stepTo e n c op) := by
  obtain ⟨c', hc'⟩ := Option.isSome_iff_exists.mp h
  refine ⟨n, ?_⟩
  rw [LibPcp.stepTo, hc', Option.getD_some]

/-! ## The runs that examples start with -/

/-- A flow on `10.0.0.1` that is waiting for the answer to its first request. -/
def waitingFlow : List Op :=
  [.addServer (.inet 0x0A000001 0) 2, .newFlow (.inet 0x0A000002 80) none none 6 60,
   .pulse none .zero]

/-- A version 2 announcement of `10.0.0.1` with the given result. -/
def announceResponse (result : UInt8) : Datagram :=
  { bytes := [2, 0x80, 0, result] ++ List.replicate 20 0, src := .inet 0x0A000001 5351,
    dst := .inet 0x0A000002 0 }

/-- A version 2 answer of `10.0.0.1` to the MAP request of `waitingFlow`. -/
def mapResponse (result : UInt8) (lifetime epoch extIp : UInt32) : Datagram :=
  { bytes := [2, 0x81, 0, result] ++ be32 lifetime ++ be32 epoch ++ List.replicate 12 0 ++
      Nonce.bytes ⟨1, 2, 3⟩ ++ [6, 0, 0, 0] ++ be16 80 ++ be16 80 ++ In6Addr.bytes (.v4mapped extIp)
    src := .inet 0x0A000001 5351, dst := .inet 0x0A000002 0 }

end LibPcp
