import LibPcp.Notices

/-!
# LibPcp.Wait

`pcp_wait` (`pcp_api.c`).

The function sees its surroundings through the clock, the pulses it makes and the states of the
chain after each of them. `Waiting` names these three, so that one definition of the loop serves the
library (`Ctx.waiting`) and any other sequence of states (`pcpWait_notEarly_iff` is about all of
them).

* `pcpWait_notEarly_iff`: the wait ends too early exactly when it gets to a round before the deadline
  in which the computed deadline is over, or the chain has new exit states without a success while
  a flow of it is pending.
* `pcpWait_some_iff`: the same for a chain of the library and the state `pcp_wait` returns.
* `waitEnd_us_of_fits`: the computed deadline is right as long as `timeout * 1000` fits an `int`.
* `wait_leaves_pending`: one flow of two has failed, and the wait is over.
-/

namespace LibPcp

/-! ## The model -/

/-- The states `pcp_eval_flow_state` counts. -/
def FlowState.isExit (st : FlowState) : Prop :=
  st = .waitForLifetimeRenew ∨ st = .failed ∨ st = .waitAfterShortLifeError

instance (st : FlowState) : Decidable st.isExit := inferInstanceAs (Decidable (_ ∨ _ ∨ _))

/-- The result of `pcp_eval_flow_state` for a chain with these states. -/
def nexitStates (l : List FlowState) : Nat := l.countP fun st => st.isExit

/-- What `pcp_eval_flow_state` stores for a chain with these states. -/
def evalFlowStates (l : List FlowState) : FState :=
  let fsuccess := l.any (· = .waitForLifetimeRenew)
  let ffailed := l.any (· = .failed)
  let fpresentNoExitState := l.any fun st => ¬ st.isExit
  if fpresentNoExitState then if fsuccess then .partialResult else .processing
  else if fsuccess then .succeeded
  else if ffailed then .failed
  else .shortLifetimeError

theorem evalFlowStates_chain (c : Ctx) (f : FlowId) :
    evalFlowStates ((c.chain f).map fun g => (c.heap g).state) = pcpEvalFlowState c f := by
  have hpending : ∀ st : FlowState, decide (¬ st.isExit) =
      decide (st ≠ .waitForLifetimeRenew ∧ st ≠ .failed ∧ st ≠ .waitAfterShortLifeError) := by
    intro st
    cases st <;> rfl
  simp only [evalFlowStates, pcpEvalFlowState, hpending]

/-- What `pcp_wait` asks for: the time, a pulse with the time left, and the states of the chain. A
pulse that does not return is `none`. -/
structure Waiting (σ : Type) where
  gettimeofday : σ → Timeval × σ
  pulse : Timeval → σ → Option σ
  states : σ → List FlowState

/-- The state returned, the last reading of the clock and what was found. -/
structure WaitResult (σ : Type) where
  state : FState
  ctv : Timeval
  found : σ

/-- `tout_end`. The product is an `int` and wraps; `/` and `%` truncate towards zero. -/
def waitEnd (timeout : Int) (now : Timeval) : Timeval :=
  let usec := now.tvUsec + ((timeout * 1000).bmod (2 ^ 32)).tmod 1000000
  ⟨now.tvSec + usec.tdiv 1000000 + timeout.tdiv 1000, usec.tmod 1000000⟩

/-- The test after a pulse. -/
def LeavesWait (exitOnPartialRes : Bool) (nflowExitStates : Nat) (l : List FlowState) : Prop :=
  nflowExitStates < nexitStates l ∧ (exitOnPartialRes = true ∨ evalFlowStates l ≠ .partialResult)

instance (b : Bool) (k : Nat) (l : List FlowState) : Decidable (LeavesWait b k l) :=
  inferInstanceAs (Decidable (_ ∧ _))

section

variable {σ : Type}

/-- The main loop, with a bound on the rounds. `timeval_subtract` leaves `tout_end` aligned. -/
def waitLoop (w : Waiting σ) (exitOnPartialRes : Bool) (nflowExitStates : Nat) :
    Nat → σ → Timeval → Option (WaitResult σ)
  | 0, _, _ => none
  | n + 1, x, toutEnd =>
    match w.gettimeofday x with
    | (ctv, x) =>
      let sub := timevalSubtractInto toutEnd ctv
      if sub.1 ∨ sub.2.2.isZero ∨ sub.2.2.tvSec < 0 then some ⟨.processing, ctv, x⟩
      else
        match w.pulse sub.2.2 x with
        | none => none
        | some x =>
          if LeavesWait exitOnPartialRes nflowExitStates (w.states x) then
            some ⟨evalFlowStates (w.states x), ctv, x⟩
          else waitLoop w exitOnPartialRes nflowExitStates n x sub.2.1

/-- The exit states that are there from the start count only if the chain is not done. -/
def startExitStates (l : List FlowState) : Nat :=
  if evalFlowStates l = .partialResult ∨ evalFlowStates l = .processing then nexitStates l else 0

/-- `pcp_wait` on a chain, with a bound on the rounds. -/
def waitChain (w : Waiting σ) (timeout : Int) (exitOnPartialRes : Bool) (n : Nat) (x : σ) :
    Option (WaitResult σ) :=
  match w.gettimeofday x with
  | (now, x') =>
    waitLoop w exitOnPartialRes (startExitStates (w.states x)) n x' (waitEnd timeout now)

end

/-- The library as `pcp_wait` sees it: `dgs i` is what the socket holds when the `i`th pulse reads
it. -/
def Ctx.waiting (e : Env) (n : Nat) (dgs : Nat → Option Datagram) (f : FlowId) :
    Waiting (Ctx × Nat) where
  gettimeofday x := (e.now x.1.io, (x.1.tick, x.2))
  pulse t x := (pcpPulse e n x.1 (dgs x.2) t).map fun r => (r.1, x.2 + 1)
  states x := (x.1.chain f).map fun g => (x.1.heap g).state

/-- `pcp_wait`, with bounds on its own rounds and those of its pulses. -/
def pcpWait (e : Env) (n m : Nat) (c : Ctx) (flow : Option FlowId) (timeout : Int)
    (exitOnPartialRes : Bool) (dgs : Nat → Option Datagram) : Option FState :=
  match flow with
  | none => some .failed
  | some f => (waitChain (Ctx.waiting e n dgs f) timeout exitOnPartialRes m (c, 0)).map (·.state)

/-! ## The deadline -/

/-- The three tests at the top of the loop come to one. -/
theorem wait_expired_iff (toutEnd ctv : Timeval) :
    ((timevalSubtractInto toutEnd ctv).1 = true ∨
        (timevalSubtractInto toutEnd ctv).2.2.isZero = true ∨
        (timevalSubtractInto toutEnd ctv).2.2.tvSec < 0) ↔ toutEnd.us ≤ ctv.us := by
  rw [timevalSubtractInto_fst]
  refine ⟨fun h => ?_, .inl⟩
  by_contra hlt
  obtain ⟨hus, hn⟩ := timevalSubtractInto_left (x := toutEnd) (y := ctv) (by omega)
  rw [hn.isZero_iff] at h
  simp only [Timeval.Normal, Timeval.us] at *
  omega

/-- The instant of `tout_end`. -/
theorem waitEnd_us (timeout : Int) (now : Timeval) :
    (waitEnd timeout now).us =
      now.us + ((timeout * 1000).bmod (2 ^ 32)).tmod 1000000 + timeout.tdiv 1000 * 1000000 := by
  have h := tdiv_add_tmod (now.tvUsec + ((timeout * 1000).bmod (2 ^ 32)).tmod 1000000)
  simp only [waitEnd, Timeval.us]
  omega

/-- Up to 2147483 ms, some 35 minutes, the product does not wrap. -/
theorem waitEnd_us_of_fits {timeout : Int} (h0 : 0 ≤ timeout) (hfits : timeout * 1000 < 2 ^ 31)
    (now : Timeval) : (waitEnd timeout now).us = now.us + timeout * 1000 := by
  have hwrap : (timeout * 1000).bmod (2 ^ 32) = timeout * 1000 := by
    rw [Int.bmod_eq_of_le] <;> omega
  rw [waitEnd_us, hwrap, Int.tmod_eq_emod_of_nonneg (by omega), Int.tdiv_eq_ediv_of_nonneg h0]
  omega

/-- One millisecond more, and the deadline falls short of it by almost a second. -/
example (now : Timeval) : (waitEnd 2147484 now).us = now.us + 2147484 * 1000 - 967296 := by
  rw [waitEnd_us, show ((2147484 * 1000 : Int).bmod (2 ^ 32)).tmod 1000000 = -483296 by decide,
    show (2147484 : Int).tdiv 1000 = 2147 by decide]
  omega

/-! ## Too early or not -/

section

variable {σ : Type}

/-- The wait did not end too early, for a deadline in microseconds. -/
structure NotEarly (w : Waiting σ) (deadline : Int) (exitOnPartialRes : Bool) (r : WaitResult σ) :
    Prop where
  processing : r.state = .processing → deadline ≤ r.ctv.us
  exits : exitOnPartialRes = false → r.ctv.us < deadline → ∀ st ∈ w.states r.found, st.isExit

/-- From `x` the loop gets to a round that starts with `y`. -/
inductive Waiting.GoesOn (w : Waiting σ) (exitOnPartialRes : Bool) (nflowExitStates : Nat)
    (toutEnd : Timeval) : σ → σ → Prop
  | refl {x : σ} : GoesOn w exitOnPartialRes nflowExitStates toutEnd x x
  | round {x y z : σ} (hlate : (w.gettimeofday x).1.us < toutEnd.us)
      (hpulse : w.pulse (timevalSubtractInto toutEnd (w.gettimeofday x).1).2.2 (w.gettimeofday x).2 =
        some y)
      (hstays : ¬ LeavesWait exitOnPartialRes nflowExitStates (w.states y))
      (h : GoesOn w exitOnPartialRes nflowExitStates toutEnd y z) :
      GoesOn w exitOnPartialRes nflowExitStates toutEnd x z

/-- New exit states without a success, and a flow that is pending. -/
def Unfinished (nflowExitStates : Nat) (l : List FlowState) : Prop :=
  nflowExitStates < nexitStates l ∧ (∀ st ∈ l, st ≠ .waitForLifetimeRenew) ∧ ∃ st ∈ l, ¬ st.isExit

/-- A round that starts with `x` before the deadline is neither past the computed deadline nor does
its pulse leave the chain unfinished. -/
def GoodRound (w : Waiting σ) (nflowExitStates : Nat) (toutEnd : Timeval) (deadline : Int) (x : σ) :
    Prop :=
  (w.gettimeofday x).1.us < deadline →
    (w.gettimeofday x).1.us < toutEnd.us ∧
      ∀ y, w.pulse (timevalSubtractInto toutEnd (w.gettimeofday x).1).2.2 (w.gettimeofday x).2 =
        some y → ¬ Unfinished nflowExitStates (w.states y)

theorem evalFlowStates_processing {l : List FlowState} :
    evalFlowStates l = .processing ↔
      (∀ st ∈ l, st ≠ .waitForLifetimeRenew) ∧ ∃ st ∈ l, ¬ st.isExit := by
  simp only [evalFlowStates, List.any_eq_true, decide_eq_true_eq, exists_eq_right]
  constructor
  · intro h
    split at h
    · rename_i hpend
      split at h
      · cases h
      · rename_i hnone
        exact ⟨fun st hst hs => hnone (hs ▸ hst), hpend⟩
    · repeat' split at h
      all_goals cases h
  · intro ⟨hnone, st, hst, hpend⟩
    rw [if_pos ⟨st, hst, hpend⟩, if_neg]
    intro hmem
    exact hnone _ hmem rfl

/-- An aggregate that is neither processing nor partial is one of exit states. -/
theorem isExit_of_evalFlowStates {l : List FlowState} (h₁ : evalFlowStates l ≠ .processing)
    (h₂ : evalFlowStates l ≠ .partialResult) : ∀ st ∈ l, st.isExit := by
  intro st hst
  by_contra hpend
  have hany : (l.any fun st => ¬ st.isExit) = true := by
    rw [List.any_eq_true]
    exact ⟨st, hst, by simpa using hpend⟩
  simp only [evalFlowStates, hany, if_true] at h₁ h₂
  split at h₁
  · rename_i hsucc
    exact h₂ (by simp [hsucc])
  · exact h₁ rfl

variable {w : Waiting σ} {exitOnPartialRes : Bool} {k : Nat} {toutEnd : Timeval} {deadline : Int}

theorem waitLoop_align (n : Nat) (x : σ) :
    waitLoop w exitOnPartialRes k n x (timevalAlign toutEnd) =
      waitLoop w exitOnPartialRes k n x toutEnd := by
  cases n with
  | zero => rfl
  | succ n => simp only [waitLoop, timevalSubtractInto_align]

/-- A wait that ends in its first round because the computed deadline is over. -/
theorem notEarly_expired {x y : σ} (hexp : toutEnd.us ≤ (w.gettimeofday x).1.us) :
    NotEarly w deadline exitOnPartialRes ⟨.processing, (w.gettimeofday x).1, y⟩ ↔
      GoodRound w k toutEnd deadline x := by
  constructor
  · intro h hlt
    exact absurd (h.processing rfl) (by simpa using hlt)
  · intro h
    have hover : deadline ≤ (w.gettimeofday x).1.us := by
      by_contra hlt
      have := (h (by omega)).1
      omega
    exact ⟨fun _ => hover, fun _ hlt => absurd hover (by simpa using hlt)⟩

/-- A wait that ends in its first round because of what the pulse left. -/
theorem notEarly_left {x y : σ} (hexp : (w.gettimeofday x).1.us < toutEnd.us)
    (hpulse : w.pulse (timevalSubtractInto toutEnd (w.gettimeofday x).1).2.2 (w.gettimeofday x).2 =
      some y)
    (hleaves : LeavesWait exitOnPartialRes k (w.states y)) :
    NotEarly w deadline exitOnPartialRes ⟨evalFlowStates (w.states y), (w.gettimeofday x).1, y⟩ ↔
      GoodRound w k toutEnd deadline x := by
  constructor
  · intro h hlt
    refine ⟨hexp, fun z hz hun => ?_⟩
    cases hpulse.symm.trans hz
    exact absurd (h.processing (evalFlowStates_processing.mpr hun.2)) (by simpa using hlt)
  · intro h
    have hdone : (w.gettimeofday x).1.us < deadline → evalFlowStates (w.states y) ≠ .processing := by
      intro hlt hproc
      exact (h hlt).2 y hpulse ⟨hleaves.1, evalFlowStates_processing.mp hproc⟩
    refine ⟨fun hproc => ?_, fun hpart hlt => ?_⟩
    · by_contra hlt
      exact hdone (by simpa using hlt) hproc
    · refine isExit_of_evalFlowStates (hdone hlt) (hleaves.2.resolve_left ?_)
      simp [hpart]

theorem waitLoop_notEarly_iff {n : Nat} {x : σ} {r : WaitResult σ}
    (h : waitLoop w exitOnPartialRes k n x toutEnd = some r) :
    NotEarly w deadline exitOnPartialRes r ↔
      ∀ y, w.GoesOn exitOnPartialRes k toutEnd x y → GoodRound w k toutEnd deadline y := by
  -- A round that ends the wait is the last one there is to look at.
  have hlast : ∀ {x : σ}, (∀ y, (w.gettimeofday x).1.us < toutEnd.us →
      w.pulse (timevalSubtractInto toutEnd (w.gettimeofday x).1).2.2 (w.gettimeofday x).2 = some y →
        LeavesWait exitOnPartialRes k (w.states y)) →
      ((∀ y, w.GoesOn exitOnPartialRes k toutEnd x y → GoodRound w k toutEnd deadline y) ↔
        GoodRound w k toutEnd deadline x) := by
    intro x hend
    refine ⟨fun h => h x .refl, fun h y hy => ?_⟩
    cases hy with
    | refl => exact h
    | round hlate hpulse hstays _ => exact absurd (hend _ hlate hpulse) hstays
  induction n generalizing x with
  | zero => cases h
  | succ n ih =>
    simp only [waitLoop, wait_expired_iff] at h
    by_cases hexp : toutEnd.us ≤ (w.gettimeofday x).1.us
    · rw [if_pos hexp] at h
      cases h
      rw [hlast fun y hlt => absurd hlt (by omega)]
      exact notEarly_expired hexp
    rw [if_neg hexp] at h
    cases hpulse : w.pulse (timevalSubtractInto toutEnd (w.gettimeofday x).1).2.2
        (w.gettimeofday x).2 with
    | none => rw [hpulse] at h; cases h
    | some y =>
      rw [hpulse] at h
      dsimp only at h
      by_cases hleaves : LeavesWait exitOnPartialRes k (w.states y)
      · rw [if_pos hleaves] at h
        cases h
        rw [hlast]
        · exact notEarly_left (by omega) hpulse hleaves
        · intro z _ hz
          cases hpulse.symm.trans hz
          exact hleaves
      · rw [if_neg hleaves, timevalSubtractInto_x, waitLoop_align] at h
        refine (ih h).trans ⟨fun hall z hz => ?_, fun hall z hz => hall z (.round (by omega) hpulse hleaves hz)⟩
        cases hz with
        | refl =>
          refine fun hlt => ⟨by omega, fun z hz hun => ?_⟩
          cases hpulse.symm.trans hz
          refine hleaves ⟨hun.1, .inr ?_⟩
          rw [evalFlowStates_processing.mpr hun.2]
          decide
        | round _ hz _ hrest =>
          cases hpulse.symm.trans hz
          exact hall _ hrest

/-- The wait does not give up early exactly when every round it gets to is good. -/
theorem pcpWait_notEarly_iff (w : Waiting σ) (timeout : Int) (exitOnPartialRes : Bool) {n : Nat}
    {x : σ} {r : WaitResult σ} (h : waitChain w timeout exitOnPartialRes n x = some r) :
    NotEarly w ((w.gettimeofday x).1.us + timeout * 1000) exitOnPartialRes r ↔
      ∀ y, w.GoesOn exitOnPartialRes (startExitStates (w.states x))
          (waitEnd timeout (w.gettimeofday x).1) (w.gettimeofday x).2 y →
        GoodRound w (startExitStates (w.states x)) (waitEnd timeout (w.gettimeofday x).1)
          ((w.gettimeofday x).1.us + timeout * 1000) y :=
  waitLoop_notEarly_iff h

end

/-- `pcp_wait` on a chain of the library returns the state of a wait that is not too early exactly
when every round it gets to is good. -/
theorem pcpWait_some_iff {e : Env} {n m : Nat} {c : Ctx} {f : FlowId} {timeout : Int}
    {exitOnPartialRes : Bool} {dgs : Nat → Option Datagram} {st : FState} :
    pcpWait e n m c (some f) timeout exitOnPartialRes dgs = some st ↔
      ∃ r, waitChain (Ctx.waiting e n dgs f) timeout exitOnPartialRes m (c, 0) = some r ∧
        r.state = st ∧
        (NotEarly (Ctx.waiting e n dgs f) ((e.now c.io).us + timeout * 1000) exitOnPartialRes r ↔
          ∀ y, (Ctx.waiting e n dgs f).GoesOn exitOnPartialRes
              (startExitStates ((Ctx.waiting e n dgs f).states (c, 0))) (waitEnd timeout (e.now c.io))
              (c.tick, 0) y →
            GoodRound (Ctx.waiting e n dgs f) (startExitStates ((Ctx.waiting e n dgs f).states (c, 0)))
              (waitEnd timeout (e.now c.io)) ((e.now c.io).us + timeout * 1000) y) := by
  simp only [pcpWait, Option.map_eq_some_iff]
  constructor
  · rintro ⟨r, hr, hst⟩
    exact ⟨r, hr, hst, waitLoop_notEarly_iff hr⟩
  · rintro ⟨r, hr, hst, -⟩
    exact ⟨r, hr, hst⟩

/-! ## Runs -/

/-- Both servers of a chain have been asked, and the first one answers with the given result. -/
def firstAnswers (result : UInt8) : Waiting (Ctx × Nat) :=
  Ctx.waiting (.calm {}) 5 (fun _ => some (mapResponse result 60 1 7)) 0

/-- With partial results asked for, the wait ends with the success of the first server. -/
theorem pcpWait_notEarly_iff_partial :
    ∃ r, waitChain (firstAnswers 0) 10000 true 1 (bothAsked, 0) = some r ∧
      r.state = .partialResult ∧
      ∀ y, (firstAnswers 0).GoesOn true 0 ⟨1010, 0⟩ (bothAsked.tick, 0) y →
        GoodRound (firstAnswers 0) 0 ⟨1010, 0⟩ 1010000000 y := by
  have hsome : (waitChain (firstAnswers 0) 10000 true 1 (bothAsked, 0)).isSome = true := by
    decide +kernel
  have hstate : ((waitChain (firstAnswers 0) 10000 true 1 (bothAsked, 0)).map (·.state)) =
      some .partialResult := by
    decide +kernel
  obtain ⟨r, hr⟩ := Option.isSome_iff_exists.mp hsome
  have hpart : r.state = .partialResult := by simpa [hr] using hstate
  refine ⟨r, hr, hpart, ?_⟩
  have hstart : startExitStates ((firstAnswers 0).states (bothAsked, 0)) = 0 := by decide +kernel
  have hnow : ∀ c i, (firstAnswers 0).gettimeofday (c, i) = (⟨1000, 0⟩, (c.tick, i)) :=
    fun _ _ => rfl
  have h := (pcpWait_notEarly_iff (firstAnswers 0) 10000 true hr).mp
    ⟨fun h => by simp [hpart] at h, fun h => by simp at h⟩
  rw [hstart, hnow, show waitEnd 10000 ⟨1000, 0⟩ = ⟨1010, 0⟩ by decide,
    show (⟨1000, 0⟩ : Timeval).us + 10000 * 1000 = 1010000000 by decide] at h
  exact h

/-- The first of two servers refuses the mapping. The other one has not answered, ten seconds have
not begun to pass, and the wait is over with `pcp_state_processing`. -/
theorem wait_leaves_pending :
    Reachable (.calm {}) bothAsked ∧ bothAsked.chain 0 = [0, 1] ∧
      ∃ r, waitChain (firstAnswers 2) 10000 false 1 (bothAsked, 0) = some r ∧
        r.state = .processing ∧ r.ctv = ⟨1000, 0⟩ ∧
        (firstAnswers 2).states r.found = [.failed, .waitResp] ∧
        ¬ NotEarly (firstAnswers 2) (((firstAnswers 2).gettimeofday (bothAsked, 0)).1.us +
          10000 * 1000) false r := by
  have hrun : ((waitChain (firstAnswers 2) 10000 false 1 (bothAsked, 0)).map
      fun r => (r.state, r.ctv, (firstAnswers 2).states r.found)) =
      some (.processing, ⟨1000, 0⟩, [.failed, .waitResp]) := by
    decide +kernel
  obtain ⟨r, hr, hfields⟩ := Option.map_eq_some_iff.mp hrun
  simp only [Prod.mk.injEq] at hfields
  refine ⟨bothAsked_reachable, by decide +kernel, r, hr, hfields.1, hfields.2.1, hfields.2.2, ?_⟩
  intro h
  have hlate := h.processing hfields.1
  rw [hfields.2.1] at hlate
  revert hlate
  decide

end LibPcp
