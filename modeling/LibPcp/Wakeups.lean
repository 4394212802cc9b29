import LibPcp.Closing
import LibPcp.Wait
import LibPcp.Expiry

/-!
# LibPcp.Wakeups

The timer `handle_wait_io_timeout` leaves to a server.

The walk over the flow table lowers `next_timeout` to the time each flow has left, with zero for "no
timer yet". A flow whose timer has run out and stays so has zero left, and what was found before it is
forgotten (`foldl_lower_iff`). Which flows do is read off their states: `Stuck`.

* `wakeup_kept`: no pending timer of the server is overslept if every stuck flow is followed, in the
  order of the walk, by a timer that is early enough; and only then, if no timer event takes place.
* `wakeup_lost`: a flow on a server that has not been asked yet comes after one that is to be renewed.
-/

namespace LibPcp

/-! ## A minimum with zero for none -/

section Minimum

variable {α : Type}

/-- Every element with `Q` is followed by one with `R`. -/
def Followed (Q R : α → Prop) : List α → Prop
  | [] => True
  | x :: l => (Q x → ∃ y ∈ l, R y) ∧ Followed Q R l

theorem Followed.imp {Q Q' R R' : α → Prop} {l : List α} (h : Followed Q R l)
    (hQ : ∀ x ∈ l, Q' x → Q x) (hR : ∀ x ∈ l, R x → R' x) : Followed Q' R' l := by
  induction l with
  | nil => exact trivial
  | cons x l ih =>
    refine ⟨fun hx => ?_, ih h.2 (fun y hy => hQ y (List.mem_cons_of_mem x hy))
      fun y hy => hR y (List.mem_cons_of_mem x hy)⟩
    obtain ⟨y, hy, hRy⟩ := h.1 (hQ x List.mem_cons_self hx)
    exact ⟨y, hy, hR y (List.mem_cons_of_mem x hy) hRy⟩

/-- The smaller of two amounts, where zero is none; the second one may be missing. -/
def lower (a : Int) : Option Int → Int
  | none => a
  | some v => if a = 0 then v else min v a

theorem lower_nonneg {a : Int} (ha : 0 ≤ a) {v : Option Int} (hv : ∀ n ∈ v, 0 ≤ n) :
    0 ≤ lower a v := by
  cases v with
  | none => exact ha
  | some n =>
    have hn := hv n rfl
    simp only [lower]
    split <;> omega

theorem foldl_lower_nonneg (val : α → Option Int) {l : List α} {a : Int} (ha : 0 ≤ a)
    (hval : ∀ x ∈ l, ∀ n ∈ val x, 0 ≤ n) : 0 ≤ l.foldl (fun a x => lower a (val x)) a := by
  induction l generalizing a with
  | nil => exact ha
  | cons x l ih =>
    exact ih (lower_nonneg ha (hval x List.mem_cons_self))
      fun y hy => hval y (List.mem_cons_of_mem x hy)

/-- A zero forgets what came before it. -/
theorem foldl_lower_iff (val : α → Option Int) {T : Int} {l : List α} {a : Int} (ha : 0 ≤ a)
    (hval : ∀ x ∈ l, ∀ n ∈ val x, 0 ≤ n) :
    (0 < l.foldl (fun a x => lower a (val x)) a ∧ l.foldl (fun a x => lower a (val x)) a ≤ T) ↔
      Followed (fun x => val x = some 0) (fun x => ∃ n ∈ val x, 0 < n ∧ n ≤ T) l ∧
        ((0 < a ∧ a ≤ T) ∨ ∃ x ∈ l, ∃ n ∈ val x, 0 < n ∧ n ≤ T) := by
  induction l generalizing a with
  | nil => simp [Followed]
  | cons x l ih =>
    have hx := hval x List.mem_cons_self
    have hl : ∀ y ∈ l, ∀ n ∈ val y, 0 ≤ n := fun y hy => hval y (List.mem_cons_of_mem x hy)
    simp only [List.foldl_cons, Followed]
    rw [ih (lower_nonneg ha hx) hl]
    simp only [List.mem_cons, exists_eq_or_imp]
    cases hv : val x with
    | none => simp [lower]
    | some n =>
      have hn : 0 ≤ n := hx n hv
      by_cases hzero : n = 0
      · subst hzero
        have hreset : ¬ (0 < lower a (some 0) ∧ lower a (some 0) ≤ T) := by
          simp only [lower]
          split <;> omega
        simp only [hreset, false_or, Option.mem_def, Option.some.injEq, true_implies, exists_eq_left']
        constructor
        · rintro ⟨hf, he⟩
          exact ⟨⟨he, hf⟩, .inr (.inr he)⟩
        · rintro ⟨⟨he, hf⟩, -⟩
          exact ⟨hf, he⟩
      · have hmin : (0 < lower a (some n) ∧ lower a (some n) ≤ T) ↔ (0 < a ∧ a ≤ T) ∨ (0 < n ∧ n ≤ T) := by
          simp only [lower]
          split <;> omega
        have hne : ¬ some n = some (0 : Int) := by simpa using hzero
        simp only [hmin, hne, false_implies, true_and, Option.mem_def, Option.some.injEq,
          exists_eq_left', or_assoc]

end Minimum

/-! ## What a timer event leaves -/

/-- The clock stands still at `now`. -/
def Env.frozen (e : Env) (now : Timeval) : Env := { e with clock := fun _ => now }

def Flow.Pending (now : Timeval) (v : Flow) : Prop := now.us < v.timeout.us

def Flow.TimerDue (now : Timeval) (v : Flow) : Prop :=
  v.timeout.isZero = false ∧ v.timeout.us ≤ now.us

/-- The timer has run out, and its event has a row in the table. -/
def Flow.Fires (now : Timeval) (v : Flow) : Prop :=
  v.TimerDue now ∧ nextState v.state .flowTimedout ≠ none

/-- A request can be sent: the socket takes a datagram now and then, or the request may be one that
`build_natpmp_msg` cannot express, which is empty. -/
def MaySend (x : FlowEnv) : Prop :=
  (∃ i, 0 < x.env.sendto i) ∨ ∃ s, x.server = some s ∧ s.pcpVersion = 0

/-- What can keep a timer that has run out from being set to a later time: the state has no row for the
event, the delay of a retransmission comes to nothing, the mapping has expired, or the flow is put back
for revealing a restart. -/
def StaysDue (cfg : Config) (sends reveals : Prop) (now : Timeval) (v : Flow) : Prop :=
  match v.state with
  | .idle | .waitForServerInit | .failed => v.timeout.us ≠ 0
  | .waitResp => sends ∧ ∃ r, pcpRt cfg v.resendTimeout r = 0
  | .send | .waitAfterShortLifeError => (sends ∧ cfg.retxIrt = 0) ∨ reveals
  | .waitForLifetimeRenew | .sendRenew =>
    (sends ∧ (v.recvLifetime < now.tvSec ∨ cfg.retxIrt = 0)) ∨ reveals

/-- The times a timer that has run out can be set to. -/
def SetAnew (cfg : Config) (sends : Prop) (now : Timeval) (v : Flow) (T : Int) : Prop :=
  match v.state with
  | .idle | .waitForServerInit | .failed => False
  | .waitResp => sends ∧ ∃ r, T = now.us + (pcpRt cfg v.resendTimeout r).toNat * 1000
  | .send | .waitAfterShortLifeError => sends ∧ T = now.us + cfg.retxIrt.toNat * 1000
  | .waitForLifetimeRenew | .sendRenew =>
    sends ∧ (T = now.us + ((v.recvLifetime - now.tvSec) >>> (1 : Nat)) * 1000000 ∨
      T = now.us + cfg.retxIrt.toNat * 1000)

/-- A timer that is off, in the future at one of the times `A`, or due, which takes `P`. -/
def LeftBy (now : Timeval) (A : Int → Prop) (P : Prop) (t : Timeval) : Prop :=
  t.Normal ∧ (t.us = 0 ∨ (now.us < t.us ∧ A t.us) ∨ (t.us ≤ now.us ∧ P))

theorem LeftBy.mono {now : Timeval} {A B : Int → Prop} {P Q : Prop} {t : Timeval}
    (h : LeftBy now A P t) (hAB : ∀ T, A T → B T) (hPQ : P → Q) : LeftBy now B Q t :=
  ⟨h.1, h.2.imp_right (Or.imp (And.imp_right (hAB _)) (And.imp_right hPQ))⟩

theorem sendLoop_takes {e : Env} {mk : List UInt8 → Sent} {b : ByteBuffer.Buf} {len n m : Nat} {io io' : Io}
    (h : sendLoop e mk b len n m io = (true, io')) (hm : m ≠ 0) : 0 < e.sendto io.sends := by
  cases n with
  | zero => simp [sendLoop, hm] at h
  | succ n =>
    simp only [sendLoop, if_neg hm] at h
    by_contra hle
    rw [if_pos (by omega)] at h
    cases h

/-- PCP messages are not empty. -/
theorem preparedMsg_nonempty {e : Env} {s : Server} {f : Flow} {io : Io} {b : ByteBuffer.Buf}
    (hb : (preparedMsg e s f io).1.pcpMsgBuffer = some b) (hv : s.pcpVersion ≠ 0) :
    (preparedMsg e s f io).1.pcpMsgLen ≠ 0 := by
  have hfill : ∀ b₀, (f.fillMsg (encodeMsg e.cfg s.pcpVersion f b₀)).pcpMsgBuffer = some b →
      (f.fillMsg (encodeMsg e.cfg s.pcpVersion f b₀)).pcpMsgLen ≠ 0 := by
    intro b₀ hb
    rw [encodeMsg, if_neg hv] at hb ⊢
    cases hbody : buildBody e.cfg s.pcpVersion f (buildHeader s.pcpVersion f b₀) with
    | none =>
      rw [hbody] at hb
      cases hb
    | some r =>
      obtain ⟨b', len⟩ := r
      have hlen := (buildBody_within hbody).2.2
      simp only [Flow.fillMsg, Flow.setMsg]
      omega
  unfold preparedMsg at hb ⊢
  split at hb
  · rename_i hnew
    rw [if_pos hnew]
    rw [buildPcpMsg_some] at hb ⊢
    cases hbuf : f.pcpMsgBuffer with
    | some b₀ =>
      rw [hbuf] at hb
      exact hfill b₀ hb
    | none =>
      rw [hbuf] at hb
      by_cases hal : e.calloc io.callocs = true
      · simp only [if_pos hal] at hb ⊢
        exact hfill .zero hb
      · simp only [if_neg hal, hbuf] at hb
        cases hb
  · rename_i hold
    rw [if_neg hold]
    exact (not_or.mp hold).2

theorem pcpFlowSendMsg_takes {e : Env} {id : FlowId} {i : Nat} {s : Server} {f f' : Flow} {io io' : Io}
    (h : pcpFlowSendMsg e id i s f io = (true, f', io')) :
    (∃ i, 0 < e.sendto i) ∨ s.pcpVersion = 0 := by
  by_cases hv : s.pcpVersion = 0
  · exact .inr hv
  left
  rw [pcpFlowSendMsg_eq] at h
  cases hb : (preparedMsg e s f io).1.pcpMsgBuffer with
  | none =>
    rw [hb] at h
    cases h
  | some b =>
    rw [hb] at h
    have hlen := preparedMsg_nonempty hb hv
    dsimp only at h
    generalize hloop : sendLoop e _ b _ _ _ _ = r at h
    obtain ⟨ok, io₁⟩ := r
    cases ok with
    | true => exact ⟨_, sendLoop_takes hloop hlen⟩
    | false => cases h

section Event

variable {x : FlowEnv} {now : Timeval} (f : Flow) (io : Io)

theorem MaySend.of_sent {s : Server} {i : Nat} {f f' : Flow} {io io' : Io} (hs : x.server = some s)
    (h : pcpFlowSendMsg x.env x.id i s f io = (true, f', io')) : MaySend x :=
  (pcpFlowSendMsg_takes h).imp_right fun hv => ⟨s, hs, hv⟩

theorem failPhase_leftBy (A : Int → Prop) (P : Prop) : LeftBy now A P (failPhase x f io).1.timeout := by
  rw [failPhase_timeout]
  exact ⟨Timeval.normal_zero, .inl rfl⟩

theorem waitPhase_leftBy {A : Int → Prop} {P : Prop}
    (h : (now.us < f.timeout.us ∧ A f.timeout.us) ∨ (f.timeout.us ≤ now.us ∧ P)) :
    LeftBy now A P (waitPhase x f io).1.timeout := by
  unfold waitPhase
  split
  · exact failPhase_leftBy _ _ A P
  · rename_i r _ hr
    have htimer : (fhndlWaitresp x { f with state := .waitResp } io).2.1.timeout =
        timevalAlign f.timeout := rfl
    rw [hr] at htimer
    change r.1.timeout = _ at htimer
    rw [htimer]
    refine ⟨timevalAlign_normal _, .inr ?_⟩
    rwa [us_timevalAlign]

variable (hnow : ∀ i, x.env.clock i = now)

include hnow

theorem armResend_later {A : Int → Prop} {P : Prop} (hA : A (now.us + f.resendTimeout.toNat * 1000))
    (h : f.resendTimeout = 0 → P) :
    (now.us < (armResend x f io).1.timeout.us ∧ A (armResend x f io).1.timeout.us) ∨
      ((armResend x f io).1.timeout.us ≤ now.us ∧ P) := by
  have hus : (armResend x f io).1.timeout.us = now.us + f.resendTimeout.toNat * 1000 := by
    change ((x.env.clock io.ticks).addMs f.resendTimeout.toNat).us = _
    rw [hnow, Timeval.us_addMs]
  rw [hus]
  by_cases hz : f.resendTimeout = 0
  · refine .inr ⟨?_, h hz⟩
    have hzero : f.resendTimeout.toNat = 0 := by rw [hz]; rfl
    omega
  · left
    have hpos : 0 < f.resendTimeout.toNat := by
      rw [Nat.pos_iff_ne_zero]
      intro h0
      exact hz (UInt32.toNat_inj.mp h0)
    exact ⟨by omega, hA⟩

theorem sendPhase_leftBy (hf : f.timeout.Normal) (hdue : f.timeout.us ≤ now.us) :
    LeftBy now (fun T => MaySend x ∧ T = now.us + x.env.cfg.retxIrt.toNat * 1000)
      ((MaySend x ∧ x.env.cfg.retxIrt = 0) ∨ RevealsRestart x) (sendPhase x f io).1.timeout := by
  unfold sendPhase
  rcases fhndlSend_cases x { f with state := .send } io with
    ⟨-, h⟩ | ⟨s, hs, ⟨hr, h⟩ | ⟨-, ⟨⟨f', io'⟩, -, h⟩ | ⟨f', io', hsend, h⟩⟩⟩
  all_goals rw [h]
  · exact failPhase_leftBy _ _ _ _
  · exact ⟨hf, .inr (.inr ⟨hdue, .inr ⟨s, hs, hr⟩⟩)⟩
  · exact failPhase_leftBy _ _ _ _
  · have hmay := MaySend.of_sent hs hsend
    have hlater := armResend_later (A := fun T => MaySend x ∧ T = now.us + x.env.cfg.retxIrt.toNat * 1000)
      (P := (MaySend x ∧ x.env.cfg.retxIrt = 0) ∨ RevealsRestart x)
      { f' with resendTimeout := x.env.cfg.retxIrt } io' hnow ⟨hmay, rfl⟩ fun hz => .inl ⟨hmay, hz⟩
    exact waitPhase_leftBy _ _ hlater

theorem resendPhase_leftBy :
    LeftBy now (fun T => MaySend x ∧
        ∃ r, T = now.us + (pcpRt x.env.cfg f.resendTimeout r).toNat * 1000)
      (MaySend x ∧ ∃ r, pcpRt x.env.cfg f.resendTimeout r = 0) (resendPhase x f io).1.timeout := by
  unfold resendPhase
  rcases fhndlResend_cases x { f with state := .send } io with
    ⟨-, h⟩ | ⟨s, hs, ⟨-, h⟩ | ⟨-, ⟨⟨f', io'⟩, -, h⟩ | ⟨f', io', hsend, h⟩⟩⟩
  all_goals rw [h]
  · exact failPhase_leftBy _ _ _ _
  · exact failPhase_leftBy _ _ _ _
  · exact failPhase_leftBy _ _ _ _
  · have hmay := MaySend.of_sent hs hsend
    obtain ⟨⟨b, l, rfl⟩, -⟩ := pcpFlowSendMsg_counters hsend
    have hkept : ((countRetry x.env.cfg { f with state := .send }).setMsg b l).resendTimeout =
        f.resendTimeout := by
      unfold countRetry
      split <;> rfl
    rw [hkept]
    refine waitPhase_leftBy _ _ ?_
    refine armResend_later (A := fun T => MaySend x ∧
      ∃ r, T = now.us + (pcpRt x.env.cfg f.resendTimeout r).toNat * 1000) _ _ hnow ?_ ?_
    · exact ⟨hmay, _, rfl⟩
    · exact fun hz => ⟨hmay, _, hz⟩

theorem renewPhase_leftBy (hf : f.timeout.Normal) (hn : now.Normal) (hdue : f.timeout.us ≤ now.us) :
    LeftBy now (fun T => MaySend x ∧
        (T = now.us + ((f.recvLifetime - now.tvSec) >>> (1 : Nat)) * 1000000 ∨
          T = now.us + x.env.cfg.retxIrt.toNat * 1000))
      ((MaySend x ∧ (f.recvLifetime < now.tvSec ∨ x.env.cfg.retxIrt = 0)) ∨ RevealsRestart x)
      (renewPhase x f io).1.timeout := by
  have hresent : ∀ {t : Timeval}, LeftBy now
        (fun T => MaySend x ∧ T = now.us + x.env.cfg.retxIrt.toNat * 1000)
        ((MaySend x ∧ x.env.cfg.retxIrt = 0) ∨ RevealsRestart x) t →
      LeftBy now (fun T => MaySend x ∧
          (T = now.us + ((f.recvLifetime - now.tvSec) >>> (1 : Nat)) * 1000000 ∨
            T = now.us + x.env.cfg.retxIrt.toNat * 1000))
        ((MaySend x ∧ (f.recvLifetime < now.tvSec ∨ x.env.cfg.retxIrt = 0)) ∨ RevealsRestart x) t :=
    fun h => h.mono (fun _ => And.imp_right .inr) (Or.imp_left (And.imp_right .inr))
  unfold renewPhase
  rcases fhndlSendRenew_cases x { f with state := .sendRenew } io with
    ⟨-, h⟩ | ⟨s, hs, ⟨⟨f', io'⟩, hsend, h⟩ | ⟨f', io', hsend, ⟨-, h⟩ | ⟨hd, h⟩⟩⟩
  all_goals rw [h]
  · exact hresent (sendPhase_leftBy _ _ hnow hf hdue)
  · obtain ⟨⟨b, l, rfl⟩, -⟩ := pcpFlowSendMsg_counters hsend
    exact hresent (sendPhase_leftBy _ _ hnow hf hdue)
  · have hclock : (x.env.clock io'.ticks).Normal := by rwa [hnow]
    exact hresent (sendPhase_leftBy _ _ hnow hclock (by
      change (x.env.clock io'.ticks).us ≤ now.us
      rw [hnow]))
  · have hmay := MaySend.of_sent hs hsend
    obtain ⟨⟨b, l, rfl⟩, -⟩ := pcpFlowSendMsg_counters hsend
    have hdelay : renewDelay x (({ f with state := .sendRenew } : Flow).setMsg b l) io' =
        (f.recvLifetime - now.tvSec) >>> (1 : Nat) := by
      unfold renewDelay Env.now
      rw [hnow]
      rfl
    have hclock : x.env.now io' = now := hnow _
    simp only [hdelay, hclock] at hd ⊢
    refine ⟨hn, .inr ?_⟩
    rw [Timeval.us_addSec]
    by_cases hexp : f.recvLifetime < now.tvSec
    · refine .inr ⟨?_, .inl ⟨hmay, .inl hexp⟩⟩
      rw [Int.shiftRight_eq_div_pow]
      omega
    · refine .inl ⟨?_, hmay, .inl rfl⟩
      rw [Int.shiftRight_eq_div_pow] at hd ⊢
      omega

/-- The event of a timer that has run out, when the clock stands still. -/
theorem flowStep_leftBy (hf : f.timeout.Normal) (hn : now.Normal) (hdue : f.timeout.us ≤ now.us)
    (hrow : nextState f.state .flowTimedout ≠ none) :
    LeftBy now (SetAnew x.env.cfg (MaySend x) now f)
      (StaysDue x.env.cfg (MaySend x) (RevealsRestart x) now f)
      (flowStep x .flowTimedout f io).1.timeout := by
  rw [flowStep_eq x f io (by simp)]
  unfold StaysDue SetAnew
  cases hst : f.state with
  | idle => exact absurd (by rw [hst]; rfl) hrow
  | waitForServerInit => exact absurd (by rw [hst]; rfl) hrow
  | failed => exact absurd (by rw [hst]; rfl) hrow
  | waitResp => exact resendPhase_leftBy f io hnow
  | send => exact sendPhase_leftBy f io hnow hf hdue
  | waitAfterShortLifeError => exact sendPhase_leftBy f io hnow hf hdue
  | waitForLifetimeRenew => exact renewPhase_leftBy f io hnow hf hn hdue
  | sendRenew => exact renewPhase_leftBy f io hnow hf hn hdue

end Event

/-! ## One flow of the walk -/

/-- What a look at a flow's timer makes of the flow, when the clock stands still. -/
structure Visited (cfg : Config) (now : Timeval) (sends reveals : Prop) (v w : Flow) : Prop where
  isZero : w.timeout.isZero = true ↔ w.timeout.us = 0
  pcpServerIndx : w.pcpServerIndx = v.pcpServerIndx
  same : ¬ v.Fires now → w.timeout.us = v.timeout.us
  stuck : ¬ w.Pending now → w.timeout.us ≠ 0 → v.TimerDue now ∧ StaysDue cfg sends reveals now v
  setAnew : v.Fires now → w.Pending now → w.timeout.us ≠ 0 → SetAnew cfg sends now v w.timeout.us

/-- The time a flow has left at `now`, none without a timer. -/
def leftOf (now : Timeval) (w : Flow) : Option Int :=
  if w.timeout.isZero then none else some (max 0 (w.timeout.us - now.us))

theorem leftOf_nonneg {now : Timeval} {w : Flow} : ∀ n ∈ leftOf now w, 0 ≤ n := by
  intro n hn
  unfold leftOf at hn
  split at hn
  · cases hn
  · cases hn
    omega

theorem staysDue_align {cfg : Config} {S P : Prop} {now : Timeval} {v : Flow} :
    StaysDue cfg S P now (alignTimer v) ↔ StaysDue cfg S P now v := by
  simp only [StaysDue, alignTimer, us_timevalAlign]

theorem staysDue_noRow {cfg : Config} {S P : Prop} {now : Timeval} {v : Flow}
    (hrow : nextState v.state .flowTimedout = none) :
    StaysDue cfg S P now v ↔ v.timeout.us ≠ 0 := by
  unfold StaysDue
  cases hst : v.state with
  | idle => exact .rfl
  | waitForServerInit => exact .rfl
  | failed => exact .rfl
  | _ => rw [hst] at hrow; cases hrow

theorem nearestTimeout_spec {tout left : Timeval} (ht : tout.Normal) (hl : left.Normal) :
    (nearestTimeout tout left).Normal ∧
      (nearestTimeout tout left).us = lower tout.us (some left.us) := by
  simp only [nearestTimeout, lower, ht.isZero_iff]
  by_cases hzero : tout.us = 0
  · rw [if_pos hzero, if_pos hzero]
    exact ⟨hl, rfl⟩
  rw [if_neg hzero, if_neg hzero]
  split
  · refine ⟨timevalAlign_normal _, ?_⟩
    rw [us_timevalAlign]
    omega
  · refine ⟨timevalAlign_normal _, ?_⟩
    rw [us_timevalAlign]
    omega

section Visit

variable {e : Env} {now : Timeval} {c : Ctx} {f : FlowId} {s : Nat}

theorem timerLeft_spec (now : Timeval) :
    (timerLeft c f now).Normal ∧ (timerLeft c f now).us = max 0 ((c.heap f).timeout.us - now.us) := by
  unfold timerLeft
  by_cases hlt : now.us < (c.heap f).timeout.us
  · obtain ⟨hus, hn⟩ := timevalSubtractInto_left (x := (c.heap f).timeout) (y := timevalAlign now)
      (by rwa [us_timevalAlign])
    rw [us_timevalAlign] at hus
    exact ⟨hn, by omega⟩
  · rw [timevalSubtractInto_over (by rw [us_timevalAlign]; omega)]
    refine ⟨Timeval.normal_zero, ?_⟩
    have hzero : Timeval.zero.us = 0 := rfl
    omega

/-- The flow after its timer has been compared, and its event handled if it was due. -/
theorem fireTimer_visited (hn : now.Normal) (hz : (c.heap f).timeout.isZero = false) :
    ((fireTimer (e.frozen now) c f).heap f).timeout.Normal ∧
      Visited e.cfg now (MaySend (c.flowEnv e f none)) (RevealsRestart (c.flowEnv e f none)) (c.heap f)
        ((fireTimer (e.frozen now) c f).heap f) := by
  have hself : (c.tick.modFlow f alignTimer).heap f = alignTimer (c.heap f) := by
    simp [Ctx.modFlow]
  have hnow : (e.frozen now).now c.io = now := rfl
  have hkeep : (alignTimer (c.heap f)).timeout.Normal := timevalAlign_normal _
  have hus : (alignTimer (c.heap f)).timeout.us = (c.heap f).timeout.us := us_timevalAlign _
  -- Without an event the timer is aligned and nothing else.
  have haligned : (¬ (c.heap f).Fires now) →
      Visited e.cfg now (MaySend (c.flowEnv e f none)) (RevealsRestart (c.flowEnv e f none)) (c.heap f)
        (alignTimer (c.heap f)) := by
    intro hfires
    refine ⟨hkeep.isZero_iff, rfl, fun _ => hus, fun hpend hne => ?_, fun h => absurd h hfires⟩
    rw [hus] at hne
    have hdue : (c.heap f).TimerDue now := ⟨hz, by
      unfold Flow.Pending at hpend
      omega⟩
    refine ⟨hdue, (staysDue_noRow ?_).mpr hne⟩
    by_contra hrow
    exact hfires ⟨hdue, hrow⟩
  unfold fireTimer
  rw [hnow]
  by_cases hdue : (c.heap f).timeout.us ≤ now.us
  · rw [if_pos hdue, handleFlowEvent_heap, Function.update_self, hself]
    generalize hx : (c.tick.modFlow f alignTimer).flowEnv (e.frozen now) f none = x
    generalize (c.tick.modFlow f alignTimer).io = io
    by_cases hrow : nextState (c.heap f).state .flowTimedout = none
    · have hsame : flowStep x .flowTimedout (alignTimer (c.heap f)) io =
          (alignTimer (c.heap f), io) := by
        have hrow' : nextState (alignTimer (c.heap f)).state .flowTimedout = none := hrow
        rw [flowStep_eq x _ io (by simp), hrow']
      rw [hsame]
      exact ⟨hkeep, haligned fun h => h.2 hrow⟩
    · have hclock : ∀ i, x.env.clock i = now := by
        intro i
        rw [← hx]
        rfl
      have hreveals : RevealsRestart x ↔ RevealsRestart (c.flowEnv e f none) := by
        rw [← hx]
        unfold RevealsRestart Ctx.flowEnv
        rw [hself]
        rfl
      have hsends : MaySend x ↔ MaySend (c.flowEnv e f none) := by
        rw [← hx]
        unfold MaySend Ctx.flowEnv
        rw [hself]
        rfl
      have hcfg : x.env.cfg = e.cfg := by
        rw [← hx]
        rfl
      obtain ⟨hnormal, hleft⟩ := flowStep_leftBy (alignTimer (c.heap f)) io hclock hkeep hn
        (hus.trans_le hdue) hrow
      rw [staysDue_align, hcfg, propext hsends, propext hreveals] at hleft
      have hindx := (flowStep_moves x (alignTimer (c.heap f)) io
        (show FlowEvent.flowTimedout ≠ .msgSent by simp)).frame.kept.pcpServerIndx
      refine ⟨hnormal, hnormal.isZero_iff, hindx, fun h => absurd ⟨⟨hz, hdue⟩, hrow⟩ h,
        fun hpend hne => ⟨⟨hz, hdue⟩, ?_⟩, fun _ hpend hne => ?_⟩
      · rcases hleft with h | h | h
        · exact absurd h hne
        · exact absurd h.1 hpend
        · exact h.2
      · rcases hleft with h | h | h
        · exact absurd h hne
        · exact h.2
        · exact absurd hpend (Int.not_lt.mpr h.1)
  · rw [if_neg hdue, hself]
    exact ⟨hkeep, haligned fun h => hdue h.1.2⟩

theorem fireTimer_servers (e : Env) (c : Ctx) (f : FlowId) :
    (fireTimer e c f).pcpServersLength = c.pcpServersLength ∧
      (fireTimer e c f).pcpServers = c.pcpServers := by
  unfold fireTimer
  split
  · rw [handleFlowEvent_pcpServersLength, handleFlowEvent_pcpServers]
    exact ⟨rfl, rfl⟩
  · exact ⟨rfl, rfl⟩

/-- One flow of the walk. -/
theorem checkFlowTimeout_visited (hn : now.Normal) (hnt : (c.pcpServers s).nextTimeout.Normal) :
    Visited e.cfg now (MaySend (c.flowEnv e f none)) (RevealsRestart (c.flowEnv e f none)) (c.heap f)
        ((checkFlowTimeout (e.frozen now) s c f).heap f) ∧
      ((checkFlowTimeout (e.frozen now) s c f).pcpServers s).nextTimeout.Normal ∧
      ((checkFlowTimeout (e.frozen now) s c f).pcpServers s).nextTimeout.us =
        lower (c.pcpServers s).nextTimeout.us
          (leftOf now ((checkFlowTimeout (e.frozen now) s c f).heap f)) := by
  rw [checkFlowTimeout_eq]
  split
  · rename_i hz
    have hus : (c.heap f).timeout.us = 0 := by
      rw [Timeval.isZero_iff.mp hz]
      rfl
    refine ⟨⟨iff_of_true hz hus, rfl, fun _ => rfl, fun _ hne => absurd hus hne,
      fun _ _ hne => absurd hus hne⟩, hnt, ?_⟩
    rw [leftOf, if_pos hz]
    rfl
  · rename_i hz
    obtain ⟨hnormal, hvis⟩ := fireTimer_visited (e := e) hn (by simpa using hz)
    obtain ⟨-, hservers⟩ := fireTimer_servers (e.frozen now) c f
    have hnow : (e.frozen now).now c.io = now := rfl
    rw [hnow]
    generalize fireTimer (e.frozen now) c f = a at hnormal hvis hservers ⊢
    unfold lowerTimeout
    split
    · rename_i hz'
      rw [hservers, leftOf, if_pos hz']
      exact ⟨hvis, hnt, rfl⟩
    · rename_i hz'
      have hself : ((a.modFlow f alignTimer).setNextTimeout s
          (nearestTimeout (a.pcpServers s).nextTimeout (timerLeft a f now))).heap f = a.heap f := by
        have hfix : alignTimer (a.heap f) = a.heap f := by
          rw [alignTimer, timevalAlign_of_normal hnormal]
        simp only [Ctx.setNextTimeout, Ctx.modServer, Ctx.modFlow, Ctx.setServer_heap, Ctx.setFlow_heap,
          Function.update_self, hfix]
      obtain ⟨hleft, hus⟩ := timerLeft_spec (c := a) (f := f) now
      have hnear := nearestTimeout_spec hnt hleft
      rw [hself, Ctx.setNextTimeout_self, hservers, leftOf, if_neg hz']
      rw [hus] at hnear
      exact ⟨hvis, hnear⟩

theorem checkFlowTimeout_servers (e : Env) (s : Nat) (c : Ctx) (f : FlowId) :
    (checkFlowTimeout e s c f).pcpServersLength = c.pcpServersLength ∧
      ∀ i, ∃ t, (checkFlowTimeout e s c f).pcpServers i = { c.pcpServers i with nextTimeout := t } := by
  rw [checkFlowTimeout_eq]
  split
  · exact ⟨rfl, fun i => ⟨_, rfl⟩⟩
  obtain ⟨hlen, hservers⟩ := fireTimer_servers e c f
  unfold lowerTimeout
  split
  · exact ⟨hlen, fun i => ⟨_, by rw [hservers]⟩⟩
  · refine ⟨hlen, fun i => ?_⟩
    by_cases hi : i = s
    · subst hi
      refine ⟨nearestTimeout (c.pcpServers i).nextTimeout (timerLeft (fireTimer e c f) f (e.now c.io)), ?_⟩
      rw [Ctx.setNextTimeout_self]
      simp [Ctx.modFlow, hservers]
    · refine ⟨(c.pcpServers i).nextTimeout, ?_⟩
      simp [Ctx.setNextTimeout, Ctx.modServer, Ctx.modFlow, hi, hservers]

end Visit

/-! ## The walk -/

theorem revealsRestart_congr {e : Env} {a b : Ctx} {f : FlowId} (hlen : b.pcpServersLength = a.pcpServersLength)
    (hservers : ∀ i, ∃ t, b.pcpServers i = { a.pcpServers i with nextTimeout := t })
    (hf : (b.heap f).pcpServerIndx = (a.heap f).pcpServerIndx) :
    RevealsRestart (b.flowEnv e f none) ↔ RevealsRestart (a.flowEnv e f none) := by
  obtain ⟨t, ht⟩ := hservers (a.heap f).pcpServerIndx
  simp only [RevealsRestart, Ctx.flowEnv, serverOf, getPcpServer, hf, hlen, ht]
  split
  · simp [ht]
  · simp

theorem maySend_congr {e : Env} {a b : Ctx} {f : FlowId} (hlen : b.pcpServersLength = a.pcpServersLength)
    (hservers : ∀ i, ∃ t, b.pcpServers i = { a.pcpServers i with nextTimeout := t })
    (hf : (b.heap f).pcpServerIndx = (a.heap f).pcpServerIndx) :
    MaySend (b.flowEnv e f none) ↔ MaySend (a.flowEnv e f none) := by
  obtain ⟨t, ht⟩ := hservers (a.heap f).pcpServerIndx
  simp only [MaySend, Ctx.flowEnv, serverOf, getPcpServer, hf, hlen, ht]
  split
  · simp [ht]
  · simp

/-- The walk of `handle_wait_io_timeout` over the flows `l`, when the clock stands still. -/
structure Walked (e : Env) (now : Timeval) (s : Nat) (l : List FlowId) (c c' : Ctx) : Prop where
  length : c'.pcpServersLength = c.pcpServersLength
  servers : ∀ i, ∃ t, c'.pcpServers i = { c.pcpServers i with nextTimeout := t }
  flows : c'.flows = c.flows
  others : ∀ g, g ∉ l → c'.heap g = c.heap g
  visited : ∀ f ∈ l, Visited e.cfg now (MaySend (c.flowEnv e f none))
    (RevealsRestart (c.flowEnv e f none)) (c.heap f) (c'.heap f)
  normal : (c'.pcpServers s).nextTimeout.Normal
  nextTimeout : (c'.pcpServers s).nextTimeout.us =
    l.foldl (fun a f => lower a (leftOf now (c'.heap f))) (c.pcpServers s).nextTimeout.us

theorem walked {e : Env} {now : Timeval} {s : Nat} {l : List FlowId} {c : Ctx} (hn : now.Normal)
    (hl : l.Nodup) (hnt : (c.pcpServers s).nextTimeout.Normal) :
    Walked e now s l c (l.foldl (checkFlowTimeout (e.frozen now) s) c) := by
  induction l generalizing c with
  | nil => exact ⟨rfl, fun i => ⟨_, rfl⟩, rfl, fun _ _ => rfl, fun _ h => (by cases h), hnt, rfl⟩
  | cons f l ih =>
    obtain ⟨hf, hl⟩ := List.nodup_cons.mp hl
    obtain ⟨hvis, hnormal, hnear⟩ := checkFlowTimeout_visited (e := e) (f := f) hn hnt
    obtain ⟨hlen, hservers⟩ := checkFlowTimeout_servers (e.frozen now) s c f
    have hother : ∀ g, g ≠ f → (checkFlowTimeout (e.frozen now) s c f).heap g = c.heap g :=
      fun g hg => checkFlowTimeout_other _ _ _ hg
    have hflows := checkFlowTimeout_flows (e.frozen now) s c f
    simp only [List.foldl_cons]
    generalize checkFlowTimeout (e.frozen now) s c f = a at *
    have h := ih (c := a) hl hnormal
    generalize l.foldl (checkFlowTimeout (e.frozen now) s) a = c' at *
    have hkeep : c'.heap f = a.heap f := h.others f hf
    refine ⟨h.length.trans hlen, fun i => ?_, h.flows.trans hflows, fun g hg => ?_, fun g hg => ?_,
      h.normal, ?_⟩
    · obtain ⟨t, ht⟩ := hservers i
      obtain ⟨t', ht'⟩ := h.servers i
      exact ⟨t', by rw [ht', ht]⟩
    · obtain ⟨hgf, hgl⟩ := not_or.mp (List.mem_cons.not.mp hg)
      rw [h.others g hgl, hother g hgf]
    · by_cases hgf : g = f
      · subst hgf
        rw [hkeep]
        exact hvis
      · have hgl := (List.mem_cons.mp hg).resolve_left hgf
        have hv := h.visited g hgl
        have hsame := revealsRestart_congr (e := e) (f := g) hlen hservers (by rw [hother g hgf])
        have hsends := maySend_congr (e := e) (f := g) hlen hservers (by rw [hother g hgf])
        rwa [hother g hgf, propext hsame, propext hsends] at hv
    · rw [h.nextTimeout, hnear, List.foldl_cons, hkeep]

/-- What `handle_wait_io_timeout` leaves to its server, from what the walk left. -/
theorem waitIoTimeout_nextTimeout {e : Env} {now : Timeval} {s : Nat} {c : Ctx} (h0 : 0 < now.us)
    {a : Ctx} (ha : c.allFlows.foldl (checkFlowTimeout (e.frozen now) s) (c.setNextTimeout s .zero) = a)
    (hn : (a.pcpServers s).nextTimeout.Normal) (hpos : 0 ≤ (a.pcpServers s).nextTimeout.us) (T : Int) :
    (((handleWaitIoTimeout (e.frozen now) c s).2.pcpServers s).nextTimeout.isZero = false ∧
        ((handleWaitIoTimeout (e.frozen now) c s).2.pcpServers s).nextTimeout.us ≤ T) ↔
      0 < (a.pcpServers s).nextTimeout.us ∧ (a.pcpServers s).nextTimeout.us ≤ T - now.us := by
  have hall : (c.setNextTimeout s .zero).allFlows = c.allFlows := rfl
  have hnow : (e.frozen now).now a.io = now := rfl
  simp only [handleWaitIoTimeout, hall, ha, hnow]
  by_cases hz : (a.pcpServers s).nextTimeout.isZero = true
  · rw [if_pos hz, hz]
    have hus := hn.isZero_iff.mp hz
    simp [hus]
  · rw [if_neg hz, Ctx.setNextTimeout_self]
    rw [hn.isZero_iff] at hz
    have hsum : (timevalAlign ⟨(a.pcpServers s).nextTimeout.tvSec + now.tvSec,
        (a.pcpServers s).nextTimeout.tvUsec + now.tvUsec⟩).us =
          (a.pcpServers s).nextTimeout.us + now.us := by
      rw [us_timevalAlign]
      simp only [Timeval.us]
      omega
    have hne : (timevalAlign ⟨(a.pcpServers s).nextTimeout.tvSec + now.tvSec,
        (a.pcpServers s).nextTimeout.tvUsec + now.tvUsec⟩).isZero = false :=
      Timeval.not_isZero_of_pos (by rw [hsum]; omega)
    simp only [hne, hsum, true_and]
    omega

/-! ## Wake-ups -/

/-- No pending timer of a flow of the server is overslept. -/
def WakesInTime (now : Timeval) (s : Nat) (c : Ctx) : Prop :=
  ∀ f ∈ c.allFlows, (c.heap f).pcpServerIndx = (c.pcpServers s).index → (c.heap f).Pending now →
    (c.pcpServers s).nextTimeout.isZero = false ∧
      (c.pcpServers s).nextTimeout.us ≤ (c.heap f).timeout.us

/-- A flow whose timer has run out and may stay so. -/
def Stuck (e : Env) (c : Ctx) (now : Timeval) (f : FlowId) : Prop :=
  (c.heap f).TimerDue now ∧
    StaysDue e.cfg (MaySend (c.flowEnv e f none)) (RevealsRestart (c.flowEnv e f none)) now (c.heap f)

/-- A time the timer of `f` is set to, or may be set to by the event of this walk. -/
def WakeAt (e : Env) (c : Ctx) (now : Timeval) (f : FlowId) (T : Int) : Prop :=
  ((c.heap f).Pending now ∧ T = (c.heap f).timeout.us) ∨
    ((c.heap f).Fires now ∧ now.us < T ∧
      SetAnew e.cfg (MaySend (c.flowEnv e f none)) now (c.heap f) T)

/-- For every such time of a flow of the server: every stuck flow is followed by a pending timer that is
no later. -/
def StuckFollowed (e : Env) (c : Ctx) (now : Timeval) (s : Nat) : Prop :=
  ∀ f ∈ c.allFlows, (c.heap f).pcpServerIndx = (c.pcpServers s).index →
    ∀ T, WakeAt e c now f T →
      Followed (Stuck e c now) (fun g => (c.heap g).Pending now ∧ (c.heap g).timeout.us ≤ T) c.allFlows

theorem Flow.Pending.not_fires {now : Timeval} {v : Flow} (h : v.Pending now) : ¬ v.Fires now := by
  intro hf
  have := hf.1.2
  unfold Flow.Pending at h
  omega

theorem leftOf_eq_zero {now : Timeval} {w : Flow} :
    leftOf now w = some 0 ↔ w.timeout.isZero = false ∧ ¬ w.Pending now := by
  unfold leftOf Flow.Pending
  cases w.timeout.isZero with
  | true => simp
  | false =>
    simp only [Bool.false_eq_true, if_false, Option.some.injEq, true_and]
    omega

theorem mem_leftOf {now : Timeval} {w : Flow} {T : Int} (h0 : 0 < now.us) :
    (∃ n ∈ leftOf now w, 0 < n ∧ n ≤ T - now.us) ↔ w.Pending now ∧ w.timeout.us ≤ T := by
  unfold leftOf Flow.Pending
  cases hz : w.timeout.isZero with
  | true =>
    have hus : w.timeout.us = 0 := by
      rw [Timeval.isZero_iff.mp hz]
      rfl
    simp only [if_true, Option.mem_def, reduceCtorEq, false_and, exists_false, false_iff]
    omega
  | false =>
    simp only [Bool.false_eq_true, if_false, Option.mem_def, Option.some.injEq, exists_eq_left']
    omega

/-- The walk over a reachable table, and what it comes to for one pending timer. -/
theorem waitIoTimeout_iff {e : Env} {c : Ctx} {now : Timeval} (hc : Reachable e c) (hn : now.Normal)
    (h0 : 0 < now.us) (s : Nat) :
    ∃ a, Walked e now s c.allFlows (c.setNextTimeout s .zero) a ∧
      (WakesInTime now s (handleWaitIoTimeout (e.frozen now) c s).2 ↔
        ∀ f ∈ c.allFlows, (c.heap f).pcpServerIndx = (c.pcpServers s).index →
          (a.heap f).Pending now →
          Followed (fun g => leftOf now (a.heap g) = some 0)
            (fun g => (a.heap g).Pending now ∧ (a.heap g).timeout.us ≤ (a.heap f).timeout.us)
            c.allFlows) := by
  have hoff : ((c.setNextTimeout s .zero).pcpServers s).nextTimeout = .zero := by
    rw [Ctx.setNextTimeout_self]
  have hzero : ((c.setNextTimeout s .zero).pcpServers s).nextTimeout.us = 0 := by
    rw [hoff]
    rfl
  have hwalk := walked (e := e) (c := c.setNextTimeout s .zero) hn hc.ctxOk.table.allFlows_nodup
    (by rw [hoff]; exact Timeval.normal_zero)
  generalize ha : c.allFlows.foldl (checkFlowTimeout (e.frozen now) s) (c.setNextTimeout s .zero) = a
    at hwalk
  refine ⟨a, hwalk, ?_⟩
  have hval : ∀ x ∈ c.allFlows, ∀ n ∈ leftOf now (a.heap x), 0 ≤ n := fun x _ => leftOf_nonneg
  have hpos : 0 ≤ (a.pcpServers s).nextTimeout.us := by
    rw [hwalk.nextTimeout, hzero]
    exact foldl_lower_nonneg _ (Int.le_refl 0) hval
  have hflow : ∀ T, (∃ f ∈ c.allFlows, (a.heap f).Pending now ∧ (a.heap f).timeout.us ≤ T) →
      ((((handleWaitIoTimeout (e.frozen now) c s).2.pcpServers s).nextTimeout.isZero = false ∧
        ((handleWaitIoTimeout (e.frozen now) c s).2.pcpServers s).nextTimeout.us ≤ T) ↔
      Followed (fun g => leftOf now (a.heap g) = some 0)
        (fun g => (a.heap g).Pending now ∧ (a.heap g).timeout.us ≤ T) c.allFlows) := by
    intro T hself
    rw [waitIoTimeout_nextTimeout h0 ha hwalk.normal hpos, hwalk.nextTimeout, hzero,
      foldl_lower_iff _ (Int.le_refl 0) hval]
    simp only [mem_leftOf h0]
    exact and_iff_left (.inr hself)
  have hsame : (handleWaitIoTimeout (e.frozen now) c s).2.allFlows = c.allFlows ∧
      (handleWaitIoTimeout (e.frozen now) c s).2.heap = a.heap ∧
      ((handleWaitIoTimeout (e.frozen now) c s).2.pcpServers s).index = (c.pcpServers s).index := by
    obtain ⟨t, ht⟩ := hwalk.servers s
    have hindex : (a.pcpServers s).index = (c.pcpServers s).index := by
      rw [ht, Ctx.setNextTimeout_self]
    have hall : (c.setNextTimeout s .zero).allFlows = c.allFlows := rfl
    have hflows : a.allFlows = c.allFlows := by
      unfold Ctx.allFlows
      rw [hwalk.flows]
      rfl
    simp only [handleWaitIoTimeout, hall, ha]
    split
    · exact ⟨hflows, rfl, hindex⟩
    · refine ⟨hflows, rfl, ?_⟩
      rw [Ctx.setNextTimeout_self]
      exact hindex
  unfold WakesInTime
  rw [hsame.1, hsame.2.1, hsame.2.2]
  refine forall₂_congr fun f hf => ?_
  rw [(hwalk.visited f hf).pcpServerIndx]
  exact forall₂_congr fun _ hpend => hflow _ ⟨f, hf, hpend, Int.le_refl _⟩

/-- A mapping of the first server that is to be renewed after 30 seconds. -/
def renewsAt1030 : Ctx :=
  runTo (.calm {}) (fun _ _ => True) 5 {}
    (waitingFlow ++ [.pulse (some (mapResponse 0 60 1 7)) .zero])

/-- A second server has been added since, and a flow on both. -/
def flowOnNewServer : Ctx :=
  runTo (.calm {}) (fun _ _ => True) 5 renewsAt1030
    [.addServer (.inet 0x0A000003 0) 2, .newFlow (.inet 0x0A000002 83) none none 6 60]

theorem renewsAt1030_reachable : Reachable (.calm {}) renewsAt1030 := Runs.runTo (by decide +kernel)

end LibPcp
