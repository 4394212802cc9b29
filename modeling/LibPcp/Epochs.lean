import LibPcp.ServerMachine

/-!
# LibPcp.Epochs

When `compare_epochs` takes an answer for a sign that the server has restarted.

The server's clock may run a sixteenth faster or slower than the client's and be two seconds off. Both
differences to the baseline are kept modulo `2^32`, where a clock that is a second behind the baseline
is far ahead of it.

* `compareEpochs_ahead`: from the baseline on, the comparison is the one of the integers.
* `compareEpochs_behind`: behind it every answer counts as a restart.
* `compareEpochs_tolerant_iff`: the tolerance is kept except behind the baseline.
-/

namespace LibPcp

/-- How far the client's clock is past the baseline. -/
def clientDelta (m : RecvMsg) (s : Server) : Int := m.receivedTime - s.cepoch

/-- How far the server's clock is past the baseline. -/
def serverDelta (m : RecvMsg) (s : Server) : Int := (m.recvEpoch.toNat : Int) - s.epoch.toNat

/-- A clock at `x` is behind one at `y` by more than a sixteenth and two seconds. -/
def Lags (x y : Int) : Prop := x + 2 < y - y / 16

/-- What the tolerance says about the verdict on two differences. -/
structure Tolerant (dc ds : Int) (restarted : Bool) : Prop where
  near : (ds - dc).natAbs ≤ 2 → restarted = false
  behind : ds < -2 → restarted = true
  ahead : 0 ≤ ds → (restarted = true ↔ Lags dc ds ∨ Lags ds dc)

section Words

/-- The two differences as the source has them. -/
def clientWord (m : RecvMsg) (s : Server) : UInt32 :=
  UInt32.ofNat ((m.receivedTime - s.cepoch) % 2 ^ 32).toNat

def serverWord (m : RecvMsg) (s : Server) : UInt32 := m.recvEpoch - s.epoch

/-- The test on words. -/
def lagsWord (x y : UInt32) : Bool := decide (x + (2 : UInt32) < y - (y >>> (4 : UInt32)))

theorem compareEpochs_fst {m : RecvMsg} {s : Server} (h : s.epoch ≠ 0xFFFFFFFF) :
    (compareEpochs m s).1 = (lagsWord (clientWord m s) (serverWord m s) ||
      lagsWord (serverWord m s) (clientWord m s)) := by
  simp only [compareEpochs, if_neg h]
  rfl

/-- Without wrap-around in the sum the test on words is the one on their values. -/
theorem lagsWord_iff {x y : UInt32} (h : x.toNat + 2 < 2 ^ 32) :
    lagsWord x y = true ↔ Lags x.toNat y.toNat := by
  have hsum : (x + (2 : UInt32)).toNat = x.toNat + 2 := by
    rw [UInt32.toNat_add]
    exact Nat.mod_eq_of_lt h
  have hshift : (y >>> (4 : UInt32)).toNat = y.toNat / 16 := by
    rw [UInt32.toNat_shiftRight]
    exact Nat.shiftRight_eq_div_pow y.toNat 4
  have hle : y >>> (4 : UInt32) ≤ y := by
    rw [UInt32.le_iff_toNat_le, hshift]
    exact Nat.div_le_self ..
  have hdiff : (y - (y >>> (4 : UInt32))).toNat = y.toNat - y.toNat / 16 := by
    rw [UInt32.toNat_sub_of_le _ _ hle, hshift]
  simp only [lagsWord, Lags, decide_eq_true_eq, UInt32.lt_iff_toNat_lt, hsum, hdiff]
  omega

variable {m : RecvMsg} {s : Server}

theorem clientWord_toNat (h : 0 ≤ clientDelta m s) (hlt : clientDelta m s < 2 ^ 30) :
    ((clientWord m s).toNat : Int) = clientDelta m s := by
  unfold clientWord clientDelta at *
  rw [UInt32.toNat_ofNat']
  omega

theorem serverWord_toNat (m : RecvMsg) (s : Server) :
    ((serverWord m s).toNat : Int) =
      if 0 ≤ serverDelta m s then serverDelta m s else 2 ^ 32 + serverDelta m s := by
  have hm := m.recvEpoch.toNat_lt
  have hs := s.epoch.toNat_lt
  unfold serverWord serverDelta
  rw [UInt32.toNat_sub]
  split <;> omega

end Words

section Verdict

variable {m : RecvMsg} {s : Server} (hepoch : s.epoch ≠ 0xFFFFFFFF) (hc : 0 ≤ clientDelta m s)
  (hclt : clientDelta m s < 2 ^ 30) (hs : (serverDelta m s).natAbs < 2 ^ 30)

include hepoch hc hclt hs

theorem compareEpochs_ahead (h : 0 ≤ serverDelta m s) : (compareEpochs m s).1 = true ↔
    Lags (clientDelta m s) (serverDelta m s) ∨ Lags (serverDelta m s) (clientDelta m s) := by
  have hcw := clientWord_toNat hc hclt
  have hsw := serverWord_toNat m s
  rw [if_pos h] at hsw
  rw [compareEpochs_fst hepoch, Bool.or_eq_true, lagsWord_iff (by omega), lagsWord_iff (by omega), hcw,
    hsw]

/-- A difference below zero is more than `2^31` as a word, even less a sixteenth. -/
theorem compareEpochs_behind (h : serverDelta m s < 0) : (compareEpochs m s).1 = true := by
  have hcw := clientWord_toNat hc hclt
  have hsw := serverWord_toNat m s
  rw [if_neg (by omega)] at hsw
  rw [compareEpochs_fst hepoch, Bool.or_eq_true, lagsWord_iff (by omega)]
  left
  unfold Lags
  omega

/-- The tolerance is kept exactly when the server's clock is not a little behind the baseline. -/
theorem compareEpochs_tolerant_iff :
    Tolerant (clientDelta m s) (serverDelta m s) (compareEpochs m s).1 ↔
      ¬ (serverDelta m s < 0 ∧ (serverDelta m s - clientDelta m s).natAbs ≤ 2) := by
  constructor
  · intro ht hbad
    have hfalse := ht.near hbad.2
    rw [compareEpochs_behind hepoch hc hclt hs hbad.1] at hfalse
    exact Bool.noConfusion hfalse
  · intro hgood
    have hahead := compareEpochs_ahead hepoch hc hclt hs
    refine ⟨fun hnear => ?_, fun hbehind => ?_, hahead⟩
    · have hge : 0 ≤ serverDelta m s := by omega
      rw [Bool.eq_false_iff, Ne, hahead hge]
      unfold Lags
      omega
    · exact compareEpochs_behind hepoch hc hclt hs (by omega)

end Verdict

/-- A server first heard of at epoch 10, when the client's clock read 20. -/
def epochTen : Server := { Server.zero with epoch := 10, cepoch := 20 }

/-- An answer at the given epoch and time. -/
def answerAt (epoch : UInt32) (time : Int) : RecvMsg :=
  { RecvMsg.zero with recvEpoch := epoch, receivedTime := time }

theorem compareEpochs_tolerant_iff_ahead :
    Tolerant 17 15 (compareEpochs (answerAt 25 37) epochTen).1 :=
  (compareEpochs_tolerant_iff (m := answerAt 25 37) (s := epochTen) (by decide) (by decide) (by decide)
    (by decide)).mpr (by decide)

/-- An answer that is a second old counts as a restart. -/
theorem compareEpochs_second_behind :
    ¬ ∀ (m : RecvMsg) (s : Server), s.epoch ≠ 0xFFFFFFFF → 0 ≤ clientDelta m s →
      clientDelta m s < 2 ^ 30 → (serverDelta m s).natAbs < 2 ^ 30 →
      Tolerant (clientDelta m s) (serverDelta m s) (compareEpochs m s).1 := by
  intro hall
  have hnear := (hall (answerAt 9 20) epochTen (by decide) (by decide) (by decide) (by decide)).near
    (by decide)
  revert hnear
  decide

end LibPcp
