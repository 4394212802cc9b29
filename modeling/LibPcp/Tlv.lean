import LibPcp.Buffer

/-!
# LibPcp.Tlv

Type-length-value records in a byte buffer: one code byte, one reserved byte, a 16-bit length of the
data in network byte order, then the data. `Tlv.walk` reads the records of a region by following the
length fields and fails unless it ends exactly at the end of the region; `walk_of_bytes` says that it
reads back what `append` wrote.
-/

namespace ByteBuffer

structure Tlv where
  code : UInt8
  reserved : UInt8
  data : List UInt8
  deriving DecidableEq, Repr

namespace Tlv

def bytes (t : Tlv) : List UInt8 :=
  [t.code, t.reserved] ++ be16 (UInt16.ofNat t.data.length) ++ t.data

def bytesAll (ts : List Tlv) : List UInt8 := ts.flatMap bytes

/-- Write the records `ts` at the cursor. -/
def append (c : Buf × Nat) (ts : List Tlv) : Buf × Nat :=
  (c.1.blit c.2 (bytesAll ts), c.2 + (bytesAll ts).length)

/-- The records between `off` and `stop`, if the length fields lead from one to the other. The
first argument bounds the number of records. -/
def walk (b : Buf) (stop : Nat) : Nat → Nat → Option (List Tlv)
  | 0, off => if off = stop then some [] else none
  | n + 1, off =>
    if off = stop then some []
    else if off + 4 ≤ stop then
      let len := (b.u16 (off + 2)).toNat
      if off + 4 + len ≤ stop then
        (walk b stop n (off + 4 + len)).map (⟨b off, b (off + 1), b.slice (off + 4) len⟩ :: ·)
      else none
    else none

@[simp] theorem bytes_length (t : Tlv) : t.bytes.length = 4 + t.data.length := by
  simp [bytes]; omega

@[simp] theorem bytesAll_nil : bytesAll [] = [] := rfl

@[simp] theorem bytesAll_cons (t : Tlv) (ts : List Tlv) :
    bytesAll (t :: ts) = t.bytes ++ bytesAll ts := rfl

theorem bytesAll_append (ts ts' : List Tlv) :
    bytesAll (ts ++ ts') = bytesAll ts ++ bytesAll ts' := by
  simp [bytesAll]

theorem length_le_bytesAll (ts : List Tlv) : ts.length ≤ (bytesAll ts).length := by
  induction ts with
  | nil => simp
  | cons t ts ih => simp; omega

theorem bytes_length_le_bytesAll {ts : List Tlv} {t : Tlv} (h : t ∈ ts) :
    t.bytes.length ≤ (bytesAll ts).length := by
  induction ts with
  | nil => cases h
  | cons t' ts ih =>
    rw [bytesAll_cons, List.length_append]
    cases h with
    | head => omega
    | tail _ h => have := ih h; omega

@[simp] theorem append_nil (c : Buf × Nat) : append c [] = c := by simp [append]

/-- Two runs of records written one after the other are one run. -/
theorem append_append (c : Buf × Nat) (ts ts' : List Tlv) :
    append (append c ts) ts' = append c (ts ++ ts') := by
  simp only [append, bytesAll_append, List.length_append, Buf.blit_blit_append, Nat.add_assoc]

theorem append_zeroFrom {c : Buf × Nat} (h : c.1.ZeroFrom c.2) (ts : List Tlv) :
    (append c ts).1.ZeroFrom (append c ts).2 := h.blit _

/-- The writer `g` writes the records `ts` at the cursor of a buffer that is zero from there on. -/
def Appends (g : Buf × Nat → Buf × Nat) (ts : List Tlv) : Prop :=
  ∀ c : Buf × Nat, c.1.ZeroFrom c.2 → g c = append c ts

theorem Appends.comp {g g' : Buf × Nat → Buf × Nat} {ts ts' : List Tlv} (h : Appends g ts)
    (h' : Appends g' ts') : Appends (fun c => g' (g c)) (ts ++ ts') := by
  intro c hc
  simp only [h c hc]
  rw [h' _ (append_zeroFrom hc ts), append_append]

/-- Run the writer `g` if `p` holds. -/
def writeIf (p : Prop) [Decidable p] (g : Buf × Nat → Buf × Nat) (c : Buf × Nat) : Buf × Nat :=
  if p then g c else c

@[simp] theorem writeIf_true (g : Buf × Nat → Buf × Nat) (c : Buf × Nat) :
    writeIf True g c = g c := if_pos trivial

@[simp] theorem writeIf_false (g : Buf × Nat → Buf × Nat) (c : Buf × Nat) :
    writeIf False g c = c := if_neg id

theorem Appends.writeIf {g : Buf × Nat → Buf × Nat} {ts : List Tlv} (h : Appends g ts) (p : Prop)
    [Decidable p] : Appends (writeIf p g) (if p then ts else []) := by
  intro c hc
  by_cases hp : p
  · simp only [Tlv.writeIf, if_pos hp]; exact h c hc
  · simp only [Tlv.writeIf, if_neg hp]; exact (append_nil c).symm

/-- If the buffer holds `ts` from `off` on, the walk reads `ts`. The induction is on the records;
each step reads one header and one block of data out of the head of the list. -/
theorem walk_of_bytes {b : Buf} :
    ∀ (ts : List Tlv) (n off : Nat), (∀ t ∈ ts, t.data.length < 2 ^ 16) → ts.length ≤ n →
      (∀ i (h : i < (bytesAll ts).length), b (off + i) = (bytesAll ts)[i]) →
      walk b (off + (bytesAll ts).length) n off = some ts := by
  intro ts
  induction ts with
  | nil => intro n off _ _ _; cases n <;> simp [walk]
  | cons t ts ih =>
    intro n off hlen hn hb
    obtain ⟨n, rfl⟩ : ∃ k, n = k + 1 := ⟨n - 1, by simp at hn; omega⟩
    have ht : t.data.length < 2 ^ 16 := hlen t (by simp)
    have hbytes : ∀ i (h : i < t.bytes.length), b (off + i) = t.bytes[i] := by
      intro i h
      rw [hb i (by simp; simp at h; omega)]
      simp only [bytesAll_cons]
      exact List.getElem_append_left h
    have hcode : b off = t.code := by
      have := hbytes 0 (by simp)
      simpa [bytes] using this
    have hres : b (off + 1) = t.reserved := by
      have := hbytes 1 (by simp; omega)
      simpa [bytes] using this
    have hl : (b.u16 (off + 2)).toNat = t.data.length := by
      have : b.u16 (off + 2) = UInt16.ofNat t.data.length := by
        apply Buf.u16_of_bytes
        intro i hi
        have := hbytes (2 + i) (by simp; omega)
        rw [show off + 2 + i = off + (2 + i) by omega, this]
        have e : t.bytes = [t.code, t.reserved] ++ (be16 (UInt16.ofNat t.data.length) ++ t.data) := by
          simp [bytes]
        simp only [e]
        rw [List.getElem_append_right (by simp)]
        simp only [List.length_cons, List.length_nil, Nat.add_sub_cancel_left]
        exact List.getElem_append_left (by simpa using hi)
      rw [this, UInt16.toNat_ofNat']
      exact Nat.mod_eq_of_lt ht
    have hdata : b.slice (off + 4) t.data.length = t.data := by
      apply List.ext_getElem
      · simp
      · intro i h1 h2
        simp only [Buf.slice, List.getElem_map, List.getElem_range]
        have := hbytes (4 + i) (by simp; omega)
        rw [show off + 4 + i = off + (4 + i) by omega, this]
        simp only [bytes]
        rw [List.getElem_append_right (by simp)]
        simp
    have hrest := ih n (off + 4 + t.data.length) (fun t' h => hlen t' (by simp [h]))
      (by simp at hn; omega) (by
        intro i h
        rw [show off + 4 + t.data.length + i = off + (t.bytes.length + i) by simp; omega,
          hb (t.bytes.length + i) (by simp at h ⊢; omega)]
        simp only [bytesAll_cons]
        rw [List.getElem_append_right (by omega)]
        simp)
    have hstop : off + (bytesAll (t :: ts)).length =
        off + 4 + t.data.length + (bytesAll ts).length := by simp; omega
    rw [hstop, walk]
    have h1 : ¬ off = off + 4 + t.data.length + (bytesAll ts).length := by omega
    have h2 : off + 4 ≤ off + 4 + t.data.length + (bytesAll ts).length := by omega
    simp [h1, h2, hl, hcode, hres, hdata, hrest]

end Tlv

end ByteBuffer
