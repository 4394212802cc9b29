import Mathlib.Data.List.Basic
import Mathlib.Logic.Function.Basic
import Mathlib.Tactic.NormNum

/-!
# LibPcp.Buffer

Byte buffers and network byte order. A buffer is a total map from offsets to bytes, so a read never
fails; what a program may read is stated as agreement of two buffers on a prefix (`AgreeTo`).

* `Buf.blit b off l`: the buffer `b` with the bytes `l` written from offset `off` on.
* `Buf.slice b off n`: the `n` bytes from offset `off` on.
* `be16`, `be32`: big-endian encodings, read back by `Buf.u16` and `Buf.u32`.

`blit_blit_append` joins two adjacent writes and `slice_blit` reads a write back. A buffer that is
zero from a cursor on (`ZeroFrom`) stays so after a write at that cursor, which is what makes bytes
that are skipped by a writer read as zero.
-/

namespace ByteBuffer

/-- Memory of one buffer: offset to byte. -/
abbrev Buf := Nat → UInt8

namespace Buf

/-- A buffer of zero bytes, as `calloc` returns it. -/
def zero : Buf := fun _ => 0

/-- Write the bytes `l` from offset `off` on. -/
def blit (b : Buf) (off : Nat) (l : List UInt8) : Buf := fun i =>
  if off ≤ i then (l[i - off]?).getD (b i) else b i

/-- The `n` bytes from offset `off` on. -/
def slice (b : Buf) (off n : Nat) : List UInt8 := (List.range n).map fun i => b (off + i)

/-- The 16-bit number at offset `off`, in network byte order. -/
def u16 (b : Buf) (off : Nat) : UInt16 :=
  UInt16.ofNat ((b off).toNat * 256 + (b (off + 1)).toNat)

/-- The 32-bit number at offset `off`, in network byte order. -/
def u32 (b : Buf) (off : Nat) : UInt32 :=
  UInt32.ofNat ((b off).toNat * 2 ^ 24 + (b (off + 1)).toNat * 2 ^ 16 +
    (b (off + 2)).toNat * 2 ^ 8 + (b (off + 3)).toNat)

/-- A buffer that starts with the bytes `l` and is zero after them. -/
def ofList (l : List UInt8) : Buf := zero.blit 0 l

/-- Every byte from offset `n` on is zero. -/
def ZeroFrom (b : Buf) (n : Nat) : Prop := ∀ i, n ≤ i → b i = 0

/-- The two buffers have the same first `n` bytes. -/
def AgreeTo (n : Nat) (b b' : Buf) : Prop := ∀ i, i < n → b i = b' i

end Buf

/-- The two bytes of `v` in network byte order. -/
def be16 (v : UInt16) : List UInt8 := [UInt8.ofNat (v.toNat / 256), UInt8.ofNat v.toNat]

/-- The four bytes of `v` in network byte order. -/
def be32 (v : UInt32) : List UInt8 :=
  [UInt8.ofNat (v.toNat / 2 ^ 24), UInt8.ofNat (v.toNat / 2 ^ 16), UInt8.ofNat (v.toNat / 2 ^ 8),
    UInt8.ofNat v.toNat]

@[simp] theorem be16_length (v : UInt16) : (be16 v).length = 2 := rfl

@[simp] theorem be32_length (v : UInt32) : (be32 v).length = 4 := rfl

namespace Buf

@[simp] theorem slice_length (b : Buf) (off n : Nat) : (b.slice off n).length = n := by
  simp [slice]

theorem blit_below (b : Buf) {off i : Nat} (l : List UInt8) (h : i < off) :
    b.blit off l i = b i := by
  simp [blit, Nat.not_le.mpr h]

theorem blit_inside (b : Buf) {off i : Nat} (l : List UInt8) (h : i < l.length) :
    b.blit off l (off + i) = l[i] := by
  simp [blit, h]

theorem blit_above (b : Buf) {off i : Nat} (l : List UInt8) (h : off + l.length ≤ i) :
    b.blit off l i = b i := by
  simp only [blit]
  split
  · rw [List.getElem?_eq_none (by omega)]; rfl
  · rfl

/-- Writing nothing changes nothing. -/
@[simp] theorem blit_nil (b : Buf) (off : Nat) : b.blit off [] = b := by
  funext i; simp [blit]

/-- Two writes, the second starting where the first ends, are one write. -/
theorem blit_blit_append (b : Buf) (off : Nat) (l l' : List UInt8) :
    (b.blit off l).blit (off + l.length) l' = b.blit off (l ++ l') := by
  funext i
  by_cases h1 : off + l.length ≤ i
  · have h2 : off ≤ i := by omega
    have h3 : l.length ≤ i - off := by omega
    have h4 : i - off - l.length = i - (off + l.length) := by omega
    simp only [blit, h1, h2, if_true]
    rw [List.getElem?_append_right h3, h4, List.getElem?_eq_none (l := l) h3]
    rfl
  · rw [blit_below _ _ (by omega)]
    simp only [blit]
    split
    · rw [List.getElem?_append_left (by omega)]
    · rfl

/-- The same with the second offset given in another form. -/
theorem blit_next (b : Buf) (l l' : List UInt8) {off off' : Nat} (h : off' = off + l.length) :
    (b.blit off l).blit off' l' = b.blit off (l ++ l') := by
  rw [h, blit_blit_append]

/-- Writes to disjoint ranges commute. -/
theorem blit_comm (b : Buf) {off off' : Nat} {l l' : List UInt8}
    (h : off + l.length ≤ off' ∨ off' + l'.length ≤ off) :
    (b.blit off l).blit off' l' = (b.blit off' l').blit off l := by
  have key : ∀ i, (off ≤ i ∧ i < off + l.length) ∨ (off' ≤ i ∧ i < off' + l'.length) ∨
      ((i < off ∨ off + l.length ≤ i) ∧ (i < off' ∨ off' + l'.length ≤ i)) := by omega
  have out : ∀ (b : Buf) (o : Nat) (m : List UInt8) (i : Nat),
      (i < o ∨ o + m.length ≤ i) → b.blit o m i = b i := by
    intro b o m i hi
    rcases hi with hi | hi
    · exact blit_below b m hi
    · exact blit_above b m hi
  have ins : ∀ (b b' : Buf) (o : Nat) (m : List UInt8) (i : Nat),
      o ≤ i → i < o + m.length → b.blit o m i = b'.blit o m i := by
    intro b b' o m i h1 h2
    obtain ⟨k, rfl⟩ := Nat.exists_eq_add_of_le h1
    rw [blit_inside b m (by omega), blit_inside b' m (by omega)]
  funext i
  rcases key i with ⟨h1, h2⟩ | ⟨h1, h2⟩ | ⟨h1, h2⟩
  · rw [out _ off' l' i (by omega)]
    exact ins _ _ off l i h1 h2
  · rw [out (b.blit off' l') off l i (by omega)]
    exact ins _ _ off' l' i h1 h2
  · rw [out _ off' l' i h2, out _ off l i h1, out _ off l i h1, out _ off' l' i h2]

theorem slice_blit (b : Buf) (off : Nat) (l : List UInt8) :
    (b.blit off l).slice off l.length = l := by
  apply List.ext_getElem
  · simp
  · intro i h1 h2
    simp only [slice, List.getElem_map, List.getElem_range]
    exact blit_inside b l h2

theorem slice_append (b : Buf) (off m n : Nat) :
    b.slice off (m + n) = b.slice off m ++ b.slice (off + m) n := by
  simp only [slice, List.range_add, List.map_append, List.map_map]
  congr 1
  apply List.map_congr_left
  intro i _
  simp [Nat.add_assoc]

theorem slice_split {b : Buf} {off m n : Nat} {l l' : List UInt8}
    (h : b.slice off (m + n) = l ++ l') (hl : m = l.length) :
    b.slice off m = l ∧ b.slice (off + m) n = l' := by
  rw [slice_append] at h
  exact List.append_inj h (by simpa using hl)

theorem slice_congr {b b' : Buf} {off n : Nat} (h : ∀ i, i < n → b (off + i) = b' (off + i)) :
    b.slice off n = b'.slice off n := by
  apply List.map_congr_left
  intro i hi
  exact h i (List.mem_range.mp hi)

theorem ofList_get {l : List UInt8} {i : Nat} (h : i < l.length) : ofList l i = l[i] := by
  have := @blit_inside zero 0 i l h
  simpa [ofList] using this

theorem slice_ofList (l : List UInt8) : (ofList l).slice 0 l.length = l := slice_blit zero 0 l

/-- A piece of the bytes of a list. -/
theorem slice_ofList_mid (pre l post : List UInt8) :
    (ofList (pre ++ (l ++ post))).slice pre.length l.length = l := by
  have h := slice_ofList (pre ++ (l ++ post))
  simp only [List.length_append] at h
  have h' := (slice_split h rfl).2
  rw [Nat.zero_add] at h'
  exact (slice_split h' rfl).1

/-- Bytes of a list are overwritten by as many others. -/
theorem ofList_blit_mid (pre old new post : List UInt8) {off : Nat} (ho : off = pre.length)
    (hl : old.length = new.length) :
    (ofList (pre ++ (old ++ post))).blit off new = ofList (pre ++ (new ++ post)) := by
  subst ho
  funext i
  rcases Nat.lt_or_ge i pre.length with h1 | h1
  · rw [blit_below _ _ h1]
    simp [ofList, blit, List.getElem?_append_left h1]
  · obtain ⟨k, rfl⟩ := Nat.exists_eq_add_of_le h1
    rcases Nat.lt_or_ge k new.length with h2 | h2
    · rw [blit_inside _ _ h2]
      simp only [ofList, blit, Nat.zero_le, if_true, Nat.sub_zero]
      rw [List.getElem?_append_right h1, Nat.add_sub_cancel_left, List.getElem?_append_left h2]
      simp [h2]
    · rw [blit_above _ _ (by omega)]
      simp only [ofList, blit, Nat.zero_le, if_true, Nat.sub_zero]
      rw [List.getElem?_append_right h1, List.getElem?_append_right h1,
        Nat.add_sub_cancel_left, List.getElem?_append_right (by omega),
        List.getElem?_append_right h2, hl]

theorem zero_zeroFrom (n : Nat) : ZeroFrom zero n := fun _ _ => rfl

theorem ZeroFrom.mono {b : Buf} {m n : Nat} (h : ZeroFrom b m) (hmn : m ≤ n) : ZeroFrom b n :=
  fun i hi => h i (Nat.le_trans hmn hi)

theorem ZeroFrom.blit {b : Buf} {n : Nat} (h : ZeroFrom b n) (l : List UInt8) :
    ZeroFrom (b.blit n l) (n + l.length) := by
  intro i hi
  rw [blit_above _ _ hi]
  exact h i (by omega)

/-- On a buffer that is zero from `off` on, bytes the writer skips are zeros it writes. -/
theorem ZeroFrom.blit_zeros {b : Buf} {off : Nat} (h : ZeroFrom b off) (k : Nat) :
    b.blit off (List.replicate k 0) = b := by
  funext i
  simp only [Buf.blit]
  split
  · rename_i hi
    rw [List.getElem?_replicate]
    split
    · exact (h i hi).symm
    · rfl
  · rfl

/-- The same for a gap between two writes. -/
theorem ZeroFrom.blit_gap {b : Buf} {off : Nat} (h : ZeroFrom b off) (l l' : List UInt8) (k : Nat) :
    (b.blit off l).blit (off + l.length + k) l' = b.blit off (l ++ List.replicate k 0 ++ l') := by
  have h1 := (h.blit l).blit_zeros k
  calc (b.blit off l).blit (off + l.length + k) l'
      = ((b.blit off l).blit (off + l.length) (List.replicate k 0)).blit (off + l.length + k) l' := by
        rw [h1]
    _ = (b.blit off (l ++ List.replicate k 0)).blit (off + (l ++ List.replicate k 0).length) l' := by
        rw [blit_blit_append]; simp [Nat.add_assoc]
    _ = b.blit off (l ++ List.replicate k 0 ++ l') := blit_blit_append ..

/-- The same at the end of the bytes written so far. -/
theorem ofList_blit {l l' : List UInt8} {off : Nat} (h : l.length ≤ off) :
    (ofList l).blit off l' = ofList (l ++ List.replicate (off - l.length) 0 ++ l') := by
  have := (zero_zeroFrom 0).blit_gap l l' (off - l.length)
  rwa [show 0 + l.length + (off - l.length) = off by omega] at this

/-- Writes can be put in the order of their offsets. -/
theorem blit_sort (b : Buf) {off off' : Nat} {l l' : List UInt8} (h : off' + l'.length ≤ off) :
    (b.blit off l).blit off' l' = (b.blit off' l').blit off l :=
  blit_comm b (.inr h)

theorem AgreeTo.mono {b b' : Buf} {m n : Nat} (h : AgreeTo n b b') (hmn : m ≤ n) :
    AgreeTo m b b' := fun i hi => h i (by omega)

theorem AgreeTo.get {b b' : Buf} {n i : Nat} (h : AgreeTo n b b') (hi : i + 1 ≤ n) : b i = b' i :=
  h i hi

theorem AgreeTo.u16 {b b' : Buf} {n off : Nat} (h : AgreeTo n b b') (ho : off + 2 ≤ n) :
    b.u16 off = b'.u16 off := by
  simp only [Buf.u16]
  rw [h off (by omega), h (off + 1) (by omega)]

theorem AgreeTo.u32 {b b' : Buf} {n off : Nat} (h : AgreeTo n b b') (ho : off + 4 ≤ n) :
    b.u32 off = b'.u32 off := by
  simp only [Buf.u32]
  rw [h off (by omega), h (off + 1) (by omega), h (off + 2) (by omega), h (off + 3) (by omega)]

theorem get_of_slice {b : Buf} {off n : Nat} {l : List UInt8} (h : b.slice off n = l) {i : Nat}
    (hi : i < l.length) : b (off + i) = l[i] := by
  subst h
  simp [slice]

/-- A 16-bit number written at an offset is read back there. -/
theorem u16_of_bytes {b : Buf} {off : Nat} {v : UInt16}
    (h : ∀ i (hi : i < 2), b (off + i) = (be16 v)[i]) : b.u16 off = v := by
  have h0 := h 0 (by omega)
  have h1 := h 1 (by omega)
  simp only [be16, Nat.add_zero, List.getElem_cons_zero, List.getElem_cons_succ] at h0 h1
  have hv := v.toNat_lt
  apply UInt16.toNat_inj.mp
  simp only [u16, h0, h1, UInt16.toNat_ofNat', UInt8.toNat_ofNat']
  omega

/-- A 32-bit number written at an offset is read back there. -/
theorem u32_of_bytes {b : Buf} {off : Nat} {v : UInt32}
    (h : ∀ i (hi : i < 4), b (off + i) = (be32 v)[i]) : b.u32 off = v := by
  have h0 := h 0 (by omega)
  have h1 := h 1 (by omega)
  have h2 := h 2 (by omega)
  have h3 := h 3 (by omega)
  simp only [be32, Nat.add_zero, List.getElem_cons_zero, List.getElem_cons_succ] at h0 h1 h2 h3
  have hv := v.toNat_lt
  apply UInt32.toNat_inj.mp
  simp only [u32, h0, h1, h2, h3, UInt32.toNat_ofNat', UInt8.toNat_ofNat']
  omega

theorem u16_of_slice {b : Buf} {off : Nat} {v : UInt16} (h : b.slice off 2 = be16 v) :
    b.u16 off = v := u16_of_bytes fun _ hi => get_of_slice h hi

theorem u32_of_slice {b : Buf} {off : Nat} {v : UInt32} (h : b.slice off 4 = be32 v) :
    b.u32 off = v := u32_of_bytes fun _ hi => get_of_slice h hi

/-! ## Buffers that agree -/

theorem AgreeTo.refl (n : Nat) (b : Buf) : AgreeTo n b b := fun _ _ => rfl

theorem AgreeTo.symm {n : Nat} {b b' : Buf} (h : AgreeTo n b b') : AgreeTo n b' b :=
  fun i hi => (h i hi).symm

theorem AgreeTo.trans {n : Nat} {b b' b'' : Buf} (h : AgreeTo n b b') (h' : AgreeTo n b' b'') :
    AgreeTo n b b'' := fun i hi => (h i hi).trans (h' i hi)

/-- The same write to both buffers. -/
theorem AgreeTo.blit {n : Nat} {b b' : Buf} (h : AgreeTo n b b') (off : Nat) (l : List UInt8) :
    AgreeTo n (b.blit off l) (b'.blit off l) := by
  intro i hi
  simp only [Buf.blit]
  rw [h i hi]

/-- A write behind the bytes in question. -/
theorem agreeTo_blit_above {n off : Nat} (b : Buf) (l : List UInt8) (h : n ≤ off) :
    AgreeTo n (b.blit off l) b :=
  fun _ hi => blit_below b l (Nat.lt_of_lt_of_le hi h)

/-- The bytes received into a buffer, whatever it held. -/
theorem agreeTo_received (b : Buf) (l : List UInt8) : AgreeTo l.length (b.blit 0 l) (ofList l) := by
  intro i hi
  have h₁ : b.blit 0 l (0 + i) = l[i] := blit_inside b l hi
  have h₂ := ofList_get hi
  rw [Nat.zero_add] at h₁
  rw [h₁, h₂]

theorem agreeTo_slice (b : Buf) (n : Nat) : AgreeTo n (ofList (b.slice 0 n)) b := by
  intro i hi
  have hlen : i < (b.slice 0 n).length := by simpa using hi
  rw [ofList_get hlen]
  exact (get_of_slice rfl hlen).symm.trans (by rw [Nat.zero_add])

theorem AgreeTo.slice {n : Nat} {b b' : Buf} (h : AgreeTo n b b') : b.slice 0 n = b'.slice 0 n :=
  slice_congr fun i hi => by rw [Nat.zero_add, h i hi]

/-- A number is read from its own bytes. -/
theorem u16_congr {b b' : Buf} (off : Nat) (h : ∀ i, off ≤ i → i < off + 2 → b' i = b i) :
    b'.u16 off = b.u16 off := by
  simp only [u16]
  rw [h off (by omega) (by omega), h (off + 1) (by omega) (by omega)]

theorem u32_congr {b b' : Buf} (off : Nat) (h : ∀ i, off ≤ i → i < off + 4 → b' i = b i) :
    b'.u32 off = b.u32 off := by
  simp only [u32]
  rw [h off (by omega) (by omega), h (off + 1) (by omega) (by omega), h (off + 2) (by omega) (by omega),
    h (off + 3) (by omega) (by omega)]

end Buf

end ByteBuffer
