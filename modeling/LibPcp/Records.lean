import LibPcp.Buffer

/-!
# LibPcp.Records

Records that say their own size, one after the other in a buffer, each starting at a multiple of four.

The size counts the header of the record, and a record that does not end at a multiple of four is padded.
A reader goes from one to the next as long as what is left has room for the record. How much room there is
depends on the type of the counter: `Framing.room`.

* `Framing.starts`: the offsets at which the reader comes to a record.
* `Framing.starts_of_bytes`: in a buffer that holds records, it comes to each of them and to no more.
* `map_offsets`: what it finds there is what there is to find in each record.
-/

namespace ByteBuffer

/-- The next multiple of four. -/
def align4 (n : Nat) : Nat := (n + 3) / 4 * 4

/-- The size of the header, the size field of the record at an offset, and the room a counter stands for. -/
structure Framing where
  header : Nat
  size : Buf → Nat → Nat
  room : Int → Nat
  header_pos : 0 < header
  room_nat : ∀ n : Nat, n < 2 ^ 31 → room n = n

namespace Framing

variable {F : Framing} {b : Buf}

/-- The header and the record itself are within what is left. -/
def Fits (F : Framing) (b : Buf) (off : Nat) (len : Int) : Prop :=
  F.header ≤ F.room len ∧ F.header ≤ F.size b off ∧ F.size b off ≤ F.room len

instance (F : Framing) (b : Buf) (off : Nat) (len : Int) : Decidable (F.Fits b off len) :=
  inferInstanceAs (Decidable (_ ∧ _))

/-- Where the records start; `none` if the number of rounds is not enough. -/
def starts (F : Framing) (b : Buf) : Nat → Nat → Int → Option (List Nat)
  | 0, _, _ => none
  | rounds + 1, off, len =>
    if F.Fits b off len then
      (F.starts b rounds (off + align4 (F.size b off)) (len - align4 (F.size b off))).map (off :: ·)
    else some []

/-- A record as it is written, without the padding: its header says how long it is. -/
structure Framed (F : Framing) (r : List UInt8) : Prop where
  header : F.header ≤ r.length
  size : ∀ b off, b.slice off F.header = r.take F.header → F.size b off = r.length

end Framing

/-- A record with its padding. -/
def padded (r : List UInt8) : List UInt8 := r ++ List.replicate (align4 r.length - r.length) 0

def paddedAll (rs : List (List UInt8)) : List UInt8 := rs.flatMap padded

/-- The offsets of the records when the first one is at `off`. -/
def offsets : Nat → List (List UInt8) → List Nat
  | _, [] => []
  | off, r :: rs => off :: offsets (off + align4 r.length) rs

theorem le_align4 (n : Nat) : n ≤ align4 n := by
  unfold align4
  omega

@[simp] theorem padded_length (r : List UInt8) : (padded r).length = align4 r.length := by
  have h := le_align4 r.length
  simp only [padded, List.length_append, List.length_replicate]
  omega

@[simp] theorem paddedAll_nil : paddedAll [] = [] := rfl

@[simp] theorem paddedAll_cons (r : List UInt8) (rs : List (List UInt8)) :
    paddedAll (r :: rs) = padded r ++ paddedAll rs := rfl

theorem paddedAll_append (rs rs' : List (List UInt8)) :
    paddedAll (rs ++ rs') = paddedAll rs ++ paddedAll rs' := by
  simp [paddedAll]

theorem length_le_paddedAll {rs : List (List UInt8)} (h : ∀ r ∈ rs, 0 < r.length) :
    rs.length ≤ (paddedAll rs).length := by
  induction rs with
  | nil => exact Nat.le_refl 0
  | cons r rs ih =>
    have hr := h r List.mem_cons_self
    have hle := le_align4 r.length
    have hrest := ih fun r' hr' => h r' (List.mem_cons_of_mem r hr')
    simp only [List.length_cons, paddedAll_cons, List.length_append, padded_length]
    omega

section Starts

variable {F : Framing} {b : Buf} {rs : List (List UInt8)}

/-- The bytes of the first record and of the rest. -/
theorem slice_records {off : Nat} {r : List UInt8}
    (h : b.slice off (paddedAll (r :: rs)).length = paddedAll (r :: rs)) :
    b.slice off r.length = r ∧
      b.slice (off + align4 r.length) (paddedAll rs).length = paddedAll rs := by
  rw [paddedAll_cons, List.length_append, padded_length] at h
  obtain ⟨hhead, hrest⟩ := Buf.slice_split h (padded_length r).symm
  have hlen : align4 r.length = r.length + (align4 r.length - r.length) := by
    have hle := le_align4 r.length
    omega
  rw [hlen, padded] at hhead
  exact ⟨(Buf.slice_split hhead rfl).1, hrest⟩

/-- In a buffer that holds records the reader comes to each of them, and at the end of them it stops. -/
theorem Framing.starts_of_bytes (hrs : ∀ r ∈ rs, F.Framed r) {rounds off : Nat}
    (hrounds : rs.length < rounds) (hlen : (paddedAll rs).length < 2 ^ 31)
    (hb : b.slice off (paddedAll rs).length = paddedAll rs) :
    F.starts b rounds off (paddedAll rs).length = some (offsets off rs) := by
  induction rs generalizing rounds off with
  | nil =>
    obtain ⟨n, rfl⟩ : ∃ n, rounds = n + 1 := ⟨rounds - 1, by simp at hrounds; omega⟩
    have hroom : F.room ((0 : Nat) : Int) = 0 := F.room_nat 0 (by decide)
    have hstop : ¬ F.Fits b off ((paddedAll []).length : Int) := by
      have hpos := F.header_pos
      simp only [Framing.Fits, paddedAll_nil, List.length_nil, hroom]
      omega
    simp only [Framing.starts, if_neg hstop, offsets]
  | cons r rs ih =>
    obtain ⟨n, rfl⟩ : ∃ n, rounds = n + 1 := ⟨rounds - 1, by simp at hrounds; omega⟩
    obtain ⟨hframed, hrest⟩ := List.forall_mem_cons.mp hrs
    obtain ⟨hhead, htail⟩ := slice_records hb
    have hsize : F.size b off = r.length := by
      refine hframed.size b off ?_
      have hrest' : r.length = F.header + (r.length - F.header) := by
        have hheader := hframed.header
        omega
      rw [hrest', ← List.take_append_drop F.header r] at hhead
      have hlen := hframed.header
      refine (Buf.slice_split hhead ?_).1.trans ?_
      · simp [hlen]
      · simp
    have hle := le_align4 r.length
    have htotal : (paddedAll (r :: rs)).length = align4 r.length + (paddedAll rs).length := by
      rw [paddedAll_cons, List.length_append, padded_length]
    have hroom := F.room_nat _ hlen
    have hfits : F.Fits b off ((paddedAll (r :: rs)).length : Int) := by
      have hheader := hframed.header
      rw [Framing.Fits, hroom, hsize]
      omega
    have hleft : ((paddedAll (r :: rs)).length : Int) - (align4 r.length : Nat) = (paddedAll rs).length := by
      rw [htotal]
      push_cast
      omega
    have hnext := ih hrest (by simp at hrounds; omega : rs.length < n) (by omega) htail
    simp only [Framing.starts, if_pos hfits, hsize, hleft, hnext, offsets, Option.map_some]

/-- What a reader finds at the offsets of records is what there is to find in each of them. -/
theorem map_offsets {ι β : Type} {write : ι → List UInt8} {find : Nat → β} {g : ι → β} {xs : List ι}
    (hfind : ∀ x ∈ xs, ∀ off, b.slice off (write x).length = write x → find off = g x) {off : Nat}
    (hb : b.slice off (paddedAll (xs.map write)).length = paddedAll (xs.map write)) :
    (offsets off (xs.map write)).map find = xs.map g := by
  induction xs generalizing off with
  | nil => rfl
  | cons x xs ih =>
    obtain ⟨hhead, htail⟩ := slice_records hb
    have hfirst := hfind x List.mem_cons_self off hhead
    have hrest := ih (fun y hy => hfind y (List.mem_cons_of_mem x hy)) htail
    simp only [List.map_cons, offsets, hfirst, hrest]

end Starts

/-! ## Numbers in host order -/

/-- The byte order of the host: how numbers are written, and that they are read as they were written. -/
structure HostOrder where
  put16 : UInt16 → List UInt8
  put32 : UInt32 → List UInt8
  get16 : Buf → Nat → UInt16
  get32 : Buf → Nat → UInt32
  put16_length : ∀ v, (put16 v).length = 2
  put32_length : ∀ v, (put32 v).length = 4
  get16_of_slice : ∀ {b off v}, b.slice off 2 = put16 v → get16 b off = v
  get32_of_slice : ∀ {b off v}, b.slice off 4 = put32 v → get32 b off = v

/-- The low byte first. -/
def HostOrder.little : HostOrder where
  put16 v := (be16 v).reverse
  put32 v := (be32 v).reverse
  get16 b off := (Buf.ofList (b.slice off 2).reverse).u16 0
  get32 b off := (Buf.ofList (b.slice off 4).reverse).u32 0
  put16_length _ := rfl
  put32_length _ := rfl
  get16_of_slice {b off v} h := by
    rw [h, List.reverse_reverse]
    exact Buf.u16_of_slice (Buf.slice_ofList (be16 v))
  get32_of_slice {b off v} h := by
    rw [h, List.reverse_reverse]
    exact Buf.u32_of_slice (Buf.slice_ofList (be32 v))

end ByteBuffer
