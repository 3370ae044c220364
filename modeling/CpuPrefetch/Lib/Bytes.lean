/-
Buffers of bytes: unsigned integers in either byte order, fields with their length before them,
blocks of one length, and UTF-8 sequences.
-/
import Mathlib

/-! ### Unsigned integers as big-endian bytes

`store` writes the highest of `count` bytes first, and `load` reads bytes as the digits
of a number in base 256.
-/

namespace BigEndian

/-- The lowest `count` bytes of a value, highest first. -/
def store : Nat → Nat → List UInt8
  | 0, _ => []
  | count + 1, value => .ofNat (value / 256 ^ count) :: store count value

/-- The value of some bytes. -/
def load (input : List UInt8) : Nat := input.foldl (fun value byte => value * 256 + byte.toNat) 0

@[simp] theorem length_store (count value : Nat) : (store count value).length = count := by
  induction count with
  | zero => rfl
  | succ count ih => simp [store, ih]

/-- The bytes after a number are its lower digits. -/
theorem foldl_load (start : Nat) (input : List UInt8) :
    input.foldl (fun value byte => value * 256 + byte.toNat) start =
      start * 256 ^ input.length + load input := by
  induction input generalizing start with
  | nil => simp [load]
  | cons byte rest ih =>
      have hfirst : load (byte :: rest) = byte.toNat * 256 ^ rest.length + load rest := by
        rw [load, List.foldl_cons, ih, Nat.zero_mul, Nat.zero_add]
      rw [List.foldl_cons, ih, hfirst, List.length_cons, Nat.pow_succ]
      ring

theorem load_cons (byte : UInt8) (rest : List UInt8) :
    load (byte :: rest) = byte.toNat * 256 ^ rest.length + load rest := by
  rw [load, List.foldl_cons, foldl_load, Nat.zero_mul, Nat.zero_add]

/-- What is read back is what fits in the bytes. -/
theorem load_store_mod (count value : Nat) : load (store count value) = value % 256 ^ count := by
  induction count with
  | zero => simp [store, load, Nat.mod_one]
  | succ count ih =>
      have hbyte : (UInt8.ofNat (value / 256 ^ count)).toNat = value / 256 ^ count % 256 :=
        UInt8.toNat_ofNat'
      rw [store, load_cons, length_store, ih, hbyte, Nat.pow_succ, Nat.mod_mul, Nat.add_comm,
        Nat.mul_comm]

/-- **Round trip.** A value of at most `count` bytes is read back from them. -/
theorem load_store {count value : Nat} (h : value < 256 ^ count) :
    load (store count value) = value := by
  rw [load_store_mod, Nat.mod_eq_of_lt h]

/-! ### Words -/

/-- A byte shifted out of a word is a digit of it. -/
theorem toUInt8_shiftRight (value : UInt64) {shift : UInt64} (h : shift.toNat < 64) :
    (value >>> shift).toUInt8 = .ofNat (value.toNat / 2 ^ shift.toNat) := by
  apply UInt8.toNat_inj.mp
  rw [UInt64.toNat_toUInt8, UInt64.toNat_shiftRight, UInt8.toNat_ofNat', Nat.mod_eq_of_lt h,
    Nat.shiftRight_eq_div_pow]

/-- A mask for the byte changes nothing. -/
theorem toUInt8_mask (value : UInt64) : (value &&& 0xff).toUInt8 = value.toUInt8 := by
  apply UInt8.toNat_inj.mp
  rw [UInt64.toNat_toUInt8, UInt64.toNat_toUInt8, UInt64.toNat_and]
  show (_ &&& 2 ^ 8 - 1) % 2 ^ 8 = _
  rw [Nat.and_two_pow_sub_one_eq_mod, Nat.mod_mod]

theorem store_eight (value : UInt64) : store 8 value.toNat =
    [56, 48, 40, 32, 24, 16, 8, 0].map fun shift : UInt64 => (value >>> shift).toUInt8 := by
  have hbyte : ∀ shift ∈ ([56, 48, 40, 32, 24, 16, 8, 0] : List UInt64),
      (value >>> shift).toUInt8 = .ofNat (value.toNat / 2 ^ shift.toNat) := by
    intro shift hshift
    apply toUInt8_shiftRight
    simp only [List.mem_cons, List.not_mem_nil, or_false] at hshift
    rcases hshift with rfl | rfl | rfl | rfl | rfl | rfl | rfl | rfl <;> decide
  rw [List.map_congr_left hbyte]
  rfl

end BigEndian

/-! ### Unsigned integers as little-endian bytes

`store` writes byte `i` of a value as the value shifted right by `8 * i`, and `load`
ors the bytes back together, each shifted left by as much.  Both are loops over the
byte index, as a C program writes them; `load_store` and `store_load` are the two
round trips.
-/

namespace LittleEndian

/-- The lowest `count` bytes of a value, lowest first. -/
def store (count value : Nat) : List UInt8 :=
  (List.range count).map fun index => .ofNat (value >>> (8 * index))

/-- The value of the first `count` bytes. -/
def load (count : Nat) (input : List UInt8) : Nat :=
  (List.range count).foldl (fun value index => value ||| (input.getD index 0).toNat <<< (8 * index))
    0

@[simp] theorem length_store (count value : Nat) : (store count value).length = count := by
  simp [store]

theorem load_succ (count : Nat) (input : List UInt8) :
    load (count + 1) input = load count input ||| (input.getD count 0).toNat <<< (8 * count) := by
  simp [load, List.range_succ]

/-- Adding byte `count` to the bytes below it. -/
theorem mod_or_byte (value count : Nat) :
    value % 2 ^ (8 * count) ||| (value >>> (8 * count) % 256) <<< (8 * count) =
      value % 2 ^ (8 * (count + 1)) := by
  have h256 : (256 : Nat) = 2 ^ 8 := rfl
  apply Nat.eq_of_testBit_eq
  intro bit
  rw [h256, Nat.testBit_or, Nat.testBit_mod_two_pow, Nat.testBit_mod_two_pow,
    Nat.testBit_shiftLeft, Nat.testBit_mod_two_pow, Nat.testBit_shiftRight]
  by_cases hlow : bit < 8 * count
  · have hlt : bit < 8 * (count + 1) := by omega
    have hnot : ¬8 * count ≤ bit := by omega
    simp [hlow, hlt, hnot]
  · have hle : 8 * count ≤ bit := by omega
    have hiff : bit - 8 * count < 8 ↔ bit < 8 * (count + 1) := by omega
    simp [hlow, hle, hiff]

theorem load_store_mod {count width : Nat} (value : Nat) (rest : List UInt8)
    (h : count ≤ width) : load count (store width value ++ rest) = value % 2 ^ (8 * count) := by
  induction count with
  | zero => simp [load, Nat.mod_one]
  | succ count ih =>
      have hbyte : (store width value ++ rest).getD count 0 = .ofNat (value >>> (8 * count)) := by
        have hlt : count < width := h
        simp [store, List.getD_eq_getElem?_getD, List.getElem?_append_left, hlt]
      rw [load_succ, ih (Nat.le_of_succ_le h), hbyte, UInt8.toNat_ofNat', mod_or_byte]

/-- **Round trip.** A value of at most `count` bytes is read back from them. -/
theorem load_store {count value : Nat} (rest : List UInt8) (h : value < 2 ^ (8 * count)) :
    load count (store count value ++ rest) = value := by
  rw [load_store_mod value rest (Nat.le_refl count), Nat.mod_eq_of_lt h]

/-! ### From the bytes -/

/-- Each bit of the value is a bit of one byte. -/
theorem testBit_load (count : Nat) (input : List UInt8) (bit : Nat) :
    (load count input).testBit bit =
      (decide (bit < 8 * count) && (input.getD (bit / 8) 0).toNat.testBit (bit % 8)) := by
  induction count with
  | zero => simp [load]
  | succ count ih =>
      rw [load_succ, Nat.testBit_or, ih, Nat.testBit_shiftLeft]
      by_cases hlow : bit < 8 * count
      · have hlt : bit < 8 * (count + 1) := by omega
        have hnot : ¬8 * count ≤ bit := by omega
        simp [hlow, hlt, hnot]
      · by_cases hlt : bit < 8 * (count + 1)
        · have hdiv : bit / 8 = count := by omega
          have hmod : bit - 8 * count = bit % 8 := by omega
          have hle : 8 * count ≤ bit := by omega
          simp [hlow, hlt, hle, hdiv, hmod]
        · -- Past the new byte there is no bit of it.
          have hhigh : (input.getD count 0).toNat.testBit (bit - 8 * count) = false := by
            refine Nat.testBit_lt_two_pow (Nat.lt_of_lt_of_le (UInt8.toNat_lt _) ?_)
            exact Nat.pow_le_pow_right (by decide) (by omega)
          rw [hhigh]
          simp [hlow, hlt]

theorem load_lt (count : Nat) (input : List UInt8) : load count input < 2 ^ (8 * count) := by
  refine Nat.lt_pow_two_of_testBit _ fun bit hbit => ?_
  rw [testBit_load]
  simp [Nat.not_lt.mpr hbit]

/-- **The other round trip.** Storing the value of the first bytes gives them back. -/
theorem store_load {count : Nat} {input : List UInt8} (h : count ≤ input.length) :
    store count (load count input) = input.take count := by
  refine List.ext_getElem (by simp [h]) fun index hindex _ => ?_
  have hlt : index < count := by simpa using hindex
  have hbyte : input.getD index 0 = input[index] := by
    rw [List.getD_eq_getElem?_getD, List.getElem?_eq_getElem (by omega)]
    rfl
  simp only [store, List.getElem_map, List.getElem_range, List.getElem_take]
  rw [← UInt8.toNat_inj, UInt8.toNat_ofNat', ← hbyte]
  apply Nat.eq_of_testBit_eq
  intro bit
  rw [Nat.testBit_mod_two_pow, Nat.testBit_shiftRight, testBit_load]
  by_cases hbit : bit < 8
  · have hin : 8 * index + bit < 8 * count := by omega
    have hdiv : (8 * index + bit) / 8 = index := by omega
    have hmod : (8 * index + bit) % 8 = bit := by omega
    simp [hbit, hin, hdiv, hmod]
  · have hhigh : (input.getD index 0).toNat.testBit bit = false := by
      refine Nat.testBit_lt_two_pow (Nat.lt_of_lt_of_le (UInt8.toNat_lt _) ?_)
      exact Nat.pow_le_pow_right (by decide) (by omega)
    rw [hhigh]
    simp [hbit]

end LittleEndian

/-! ### Fields with their length before them

A reader takes the length first and then that many bytes, so a sequence of fields can be
read back from its encoding, and no two sequences have the same one.
-/

namespace Framing

/-- A field with the eight bytes of its length before it. -/
def frame (field : List UInt8) : List UInt8 := BigEndian.store 8 field.length ++ field

def frames (fields : List (List UInt8)) : List UInt8 := fields.flatMap frame

/-- Eight bytes hold its length. -/
def Fits (field : List UInt8) : Prop := field.length < 2 ^ 64

@[simp] theorem frames_nil : frames [] = [] := rfl

@[simp] theorem frames_cons (field : List UInt8) (fields : List (List UInt8)) :
    frames (field :: fields) = frame field ++ frames fields := List.flatMap_cons

@[simp] theorem frames_append (left right : List (List UInt8)) :
    frames (left ++ right) = frames left ++ frames right := List.flatMap_append

theorem length_frame (field : List UInt8) : (frame field).length = field.length + 8 := by
  unfold frame
  rw [List.length_append, BigEndian.length_store, Nat.add_comm]

/-- What follows a field tells it from the field. -/
theorem frame_append_inj {left right more more' : List UInt8} (hleft : Fits left)
    (hright : Fits right) (h : frame left ++ more = frame right ++ more') :
    left = right ∧ more = more' := by
  unfold frame at h
  rw [List.append_assoc, List.append_assoc] at h
  obtain ⟨hlengths, hrest⟩ := List.append_inj h (by simp)
  have hlength : left.length = right.length := by
    have hloads := congrArg BigEndian.load hlengths
    unfold Fits at hleft hright
    rwa [BigEndian.load_store (by omega), BigEndian.load_store (by omega)] at hloads
  exact List.append_inj hrest hlength

/-- **No two sequences of fields have the same encoding.** -/
theorem frames_injOn : Set.InjOn frames {fields | ∀ field ∈ fields, Fits field} := by
  intro left hleft right hright h
  induction left generalizing right with
  | nil =>
      cases right with
      | nil => rfl
      | cons field fields =>
          have hlengths := congrArg List.length h
          rw [frames_cons, List.length_append, length_frame, frames_nil,
            List.length_nil] at hlengths
          omega
  | cons field fields ih =>
      cases right with
      | nil =>
          have hlengths := congrArg List.length h
          rw [frames_cons, List.length_append, length_frame, frames_nil,
            List.length_nil] at hlengths
          omega
      | cons field' fields' =>
          obtain ⟨hfirst, hrest⟩ := List.forall_mem_cons.mp hleft
          obtain ⟨hfirst', hrest'⟩ := List.forall_mem_cons.mp hright
          rw [frames_cons, frames_cons] at h
          obtain ⟨rfl, hmore⟩ := frame_append_inj hfirst hfirst' h
          rw [ih hrest hrest' hmore]

end Framing

/-! ### Buffers made of blocks of one length

A buffer is the concatenation of its blocks.  Reading from a block's start and
writing inside the first unwritten block are the two accesses a row store makes;
the lemmas say what they see and what they leave, and that reading every block by
its position reads them all in order.
-/

namespace Blocks

variable {α : Type}

/-- The buffer after these elements have been written at this offset. -/
def writeAt (buffer : List α) (offset : Nat) (xs : List α) : List α :=
  buffer.take offset ++ xs ++ buffer.drop (offset + xs.length)

/-- Writing over a part of the same length replaces that part. -/
theorem writeAt_append (before old after xs : List α) (h : xs.length = old.length) :
    writeAt (before ++ old ++ after) before.length xs = before ++ xs ++ after := by
  have htake : (before ++ old ++ after).take before.length = before := by
    rw [List.append_assoc, List.take_left]
  have hdrop : (before ++ old ++ after).drop (before.length + xs.length) = after := by
    rw [h, ← List.length_append, List.drop_left]
  rw [writeAt, htake, hdrop]

theorem length_flatten {blocks : List (List α)} {size : Nat}
    (h : ∀ block ∈ blocks, block.length = size) : blocks.flatten.length = blocks.length * size := by
  induction blocks with
  | nil => simp
  | cons block rest ih =>
      have hblock := h block List.mem_cons_self
      have hrest := ih fun b hb => h b (List.mem_cons_of_mem block hb)
      rw [List.flatten_cons, List.length_append, hblock, hrest, List.length_cons, Nat.succ_mul,
        Nat.add_comm]

/-- From the start of a block on, the buffer is that block and those after it. -/
theorem drop_flatten {blocks : List (List α)} {size : Nat}
    (h : ∀ block ∈ blocks, block.length = size) (index : Nat) :
    blocks.flatten.drop (index * size) = (blocks.drop index).flatten := by
  induction blocks generalizing index with
  | nil => simp
  | cons block rest ih =>
      have hblock := h block List.mem_cons_self
      cases index with
      | zero => simp
      | succ index =>
          have hsplit : (index + 1) * size = block.length + index * size := by
            rw [hblock, Nat.succ_mul, Nat.add_comm]
          rw [List.flatten_cons, hsplit, ← List.drop_drop, List.drop_left, List.drop_succ_cons]
          exact ih (fun b hb => h b (List.mem_cons_of_mem block hb)) index

/-- Reading the rows one position after another is going through the rows. -/
theorem filterMap_range {β : Type} {f : Nat → Option β} {g : α → Option β} (rows : List α)
    (h : ∀ index row, rows[index]? = some row → f index = g row) :
    (List.range rows.length).filterMap f = rows.filterMap g := by
  induction rows using List.reverseRecOn with
  | nil => rfl
  | append_singleton rows row ih =>
      have hold : (List.range rows.length).filterMap f = rows.filterMap g := by
        refine ih fun index x hget => h index x ?_
        rw [List.getElem?_append_left (List.getElem?_eq_some_iff.mp hget).1, hget]
      have hnew : f rows.length = g row := h _ _ (by simp)
      rw [List.length_append, List.length_singleton, List.range_succ, List.filterMap_append,
        List.filterMap_append, hold, List.filterMap_cons, List.filterMap_cons, hnew]
      rfl

end Blocks

/-! ### UTF-8 sequences, byte by byte

A lead byte says how long its sequence is and carries the first bits of a code point;
each continuation byte carries six more.
-/

namespace Utf8

/-- The bits of a code point a lead byte carries, and the length of its sequence. -/
def leadByte (first : UInt8) : Option (UInt32 × Nat) :=
  if first ≤ 0x7f then some (first.toUInt32, 1)
  else if first &&& 0xe0 = 0xc0 then some ((first &&& 0x1f).toUInt32, 2)
  else if first &&& 0xf0 = 0xe0 then some ((first &&& 0x0f).toUInt32, 3)
  else if first &&& 0xf8 = 0xf0 then some ((first &&& 0x07).toUInt32, 4)
  else none

/-- The code point once its continuation bytes have been read, six bits each. -/
def continuationBytes (codePoint : UInt32) : List UInt8 → Option UInt32
  | [] => some codePoint
  | next :: rest =>
      if next &&& 0xc0 ≠ 0x80 then none
      else continuationBytes ((codePoint <<< 6) ||| (next &&& 0x3f).toUInt32) rest

/-- The sequence was too long for its code point, or its code point is not a scalar value. -/
def invalidScalar (length : Nat) (codePoint : UInt32) : Bool :=
  (length = 2 && codePoint < 0x80) || (length = 3 && codePoint < 0x800) ||
    (length = 4 && codePoint < 0x10000) || codePoint > 0x10ffff ||
    (codePoint ≥ 0xd800 && codePoint ≤ 0xdfff)

end Utf8
