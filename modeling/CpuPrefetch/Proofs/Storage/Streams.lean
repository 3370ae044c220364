/-
What the buffer of a stream holds.

Preparation writes the run identifier's prefix into every row of the buffer, and an
append writes the body of the first row that has none.  So the buffer is always the
committed rows, encoded, followed by blank rows, and nothing but an append changes
it; `Holds` is that invariant, and every fact about a stream's bytes is read off it.
-/
import CpuPrefetch.Storage.Decode

namespace CpuPrefetch.Storage

open List
open Protocol (RunId StreamKind)
open Timing (ProducerObservation ConsumerObservation)

/-! ### Sizes -/

/-- The words of a row's body. -/
def bodyWords : StreamKind → Nat
  | .producer => 15
  | .consumer => 10
  | .joinedDerived => 24

@[simp] theorem length_storeU64Le (value : UInt64) : (storeU64Le value).length = 8 :=
  LittleEndian.length_store 8 _

@[simp] theorem length_storeU32Le (value : UInt32) : (storeU32Le value).length = 4 :=
  LittleEndian.length_store 4 _

theorem length_storeWords (words : List UInt64) : (storeWords words).length = words.length * 8 := by
  induction words with
  | nil => rfl
  | cons word rest ih =>
      have hcons : storeWords (word :: rest) = storeU64Le word ++ storeWords rest := rfl
      rw [hcons, length_append, ih, length_storeU64Le, length_cons]
      omega

theorem loadU64Le_storeU64Le (value : UInt64) (rest : List UInt8) :
    loadU64Le (storeU64Le value ++ rest) = value := by
  rw [loadU64Le, storeU64Le, LittleEndian.load_store rest value.toNat_lt, UInt64.ofNat_toNat]

theorem loadU32Le_storeU32Le (value : UInt32) (rest : List UInt8) :
    loadU32Le (storeU32Le value ++ rest) = value := by
  rw [loadU32Le, storeU32Le, LittleEndian.load_store rest value.toNat_lt, UInt32.ofNat_toNat]

/-- Every word of a body is read back. -/
theorem wordAt_storeWords (words : List UInt64) (index : Nat) {word : UInt64}
    (h : words[index]? = some word) (rest : List UInt8) :
    wordAt (storeWords words ++ rest) index = word := by
  induction words generalizing index with
  | nil => simp at h
  | cons first others ih =>
      have hcons : storeWords (first :: others) ++ rest =
          storeU64Le first ++ (storeWords others ++ rest) := append_assoc ..
      rw [hcons]
      cases index with
      | zero =>
          obtain rfl : first = word := by simpa using h
          rw [wordAt, Nat.zero_mul, drop_zero, loadU64Le_storeU64Le]
      | succ index =>
          have hsplit : (index + 1) * 8 = (storeU64Le first).length + index * 8 := by
            rw [length_storeU64Le]
            omega
          rw [wordAt, hsplit, ← drop_drop, drop_left]
          exact ih index (by simpa using h)

/-- The words of a body, each at its place. -/
theorem wordAt_getD (words : List UInt64) {index : Nat} (h : index < words.length)
    (rest : List UInt8) : wordAt (storeWords words ++ rest) index = words.getD index 0 := by
  rw [wordAt_storeWords words index (getElem?_eq_getElem h) rest, getD_eq_getElem _ _ h]

/-- What `make_row_layout` has established about a layout it returns. -/
structure RowLayout.Fits (layout : RowLayout) (runId : List UInt8) : Prop where
  runIdBytes : layout.runIdBytes = runId.length
  lengthLt : runId.length < 2 ^ 32
  prefixBytes : 4 + runId.length ≤ layout.prefixBytes
  rowBytes : ∀ kind, expectedRowBytes kind layout = layout.prefixBytes + bodyWords kind * 8

variable {layout : RowLayout} {runId : List UInt8}

theorem makeRowLayout_fits (h : makeRowLayout runId = .ok layout) : layout.Fits runId := by
  unfold makeRowLayout at h
  split at h
  · cases h
  · split at h
    · cases h
    · split at h
      · cases h
      · rename_i hlength
        have hwith : checkedAdd 4 runId.length = some (4 + runId.length) := by
          unfold checkedAdd u64Max
          rw [if_neg (by omega)]
        rw [hwith] at h
        simp only at h
        split at h
        · cases h
        · have hbody : ∀ body, body ≤ 192 →
              checkedAdd ((4 + runId.length + 7) / 8 * 8) body =
                some ((4 + runId.length + 7) / 8 * 8 + body) := by
            intro body hle
            unfold checkedAdd u64Max
            rw [if_neg (by omega)]
          rw [hbody _ (by decide), hbody _ (by decide), hbody _ (by decide)] at h
          obtain rfl := Except.ok.inj h
          refine ⟨rfl, by omega, ?_, ?_⟩
          · show 4 + runId.length ≤ (4 + runId.length + 7) / 8 * 8
            omega
          · intro kind
            cases kind <;> rfl

theorem RowLayout.Fits.length_rowPrefix (h : layout.Fits runId) :
    (rowPrefix layout runId).length = layout.prefixBytes := by
  have hle := h.prefixBytes
  simp only [rowPrefix, length_append, length_storeU32Le, length_replicate]
  omega

/-- A product that `checked_multiply` returns is the product, and fits. -/
theorem checkedMultiply_eq {left right total : Nat}
    (h : checkedMultiply left right = some total) :
    total = left * right ∧ left * right ≤ u64Max := by
  unfold checkedMultiply at h
  split at h
  · cases h
  · rename_i hfine
    refine ⟨(Option.some.inj h).symm, ?_⟩
    by_cases hzero : left = 0
    · rw [hzero, Nat.zero_mul]
      exact Nat.zero_le _
    · have hle : right ≤ u64Max / left := by
        by_contra hgt
        exact hfine ⟨hzero, Nat.lt_of_not_le hgt⟩
      calc left * right ≤ left * (u64Max / left) := Nat.mul_le_mul_left _ hle
        _ ≤ u64Max := Nat.mul_div_le _ _

/-! ### The invariant -/

/-- A committed row. -/
def rowImage (layout : RowLayout) (runId : List UInt8) (words : List UInt64) : List UInt8 :=
  rowPrefix layout runId ++ storeWords words

/-- A row that has only its prefix. -/
def blankRow (kind : StreamKind) (layout : RowLayout) (runId : List UInt8) : List UInt8 :=
  rowPrefix layout runId ++ List.replicate (bodyWords kind * 8) 0

variable {kind : StreamKind}

variable {words : List UInt64}

/-- Writing the body of a blank row makes it a committed one. -/
theorem writeAt_blankRow (hfits : layout.Fits runId) (hwidth : words.length = bodyWords kind)
    (before after : List UInt8) : Blocks.writeAt (before ++ (blankRow kind layout runId ++ after))
        (before.length + layout.prefixBytes) (storeWords words) =
      before ++ (rowImage layout runId words ++ after) := by
  have hoffset : before.length + layout.prefixBytes =
      (before ++ rowPrefix layout runId).length := by
    rw [length_append, hfits.length_rowPrefix]
  have hsplit : before ++ (blankRow kind layout runId ++ after) =
      (before ++ rowPrefix layout runId) ++ List.replicate (bodyWords kind * 8) 0 ++ after := by
    simp only [blankRow, append_assoc]
  rw [hoffset, hsplit, Blocks.writeAt_append _ _ _ _
    (by rw [length_storeWords, hwidth, length_replicate])]
  simp only [rowImage, append_assoc]

/-- The committed rows of a stream, encoded one after another. -/
def ObservationStream.encoded (s : ObservationStream kind) (rows : List (List UInt64)) :
    List UInt8 :=
  (rows.map (rowImage s.layout s.runId.value)).flatten

/-- The stream is prepared and holds exactly these rows. -/
structure ObservationStream.Holds (s : ObservationStream kind) (rows : List (List UInt64)) :
    Prop where
  layout : makeRowLayout s.runId.value = .ok s.layout
  rowBytes : s.control.rowBytes = expectedRowBytes kind s.layout
  prepared : s.control.prepared = true
  count : s.control.rowCount = rows.length
  capacity : rows.length ≤ s.control.rowCapacity
  allocation : s.control.rowCapacity * s.control.rowBytes ≤ u64Max
  capacityLe : s.control.rowCapacity ≤ u64Max
  width : ∀ words ∈ rows, words.length = bodyWords kind
  storage : s.storage = s.encoded rows ++
    (List.replicate (s.control.rowCapacity - rows.length)
      (blankRow kind s.layout s.runId.value)).flatten

namespace ObservationStream

variable {s : ObservationStream kind} {rows : List (List UInt64)}

theorem Holds.fits (h : s.Holds rows) : s.layout.Fits s.runId.value := makeRowLayout_fits h.layout

theorem Holds.length_rowImage (h : s.Holds rows) (hwidth : words.length = bodyWords kind) :
    (rowImage s.layout s.runId.value words).length = s.control.rowBytes := by
  rw [rowImage, length_append, h.fits.length_rowPrefix, length_storeWords, hwidth,
    h.rowBytes, h.fits.rowBytes]

/-- Every block of the buffer is one row long. -/
theorem Holds.length_blocks (h : s.Holds rows) :
    ∀ block ∈ rows.map (rowImage s.layout s.runId.value), block.length = s.control.rowBytes := by
  intro block hblock
  obtain ⟨words, hwords, rfl⟩ := List.mem_map.mp hblock
  exact h.length_rowImage (h.width words hwords)

theorem Holds.length_encoded (h : s.Holds rows) :
    (s.encoded rows).length = rows.length * s.control.rowBytes := by
  rw [encoded, Blocks.length_flatten h.length_blocks, length_map]

/-- A snapshot is the committed rows. -/
theorem Holds.snapshot_bytes (h : s.Holds rows) : s.snapshot.bytes = s.encoded rows := by
  show s.storage.take (s.control.rowCount * s.control.rowBytes) = _
  rw [h.count, h.storage, ← h.length_encoded, take_left]

/-! ### Preparation -/

/-- The prefixes of the first rows have been written. -/
theorem initializePrefixes_eq (kind : StreamKind) (hfits : layout.Fits runId) (capacity row : Nat)
    (hrow : row ≤ capacity) :
    initializePrefixes (List.replicate (capacity * expectedRowBytes kind layout) 0)
        (expectedRowBytes kind layout) layout runId row =
      (List.replicate row (blankRow kind layout runId)).flatten ++
        List.replicate ((capacity - row) * expectedRowBytes kind layout) 0 := by
  have hbytes := hfits.rowBytes kind
  have hlead := hfits.length_rowPrefix
  generalize hsize : expectedRowBytes kind layout = size at hbytes ⊢
  induction row with
  | zero => simp [initializePrefixes]
  | succ row ih =>
      have hblank : (blankRow kind layout runId).length = size := by
        rw [blankRow, length_append, hlead, length_replicate, hbytes]
      have hdone : (List.replicate row (blankRow kind layout runId)).flatten.length =
          row * size := by
        rw [Blocks.length_flatten fun block hblock => (eq_of_mem_replicate hblock) ▸ hblank,
          length_replicate]
      -- The next row is still all zeros: the prefix goes over the first of them.
      have hzeros : List.replicate ((capacity - row) * size) (0 : UInt8) =
          List.replicate layout.prefixBytes 0 ++
            (List.replicate (bodyWords kind * 8) 0 ++
              List.replicate ((capacity - (row + 1)) * size) 0) := by
        have hone : (capacity - row) * size = layout.prefixBytes + (bodyWords kind * 8 +
            (capacity - (row + 1)) * size) := by
          have hsucc : capacity - row = capacity - (row + 1) + 1 := by omega
          rw [hsucc, Nat.succ_mul]
          omega
        rw [hone, replicate_add, replicate_add]
      rw [initializePrefixes, ih (Nat.le_of_succ_le hrow), hzeros, ← hdone, ← append_assoc,
        Blocks.writeAt_append _ _ _ _ (by rw [hlead, length_replicate]),
        replicate_succ', flatten_append, flatten_singleton, blankRow]
      simp only [append_assoc]

/-- A freshly prepared stream holds no rows. -/
theorem prepared_holds {overflowMessage : String} {runId : RunId} {rowCapacity : UInt64}
    (h : construct kind overflowMessage runId rowCapacity = .ok s) :
    s.prepareForOwner.1.Holds [] ∧ s.prepareForOwner.1.control.completeness = .writing := by
  unfold construct at h
  cases hlayout : makeRowLayout runId.value with
  | error message => rw [hlayout] at h; cases h
  | ok layout =>
      rw [hlayout] at h
      dsimp only [bind, Except.bind] at h
      cases hsize : checkedMultiply rowCapacity.toNat (expectedRowBytes kind layout) with
      | none => rw [hsize] at h; cases h
      | some allocatedBytes =>
          rw [hsize] at h
          obtain rfl := Except.ok.inj h
          obtain ⟨rfl, hallocation⟩ := checkedMultiply_eq hsize
          refine ⟨?_, rfl⟩
          refine
            { layout := hlayout
              rowBytes := rfl
              prepared := rfl
              count := rfl
              capacity := Nat.zero_le _
              allocation := hallocation
              capacityLe := Nat.le_pred_of_lt rowCapacity.toNat_lt
              width := by intro row hrow; cases hrow
              storage := ?_ }
          have hall := initializePrefixes_eq kind (makeRowLayout_fits hlayout)
            rowCapacity.toNat rowCapacity.toNat (Nat.le_refl _)
          rw [Nat.sub_self, Nat.zero_mul, replicate_zero, append_nil] at hall
          exact hall

/-! ### Appends -/

/-- What an append may have done: the row was committed, or nothing was. -/
def Committed (words : List UInt64) (rows : List (List UInt64))
    (result : ObservationStream kind × AppendStatus) : Prop :=
  (result.2 = .appended ∧ result.1.Holds (rows ++ [words])) ∨
    (result.2 ≠ .appended ∧ result.1.Holds rows)

/-- Whether a stream is sealed, and why, is not in its rows. -/
theorem Holds.reflag (h : s.Holds rows) (overflowed : Bool) (completeness : StreamCompleteness) :
    ({ s with control :=
      { s.control with overflowed := overflowed, completeness := completeness } } :
        ObservationStream kind).Holds rows where
  layout := h.layout
  rowBytes := h.rowBytes
  prepared := h.prepared
  count := h.count
  capacity := h.capacity
  allocation := h.allocation
  capacityLe := h.capacityLe
  width := h.width
  storage := h.storage

theorem Holds.commitRow (h : s.Holds rows) (hwidth : words.length = bodyWords kind) :
    Committed words rows (s.commitRow words) := by
  unfold ObservationStream.commitRow
  split
  · exact .inr ⟨nofun, h.reflag true .sealedIncomplete⟩
  · rename_i hroom
    have hlt : rows.length < s.control.rowCapacity :=
      Nat.lt_of_le_of_ne h.capacity (h.count ▸ hroom)
    refine .inl ⟨rfl, ?_⟩
    refine
      { layout := h.layout, rowBytes := h.rowBytes, prepared := h.prepared
        count := by simp [h.count]
        capacity := by rw [length_append]; exact hlt
        allocation := h.allocation
        capacityLe := h.capacityLe
        width := ?_
        storage := ?_ }
    · intro words' hwords'
      rcases List.mem_append.mp hwords' with hold | hnew
      · exact h.width words' hold
      · rw [List.mem_singleton.mp hnew]
        exact hwidth
    · have hone : s.control.rowCapacity - rows.length =
          s.control.rowCapacity - (rows.length + 1) + 1 := by omega
      have hoffset : s.control.rowCount * expectedRowBytes kind s.layout + s.layout.prefixBytes =
          (s.encoded rows).length + s.layout.prefixBytes := by
        rw [h.length_encoded, h.count, h.rowBytes]
      show Blocks.writeAt s.storage _ (storeWords words) = _
      rw [hoffset, h.storage, hone, replicate_succ, flatten_cons,
        writeAt_blankRow h.fits hwidth]
      simp [encoded]

theorem Holds.sealComplete (h : s.Holds rows) : s.sealComplete.1.Holds rows := by
  unfold ObservationStream.sealComplete
  split
  · exact h
  · exact h.reflag _ .sealedComplete

/-! ### Reading rows back -/

/-- The body of a committed row, and what follows it. -/
def body (s : ObservationStream kind) (index : Nat) : List UInt8 :=
  s.storage.drop (index * s.control.rowBytes + s.layout.prefixBytes)

theorem Holds.drop_encoded (h : s.Holds rows) {index : Nat} (hrow : rows[index]? = some words) :
    (s.encoded rows).drop (index * s.control.rowBytes) =
      rowImage s.layout s.runId.value words ++ s.encoded (rows.drop (index + 1)) := by
  obtain ⟨hlt, hget⟩ := List.getElem?_eq_some_iff.mp hrow
  have hdrop : rows.drop index = words :: rows.drop (index + 1) := by
    rw [← hget]
    exact drop_eq_getElem_cons hlt
  rw [encoded, Blocks.drop_flatten h.length_blocks, ← map_drop, hdrop]
  rfl

/-- The words of a committed row are in its body. -/
theorem Holds.wordAt_body (h : s.Holds rows) {index position : Nat} {word : UInt64}
    (hrow : rows[index]? = some words) (hword : words[position]? = some word) :
    wordAt (s.body index) position = word := by
  have hlt := (List.getElem?_eq_some_iff.mp hrow).1
  have hle : index * s.control.rowBytes ≤ (s.encoded rows).length := by
    rw [h.length_encoded]
    exact Nat.mul_le_mul_right _ (Nat.le_of_lt hlt)
  rw [body, h.storage, ← drop_drop, drop_append_of_le_length hle, h.drop_encoded hrow,
    rowImage, append_assoc, append_assoc, ← h.fits.length_rowPrefix, drop_left]
  exact wordAt_storeWords words position hword _

end ObservationStream

/-! ### The two streams -/

theorem length_producerWords (observation : ProducerObservation) :
    (producerWords observation).length = bodyWords .producer := rfl

theorem length_consumerWords (observation : ConsumerObservation) :
    (consumerWords observation).length = bodyWords .consumer := rfl

theorem length_joinedWords (row : Protocol.JoinedRecord) :
    (joinedWords row).length = bodyWords .joinedDerived := rfl

theorem ProducerObservationStream.append_committed {s : ProducerObservationStream}
    {rows : List (List UInt64)} (h : s.Holds rows) (observation : ProducerObservation) :
    ObservationStream.Committed (producerWords observation) rows (s.append observation) := by
  unfold ProducerObservationStream.append
  split
  · exact .inr ⟨nofun, h⟩
  · split
    · exact .inr ⟨nofun, h⟩
    · simp only
      split
      · exact .inr ⟨nofun, h⟩
      · exact h.commitRow (length_producerWords observation)

theorem ConsumerObservationStream.append_committed {s : ConsumerObservationStream}
    {rows : List (List UInt64)} (h : s.Holds rows) (observation : ConsumerObservation) :
    ObservationStream.Committed (consumerWords observation) rows (s.append observation) := by
  unfold ConsumerObservationStream.append
  split
  · exact .inr ⟨nofun, h⟩
  · split
    · exact .inr ⟨nofun, h⟩
    · exact h.commitRow (length_consumerWords observation)

end CpuPrefetch.Storage
