/-
The raw format has one spelling for every list of rows.

`Codec` decodes what a stream holds.  Here is the way back: whatever bytes the decoder
accepts are the rows it returns, encoded.  The decoder reads every word of a body, and
checks every byte of a prefix and every word it does not return, so a row's bytes are
those of `rowImage`; the loop then gives the whole artifact, one row after the other.
-/
import CpuPrefetch.Lib.Fallible
import CpuPrefetch.Proofs.Storage.Codec

namespace CpuPrefetch.Storage

open List
open Protocol (RunId StreamKind ProducerOutcome Result RawObservationEnvelope JoinedRecord)
open Timing (ProducerObservation ConsumerObservation makeProducerRecord makeConsumerRecord)

/-! ### Words and prefixes from bytes -/

theorem storeU64Le_loadU64Le {input : List UInt8} (h : 8 ≤ input.length) :
    storeU64Le (loadU64Le input) = input.take 8 := by
  rw [storeU64Le, loadU64Le, UInt64.toNat_ofNat', Nat.mod_eq_of_lt (LittleEndian.load_lt 8 input),
    LittleEndian.store_load h]

theorem storeU32Le_loadU32Le {input : List UInt8} (h : 4 ≤ input.length) :
    storeU32Le (loadU32Le input) = input.take 4 := by
  rw [storeU32Le, loadU32Le, UInt32.toNat_ofNat', Nat.mod_eq_of_lt (LittleEndian.load_lt 4 input),
    LittleEndian.store_load h]

variable {body : List UInt8}

/-- The words of a body, stored again, are its bytes. -/
theorem storeWords_wordAt {count : Nat} (h : count * 8 ≤ body.length) :
    storeWords ((List.range count).map (wordAt body)) = body.take (count * 8) := by
  induction count with
  | zero => simp [storeWords]
  | succ count ih =>
      have hword : storeU64Le (wordAt body count) = (body.drop (count * 8)).take 8 :=
        storeU64Le_loadU64Le (by rw [length_drop]; omega)
      rw [range_succ, map_append, storeWords, flatMap_append, Nat.succ_mul,
        take_add]
      exact congrArg₂ (· ++ ·) (ih (by omega)) (by simpa using hword)

variable {runId : List UInt8}

/-- A row that passes the check begins with the prefix of its run identifier. -/
theorem rowPrefix_of_verifyPrefix {layout : RowLayout} {row : List UInt8}
    (hfits : layout.Fits runId) (hlength : layout.prefixBytes ≤ row.length)
    (h : verifyPrefix row layout runId = true) :
    row.take layout.prefixBytes = rowPrefix layout runId := by
  have hle := hfits.prefixBytes
  simp only [verifyPrefix, Bool.and_eq_true, all_eq_true, mem_range, decide_eq_true_eq,
    hfits.runIdBytes] at h
  obtain ⟨⟨hcount, hid⟩, hpad⟩ := h
  have hhead : row.take 4 = storeU32Le (.ofNat runId.length) := by
    rw [← storeU32Le_loadU32Le (by omega), ← hcount, UInt32.ofNat_toNat]
  have hbody : (row.drop 4).take runId.length = runId := by
    refine ext_getElem (by simp; omega) fun index _ hindex => ?_
    have hbyte := hid index hindex
    rw [getD_eq_getElem?_getD, getD_eq_getElem?_getD,
      getElem?_eq_getElem (by omega), getElem?_eq_getElem hindex] at hbyte
    simpa using hbyte
  have hzeros : (row.drop (4 + runId.length)).take (layout.prefixBytes - (4 + runId.length)) =
      List.replicate (layout.prefixBytes - (4 + runId.length)) 0 := by
    refine ext_getElem (by simp; omega) fun index _ hindex => ?_
    rw [length_replicate] at hindex
    have hbyte := hpad index hindex
    rw [getD_eq_getElem?_getD, getElem?_eq_getElem (by omega)] at hbyte
    simpa using hbyte
  have hsplit : layout.prefixBytes =
      4 + runId.length + (layout.prefixBytes - (4 + runId.length)) := by omega
  calc row.take layout.prefixBytes
      = row.take 4 ++ (row.drop 4).take runId.length ++
          (row.drop (4 + runId.length)).take (layout.prefixBytes - (4 + runId.length)) := by
        rw [← take_add, ← take_add, ← hsplit]
    _ = rowPrefix layout runId := by rw [hhead, hbody, hzeros, rowPrefix]

/-! ### Bodies -/

/-- The fields an accepted observation has, and no other. -/
structure AcceptedFields (row : ProducerObservation) : Prop where
  linearization : row.enqueueLinearization.isSome = (row.outcome = .accepted : Bool)
  ordinal : row.acceptedOrdinal.isSome = (row.outcome = .accepted : Bool)

variable {counter counter' : UInt64} {index : Nat}

theorem decodeProducerBody_eq {row : DecodedProducerRow}
    (h : decodeProducerBody runId index counter body = .ok (row, counter')) :
    producerWords row.observation = (List.range 15).map (wordAt body) ∧
      row.runId = runId ∧ AcceptedFields row.observation := by
  unfold decodeProducerBody at h
  simp only at h
  split at h
  · cases h
  · rename_i hflags
    split at h
    · cases h
    · rename_i habsent
      obtain ⟨rfl, -⟩ := Prod.mk.inj (Except.ok.inj h)
      simp only [Bool.or_eq_true, Bool.and_eq_true, decide_eq_true_eq, not_or, not_and,
        not_not, ne_eq] at hflags habsent
      by_cases haccepted : wordAt body 14 = kProducerAcceptedFlags
      · refine ⟨?_, rfl, ?_, ?_⟩
        all_goals simp [producerWords, haccepted, sampleAt, range_succ]
      · have hfull : wordAt body 14 = kProducerFullFlags := hflags.2 haccepted
        have hzero := habsent.2 (by simpa using haccepted)
        refine ⟨?_, rfl, ?_, ?_⟩
        all_goals simp [producerWords, hfull, hzero, sampleAt, range_succ,
          kProducerFullFlags, kProducerAcceptedFlags]

theorem decodeConsumerBody_eq {row : DecodedConsumerRow}
    (h : decodeConsumerBody runId index counter body = .ok (row, counter')) :
    consumerWords row.observation = (List.range 10).map (wordAt body) ∧ row.runId = runId := by
  unfold decodeConsumerBody at h
  split at h
  · cases h
  · obtain ⟨rfl, -⟩ := Prod.mk.inj (Except.ok.inj h)
    simp [consumerWords, sampleAt, range_succ]

theorem decodeJoinedBody_eq {runId : RunId} {row : JoinedRecord}
    (h : decodeJoinedBody runId index counter body = .ok (row, counter')) :
    joinedWords row = (List.range 24).map (wordAt body) ∧ row.runId = runId := by
  unfold decodeJoinedBody at h
  split at h
  · cases h
  · obtain ⟨rfl, -⟩ := Prod.mk.inj (Except.ok.inj h)
    simp [joinedWords, range_succ]

/-! ### The loop -/

section Loop

variable {Row : Type} {words : Row → List UInt64} {good : Row → Prop}
  {decodeBody : Nat → UInt64 → List UInt8 → Result (Row × UInt64)} {layout : RowLayout}
  {runId : List UInt8} {count : Nat}

/-- One accepted row is the image of what it decodes to. -/
theorem rowImage_of_decode (hfits : layout.Fits runId) {row : List UInt8} {decoded : Row}
    (hlength : layout.prefixBytes + count * 8 ≤ row.length)
    (hverify : verifyPrefix row layout runId = true)
    (hwords : words decoded = (List.range count).map (wordAt (row.drop layout.prefixBytes))) :
    row.take (layout.prefixBytes + count * 8) = rowImage layout runId (words decoded) := by
  have hbody : count * 8 ≤ (row.drop layout.prefixBytes).length := by
    rw [length_drop]
    omega
  rw [take_add, rowPrefix_of_verifyPrefix hfits (by omega) hverify, rowImage, hwords,
    storeWords_wordAt hbody]

variable (words good) in
/-- The bytes the loop has read are the images of the rows it returns. -/
theorem images_of_decodeRows (hfits : layout.Fits runId) (bytes : List UInt8)
    (hbody : ∀ index counter body decoded counter',
      decodeBody index counter body = .ok (decoded, counter') →
      words decoded = (List.range count).map (wordAt body) ∧ good decoded)
    {remaining : Nat} {rows : List Row}
    (h : decodeRows decodeBody layout runId (layout.prefixBytes + count * 8) bytes remaining index
      counter = .ok rows)
    (hlength : (index + remaining) * (layout.prefixBytes + count * 8) ≤ bytes.length) :
    rows.length = remaining ∧ (∀ row ∈ rows, good row) ∧
      (bytes.drop (index * (layout.prefixBytes + count * 8))).take
          (remaining * (layout.prefixBytes + count * 8)) =
        (rows.map fun row => rowImage layout runId (words row)).flatten := by
  induction remaining generalizing index counter rows with
  | zero =>
      obtain rfl := Except.ok.inj h
      exact ⟨rfl, nofun, by simp⟩
  | succ remaining ih =>
      rw [decodeRows] at h
      split at h
      · cases h
      · rename_i hverify
        rw [Bool.not_eq_true', Bool.not_eq_false] at hverify
        obtain ⟨⟨decoded, counter'⟩, hdecoded, h⟩ := Fallible.bind_ok h
        obtain ⟨rest, hrest, h⟩ := Fallible.bind_ok h
        obtain rfl := Except.ok.inj h
        obtain ⟨hwords, hgood⟩ := hbody _ _ _ _ _ hdecoded
        have hsplit : (index + (remaining + 1)) * (layout.prefixBytes + count * 8) =
            index * (layout.prefixBytes + count * 8) + (layout.prefixBytes + count * 8) +
              remaining * (layout.prefixBytes + count * 8) := by
          rw [Nat.add_mul, Nat.succ_mul]
          omega
        have hnext : (index + 1 + remaining) * (layout.prefixBytes + count * 8) ≤ bytes.length := by
          rw [show index + 1 + remaining = index + (remaining + 1) by omega]
          exact hlength
        obtain ⟨hcount, hall, himages⟩ := ih hrest hnext
        have hrow := rowImage_of_decode hfits (by rw [length_drop]; omega) hverify hwords
        refine ⟨by rw [length_cons, hcount], ?_, ?_⟩
        · intro row hmem
          rcases List.mem_cons.mp hmem with rfl | hmem
          · exact hgood
          · exact hall row hmem
        · rw [map_cons, flatten_cons, ← hrow, ← himages, Nat.succ_mul,
            Nat.add_comm (remaining * _), take_add, drop_drop, Nat.succ_mul]

end Loop

/-! ### Accepted artifacts -/

variable {bytes : List UInt8}

/-- What the decoder has checked about bytes it accepts. -/
theorem decodeExternalRaw_ok {sha256 : List UInt8 → String} {envelope : RawObservationEnvelope}
    {decoded : DecodedRawStream} (h : decodeExternalRaw sha256 envelope bytes = .ok decoded) :
    ∃ layout, makeRowLayout envelope.runId.value = .ok layout ∧
      bytes.length = envelope.rowCount.toNat * expectedRowBytes envelope.streamKind layout ∧
      bytes.length ≤ u64Max ∧ decoded.streamKind = envelope.streamKind ∧
      decodeStream envelope layout (expectedRowBytes envelope.streamKind layout) bytes =
        .ok decoded.rows ∧
      Protocol.validateRaw
        { envelope with storage := .inline (decoded.rows.logical envelope.runId) } = [] := by
  obtain ⟨-, -, h⟩ := Fallible.bind_ok h
  cases hlayout : makeRowLayout envelope.runId.value with
  | error message => rw [hlayout] at h; cases h
  | ok layout =>
      rw [hlayout] at h
      simp only at h
      split at h
      · cases h
      · rename_i hsize
        simp only [ne_eq, Bool.or_eq_true, decide_eq_true_eq, not_or, not_not] at hsize
        obtain ⟨rows, hrows, h⟩ := Fallible.bind_ok h
        split at h
        · rename_i hvalid
          obtain rfl := Except.ok.inj h
          refine ⟨layout, rfl, ?_, ?_, rfl, hrows, hvalid⟩
          · rw [← hsize.2]
            exact (checkedMultiply_eq hsize.1).1
          · rw [← hsize.2]
            exact Nat.le_pred_of_lt envelope.byteCount.toNat_lt
        · cases h

/-- The bytes of the artifact are these rows, encoded. -/
def DecodedRows.Images (envelope : RawObservationEnvelope) (layout : RowLayout)
    (bytes : List UInt8) : DecodedRows → Prop
  | .producer rows =>
      envelope.streamKind = .producer ∧ rows.length = envelope.rowCount.toNat ∧
      (∀ row ∈ rows, row.runId = envelope.runId.value ∧ AcceptedFields row.observation) ∧
      bytes = (rows.map fun row =>
        rowImage layout envelope.runId.value (producerWords row.observation)).flatten
  | .consumer rows =>
      envelope.streamKind = .consumer ∧ rows.length = envelope.rowCount.toNat ∧
      (∀ row ∈ rows, row.runId = envelope.runId.value) ∧
      bytes = (rows.map fun row =>
        rowImage layout envelope.runId.value (consumerWords row.observation)).flatten
  | .joined rows =>
      envelope.streamKind = .joinedDerived ∧ rows.length = envelope.rowCount.toNat ∧
      (∀ row ∈ rows, row.runId = envelope.runId) ∧
      bytes = (rows.map fun row =>
        rowImage layout envelope.runId.value (joinedWords row)).flatten

/-- The rows of an accepted artifact are all its bytes. -/
theorem decodeStream_images {envelope : RawObservationEnvelope} {layout : RowLayout}
    {rows : DecodedRows} (hfits : layout.Fits envelope.runId.value)
    (hlength : bytes.length = envelope.rowCount.toNat * expectedRowBytes envelope.streamKind layout)
    (h : decodeStream envelope layout (expectedRowBytes envelope.streamKind layout) bytes =
      .ok rows) :
    rows.Images envelope layout bytes := by
  have hwhole : ∀ {rowBytes : Nat}, bytes.length = envelope.rowCount.toNat * rowBytes →
      (bytes.drop (0 * rowBytes)).take (envelope.rowCount.toNat * rowBytes) = bytes := by
    intro rowBytes hsize
    rw [Nat.zero_mul, drop_zero, ← hsize, take_length]
  have hbound : ∀ {rowBytes : Nat}, bytes.length = envelope.rowCount.toNat * rowBytes →
      (0 + envelope.rowCount.toNat) * rowBytes ≤ bytes.length := by
    intro rowBytes hsize
    rw [Nat.zero_add, hsize]
  unfold decodeStream at h
  cases hkind : envelope.streamKind with
  | producer =>
      rw [hkind] at h hlength
      obtain ⟨decoded, hdecoded, rfl⟩ := Fallible.map_ok h
      rw [hfits.rowBytes] at hdecoded hlength
      obtain ⟨hcount, hgood, himages⟩ := images_of_decodeRows
        (fun row => producerWords row.observation)
        (fun row => row.runId = envelope.runId.value ∧ AcceptedFields row.observation) hfits bytes
        (fun _ _ _ _ _ hbody => decodeProducerBody_eq hbody) hdecoded (hbound hlength)
      exact ⟨hkind, hcount, hgood, (hwhole hlength).symm.trans himages⟩
  | consumer =>
      rw [hkind] at h hlength
      obtain ⟨decoded, hdecoded, rfl⟩ := Fallible.map_ok h
      rw [hfits.rowBytes] at hdecoded hlength
      obtain ⟨hcount, hgood, himages⟩ := images_of_decodeRows
        (fun row => consumerWords row.observation) (fun row => row.runId = envelope.runId.value)
        hfits bytes
        (fun _ _ _ _ _ hbody => decodeConsumerBody_eq hbody) hdecoded (hbound hlength)
      exact ⟨hkind, hcount, hgood, (hwhole hlength).symm.trans himages⟩
  | joinedDerived =>
      rw [hkind] at h hlength
      obtain ⟨decoded, hdecoded, rfl⟩ := Fallible.map_ok h
      rw [hfits.rowBytes] at hdecoded hlength
      obtain ⟨hcount, hgood, himages⟩ := images_of_decodeRows
        joinedWords (fun row => row.runId = envelope.runId) hfits bytes
        (fun _ _ _ _ _ hbody => decodeJoinedBody_eq hbody) hdecoded (hbound hlength)
      exact ⟨hkind, hcount, hgood, (hwhole hlength).symm.trans himages⟩

/-! ### The encoders -/

section Encoders

variable {runId : RunId} {layout : RowLayout}

variable {rows : List JoinedRecord}

/-- The loop of the joined encoder fills the blank rows one after another. -/
theorem storeJoinedRows_images (hfits : layout.Fits runId.value)
    (hrun : ∀ row ∈ rows, row.runId = runId) (before : List UInt8) (index : Nat)
    (hbefore : before.length = index * layout.joinedRowBytes) :
    storeJoinedRows runId layout index (before ++
        (List.replicate rows.length (blankRow .joinedDerived layout runId.value)).flatten) rows =
      .ok (before ++
        (rows.map fun row => rowImage layout runId.value (joinedWords row)).flatten) := by
  induction rows generalizing before index with
  | nil => rfl
  | cons row rest ih =>
      have hrow : row.runId = runId := hrun row mem_cons_self
      rw [storeJoinedRows, if_neg (by simpa using hrow), length_cons, replicate_succ,
        flatten_cons, ← hbefore, writeAt_blankRow hfits (length_joinedWords row),
        ← append_assoc]
      have hnext : (before ++ rowImage layout runId.value (joinedWords row)).length =
          (index + 1) * layout.joinedRowBytes := by
        rw [length_append, hfits.length_rowImage (length_joinedWords row), hbefore,
          Nat.succ_mul]
        rfl
      rw [ih (fun r hr => hrun r (mem_cons_of_mem row hr)) _ _ hnext, map_cons,
        flatten_cons, append_assoc]

/-- The joined encoder writes the images of its rows. -/
theorem encodeJoined_images (hlayout : makeRowLayout runId.value = .ok layout)
    (hrun : ∀ row ∈ rows, row.runId = runId) (hmax : rows.length * layout.joinedRowBytes ≤ u64Max) :
    encodeJoinedRowsForFormatTest runId rows =
      .ok (rows.map fun row => rowImage layout runId.value (joinedWords row)).flatten := by
  have hfits := makeRowLayout_fits hlayout
  have hprefixes := ObservationStream.initializePrefixes_eq .joinedDerived hfits rows.length
    rows.length (Nat.le_refl _)
  rw [Nat.sub_self, Nat.zero_mul, replicate_zero, append_nil] at hprefixes
  unfold encodeJoinedRowsForFormatTest
  rw [hlayout]
  dsimp only [bind, Except.bind]
  rw [checkedMultiply_of_le hmax]
  show storeJoinedRows runId layout 0 (initializePrefixes
    (List.replicate (rows.length * expectedRowBytes .joinedDerived layout) 0)
    (expectedRowBytes .joinedDerived layout) layout runId.value rows.length) rows = _
  rw [hprefixes]
  exact storeJoinedRows_images hfits hrun [] 0 (by simp)

/-- What the joined encoder has checked about rows it encodes. -/
theorem encodeJoined_ok (h : encodeJoinedRowsForFormatTest runId rows = .ok bytes) :
    ∃ layout, makeRowLayout runId.value = .ok layout ∧ (∀ row ∈ rows, row.runId = runId) ∧
      rows.length * layout.joinedRowBytes ≤ u64Max := by
  obtain ⟨layout, hlayout, h⟩ := Fallible.bind_ok h
  refine ⟨layout, hlayout, ?_, ?_⟩
  · split at h
    · cases h
    · -- a row of another run stops the loop, wherever it stands
      have hloop : ∀ (index : Nat) (output : List UInt8) (rows : List JoinedRecord),
          storeJoinedRows runId layout index output rows = .ok bytes →
            ∀ row ∈ rows, row.runId = runId := by
        intro index output rows
        induction rows generalizing index output with
        | nil => exact fun _ => forall_mem_nil _
        | cons row rest ih =>
            intro hstore r hr
            rw [storeJoinedRows] at hstore
            split at hstore
            · cases hstore
            · rename_i hrow
              rcases List.mem_cons.mp hr with rfl | hmem
              · exact not_not.mp hrow
              · exact ih _ _ hstore r hmem
      exact hloop _ _ rows h
  · split at h
    · cases h
    · rename_i total htotal
      exact (checkedMultiply_eq htotal).2

end Encoders

end CpuPrefetch.Storage
