/-
How many bytes the raw artifacts of a run have.

The layout of a row depends on the length of the run identifier alone, and no size of it
can overflow.  Whatever a stream shows, the joined encoder writes or the decoder accepts
is a whole number of rows of that layout.
-/
import CpuPrefetch.Lib.Words
import CpuPrefetch.Proofs.Storage.Canonical
import CpuPrefetch.Proofs.Storage.StreamLifecycle

namespace CpuPrefetch.Storage

open CheckedWords (roundUp)
open Protocol (RunId StreamKind JoinedRecord RawObservationEnvelope)
open Timing (ProducerObservation ConsumerObservation)

/-! ### Layouts -/

/-- The bytes of a row: the length and the identifier in whole words, and the body. -/
def rowBytes (kind : StreamKind) (runId : List UInt8) : Nat :=
  roundUp (4 + runId.length) 8 + bodyWords kind * 8

def layoutOf (runId : List UInt8) : RowLayout where
  runIdBytes := runId.length
  prefixBytes := roundUp (4 + runId.length) 8
  producerRowBytes := rowBytes .producer runId
  consumerRowBytes := rowBytes .consumer runId
  joinedRowBytes := rowBytes .joinedDerived runId

theorem expectedRowBytes_layoutOf (kind : StreamKind) (runId : List UInt8) :
    expectedRowBytes kind (layoutOf runId) = rowBytes kind runId := by
  cases kind <;> rfl

/-- The identifiers that rows can be prefixed with. -/
structure ValidRunId (runId : List UInt8) : Prop where
  nonempty : runId ≠ []
  utf8 : validUtf8 runId = true
  length : runId.length < 2 ^ 32

variable {runId : List UInt8}

/-- A row is far smaller than what a word can count. -/
theorem ValidRunId.rowBytes_le (h : ValidRunId runId) (kind : StreamKind) :
    rowBytes kind runId ≤ 2 ^ 33 := by
  have hlength := h.length
  have hbody : bodyWords kind ≤ 24 := by cases kind <;> decide
  have hround := CheckedWords.roundUp_eq (4 + runId.length) (by decide : 0 < 8)
  unfold rowBytes
  split at hround <;> omega

/-- The guards against an overflow of the layout never stop it. -/
theorem makeRowLayout_eq (h : ValidRunId runId) : makeRowLayout runId = .ok (layoutOf runId) := by
  have hlength := h.length
  have hempty : ¬runId.isEmpty = true := by simpa using h.nonempty
  have hutf8 : ¬(!validUtf8 runId) = true := by simp [h.utf8]
  have hshort : ¬runId.length > 2 ^ 32 - 1 := by omega
  have hwith : checkedAdd 4 runId.length = some (4 + runId.length) := by
    unfold checkedAdd u64Max
    rw [if_neg (by omega)]
  have hbody : ∀ body, body ≤ 192 → checkedAdd ((4 + runId.length + 7) / 8 * 8) body =
      some ((4 + runId.length + 7) / 8 * 8 + body) := by
    intro body hle
    unfold checkedAdd u64Max
    rw [if_neg (by omega)]
  unfold makeRowLayout
  rw [if_neg hempty, if_neg hutf8, if_neg hshort, hwith]
  simp only
  rw [if_neg (by unfold u64Max; omega), hbody _ (by decide), hbody _ (by decide),
    hbody _ (by decide)]
  rfl

variable {layout : RowLayout}

theorem validRunId_of_layout (h : makeRowLayout runId = .ok layout) : ValidRunId runId := by
  have hlength := (makeRowLayout_fits h).lengthLt
  unfold makeRowLayout at h
  split at h
  · cases h
  · rename_i hempty
    split at h
    · cases h
    · rename_i hutf8
      exact ⟨by simpa using hempty, by simpa using hutf8, hlength⟩

theorem makeRowLayout_ok_iff :
    makeRowLayout runId = .ok layout ↔ ValidRunId runId ∧ layout = layoutOf runId := by
  constructor
  · intro h
    have hvalid := validRunId_of_layout h
    exact ⟨hvalid, Except.ok.inj (h.symm.trans (makeRowLayout_eq hvalid))⟩
  · intro ⟨hvalid, hlayout⟩
    rw [hlayout]
    exact makeRowLayout_eq hvalid

/-- What makes a layout has the row sizes of its identifier. -/
theorem expectedRowBytes_eq (h : makeRowLayout runId = .ok layout) (kind : StreamKind) :
    expectedRowBytes kind layout = rowBytes kind runId := by
  rw [(makeRowLayout_ok_iff.mp h).2, expectedRowBytes_layoutOf]

/-! ### Artifacts -/

/--
The raw artifacts of a kind, with the run and the number of rows: what a stream shows after
any calls, what the joined encoder writes, and whatever the decoder accepts.
-/
inductive RawArtifact (sha256 : List UInt8 → String) :
    StreamKind → List UInt8 → Nat → List UInt8 → Prop where
  | producer {runId : RunId} {rowCapacity : UInt64} {made : ProducerObservationStream}
      (hmade : ProducerObservationStream.construct runId rowCapacity = .ok made)
      (calls : List (StreamCall ProducerObservation)) :
      RawArtifact sha256 .producer runId.value
        (producerAppending.run made calls).snapshot.rowCount
        (producerAppending.run made calls).snapshot.bytes
  | consumer {runId : RunId} {rowCapacity : UInt64} {made : ConsumerObservationStream}
      (hmade : ConsumerObservationStream.construct runId rowCapacity = .ok made)
      (calls : List (StreamCall ConsumerObservation)) :
      RawArtifact sha256 .consumer runId.value
        (consumerAppending.run made calls).snapshot.rowCount
        (consumerAppending.run made calls).snapshot.bytes
  | joined {runId : RunId} {rows : List JoinedRecord} {bytes : List UInt8}
      (hencode : encodeJoinedRowsForFormatTest runId rows = .ok bytes) :
      RawArtifact sha256 .joinedDerived runId.value rows.length bytes
  | accepted {envelope : RawObservationEnvelope} {bytes : List UInt8} {decoded : DecodedRawStream}
      (hdecode : decodeExternalRaw sha256 envelope bytes = .ok decoded) :
      RawArtifact sha256 envelope.streamKind envelope.runId.value envelope.rowCount.toNat bytes

variable {kind : StreamKind}

theorem ObservationStream.construct_layout {overflowMessage : String} {runId : RunId}
    {rowCapacity : UInt64} {made : ObservationStream kind}
    (h : ObservationStream.construct kind overflowMessage runId rowCapacity = .ok made) :
    makeRowLayout runId.value = .ok made.layout := by
  obtain ⟨layout, hlayout, h⟩ := Fallible.bind_ok h
  split at h
  · cases h
  · obtain rfl := Except.ok.inj h
    exact hlayout

/-- What a stream shows is its rows. -/
theorem Appending.length_snapshot {Obs : Type} (appending : Appending kind Obs)
    {overflowMessage : String} {runId : RunId} {rowCapacity : UInt64}
    {made : ObservationStream kind}
    (h : ObservationStream.construct kind overflowMessage runId rowCapacity = .ok made)
    (calls : List (StreamCall Obs)) : (appending.run made calls).snapshot.bytes.length =
      (appending.run made calls).snapshot.rowCount * rowBytes kind runId.value := by
  have hmade := (ObservationStream.construct_made h).1
  obtain ⟨rows, hshows⟩ := (appending.sound_run hmade calls).shows hmade
  have hcount : (appending.run made calls).snapshot.rowCount = rows.length := hshows.count
  rw [hshows.bytes, hcount, ← expectedRowBytes_eq (ObservationStream.construct_layout h) kind,
    ← hmade.rowBytes, Blocks.length_flatten, List.length_map]
  intro block hblock
  obtain ⟨words, hwords, rfl⟩ := List.mem_map.mp hblock
  exact hshows.width words hwords

/-- **A raw artifact is as many bytes as its rows.** -/
theorem RawArtifact.length_eq {sha256 : List UInt8 → String} {rows : Nat} {bytes : List UInt8}
    (h : RawArtifact sha256 kind runId rows bytes) : bytes.length = rows * rowBytes kind runId := by
  cases h with
  | producer hmade calls => exact producerAppending.length_snapshot hmade calls
  | consumer hmade calls => exact consumerAppending.length_snapshot hmade calls
  | joined hencode =>
      obtain ⟨layout, hlayout, hrun, hmax⟩ := encodeJoined_ok hencode
      have hfits := makeRowLayout_fits hlayout
      obtain rfl := Except.ok.inj (hencode.symm.trans (encodeJoined_images hlayout hrun hmax))
      rw [← expectedRowBytes_eq hlayout, Blocks.length_flatten, List.length_map]
      intro block hblock
      obtain ⟨row, -, rfl⟩ := List.mem_map.mp hblock
      exact hfits.length_rowImage (length_joinedWords row)
  | accepted hdecode =>
      obtain ⟨layout, hlayout, hlength, -⟩ := decodeExternalRaw_ok hdecode
      rw [hlength, expectedRowBytes_eq hlayout]

end CpuPrefetch.Storage
