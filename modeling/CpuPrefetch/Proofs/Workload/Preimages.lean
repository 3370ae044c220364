/-
What is hashed can be read back from its bytes.

Each encoder puts the length of a field before it, so the bytes tell the fields
(`Lib/Bytes`); the first field tells which function has written them, and the others
are its inputs one by one.
-/
import CpuPrefetch.Lib.Bytes
import CpuPrefetch.Proofs.Workload.OneStream
import CpuPrefetch.Schedule.Schedule
import CpuPrefetch.Workload.Checksums

namespace CpuPrefetch.Workload

open List
open Framing (Fits frame frames)
open Protocol (Text ascii)
open Queue (Setup)

/-- Everything that goes into one of the five hashes. -/
inductive HashInput where
  | streamKey (nameSpace : StringView) (purpose : StreamPurpose)
  | decodedDeadlines (originTicks horizonTicks : UInt64) (nominalOfferedRate : UInt64 × UInt64)
      (deadlines : List UInt64)
  | arenaContent (image : ArenaImage)
  | orderedIndex (order : List UInt64)
  | addressDeltas (deltas : List Int64)

variable (value : UInt64)

/-- A word as a field. -/
def wordField : Text := BigEndian.store 8 value.toNat

def lineFields (paddingSize : UInt64) (line : ArenaLine) : List Text :=
  [wordField line.record.recordIndex, wordField line.record.payload, wordField paddingSize,
    line.padding]

namespace HashInput

/-- The fields that are hashed, in order. -/
def fields : HashInput → List Text
  | streamKey nameSpace purpose =>
      [kDerivationDomainProtocolVersion, kDeterministicSuite, nameSpace.bytes,
        (purposeLabel purpose).bytes]
  | decodedDeadlines originTicks horizonTicks nominalOfferedRate deadlines =>
      ascii "cpu-prefetch/decoded-deadlines-sha256/v1" ::
        Schedule.kDerivationDomainProtocolVersion :: Schedule.kScheduleSuite ::
        Schedule.kScheduleTimeUnit :: wordField originTicks :: wordField horizonTicks ::
        wordField nominalOfferedRate.1 :: wordField nominalOfferedRate.2 ::
        wordField (.ofNat deadlines.length) :: deadlines.map wordField
  | arenaContent image =>
      kContentDomain :: wordField image.cacheLineBytes :: wordField image.capacity ::
        image.lines.flatMap (lineFields (image.cacheLineBytes - 16))
  | orderedIndex order =>
      kOrderedIndexDomain :: wordField (.ofNat order.length) :: order.map wordField
  | addressDeltas deltas =>
      kAddressDeltaDomain :: wordField (.ofNat deltas.length) ::
        (deltas.map Int64.toUInt64).map wordField

/-- The bytes that are hashed. -/
def preimage (input : HashInput) : Text := frames input.fields

end HashInput

open HashInput

/-! ### Fields -/

theorem length_wordField : (wordField value).length = 8 :=
  BigEndian.length_store 8 value.toNat

theorem fits_wordField : Fits (wordField value) := by
  unfold Fits
  rw [length_wordField]
  decide

theorem fits_constant {constant : Text} (h : constant.length < 64) : Fits constant := by
  unfold Fits
  omega

theorem wordField_injective : Function.Injective wordField := by
  intro left right h
  have hloads := congrArg BigEndian.load h
  unfold wordField at hloads
  rw [BigEndian.load_store left.toNat_lt, BigEndian.load_store right.toNat_lt] at hloads
  exact UInt64.toNat_inj.mp hloads

theorem purposeLabel_injective : Function.Injective purposeLabel := by
  intro left right h
  have hbytes := congrArg StringView.bytes h
  cases left <;> cases right <;> first | rfl | exact absurd hbytes (by decide)

theorem lineFields_injective (paddingSize : UInt64) {lines lines' : List ArenaLine}
    (h : lines.flatMap (lineFields paddingSize) = lines'.flatMap (lineFields paddingSize)) :
    lines = lines' := by
  induction lines generalizing lines' with
  | nil =>
      cases lines' with
      | nil => rfl
      | cons line' lines' => cases h
  | cons line lines ih =>
      cases lines' with
      | nil => cases h
      | cons line' lines' =>
          obtain ⟨⟨index, payload⟩, padding⟩ := line
          obtain ⟨⟨index', payload'⟩, padding'⟩ := line'
          simp only [flatMap_cons, lineFields, cons_append, nil_append,
            List.cons.injEq] at h
          obtain ⟨hindex, hpayload, -, rfl, hrest⟩ := h
          obtain rfl := wordField_injective hindex
          obtain rfl := wordField_injective hpayload
          rw [ih hrest]

namespace HashInput

theorem fields_injective : Function.Injective fields := by
  intro left right h
  cases left <;> cases right
  case streamKey.streamKey nameSpace purpose nameSpace' purpose' =>
    simp only [fields, List.cons.injEq] at h
    obtain ⟨-, -, hname, hpurpose, -⟩ := h
    obtain ⟨bytes, hsize⟩ := nameSpace
    obtain ⟨bytes', hsize'⟩ := nameSpace'
    obtain rfl : bytes = bytes' := hname
    have hlabel : purposeLabel purpose = purposeLabel purpose' := by
      cases hleft : purposeLabel purpose
      cases hright : purposeLabel purpose'
      rw [hleft, hright] at hpurpose
      subst hpurpose
      rfl
    rw [purposeLabel_injective hlabel]
  case decodedDeadlines.decodedDeadlines rate deadlines _ _ rate' deadlines' =>
    simp only [fields, List.cons.injEq] at h
    obtain ⟨-, -, -, -, horigin, hhorizon, hnumerator, hdenominator, -, hdeadlines⟩ := h
    rw [wordField_injective horigin, wordField_injective hhorizon,
      Prod.ext (wordField_injective hnumerator) (wordField_injective hdenominator),
      List.map_injective_iff.mpr wordField_injective hdeadlines]
  case arenaContent.arenaContent image image' =>
    simp only [fields, List.cons.injEq] at h
    obtain ⟨-, hline, hcapacity, hlines⟩ := h
    obtain ⟨capacity, cacheLineBytes, lines, _, _, _⟩ := image
    obtain ⟨capacity', cacheLineBytes', lines', _, _, _⟩ := image'
    obtain rfl := wordField_injective hcapacity
    obtain rfl := wordField_injective hline
    obtain rfl := lineFields_injective _ hlines
    rfl
  case orderedIndex.orderedIndex order order' =>
    simp only [fields, List.cons.injEq] at h
    rw [List.map_injective_iff.mpr wordField_injective h.2.2]
  case addressDeltas.addressDeltas deltas deltas' =>
    simp only [fields, List.cons.injEq] at h
    have hwords := List.map_injective_iff.mpr wordField_injective h.2.2
    have hdeltas : Function.Injective Int64.toUInt64 := by
      intro ⟨delta⟩ ⟨delta'⟩ hsame
      exact congrArg Int64.ofUInt64 hsame
    rw [List.map_injective_iff.mpr hdeltas hwords]
  -- The first fields of two different functions are different.
  all_goals exact absurd (List.cons.inj h).1 (by decide)

theorem fits_fields (input : HashInput) : ∀ field ∈ input.fields, Fits field := by
  have hwords : ∀ values : List UInt64, ∀ field ∈ values.map wordField, Fits field := by
    intro values field hfield
    obtain ⟨value, -, rfl⟩ := List.mem_map.mp hfield
    exact fits_wordField value
  cases input with
  | streamKey nameSpace purpose =>
      simp only [fields, forall_mem_cons]
      exact ⟨fits_constant (by decide), fits_constant (by decide), nameSpace.size,
        (purposeLabel purpose).size, nofun⟩
  | decodedDeadlines originTicks horizonTicks rate deadlines =>
      simp only [fields, forall_mem_cons]
      exact ⟨fits_constant (by decide), fits_constant (by decide), fits_constant (by decide),
        fits_constant (by decide), fits_wordField _, fits_wordField _, fits_wordField _,
        fits_wordField _, fits_wordField _, hwords deadlines⟩
  | arenaContent image =>
      simp only [fields, forall_mem_cons]
      refine ⟨fits_constant (by decide), fits_wordField _, fits_wordField _, ?_⟩
      intro field hfield
      obtain ⟨line, hline, hfield⟩ := List.mem_flatMap.mp hfield
      simp only [lineFields, mem_cons, not_mem_nil, or_false] at hfield
      rcases hfield with rfl | rfl | rfl | rfl
      · exact fits_wordField _
      · exact fits_wordField _
      · exact fits_wordField _
      · unfold Fits
        rw [image.paddingLength line hline]
        exact UInt64.toNat_lt _
  | orderedIndex order =>
      simp only [fields, forall_mem_cons]
      exact ⟨fits_constant (by decide), fits_wordField _, hwords order⟩
  | addressDeltas deltas =>
      simp only [fields, forall_mem_cons]
      exact ⟨fits_constant (by decide), fits_wordField _, hwords _⟩

/-- **What is hashed tells the function and all of its inputs.** -/
theorem preimage_injective : Function.Injective preimage := by
  intro left right h
  exact fields_injective (Framing.frames_injOn (fits_fields left) (fits_fields right) h)

end HashInput

/-! ### The three encoders -/

theorem field_eq {value : Text} (h : Fits value) : field value = frame value := by
  unfold field frame
  rw [Tools.u64Be_eq, UInt64.toNat_ofNat_of_lt' h]

theorem scheduleU64Be_eq : Schedule.u64Be value = wordField value :=
  (BigEndian.store_eight value).symm

theorem scheduleField_eq {value : Text} (h : Fits value) : Schedule.field value = frame value := by
  unfold Schedule.field frame
  rw [scheduleU64Be_eq, wordField, UInt64.toNat_ofNat_of_lt' h]

theorem integerField_eq : Schedule.integerField value = frame (wordField value) := by
  unfold Schedule.integerField
  rw [scheduleU64Be_eq, scheduleField_eq (fits_wordField value)]

namespace CanonicalSha256

theorem encodeU64_eq : encodeU64 value = wordField value := by
  unfold wordField
  rw [BigEndian.store_eight]
  simp only [encodeU64, BigEndian.toUInt8_mask]
  rfl

theorem fed_field (digest : CanonicalSha256) {bytes : Text} (h : Fits bytes) :
    (digest.field bytes).fed = digest.fed ++ frame bytes := by
  unfold field update frame
  rw [encodeU64_eq, wordField, UInt64.toNat_ofNat_of_lt' h, append_assoc]

theorem fed_fieldU64 (digest : CanonicalSha256) (value : UInt64) :
    (digest.fieldU64 value).fed = digest.fed ++ frame (wordField value) := by
  unfold fieldU64
  rw [encodeU64_eq]
  exact fed_field digest (fits_wordField value)

/-- A loop feeds its fields one after another. -/
theorem fed_foldl {α : Type} {turn : CanonicalSha256 → α → CanonicalSha256}
    {fieldsOf : α → List Text} {items : List α}
    (h : ∀ item ∈ items, ∀ digest, (turn digest item).fed = digest.fed ++ frames (fieldsOf item))
    (digest : CanonicalSha256) :
    (items.foldl turn digest).fed = digest.fed ++ frames (items.flatMap fieldsOf) := by
  induction items generalizing digest with
  | nil => simp
  | cons item rest ih =>
      obtain ⟨hfirst, hrest⟩ := List.forall_mem_cons.mp h
      rw [foldl_cons, ih hrest, hfirst, flatMap_cons, Framing.frames_append,
        append_assoc]

end CanonicalSha256

open CanonicalSha256

/-! ### The five hashes -/

theorem deriveStreamKey_preimage (hmac : Text → Text → Bytes32) (masterSeed : MasterSeed)
    {nameSpace : StringView} (hnonempty : nameSpace.bytes ≠ []) (purpose : StreamPurpose) :
    deriveStreamKey hmac masterSeed nameSpace purpose =
      let digest := hmac masterSeed.bytes (streamKey nameSpace purpose).preimage
      .ok ⟨readU32Be digest.bytes 0, readU32Be digest.bytes 4⟩ := by
  have hpurpose : ¬(purposeLabel purpose).bytes = [] := by cases purpose <;> decide
  have hmessage : field kDerivationDomainProtocolVersion ++ field kDeterministicSuite ++
      field nameSpace.bytes ++ field (purposeLabel purpose).bytes =
        (streamKey nameSpace purpose).preimage := by
    have hfits := fits_fields (.streamKey nameSpace purpose)
    simp only [fields, forall_mem_cons] at hfits
    obtain ⟨hprotocol, hsuite, hname, hlabel, -⟩ := hfits
    rw [field_eq hprotocol, field_eq hsuite, field_eq hname, field_eq hlabel]
    simp [preimage, fields]
  rw [deriveStreamKey, if_neg hnonempty, if_neg hpurpose, hmessage]
  rfl

theorem decodedHash_preimage (sha256 : Text → Text) (record : Protocol.ScheduleRecord)
    (deadlines : List UInt64) :
    Schedule.decodedHash sha256 record deadlines =
      sha256 (decodedDeadlines record.originTicks record.horizonTicks
        (record.nominalOfferedRate.numeratorEvents, record.nominalOfferedRate.denominatorTicks)
        deadlines).preimage := by
  have hdeadlines : deadlines.flatMap Schedule.integerField =
      frames (deadlines.map wordField) := by
    unfold frames
    rw [flatMap_map]
    exact flatMap_congr fun deadline _ => integerField_eq deadline
  unfold Schedule.decodedHash
  congr 1
  rw [scheduleField_eq (fits_constant (by decide)), scheduleField_eq (fits_constant (by decide)),
    scheduleField_eq (fits_constant (by decide)), scheduleField_eq (fits_constant (by decide)),
    hdeadlines]
  simp [preimage, fields, integerField_eq]

theorem contentChecksum_preimage (sha256 : Text → Setup Bytes32) (image : ArenaImage) :
    contentChecksum sha256 image = sha256 (arenaContent image).preimage := by
  have hlines : ∀ line ∈ image.lines, ∀ digest : CanonicalSha256,
      ((((digest.fieldU64 line.record.recordIndex).fieldU64 line.record.payload).fieldU64
        (image.cacheLineBytes - 16)).field line.padding).fed =
          digest.fed ++ frames (lineFields (image.cacheLineBytes - 16) line) := by
    intro line hline digest
    have hfits : Fits line.padding := by
      unfold Fits
      rw [image.paddingLength line hline]
      exact UInt64.toNat_lt _
    rw [fed_field _ hfits]
    simp [fed_fieldU64, lineFields]
  unfold contentChecksum finish
  simp only
  rw [fed_foldl hlines, fed_fieldU64,
    fed_fieldU64, fed_field _ (fits_constant (by decide))]
  simp [preimage, fields]

theorem orderedIndexSha256_preimage (sha256 : Text → Setup Bytes32) (order : List UInt64) :
    orderedIndexSha256 sha256 order =
      (validatePermutation order >>= fun _ => sha256 (orderedIndex order).preimage) := by
  have hturn : ∀ index ∈ order, ∀ digest : CanonicalSha256,
      (digest.fieldU64 index).fed = digest.fed ++ frames [wordField index] := by
    intro index _ digest
    rw [fed_fieldU64]
    simp
  unfold orderedIndexSha256 finish
  congr 1
  funext _
  simp only
  rw [fed_foldl hturn, fed_fieldU64,
    fed_field _ (fits_constant (by decide))]
  simp [preimage, fields, map_eq_flatMap]

theorem addressDeltaSha256_preimage (sha256 : Text → Setup Bytes32) {deltas : List Int64}
    (hnonempty : deltas ≠ []) :
    addressDeltaSha256 sha256 deltas = sha256 (addressDeltas deltas).preimage := by
  have hturn : ∀ delta ∈ deltas, ∀ digest : CanonicalSha256,
      (digest.fieldI64 delta).fed = digest.fed ++ frames [wordField delta.toUInt64] := by
    intro delta _ digest
    unfold fieldI64
    rw [fed_fieldU64]
    simp
  rw [addressDeltaSha256, if_neg hnonempty]
  unfold finish
  simp only
  rw [fed_foldl hturn, ← map_eq_flatMap, fed_fieldU64,
    fed_field _ (fits_constant (by decide))]
  simp [preimage, fields, Function.comp_def]

/-- **Preimages are injective and separated by their domains.**

Each function hashes the preimage of the values that it reads, and two preimages are
equal only for one function with the same values throughout. -/
theorem hash_preimages_injective :
    (∀ (hmac : Text → Text → Bytes32) (masterSeed : MasterSeed) (nameSpace : StringView)
        (purpose : StreamPurpose), nameSpace.bytes ≠ [] →
      deriveStreamKey hmac masterSeed nameSpace purpose =
        let digest := hmac masterSeed.bytes (streamKey nameSpace purpose).preimage
        .ok ⟨readU32Be digest.bytes 0, readU32Be digest.bytes 4⟩) ∧
    (∀ (sha256 : Text → Text) (record : Protocol.ScheduleRecord) (deadlines : List UInt64),
      Schedule.decodedHash sha256 record deadlines =
        sha256 (decodedDeadlines record.originTicks record.horizonTicks
          (record.nominalOfferedRate.numeratorEvents, record.nominalOfferedRate.denominatorTicks)
          deadlines).preimage) ∧
    (∀ (sha256 : Text → Setup Bytes32) (image : ArenaImage),
      contentChecksum sha256 image = sha256 (arenaContent image).preimage) ∧
    (∀ (sha256 : Text → Setup Bytes32) (order : List UInt64),
      orderedIndexSha256 sha256 order =
        (validatePermutation order >>= fun _ =>
          sha256 (orderedIndex order).preimage)) ∧
    (∀ (sha256 : Text → Setup Bytes32) (deltas : List Int64), deltas ≠ [] →
      addressDeltaSha256 sha256 deltas = sha256 (addressDeltas deltas).preimage) ∧
    Function.Injective preimage :=
  ⟨fun hmac masterSeed _ purpose h => deriveStreamKey_preimage hmac masterSeed h purpose,
    decodedHash_preimage, contentChecksum_preimage, orderedIndexSha256_preimage,
    fun sha256 _ h => addressDeltaSha256_preimage sha256 h, preimage_injective⟩

end CpuPrefetch.Workload
