/-
What a directory of calibration records holds.

A file is made by an exclusive create, so no call changes a file that is there and two records
do not share a name.  The create is on the final name, however: a write that stops short leaves
what it has written under that name, and every later call for the record is refused.  The
records of a run are complete exactly when no call that creates its file is cut short.
-/
import CpuPrefetch.Proofs.Protocol.Unicode
import CpuPrefetch.Tools.AppendOnlyRecords

namespace CpuPrefetch.Tools.CalibrationStatistics

variable {sha256 : Bytes → PyText} {call : PublishCall} {directory : Directory}

/-! ### Names -/

variable {bytes : Bytes}

theorem encode_decodes {value : PyText} (h : encode value = some bytes) :
    Protocol.Json.decodeUtf8 bytes = .ok value := by
  induction value generalizing bytes with
  | nil =>
      obtain rfl := Option.some.inj h
      rfl
  | cons codePoint rest ih =>
      rw [encode] at h
      split at h
      · obtain ⟨others, hothers, rfl⟩ := Option.map_eq_some_iff.mp h
        rw [Protocol.Json.decodeUtf8_char, ih hothers]
        rfl
      · cases h

theorem encode_injective {left right : PyText} (hleft : encode left = some bytes)
    (hright : encode right = some bytes) : left = right := by
  have hdecoded := encode_decodes hleft
  rw [encode_decodes hright] at hdecoded
  exact (Except.ok.inj hdecoded).symm

variable {name : PyText}

/-- Two records do not share a name. -/
theorem destination_injective (hsha : Function.Injective sha256) {left right : PyText}
    (hleft : destination sha256 left = some name) (hright : destination sha256 right = some name) :
    left = right := by
  obtain ⟨leftBytes, hleftBytes, hleftName⟩ := Option.map_eq_some_iff.mp hleft
  obtain ⟨rightBytes, hrightBytes, hrightName⟩ := Option.map_eq_some_iff.mp hright
  have hdigest : sha256 leftBytes = sha256 rightBytes := by
    rw [← hrightName] at hleftName
    exact List.append_cancel_left (List.append_cancel_right hleftName)
  rw [hsha hdigest] at hleftBytes
  exact encode_injective hleftBytes hrightBytes

/-! ### One call -/

/-- A call that makes the file of this name: its arguments pass, and the create succeeds. -/
structure Creates (sha256 : Bytes → PyText) (call : PublishCall) (directory : Directory)
    (name : PyText) : Prop where
  admitted : ¬(call.recordId = [] ∨ 47 ∈ call.recordId ∨
    call.recordId ∈ [literal ".", literal ".."])
  isDir : call.isDir = true
  named : destination sha256 call.recordId = some name
  free : directory name = none
  created : call.failure ≠ some (.create false)

theorem publish_creates (h : Creates sha256 call directory name) :
    (publishAppendOnly sha256 call directory).2 =
      Function.update directory name (some call.stored) := by
  rw [publishAppendOnly, if_neg h.admitted, if_neg (by rw [h.isDir]; decide), h.named]
  simp only [publishFile]
  split
  · rename_i made hfailure
    cases made with
    | false => exact absurd hfailure h.created
    | true => rw [if_pos ⟨rfl, h.free⟩]
  · rw [if_neg (not_not.mpr h.free)]
  · rw [if_neg (not_not.mpr h.free)]

/-- A call that creates nothing changes nothing. -/
theorem publish_keeps (h : ¬∃ name, Creates sha256 call directory name) :
    (publishAppendOnly sha256 call directory).2 = directory := by
  unfold publishAppendOnly
  split
  · rfl
  rename_i hadmitted
  split
  · rfl
  rename_i hdir
  split
  · rfl
  rename_i name hname
  have hisDir : call.isDir = true := by simpa using hdir
  unfold publishFile
  split
  · rename_i made hfailure
    split
    · rename_i hmade
      refine absurd ⟨name, hadmitted, hisDir, hname, hmade.2, ?_⟩ h
      rw [hfailure, hmade.1]
      decide
    · rfl
  · rename_i failure hother hfailure
    split
    · rfl
    · rename_i hfree
      exact absurd ⟨name, hadmitted, hisDir, hname, not_not.mp hfree,
        fun hcreate => hother false (Option.some.inj (hfailure.symm.trans hcreate))⟩ h
  · rename_i hfailure
    split
    · rfl
    · rename_i hfree
      refine absurd ⟨name, hadmitted, hisDir, hname, not_not.mp hfree, ?_⟩ h
      rw [hfailure]
      exact nofun

/-! ### A run -/

/-- The directory before the call of this number, in a run from an empty directory. -/
def before (sha256 : Bytes → PyText) (calls : List PublishCall) (n : Nat) : Directory :=
  publishAll sha256 (fun _ => none) (calls.take n)

variable {calls : List PublishCall} {n : Nat}

theorem before_succ (h : calls[n]? = some call) :
    before sha256 calls (n + 1) = (publishAppendOnly sha256 call (before sha256 calls n)).2 := by
  rw [before, List.take_add_one, h, publishAll, List.foldl_append]
  rfl

theorem before_end (h : calls[n]? = none) :
    before sha256 calls (n + 1) = before sha256 calls n := by
  have hlength := List.getElem?_eq_none_iff.mp h
  rw [before, before, List.take_of_length_le hlength, List.take_of_length_le (by omega)]

/-- What a step can do: nothing, or make the file of one call. -/
theorem before_cases (sha256 : Bytes → PyText) (calls : List PublishCall) (n : Nat) :
    before sha256 calls (n + 1) = before sha256 calls n ∨
      ∃ call name, calls[n]? = some call ∧ Creates sha256 call (before sha256 calls n) name ∧
        before sha256 calls (n + 1) =
          Function.update (before sha256 calls n) name (some call.stored) := by
  cases hcall : calls[n]? with
  | none => exact Or.inl (before_end hcall)
  | some call =>
      by_cases hcreates : ∃ name, Creates sha256 call (before sha256 calls n) name
      · obtain ⟨name, hname⟩ := hcreates
        exact Or.inr ⟨call, name, rfl, hname, by rw [before_succ hcall, publish_creates hname]⟩
      · exact Or.inl (by rw [before_succ hcall, publish_keeps hcreates])

theorem unchanged_step (h : before sha256 calls n name = some bytes) :
    before sha256 calls (n + 1) name = some bytes := by
  obtain hsame | ⟨call, created, -, hcreates, hnext⟩ := before_cases sha256 calls n
  · rw [hsame]
    exact h
  · have hne : name ≠ created := by
      rintro rfl
      rw [hcreates.free] at h
      cases h
    rw [hnext, Function.update_of_ne hne]
    exact h

theorem unchanged {m : Nat} (hle : m ≤ n) (h : before sha256 calls m name = some bytes) :
    before sha256 calls n name = some bytes := by
  induction n, hle using Nat.le_induction with
  | base => exact h
  | succ n _ ih => exact unchanged_step ih

/-- The call that made this file, with its complete record. -/
structure CompleteBy (sha256 : Bytes → PyText) (calls : List PublishCall) (n : Nat)
    (name : PyText) (bytes : Bytes) (i : Nat) : Prop where
  earlier : i < n
  absent : before sha256 calls i name = none
  present : before sha256 calls (i + 1) name = some bytes
  record : ∃ call, calls[i]? = some call ∧ destination sha256 call.recordId = some name ∧
    call.recordBytes = bytes

theorem CompleteBy.unique {i j : Nat} (hi : CompleteBy sha256 calls n name bytes i)
    (hj : CompleteBy sha256 calls n name bytes j) : i = j := by
  rcases lt_trichotomy i j with hlt | heq | hgt
  · have hpresent := unchanged (Nat.succ_le_of_lt hlt) hi.present
    rw [hj.absent] at hpresent
    cases hpresent
  · exact heq
  · have hpresent := unchanged (Nat.succ_le_of_lt hgt) hj.present
    rw [hi.absent] at hpresent
    cases hpresent

/-- A visible record is complete, and a call that fails leaves nothing in its way. -/
structure Truthful (sha256 : Bytes → PyText) (calls : List PublishCall) : Prop where
  unchanged : ∀ {m n : Nat} {name : PyText} {bytes : Bytes}, m ≤ n →
    before sha256 calls m name = some bytes → before sha256 calls n name = some bytes
  distinct : ∀ {left right name : PyText}, destination sha256 left = some name →
    destination sha256 right = some name → left = right
  complete : ∀ {n : Nat} {name : PyText} {bytes : Bytes}, before sha256 calls n name = some bytes →
    ∃! i, CompleteBy sha256 calls n name bytes i
  retriable : ∀ {i : Nat} {call : PublishCall} {error : PublishError} {name : PyText},
    calls[i]? = some call →
    (publishAppendOnly sha256 call (before sha256 calls i)).1 = .error error →
    error ≠ attemptedOverwrite → destination sha256 call.recordId = some name →
    before sha256 calls (i + 1) name = before sha256 calls i name ∨
      before sha256 calls (i + 1) name = some call.recordBytes

/-- No call of the run that creates its file is stopped before all its bytes are there. -/
def Uncut (sha256 : Bytes → PyText) (calls : List PublishCall) : Prop :=
  ∀ {i : Nat} {call : PublishCall} {name : PyText}, calls[i]? = some call →
    Creates sha256 call (before sha256 calls i) name → call.stored = call.recordBytes

theorem complete_of_uncut (h : Uncut sha256 calls) :
    ∀ {n : Nat}, before sha256 calls n name = some bytes →
      ∃ i, CompleteBy sha256 calls n name bytes i := by
  intro n
  induction n with
  | zero =>
      intro hpresent
      cases hpresent
  | succ n ih =>
      intro hpresent
      cases hbefore : before sha256 calls n name with
      | some earlier =>
          have hsame := unchanged_step hbefore
          rw [hpresent] at hsame
          rw [← Option.some.inj hsame] at hbefore
          obtain ⟨i, hi⟩ := ih hbefore
          exact ⟨i, Nat.lt_succ_of_lt hi.earlier, hi.absent, hi.present, hi.record⟩
      | none =>
          refine ⟨n, Nat.lt_succ_self n, hbefore, hpresent, ?_⟩
          obtain hsame | ⟨call, created, hcall, hcreates, hnext⟩ := before_cases sha256 calls n
          · rw [hsame, hbefore] at hpresent
            cases hpresent
          · have hname : name = created := by
              by_contra hne
              rw [hnext, Function.update_of_ne hne, hbefore] at hpresent
              cases hpresent
            subst hname
            rw [hnext, Function.update_self] at hpresent
            refine ⟨call, hcall, hcreates.named, ?_⟩
            rw [← h hcall hcreates]
            exact Option.some.inj hpresent

theorem retriable_of_uncut (h : Uncut sha256 calls) {i : Nat} (hcall : calls[i]? = some call)
    (hname : destination sha256 call.recordId = some name) :
    before sha256 calls (i + 1) name = before sha256 calls i name ∨
      before sha256 calls (i + 1) name = some call.recordBytes := by
  obtain hsame | ⟨other, created, hother, hcreates, hnext⟩ := before_cases sha256 calls i
  · exact Or.inl (by rw [hsame])
  · obtain rfl := Option.some.inj (hcall.symm.trans hother)
    obtain rfl := Option.some.inj (hname.symm.trans hcreates.named)
    exact Or.inr (by rw [hnext, Function.update_self, h hcall hcreates])

/--
The records of a run are complete, and failed publications can be made again, exactly when no
call that creates its file is stopped before all its bytes are there.
-/
theorem records_truthful_iff (hsha : Function.Injective sha256) (calls : List PublishCall) :
    Truthful sha256 calls ↔ Uncut sha256 calls := by
  constructor
  · intro h i call name hcall hcreates
    have hpresent : before sha256 calls (i + 1) name = some call.stored := by
      rw [before_succ hcall, publish_creates hcreates, Function.update_self]
    obtain ⟨j, hj, -⟩ := h.complete hpresent
    have hlast : j = i := by
      by_contra hne
      have hearlier := hj.earlier
      have hkept := h.unchanged (show j + 1 ≤ i by omega) hj.present
      rw [hcreates.free] at hkept
      cases hkept
    subst hlast
    obtain ⟨recorded, hrecorded, -, hbytes⟩ := hj.record
    obtain rfl := Option.some.inj (hcall.symm.trans hrecorded)
    exact hbytes.symm
  · intro h
    refine ⟨fun hle hpresent => unchanged hle hpresent, fun hleft hright =>
      destination_injective hsha hleft hright, fun hpresent => ?_, fun hcall _ _ hname =>
      retriable_of_uncut h hcall hname⟩
    obtain ⟨i, hi⟩ := complete_of_uncut h hpresent
    exact ⟨i, hi, fun j hj => hj.unique hi⟩

/-! ### A write that stops short -/

def digestOfA : PyText :=
  literal "ca978112ca1bbdcafac231b39a23dc4da786eff8147c4e72b9807785afee48bb"

def digestOfB : PyText :=
  literal "3e23e8160039594a33894f6564e1b1348bbd7a0088d42c4acb73eeaed59c009d"

/-- A digest that is the real one for the records `a` and `b`, and no hexadecimal digest for
others. -/
def sampleSha256 (bytes : Bytes) : PyText :=
  if bytes = [97] then digestOfA
  else if bytes = [98] then digestOfB
  else 120 :: bytes.map UInt8.toUInt32

theorem sampleSha256_injective : Function.Injective sampleSha256 := by
  intro left right h
  have hbytes : Function.Injective UInt8.toUInt32 := by
    intro a b hab
    have hnat := congrArg UInt32.toNat hab
    rw [UInt8.toNat_toUInt32, UInt8.toNat_toUInt32] at hnat
    exact UInt8.toNat_inj.mp hnat
  -- the three kinds of digests differ in their first character
  have hfirst := congrArg List.head? h
  unfold sampleSha256 at h hfirst
  split_ifs at h hfirst with hleft hright _ hleft' hright _ hright
  · rw [hleft, hright]
  · exact absurd hfirst (by decide)
  · exact absurd hfirst (by rw [List.head?_cons]; decide)
  · exact absurd hfirst (by decide)
  · rw [hleft', ‹right = _›]
  · exact absurd hfirst (by rw [List.head?_cons]; decide)
  · exact absurd hfirst (by rw [List.head?_cons]; decide)
  · exact absurd hfirst (by rw [List.head?_cons]; decide)
  · exact hbytes.list_map (List.cons.inj h).2

/-- A call whose write stops after one byte, and the same publication again. -/
def cutCalls : List PublishCall :=
  [⟨literal "a", [1, 2], true, some (.write 1)⟩, ⟨literal "a", [1, 2], true, none⟩]

def cutName : PyText :=
  literal "record-ca978112ca1bbdcafac231b39a23dc4da786eff8147c4e72b9807785afee48bb.json"

/-- A record whose create fails and is made again, and another that fails when its file is
complete and is then refused. -/
def retriedCalls : List PublishCall :=
  [⟨literal "a", [1, 2], true, some (.create false)⟩, ⟨literal "b", [3], true, some .directorySync⟩,
    ⟨literal "a", [1, 2], true, none⟩, ⟨literal "b", [3], true, none⟩]

theorem retriedCalls_uncut : Uncut sampleSha256 retriedCalls := by
  have hstored : ∀ call ∈ retriedCalls, call.failure ≠ some (.create false) →
      call.stored = call.recordBytes := by decide
  intro i call name hcall hcreates
  exact hstored call (List.mem_of_getElem? hcall) hcreates.created

theorem cut_record_blocks :
    ¬Truthful sampleSha256 cutCalls ∧ before sampleSha256 cutCalls 1 cutName = some [1] ∧
      (publishAppendOnly sampleSha256 ⟨literal "a", [1, 2], true, none⟩
        (before sampleSha256 cutCalls 1)).1 = .error attemptedOverwrite := by
  have hcut : before sampleSha256 cutCalls 1 cutName = some [1] := by decide +kernel
  refine ⟨fun h => ?_, hcut, by decide +kernel⟩
  obtain hsame | hfull := @Truthful.retriable _ _ h 0 _ .osError cutName rfl (by rfl) (by decide)
    (by decide +kernel)
  · rw [hcut] at hsame
    cases hsame
  · rw [hcut] at hfull
    exact absurd (Option.some.inj hfull) (by decide)

theorem records_truthful_iff_retried :
    Truthful sampleSha256 retriedCalls ∧
      before sampleSha256 retriedCalls 4 cutName = some [1, 2] :=
  ⟨(records_truthful_iff sampleSha256_injective _).mpr retriedCalls_uncut, by decide +kernel⟩

end CpuPrefetch.Tools.CalibrationStatistics
