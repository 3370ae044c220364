/-
`publish_append_only` of `tools/calibration_statistics.py`.

A directory is a map from names to bytes.  What the operating system does with a call is part
of the call: at most one of its operations fails first, and a file whose write or flush has
failed keeps the bytes that had reached it by the time it was closed.  SHA-256 is a parameter,
as the hexadecimal digest of its input.
-/
import CpuPrefetch.Tools.CalibrationStatistics

namespace CpuPrefetch.Tools.CalibrationStatistics

abbrev Bytes := List UInt8

/-- The names of a directory and what their files hold. -/
abbrev Directory := PyText → Option Bytes

/-- The operation of a call that fails first, after every check of the call's arguments. -/
inductive PublishFailure where
  /-- The exclusive create fails, having made an empty file or not. -/
  | create (made : Bool)
  | write (reached : Nat)
  | flush (reached : Nat)
  | fileSync
  | fileClose
  | directoryOpen
  | directorySync
  | directoryClose
  deriving DecidableEq, Repr

structure PublishCall where
  recordId : PyText
  recordBytes : Bytes
  isDir : Bool
  failure : Option PublishFailure
  deriving DecidableEq

inductive PublishError where
  | calibration (error : CalibrationError)
  | unicodeEncodeError
  | osError
  deriving DecidableEq, Repr

def attemptedOverwrite : PublishError :=
  .calibration ⟨"ATTEMPTED_OVERWRITE", "$/record_id", "calibration records are append-only"⟩

/-- `str.encode()`, which refuses a lone surrogate. -/
def encode : PyText → Option Bytes
  | [] => some []
  | codePoint :: rest =>
      if h : codePoint.isValidChar then
        (encode rest).map (String.utf8EncodeChar ⟨codePoint, h⟩ ++ ·)
      else none

/-- The name under which a record is published. -/
def destination (sha256 : Bytes → PyText) (recordId : PyText) : Option PyText :=
  (encode recordId).map fun bytes => literal "record-" ++ sha256 bytes ++ literal ".json"

/-- What the file of a call holds once the call is over, when the call has created it. -/
def PublishCall.stored (call : PublishCall) : Bytes :=
  match call.failure with
  | some (.create _) => []
  | some (.write reached) | some (.flush reached) => call.recordBytes.take reached
  | _ => call.recordBytes

/-- The body of the `try`, for a destination. -/
def publishFile (name : PyText) (call : PublishCall) (directory : Directory) :
    Except PublishError PyText × Directory :=
  match call.failure with
  | some (.create made) =>
      if made ∧ directory name = none then
        (.error .osError, Function.update directory name (some call.stored))
      else (.error .osError, directory)
  | some _ =>
      if directory name ≠ none then (.error attemptedOverwrite, directory)
      else (.error .osError, Function.update directory name (some call.stored))
  | none =>
      if directory name ≠ none then (.error attemptedOverwrite, directory)
      else (.ok name, Function.update directory name (some call.stored))

def publishAppendOnly (sha256 : Bytes → PyText) (call : PublishCall) (directory : Directory) :
    Except PublishError PyText × Directory :=
  if call.recordId = [] ∨ 47 ∈ call.recordId ∨ call.recordId ∈ [literal ".", literal ".."] then
    (.error (.calibration ⟨"INVALID_ID", "$/record_id",
      "record ID cannot be interpreted as a path"⟩), directory)
  else if call.isDir = false then
    (.error (.calibration ⟨"MISSING_DIRECTORY", "$/directory",
      "publication directory must already exist"⟩), directory)
  else
    match destination sha256 call.recordId with
    | none => (.error .unicodeEncodeError, directory)
    | some name => publishFile name call directory

/-- The directory after the calls. -/
def publishAll (sha256 : Bytes → PyText) (directory : Directory) (calls : List PublishCall) :
    Directory :=
  calls.foldl (fun directory call => (publishAppendOnly sha256 call directory).2) directory

end CpuPrefetch.Tools.CalibrationStatistics
