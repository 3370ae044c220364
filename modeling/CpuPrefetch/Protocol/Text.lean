/-
Texts: the source's strings, and the digests written in them; and the errors that every validator
of the repository reports.
-/
import Mathlib

namespace CpuPrefetch.Protocol

/-- `std::string`. -/
abbrev Text := List UInt8

instance : LawfulBEq Text := inferInstance

/-- The bytes of a literal of the source. -/
def ascii (literal : String) : Text := literal.toByteArray.data.toList

/-- A text in a path or a message; the parser has checked that it is UTF-8. -/
def Text.shown (text : Text) : String := (String.fromUTF8? ⟨text.toArray⟩).getD ""

/-- `std::to_string` and `std::to_chars` of a nonnegative integer. -/
def decimal (n : Nat) : Text :=
  if n = 0 then [48] else (Nat.digits 10 n).reverse.map fun digit => .ofNat (48 + digit)

/-- A lowercase hexadecimal digit. -/
def isLowerHex (character : UInt8) : Bool :=
  (48 ≤ character && character ≤ 57) || (97 ≤ character && character ≤ 102)

def lowercaseHex (text : Text) : Bool := text.all isLowerHex

/-- `valid_sha256`: the spelling of a digest. -/
def validSha256 (text : Text) : Bool := text.length = 64 && lowercaseHex text

/-- A digest, by its one spelling. -/
structure Sha256 where
  hex : Text
  valid : validSha256 hex = true
  deriving DecidableEq

/-! ### Validation errors -/

inductive ErrorCategory where
  | parseError
  | missingField
  | unknownField
  | invalidType
  | unknownEnum
  | unsupportedVersion
  | invalidId
  | invalidHash
  | invalidUnit
  | outOfRange
  | duplicateValue
  | crossField
  | missingEvidence
  | referenceMismatch
  | immutableConfiguration
  | unsupportedNumber
  deriving DecidableEq, Repr

structure ValidationError where
  category : ErrorCategory
  path : String
  ruleId : String
  message : String
  deriving DecidableEq, Repr

/-- `protocol::Result`: a value, or the errors that kept it from being one. -/
abbrev Result (T : Type) := Except (List ValidationError) T

end CpuPrefetch.Protocol
