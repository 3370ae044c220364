/-
The two canonicalizers in Python: `canonicalize` of `tools/generate_schedule.py`, and of
`tools/calibration_statistics.py`, which refuses floats.

A Python value is what `json.loads` makes of a document; a dictionary keeps its items in
the order they were inserted.  `repr` of a float is a parameter, and a float is its
sixty-four bits.  What `json.dumps` writes for a string without `ensure_ascii` is the
string with the quote, the backslash and the control characters escaped.
-/
import CpuPrefetch.Protocol.Json
import CpuPrefetch.Tools.GenerateSchedule

namespace CpuPrefetch.Tools

open Protocol (Text)
open Protocol.Json (isFinite magnitude)

inductive PyValue where
  | none
  | bool (value : Bool)
  | int (value : Int)
  | float (value : UInt64)
  | str (value : PyString)
  | list (items : List PyValue)
  | dict (items : List (PyString × PyValue))

/-- What the two tools raise. -/
inductive PyException where
  | valueError (message : String)
  | assertionError (message : String)
  | calibrationError (category path message : String)
  deriving DecidableEq, Repr

/-- The results of all elements, or what the first that fails raises. -/
def sequence {T : Type} : List (Except PyException T) → Except PyException (List T)
  | [] => pure []
  | result :: rest => do
      let value ← result
      let values ← sequence rest
      pure (value :: values)

/-! ### Strings -/

/-- Four hexadecimal digits, in lower case. -/
def hex4 (n : Nat) : PyString :=
  [n / 4096 % 16, n / 256 % 16, n / 16 % 16, n % 16].map Nat.digitChar

/-- `json.dumps` of one character. -/
def escapeChar (c : Char) : PyString :=
  if c = Char.ofNat 34 then [Char.ofNat 92, Char.ofNat 34]
  else if c = Char.ofNat 92 then [Char.ofNat 92, Char.ofNat 92]
  else if c = Char.ofNat 10 then [Char.ofNat 92, 'n']
  else if c = Char.ofNat 13 then [Char.ofNat 92, 'r']
  else if c = Char.ofNat 9 then [Char.ofNat 92, 't']
  else if c = Char.ofNat 12 then [Char.ofNat 92, 'f']
  else if c = Char.ofNat 8 then [Char.ofNat 92, 'b']
  else if c.toNat < 32 then [Char.ofNat 92, 'u'] ++ hex4 c.toNat
  else [c]

/-- `_quote`. -/
def quote (value : PyString) : PyString :=
  [Char.ofNat 34] ++ value.flatMap escapeChar ++ [Char.ofNat 34]

/-- `str.encode("utf-16-be")` of one character. -/
def utf16BeChar (c : Char) : List UInt8 :=
  if c.toNat < 0x10000 then [.ofNat (c.toNat / 256), .ofNat (c.toNat % 256)]
  else
    let rest := c.toNat - 0x10000
    let high := 0xd800 + rest / 0x400
    let low := 0xdc00 + rest % 0x400
    [.ofNat (high / 256), .ofNat (high % 256), .ofNat (low / 256), .ofNat (low % 256)]

/-- `str.encode("utf-16-be")`. -/
def encodeUtf16Be (value : PyString) : List UInt8 := value.flatMap utf16BeChar

/-- `separator.join(items)`. -/
def join (separator : PyString) : List PyString → PyString
  | [] => []
  | [item] => item
  | item :: rest => item ++ separator ++ join separator rest

/-- `sorted(items, key=...)` by the keys' UTF-16 bytes; it is stable. -/
def sortedItems {T : Type} (items : List (PyString × T)) : List (PyString × T) :=
  items.insertionSort fun left right => encodeUtf16Be left.1 ≤ encodeUtf16Be right.1

/-! ### Numbers -/

/-- `str` of an integer. -/
def strInt (value : Int) : PyString :=
  if value < 0 then '-' :: Nat.toDigits 10 value.natAbs else Nat.toDigits 10 value.natAbs

/-- The value of a string of decimal digits. -/
def charsValue (digits : PyString) : Nat :=
  digits.foldl (fun value digit => value * 10 + (digit.toNat - 48)) 0

/-- `int` of a string with an optional sign. -/
def intOf (text : PyString) : Except PyException Int :=
  let negative : Bool := text.head? = some '-'
  let digits := if negative || text.head? = some '+' then text.drop 1 else text
  if digits.isEmpty || !digits.all Char.isDigit then
    throw (.valueError "invalid literal for int() with base 10")
  else pure (if negative then -(charsValue digits : Int) else charsValue digits)

/-- `_canonical_float`. -/
def canonicalFloat (repr : UInt64 → PyString) (value : UInt64) : Except PyException PyString :=
  if !isFinite value then throw (.valueError "non-finite values are not JSON/JCS numbers")
  else if magnitude value = 0 then pure ['0']
  else do
    let shortest := (repr value).map Char.toLower
    let negative : Bool := shortest.head? = some '-'
    let unsigned := if negative then shortest.drop 1 else shortest
    let coefficient := unsigned.takeWhile fun c => c ≠ 'e'
    let exponent ←
      if 'e' ∈ unsigned then intOf ((unsigned.dropWhile fun c => c ≠ 'e').drop 1) else pure 0
    let integerDigits := (coefficient.takeWhile fun c => c ≠ '.').length
    let digits := coefficient.filter fun c => c ≠ '.'
    let decimalPosition : Int := integerDigits + exponent
    let pre : PyString := if negative then ['-'] else []
    -- 1e-6 and 1e21, by their bits
    if magnitude value ≥ 0x3eb0c6f7a0b5ed8d && magnitude value < 0x444b1ae4d6e2ef50 then
      if decimalPosition ≤ 0 then
        pure (pre ++ ['0', '.'] ++ List.replicate (-decimalPosition).toNat '0' ++ digits)
      else if decimalPosition ≥ digits.length then
        pure (pre ++ digits ++ List.replicate (decimalPosition.toNat - digits.length) '0')
      else
        pure (pre ++ digits.take decimalPosition.toNat ++ ['.'] ++
          digits.drop decimalPosition.toNat)
    else
      let scientificExponent := decimalPosition - 1
      let fraction : PyString := if digits.length > 1 then '.' :: digits.drop 1 else []
      pure (pre ++ digits.take 1 ++ fraction ++ ['e'] ++
        (if scientificExponent ≥ 0 then ['+'] else ['-']) ++ strInt scientificExponent.natAbs)

/-- The text of a dictionary whose values' texts are known: the items sorted, then written. -/
def dictText (items : List (PyString × Except PyException PyString)) :
    Except PyException PyString := do
  let texts ← sequence ((sortedItems items).map fun item => do
    let value ← item.2
    pure (quote item.1 ++ [':'] ++ value))
  pure ([Char.ofNat 123] ++ join [','] texts ++ [Char.ofNat 125])

def listText (items : List (Except PyException PyString)) : Except PyException PyString := do
  let texts ← sequence items
  pure (['['] ++ join [','] texts ++ [']'])

/-! ### `generate_schedule.py` -/

mutual

/-- `canonicalize`. -/
def canonicalize (repr : UInt64 → PyString) : PyValue → Except PyException PyString
  | .none => pure (literal "null")
  | .bool value => pure (if value then literal "true" else literal "false")
  | .int value =>
      if value < -(1 <<< 63) || value > UINT64_MAX then
        throw (.valueError "integer is outside the JCS-I64-v1 domain")
      else pure (strInt value)
  | .float value => canonicalFloat repr value
  | .str value => pure (quote value)
  | .list items => listText (canonicalizeItems repr items)
  | .dict items => dictText (canonicalizeMembers repr items)

def canonicalizeItems (repr : UInt64 → PyString) :
    List PyValue → List (Except PyException PyString)
  | [] => []
  | value :: rest => canonicalize repr value :: canonicalizeItems repr rest

def canonicalizeMembers (repr : UInt64 → PyString) :
    List (PyString × PyValue) → List (PyString × Except PyException PyString)
  | [] => []
  | (key, value) :: rest => (key, canonicalize repr value) :: canonicalizeMembers repr rest

end

/-! ### `calibration_statistics.py` -/

namespace Calibration

def I64_MIN : Int := -(1 <<< 63)
def U64_MAX : Int := (1 <<< 64) - 1

mutual

/-- `_validate_canonical_value`. -/
def validateCanonicalValue : PyValue → Except PyException Unit
  | .none => pure ()
  | .bool _ => pure ()
  | .str _ => pure ()
  | .int value =>
      if value < I64_MIN || value > U64_MAX then
        throw (.calibrationError "INTEGER_OUT_OF_RANGE" "$" "integer is outside JCS-I64-v1")
      else pure ()
  | .list items => validateItems items
  | .dict items => validateMembers items
  | .float _ =>
      throw (.calibrationError "UNSUPPORTED_NUMBER" "$" "floats and non-JSON values are forbidden")

def validateItems : List PyValue → Except PyException Unit
  | [] => pure ()
  | value :: rest => do
      validateCanonicalValue value
      validateItems rest

def validateMembers : List (PyString × PyValue) → Except PyException Unit
  | [] => pure ()
  | (_, value) :: rest => do
      validateCanonicalValue value
      validateMembers rest

end

mutual

/-- The inner function `encode`. -/
def encode : PyValue → Except PyException PyString
  | .none => pure (literal "null")
  | .bool value => pure (if value then literal "true" else literal "false")
  | .int value => pure (strInt value)
  | .float _ => throw (.assertionError "canonical value was not validated")
  | .str value => pure (quote value)
  | .list items => listText (encodeItems items)
  | .dict items => dictText (encodeMembers items)

def encodeItems : List PyValue → List (Except PyException PyString)
  | [] => []
  | value :: rest => encode value :: encodeItems rest

def encodeMembers : List (PyString × PyValue) → List (PyString × Except PyException PyString)
  | [] => []
  | (key, value) :: rest => (key, encode value) :: encodeMembers rest

end

/-- `canonicalize`. -/
def canonicalize (value : PyValue) : Except PyException Text := do
  validateCanonicalValue value
  let text ← encode value
  pure (encodeUtf8 text)

end Calibration

end CpuPrefetch.Tools
