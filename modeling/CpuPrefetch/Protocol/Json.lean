/-
Canonical JSON: values, the parser and the canonicalizer.

A string of the source is a list of bytes, and an object is a map ordered by its keys,
so a list of members here.  The parser's position is the text it has not read; every
call of a value parser reads at least one byte, which bounds the calls, so `fuel` counts
them down and never runs out.  A binary64 number is its sixty-four bits; how the standard
library reads and writes such a number as text is a parameter.
-/
import CpuPrefetch.Lib.Bytes
import CpuPrefetch.Protocol.Text

namespace CpuPrefetch.Protocol

namespace Json

/-- The number is stored with the spelling it was read in. -/
inductive Number where
  | signedInteger (lexical : Text) (value : Int64)
  | unsignedInteger (lexical : Text) (value : UInt64)
  | binary64 (lexical : Text) (value : UInt64)
  deriving DecidableEq

inductive Value where
  | null
  | boolean (value : Bool)
  | number (value : Number)
  | string (value : Text)
  | array (values : List Value)
  | object (members : List (Text × Value))

/-- The members of an object, by key. -/
abbrev Object := List (Text × Value)

/-- `std::map::find`. -/
def Object.find (key : Text) (members : Object) : Option Value :=
  (members.find? fun member => member.1 = key).map Prod.snd

/-- `std::map::emplace`; none when the key is there already. -/
def Object.emplace (key : Text) (value : Value) : Object → Option Object
  | [] => some [(key, value)]
  | (key', value') :: rest =>
      if key < key' then some ((key, value) :: (key', value') :: rest)
      else if key = key' then none
      else (Object.emplace key value rest).map ((key', value') :: ·)

/-- `std::map::operator[]`, assigned to. -/
def Object.assign (key : Text) (value : Value) : Object → Object
  | [] => [(key, value)]
  | (key', value') :: rest =>
      if key < key' then (key, value) :: (key', value') :: rest
      else if key = key' then (key', value) :: rest
      else (key', value') :: Object.assign key value rest

/-- An object with these members, emplaced in this order; an earlier one stays. -/
def Object.of (members : List (Text × Value)) : Object :=
  members.foldl (fun object member =>
    (Object.emplace member.1 member.2 object).getD object) []

/-- `std::from_chars` and `std::to_chars` of a binary64 number, in general format. -/
structure CharConv where
  fromChars : Text → Option UInt64
  toChars : UInt64 → Option Text

def isFinite (bits : UInt64) : Bool := (bits >>> 52) &&& 0x7ff ≠ 0x7ff

/-- The bits of the absolute value; nonnegative numbers are ordered as their bits. -/
def magnitude (bits : UInt64) : UInt64 := bits &&& 0x7fffffffffffffff

/-! ### UTF-8 -/

def utf8Failure {T : Type} (message : String) : Result T :=
  .error [⟨.parseError, "$", "JCS-UTF8", message⟩]

/-- One sequence of `decode_utf8`: its continuation bytes, then what its code point must be. -/
def decodeSequence (bits : UInt32) (length : Nat) (following : List UInt8) : Result UInt32 :=
  match Utf8.continuationBytes bits following with
  | none => utf8Failure "invalid UTF-8 continuation byte"
  | some codePoint =>
      if Utf8.invalidScalar length codePoint then utf8Failure "invalid UTF-8 scalar value"
      else .ok codePoint

def decodeUtf8 : Text → Result (List UInt32)
  | [] => .ok []
  | first :: rest =>
      match Utf8.leadByte first with
      | none => utf8Failure "invalid UTF-8 lead byte"
      | some (bits, 2) =>
          match rest with
          | a :: rest => do
              let codePoint ← decodeSequence bits 2 [a]
              let codePoints ← decodeUtf8 rest
              .ok (codePoint :: codePoints)
          | _ => utf8Failure "truncated UTF-8 sequence"
      | some (bits, 3) =>
          match rest with
          | a :: b :: rest => do
              let codePoint ← decodeSequence bits 3 [a, b]
              let codePoints ← decodeUtf8 rest
              .ok (codePoint :: codePoints)
          | _ => utf8Failure "truncated UTF-8 sequence"
      | some (bits, 4) =>
          match rest with
          | a :: b :: c :: rest => do
              let codePoint ← decodeSequence bits 4 [a, b, c]
              let codePoints ← decodeUtf8 rest
              .ok (codePoint :: codePoints)
          | _ => utf8Failure "truncated UTF-8 sequence"
      | some (bits, _) => do
          let codePoint ← decodeSequence bits 1 []
          let codePoints ← decodeUtf8 rest
          .ok (codePoint :: codePoints)

/-- `append_utf8`: the sequence of a code point, unless it has none. -/
def encodeUtf8 (codePoint : UInt32) : Option Text :=
  let tail (shift : UInt32) : UInt8 :=
    ((0x80 : UInt32) ||| ((codePoint >>> shift) &&& 0x3f)).toUInt8
  if codePoint ≤ 0x7f then some [codePoint.toUInt8]
  else if codePoint ≤ 0x7ff then some [((0xc0 : UInt32) ||| (codePoint >>> 6)).toUInt8, tail 0]
  else if codePoint ≤ 0xffff then
    if codePoint ≥ 0xd800 && codePoint ≤ 0xdfff then none
    else some [((0xe0 : UInt32) ||| (codePoint >>> 12)).toUInt8, tail 6, tail 0]
  else if codePoint ≤ 0x10ffff then
    some [((0xf0 : UInt32) ||| (codePoint >>> 18)).toUInt8, tail 12, tail 6, tail 0]
  else none

def utf16Units (codePoint : UInt32) : List UInt16 :=
  if codePoint ≤ 0xffff then [codePoint.toUInt16]
  else
    let rest := codePoint - 0x10000
    [((0xd800 : UInt32) + (rest >>> 10)).toUInt16, ((0xdc00 : UInt32) + (rest &&& 0x3ff)).toUInt16]

def utf16Key (text : Text) : Result (List UInt16) :=
  (decodeUtf8 text).map fun codePoints => codePoints.flatMap utf16Units

/-! ### Reading -/

def parseFailure {T : Type} (path message : String) : Result T :=
  .error [⟨.parseError, path, "JSON-PARSE", message⟩]

def unicodeFailure {T : Type} (path message : String) : Result T :=
  .error [⟨.parseError, path, "JSON-UNICODE", message⟩]

def stringFailure {T : Type} (path message : String) : Result T :=
  .error [⟨.parseError, path, "JSON-STRING", message⟩]

def isDigit (byte : UInt8) : Bool := 48 ≤ byte && byte ≤ 57

def isSpace (byte : UInt8) : Bool := byte = 32 || byte = 9 || byte = 10 || byte = 13

def skipSpace (input : Text) : Text := input.dropWhile isSpace

def hexDigit (character : UInt8) : Option UInt32 :=
  if 48 ≤ character && character ≤ 57 then some (character - 48).toUInt32
  else if 97 ≤ character && character ≤ 102 then some (10 + (character - 97).toUInt32)
  else if 65 ≤ character && character ≤ 70 then some (10 + (character - 65).toUInt32)
  else none

/-- The loop of `parse_hex4`. -/
def hexValue (value : UInt32) : List UInt8 → Option UInt32
  | [] => some value
  | character :: rest =>
      match hexDigit character with
      | none => none
      | some digit => hexValue ((value <<< 4) ||| digit) rest

/-- The byte an escape of one letter stands for. -/
def simpleEscape (escaped : UInt8) : Option UInt8 :=
  if escaped = 34 || escaped = 92 || escaped = 47 then some escaped
  else if escaped = 98 then some 8
  else if escaped = 102 then some 12
  else if escaped = 110 then some 10
  else if escaped = 114 then some 13
  else if escaped = 116 then some 9
  else none

/-- The end of `parse_string`: the whole text must be UTF-8. -/
def finishString (path : String) (output rest : Text) : Result (Text × Text) :=
  match decodeUtf8 output with
  | .error errors => .error (errors.modifyHead fun error => { error with path := path })
  | .ok _ => .ok (output, rest)

/-- The loop of `parse_string`, after the opening quote. -/
def parseString (path : String) (output : Text) : Text → Result (Text × Text)
  | [] => stringFailure path "unterminated string"
  | byte :: rest =>
      if byte = 34 then finishString path output rest
      else if byte < 0x20 then stringFailure path "unescaped control byte in string"
      else if byte ≠ 92 then parseString path (output ++ [byte]) rest
      else
        match rest with
        | [] => stringFailure path "truncated string escape"
        | escaped :: rest =>
            match simpleEscape escaped with
            | some character => parseString path (output ++ [character]) rest
            | none =>
                if escaped ≠ 117 then stringFailure path "unknown string escape"
                else
                  match rest with
                  | a :: b :: c :: d :: rest =>
                      match hexValue 0 [a, b, c, d] with
                      | none => unicodeFailure path "non-hexadecimal Unicode escape"
                      | some first =>
                          if first ≥ 0xd800 && first ≤ 0xdbff then
                            match rest with
                            | 92 :: 117 :: rest =>
                                match rest with
                                | e :: f :: g :: h :: rest =>
                                    match hexValue 0 [e, f, g, h] with
                                    | none => unicodeFailure path "non-hexadecimal Unicode escape"
                                    | some second =>
                                        if second < 0xdc00 || second > 0xdfff then
                                          unicodeFailure path "invalid low surrogate"
                                        else
                                          match encodeUtf8
                                            ((0x10000 : UInt32) + ((first - 0xd800) <<< 10) +
                                              (second - 0xdc00)) with
                                          | none =>
                                              unicodeFailure path "invalid Unicode scalar value"
                                          | some bytes => parseString path (output ++ bytes) rest
                                | _ => unicodeFailure path "truncated Unicode escape"
                            | _ =>
                                unicodeFailure path
                                  "high surrogate is not followed by a low surrogate"
                          else if first ≥ 0xdc00 && first ≤ 0xdfff then
                            unicodeFailure path "unpaired low surrogate"
                          else
                            match encodeUtf8 first with
                            | none => unicodeFailure path "invalid Unicode scalar value"
                            | some bytes => parseString path (output ++ bytes) rest
                  | _ => unicodeFailure path "truncated Unicode escape"

/-- The value of a string of digits. -/
def digitsValue (digits : Text) : Nat :=
  digits.foldl (fun value digit => value * 10 + (digit.toNat - 48)) 0

/-- What `std::from_chars` makes of the spelling of a number, by its kind. -/
def convertNumber (conv : CharConv) (path : String) (negative binary64 : Bool) (digits : Text)
    (lexical : Text) : Result Value :=
  if binary64 then
    match conv.fromChars lexical with
    | some bits =>
        if isFinite bits then .ok (.number (.binary64 lexical bits))
        else .error [⟨.outOfRange, path, "JSON-NUMBER-RANGE",
          "number is outside finite binary64 range"⟩]
    | none => .error [⟨.outOfRange, path, "JSON-NUMBER-RANGE",
        "number is outside finite binary64 range"⟩]
  else if negative then
    if digitsValue digits ≤ 2 ^ 63 then
      .ok (.number (.signedInteger lexical (.ofInt (-(digitsValue digits : Int)))))
    else .error [⟨.outOfRange, path, "JCS-I64-RANGE",
      "negative integer is outside signed 64-bit range"⟩]
  else if digitsValue digits < 2 ^ 64 then
    .ok (.number (.unsignedInteger lexical (.ofNat (digitsValue digits))))
  else .error [⟨.outOfRange, path, "JCS-I64-RANGE",
    "nonnegative integer is outside unsigned 64-bit range"⟩]

/-- The integer part of a number. -/
def parseInteger (path : String) : Text → Result (Text × Text)
  | [] => parseFailure path "truncated number"
  | first :: rest =>
      if first = 48 then
        if (rest.head?.map isDigit).getD false then parseFailure path "leading zero in number"
        else .ok ([48], rest)
      else if 49 ≤ first && first ≤ 57 then
        .ok ((first :: rest).takeWhile isDigit, (first :: rest).dropWhile isDigit)
      else parseFailure path "invalid number integer part"

/-- At least one digit, or the failure. -/
def parseDigits (path message : String) (input : Text) : Result (Text × Text) :=
  if (input.head?.map isDigit).getD false then
    .ok (input.takeWhile isDigit, input.dropWhile isDigit)
  else parseFailure path message

def parseFraction (path : String) : Text → Result (Text × Text)
  | 46 :: rest => do
      let (digits, rest) ← parseDigits path "fraction requires at least one digit" rest
      .ok (46 :: digits, rest)
  | input => .ok ([], input)

def parseExponent (path : String) : Text → Result (Text × Text)
  | [] => .ok ([], [])
  | marker :: rest =>
      if marker = 101 || marker = 69 then do
        let (sign, rest) : Text × Text := match rest with
          | 43 :: rest => ([43], rest)
          | 45 :: rest => ([45], rest)
          | _ => ([], rest)
        let (digits, rest) ← parseDigits path "exponent requires at least one digit" rest
        .ok (marker :: (sign ++ digits), rest)
      else .ok ([], marker :: rest)

def parseNumber (conv : CharConv) (path : String) (input : Text) : Result (Value × Text) := do
  let (sign, rest) : Text × Text := match input with
    | 45 :: rest => ([45], rest)
    | _ => ([], input)
  let (integer, rest) ← parseInteger path rest
  let (fraction, rest) ← parseFraction path rest
  let (exponent, rest) ← parseExponent path rest
  let binary64 := !fraction.isEmpty || !exponent.isEmpty
  let value ← convertNumber conv path (!sign.isEmpty) binary64 integer
    (sign ++ integer ++ fraction ++ exponent)
  .ok (value, rest)

def parseLiteral (literal : Text) (value : Value) (path : String) (input : Text) :
    Result (Value × Text) :=
  if input.take literal.length = literal then .ok (value, input.drop literal.length)
  else parseFailure path "invalid JSON literal"

mutual

def parseValue (conv : CharConv) : Nat → String → Text → Result (Value × Text)
  | 0, path, _ => parseFailure path "expected a JSON value"
  | _ + 1, path, [] => parseFailure path "expected a JSON value"
  | fuel + 1, path, first :: rest =>
      if first = 110 then parseLiteral (ascii "null") .null path (first :: rest)
      else if first = 116 then parseLiteral (ascii "true") (.boolean true) path (first :: rest)
      else if first = 102 then parseLiteral (ascii "false") (.boolean false) path (first :: rest)
      else if first = 34 then do
        let (string, rest) ← parseString path [] rest
        .ok (.string string, rest)
      else if first = 91 then
        match skipSpace rest with
        | 93 :: rest => .ok (.array [], rest)
        | rest => do
            let (values, rest) ← parseElements conv fuel path 0 rest
            .ok (.array values, rest)
      else if first = 123 then
        match skipSpace rest with
        | 125 :: rest => .ok (.object [], rest)
        | rest => do
            let (members, rest) ← parseMembers conv fuel path [] rest
            .ok (.object members, rest)
      else if first = 45 || isDigit first then parseNumber conv path (first :: rest)
      else parseFailure path "unexpected byte while parsing JSON value"

/-- The loop of `parse_array`, from this element on. -/
def parseElements (conv : CharConv) : Nat → String → Nat → Text → Result (List Value × Text)
  | 0, path, _, _ => parseFailure path "unterminated array"
  | fuel + 1, path, index, input => do
      let (value, rest) ← parseValue conv fuel (path ++ "/" ++ toString index) input
      match skipSpace rest with
      | [] => parseFailure path "unterminated array"
      | 93 :: rest => .ok ([value], rest)
      | 44 :: rest => do
          let (values, rest) ← parseElements conv fuel path (index + 1) (skipSpace rest)
          .ok (value :: values, rest)
      | _ => parseFailure path "expected comma in array"

/-- The loop of `parse_object`, with the members read so far. -/
def parseMembers (conv : CharConv) : Nat → String → Object → Text → Result (Object × Text)
  | 0, path, _, _ => parseFailure path "unterminated object"
  | _ + 1, path, _, [] => parseFailure path "object key must be a string"
  | fuel + 1, path, members, first :: rest => do
      if first ≠ 34 then parseFailure path "object key must be a string"
      else
        let (key, rest) ← parseString path [] rest
        match skipSpace rest with
        | 58 :: rest =>
            let childPath := path ++ "/" ++ key.shown
            let (value, rest) ← parseValue conv fuel childPath (skipSpace rest)
            match Object.emplace key value members with
            | none =>
                .error [⟨.duplicateValue, childPath, "JSON-DUPLICATE-KEY",
                  "duplicate object member"⟩]
            | some members =>
                match skipSpace rest with
                | [] => parseFailure path "unterminated object"
                | 125 :: rest => .ok (members, rest)
                | 44 :: rest => parseMembers conv fuel path members (skipSpace rest)
                | _ => parseFailure path "expected comma in object"
        | _ => parseFailure path "expected colon after object key"

end

/-- Between two bytes read there are at most two calls, one of a loop and one of a value. -/
def parse (conv : CharConv) (input : Text) : Result Value := do
  let (value, rest) ← parseValue conv (2 * input.length + 2) "$" (skipSpace input)
  if skipSpace rest = [] then .ok value
  else parseFailure "$" "trailing content after the JSON value"

/-! ### Writing -/

def hexDigitText (nibble : UInt8) : UInt8 := if nibble < 10 then 48 + nibble else 87 + nibble

/-- The escape of a byte that is not written as it is. -/
def escapeByte (byte : UInt8) : Text :=
  if byte = 34 then [92, 34]
  else if byte = 92 then [92, 92]
  else if byte = 8 then [92, 98]
  else if byte = 9 then [92, 116]
  else if byte = 10 then [92, 110]
  else if byte = 12 then [92, 102]
  else if byte = 13 then [92, 114]
  else [92, 117, 48, 48, hexDigitText ((byte >>> 4) &&& 0x0f), hexDigitText (byte &&& 0x0f)]

/-- The loop of `append_string`; this many more bytes of a sequence are copied. -/
def escapeText : Nat → Text → Text
  | _, [] => []
  | copied + 1, byte :: rest => byte :: escapeText copied rest
  | 0, byte :: rest =>
      if byte ≥ 0x20 && byte ≠ 34 && byte ≠ 92 then
        if byte < 0x80 then byte :: escapeText 0 rest
        else if byte &&& 0xf0 = 0xe0 then byte :: escapeText 2 rest
        else if byte &&& 0xf8 = 0xf0 then byte :: escapeText 3 rest
        else byte :: escapeText 1 rest
      else escapeByte byte ++ escapeText 0 rest

def appendString (text : Text) : Result Text := do
  let _ ← decodeUtf8 text
  .ok (34 :: escapeText 0 text ++ [34])

/-- The decimal integer `std::from_chars` reads as an exponent. -/
def exponentValue : Text → Option Int
  | 45 :: rest =>
      let digits := rest.takeWhile isDigit
      if digits.isEmpty then none else some (-(digitsValue digits : Int))
  | text =>
      let digits := text.takeWhile isDigit
      if digits.isEmpty then none else some (digitsValue digits)

/-- `canonical_binary64`: the digits of the shortest spelling, laid out as JCS wants them. -/
def canonicalBinary64 (conv : CharConv) (bits : UInt64) : Result Text :=
  if !isFinite bits then
    .error [⟨.unsupportedNumber, "$", "JCS-NONFINITE", "JCS does not encode non-finite numbers"⟩]
  else if magnitude bits = 0 then .ok [48]
  else
    match conv.toChars bits with
    | none => .error [⟨.unsupportedNumber, "$", "JCS-BINARY64",
        "binary64 shortest conversion failed"⟩]
    | some shortest =>
        let negative : Bool := shortest.head? = some 45
        let unsigned := if negative then shortest.drop 1 else shortest
        let coefficient := unsigned.takeWhile fun byte => byte ≠ 101 && byte ≠ 69
        let exponentText := (unsigned.dropWhile fun byte => byte ≠ 101 && byte ≠ 69).drop 1
        let integerDigits := (coefficient.takeWhile fun byte => byte ≠ 46).length
        let digits := coefficient.filter fun byte => byte ≠ 46
        let exponent :=
          if coefficient = unsigned then some 0
          else exponentValue (if exponentText.head? = some 43 then exponentText.drop 1
            else exponentText)
        match exponent with
        | none => .error [⟨.unsupportedNumber, "$", "JCS-BINARY64",
            "binary64 exponent conversion failed"⟩]
        | some exponent =>
            let decimalPosition : Int := integerDigits + exponent
            let sign : Text := if negative then [45] else []
            -- 1e-6 and 1e21, by their bits
            if magnitude bits ≥ 0x3eb0c6f7a0b5ed8d && magnitude bits < 0x444b1ae4d6e2ef50 then
              if decimalPosition ≤ 0 then
                .ok (sign ++ ascii "0." ++ List.replicate (-decimalPosition).toNat 48 ++ digits)
              else if decimalPosition ≥ digits.length then
                .ok (sign ++ digits ++
                  List.replicate (decimalPosition.toNat - digits.length) 48)
              else
                .ok (sign ++ digits.take decimalPosition.toNat ++ [46] ++
                  digits.drop decimalPosition.toNat)
            else
              let scientific := decimalPosition - 1
              let fraction := if digits.length > 1 then 46 :: digits.drop 1 else []
              .ok (sign ++ digits.take 1 ++ fraction ++ [101] ++
                (if scientific ≥ 0 then [43] else [45]) ++ decimal scientific.natAbs)

def canonicalNumber (conv : CharConv) : Number → Result Text
  | .signedInteger _ value =>
      .ok (if value < 0 then 45 :: decimal value.toInt.natAbs else decimal value.toInt.natAbs)
  | .unsignedInteger _ value => .ok (decimal value.toNat)
  | .binary64 _ bits => canonicalBinary64 conv bits

/-- Texts with a comma between two of them. -/
def commaSeparated : List Text → Text
  | [] => []
  | [text] => text
  | text :: rest => text ++ 44 :: commaSeparated rest

/-- The results of all elements, or the errors of the first that has none. -/
def inOrder {T : Type} : List (Result T) → Result (List T)
  | [] => .ok []
  | result :: rest => do
      let value ← result
      let values ← inOrder rest
      .ok (value :: values)

/-- A member ready to be written: its place in the order, its key, and its value's text. -/
abbrev OrderedMember := List UInt16 × Text × Result Text

/-- The members in the order of their keys' UTF-16 units. -/
def orderMembers (members : List (Text × Result Text)) : Result (List OrderedMember) := do
  let keyed ← inOrder (members.map fun member =>
    (utf16Key member.1).map fun units => (units, member))
  .ok (keyed.insertionSort fun left right => left.1 ≤ right.1)

/-- The text of an object whose values' texts are known. -/
def canonicalObject (members : List (Text × Result Text)) : Result Text := do
  let ordered ← orderMembers members
  let texts ← inOrder (ordered.map fun member => do
    let key ← appendString member.2.1
    let value ← member.2.2
    .ok (key ++ 58 :: value))
  .ok (123 :: commaSeparated texts ++ [125])

mutual

/-- `append_canonical`: what it appends. -/
def canonicalize (conv : CharConv) : Value → Result Text
  | .null => .ok (ascii "null")
  | .boolean value => .ok (if value then ascii "true" else ascii "false")
  | .number value => canonicalNumber conv value
  | .string value => appendString value
  | .array values => do
      let texts ← inOrder (canonicalizeElements conv values)
      .ok (91 :: commaSeparated texts ++ [93])
  | .object members => canonicalObject (canonicalizeMembers conv members)

def canonicalizeElements (conv : CharConv) : List Value → List (Result Text)
  | [] => []
  | value :: rest => canonicalize conv value :: canonicalizeElements conv rest

def canonicalizeMembers (conv : CharConv) : List (Text × Value) → List (Text × Result Text)
  | [] => []
  | (key, value) :: rest => (key, canonicalize conv value) :: canonicalizeMembers conv rest

end

end Json

end CpuPrefetch.Protocol
