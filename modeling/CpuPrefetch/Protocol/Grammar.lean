/-
What the JSON parser is for: the grammar of RFC 8259, with the domain the protocol allows.

Each rule says which bytes spell which value.  A string is spelled by bytes whose
unescaped form is UTF-8, and an escaped surrogate only as half of a pair; the names of an
object are distinct once unescaped; a number without fraction and exponent is an integer of
sixty-four bits, and every other one is what the standard library converts to a finite
binary64 number.  Nothing here is how the parser goes about it.
-/
import CpuPrefetch.Protocol.Json

namespace CpuPrefetch.Protocol.Json

/-! ### Spaces and numbers -/

/-- `ws`. -/
def Blank (text : Text) : Prop := ∀ byte ∈ text, byte = 32 ∨ byte = 9 ∨ byte = 10 ∨ byte = 13

/-- `1*DIGIT`. -/
def Digits (text : Text) : Prop :=
  text ≠ [] ∧ ∀ byte ∈ text, 48 ≤ byte.toNat ∧ byte.toNat ≤ 57

/-- `[ minus ]`. -/
def OptionalMinus (text : Text) : Prop := text = [] ∨ text = [45]

/-- `int`: zero, or digits of which the first is not zero. -/
def IntegerPart (text : Text) : Prop := text = [48] ∨ (Digits text ∧ text.head? ≠ some 48)

/-- `[ frac ]`. -/
def OptionalFraction (text : Text) : Prop :=
  text = [] ∨ ∃ digits, Digits digits ∧ text = 46 :: digits

/-- `[ exp ]`. -/
def OptionalExponent (text : Text) : Prop :=
  text = [] ∨ ∃ marker sign digits, (marker = 101 ∨ marker = 69) ∧
    (sign = [] ∨ sign = [43] ∨ sign = [45]) ∧ Digits digits ∧ text = marker :: (sign ++ digits)

/-- The numbers of the domain, by their spelling. -/
inductive SpellsNumber (conv : CharConv) : Text → Number → Prop
  | unsignedInteger {digits : Text} (hdigits : IntegerPart digits)
      (hrange : digitsValue digits ≤ 2 ^ 64 - 1) :
      SpellsNumber conv digits (.unsignedInteger digits (.ofNat (digitsValue digits)))
  | signedInteger {digits : Text} (hdigits : IntegerPart digits)
      (hrange : -(2 ^ 63 : Int) ≤ -(digitsValue digits : Int)) :
      SpellsNumber conv (45 :: digits)
        (.signedInteger (45 :: digits) (.ofInt (-(digitsValue digits : Int))))
  | binary64 {sign digits fraction exponent : Text} {bits : UInt64} (hsign : OptionalMinus sign)
      (hdigits : IntegerPart digits) (hfraction : OptionalFraction fraction)
      (hexponent : OptionalExponent exponent) (hnonempty : fraction ++ exponent ≠ [])
      (hbits : conv.fromChars (sign ++ digits ++ fraction ++ exponent) = some bits)
      (hfinite : isFinite bits = true) :
      SpellsNumber conv (sign ++ digits ++ fraction ++ exponent)
        (.binary64 (sign ++ digits ++ fraction ++ exponent) bits)

/-! ### Strings -/

/-- `HEXDIG`, of either case. -/
def HexDigit (byte : UInt8) (value : Nat) : Prop :=
  (48 ≤ byte.toNat ∧ byte.toNat ≤ 57 ∧ value = byte.toNat - 48) ∨
  (97 ≤ byte.toNat ∧ byte.toNat ≤ 102 ∧ value = byte.toNat - 87) ∨
  (65 ≤ byte.toNat ∧ byte.toNat ≤ 70 ∧ value = byte.toNat - 55)

/-- `4HEXDIG`. -/
def HexQuad (digits : List UInt8) (value : Nat) : Prop :=
  ∃ a b c d p q r s, digits = [a, b, c, d] ∧ HexDigit a p ∧ HexDigit b q ∧ HexDigit c r ∧
    HexDigit d s ∧ value = ((p * 16 + q) * 16 + r) * 16 + s

/-- The letters that escape one character, and the characters. -/
def escapedLetters : List (UInt8 × UInt8) :=
  [(34, 34), (92, 92), (47, 47), (98, 8), (102, 12), (110, 10), (114, 13), (116, 9)]

/-- The bytes between two quotes, and what they stand for. -/
inductive Unescapes : Text → Text → Prop
  | nil : Unescapes [] []
  | plain {byte : UInt8} {rest output : Text} (hcontrol : 0x20 ≤ byte.toNat) (hquote : byte ≠ 34)
      (hslash : byte ≠ 92) (hrest : Unescapes rest output) :
      Unescapes (byte :: rest) (byte :: output)
  | letter {letter byte : UInt8} {rest output : Text} (hletter : (letter, byte) ∈ escapedLetters)
      (hrest : Unescapes rest output) : Unescapes (92 :: letter :: rest) (byte :: output)
  | unicode {quad : List UInt8} {c : Char} {rest output : Text} (hquad : HexQuad quad c.val.toNat)
      (hrest : Unescapes rest output) :
      Unescapes (92 :: 117 :: quad ++ rest) (String.utf8EncodeChar c ++ output)
  | surrogates {first second : List UInt8} {high low : Nat} {c : Char} {rest output : Text}
      (hfirst : HexQuad first high) (hhigh : 0xd800 ≤ high ∧ high ≤ 0xdbff)
      (hsecond : HexQuad second low) (hlow : 0xdc00 ≤ low ∧ low ≤ 0xdfff)
      (hpair : c.val.toNat = 0x10000 + (high - 0xd800) * 0x400 + (low - 0xdc00))
      (hrest : Unescapes rest output) :
      Unescapes (92 :: 117 :: first ++ 92 :: 117 :: second ++ rest)
        (String.utf8EncodeChar c ++ output)

/-- `string`, without its quotes: what it stands for is UTF-8. -/
def SpellsString (body text : Text) : Prop :=
  Unescapes body text ∧ ∃ chars : List Char, text = chars.flatMap String.utf8EncodeChar

/-! ### Values -/

mutual

/-- `value`. -/
inductive SpellsValue (conv : CharConv) : Text → Value → Prop
  | nullLiteral : SpellsValue conv (ascii "null") .null
  | trueLiteral : SpellsValue conv (ascii "true") (.boolean true)
  | falseLiteral : SpellsValue conv (ascii "false") (.boolean false)
  | number {text : Text} {number : Number} (hnumber : SpellsNumber conv text number) :
      SpellsValue conv text (.number number)
  | string {body text : Text} (hstring : SpellsString body text) :
      SpellsValue conv (34 :: body ++ [34]) (.string text)
  | emptyArray {blank : Text} (hblank : Blank blank) :
      SpellsValue conv (91 :: blank ++ [93]) (.array [])
  | array {body : Text} {values : List Value} (hvalues : SpellsElements conv body values) :
      SpellsValue conv (91 :: body ++ [93]) (.array values)
  | emptyObject {blank : Text} (hblank : Blank blank) :
      SpellsValue conv (123 :: blank ++ [125]) (.object [])
  | object {body : Text} {members : List (Text × Value)}
    (hmembers : SpellsMembers conv body members)
      (hdistinct : (members.map Prod.fst).Nodup) :
      SpellsValue conv (123 :: body ++ [125]) (.object (Object.of members))

/-- `value *( value-separator value )`, with the spaces around each. -/
inductive SpellsElements (conv : CharConv) : Text → List Value → Prop
  | last {before text after : Text} {value : Value} (hbefore : Blank before)
      (hvalue : SpellsValue conv text value) (hafter : Blank after) :
      SpellsElements conv (before ++ text ++ after) [value]
  | next {before text after rest : Text} {value : Value} {values : List Value}
      (hbefore : Blank before) (hvalue : SpellsValue conv text value) (hafter : Blank after)
      (hrest : SpellsElements conv rest values) :
      SpellsElements conv (before ++ text ++ after ++ 44 :: rest) (value :: values)

/-- `member *( value-separator member )`, in the order they are written. -/
inductive SpellsMembers (conv : CharConv) : Text → List (Text × Value) → Prop
  | last {body key : Text} {value : Value} (hmember : SpellsMember conv body key value) :
      SpellsMembers conv body [(key, value)]
  | next {body key rest : Text} {value : Value} {members : List (Text × Value)}
      (hmember : SpellsMember conv body key value) (hrest : SpellsMembers conv rest members) :
      SpellsMembers conv (body ++ 44 :: rest) ((key, value) :: members)

/-- `string name-separator value`, with the spaces around each. -/
inductive SpellsMember (conv : CharConv) : Text → Text → Value → Prop
  | intro {before name middle before' text after key : Text} {value : Value}
      (hbefore : Blank before) (hname : SpellsString name key) (hmiddle : Blank middle)
      (hbefore' : Blank before') (hvalue : SpellsValue conv text value) (hafter : Blank after) :
      SpellsMember conv
        (before ++ 34 :: name ++ 34 :: middle ++ 58 :: before' ++ text ++ after) key value

end

/-- `JSON-text`: one value, with spaces around it. -/
def SpellsDocument (conv : CharConv) (text : Text) (value : Value) : Prop :=
  ∃ before body after, text = before ++ body ++ after ∧ Blank before ∧ Blank after ∧
    SpellsValue conv body value

end CpuPrefetch.Protocol.Json
