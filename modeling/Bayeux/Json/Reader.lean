import Bayeux.Json.Outline
/-! Reading a JSON tree from bytes. One value fills the whole input, blanks aside; at most
127 containers stand inside one another; a repeated field keeps the first one's place and
the last one's value; strings must be UTF-8 once their escapes are replaced. An object that
begins with the field of embedded documents stands for the document in that text, and holds
no other field.
Every fault has its own cause, and the first one met from the left is reported. -/

namespace Bayeux.Json

inductive Fault where
  | endInValue
  | endInString
  | endInList
  | endInObject
  | expectedColon
  | expectedListSeparator
  | expectedObjectSeparator
  | expectedIdent
  | expectedValue
  | invalidEscape
  | invalidNumber
  | numberOutOfRange
  | invalidCodePoint
  | controlCharacter
  | keyNotString
  | loneSurrogate
  | trailingComma
  | trailingCharacters
  | endOfHexEscape
  | tooDeep
  /-- Found where the text of an embedded document should stand. -/
  | noDocument (found : Outline)
  deriving DecidableEq

def Fault.message : Fault → String
  | .endInValue => "EOF while parsing a value"
  | .endInString => "EOF while parsing a string"
  | .endInList => "EOF while parsing a list"
  | .endInObject => "EOF while parsing an object"
  | .expectedColon => "expected `:`"
  | .expectedListSeparator => "expected `,` or `]`"
  | .expectedObjectSeparator => "expected `,` or `\x7d`"
  | .expectedIdent => "expected ident"
  | .expectedValue => "expected value"
  | .invalidEscape => "invalid escape"
  | .invalidNumber => "invalid number"
  | .numberOutOfRange => "number out of range"
  | .invalidCodePoint => "invalid unicode code point"
  | .controlCharacter => "control character (\\u0000-\\u001F) found while parsing a string"
  | .keyNotString => "key must be a string"
  | .loneSurrogate => "lone leading surrogate in hex escape"
  | .trailingComma => "trailing comma"
  | .trailingCharacters => "trailing characters"
  | .endOfHexEscape => "unexpected end of hex escape"
  | .tooDeep => "recursion limit exceeded"
  | .noDocument found => "invalid type: " ++ found.text ++ ", expected raw value"

abbrev Bytes := List UInt8

/-- A reader takes a value off the front and leaves the rest. -/
abbrev Read (α : Type) := Except Fault (α × Bytes)

def isBlank (b : UInt8) : Bool := b == 0x20 || b == 0x0a || b == 0x09 || b == 0x0d

def skipBlanks : Bytes → Bytes
  | [] => []
  | b :: rest => if isBlank b then skipBlanks rest else b :: rest

def isDigit (b : UInt8) : Bool := 0x30 ≤ b && b ≤ 0x39

def digitValue (b : UInt8) : Nat := b.toNat - 0x30

/-- The digits of a significand are kept while they fit in 64 unsigned bits; further ones
only move the exponent, or are passed over behind the point. -/
def significandLimit : Nat := 0x1_0000_0000_0000_0000

def exponentLimit : Int := 2147483647

def exponentFloor : Int := -2147483648

/-- One division or multiplication by an exact power of ten, smaller exponents being
first brought into reach by divisions by `1e308`. -/
def scaleReal : (fuel : Nat) → Float → Int → Except Fault Float
  | 0, x, _ => .ok x
  | fuel + 1, x, exponent =>
    if exponent.natAbs ≤ 308 then
      let power := Float.ofScientific 1 false exponent.natAbs
      if 0 ≤ exponent then
        let y := x * power
        if y.isInf then .error .numberOutOfRange else .ok y
      else .ok (x / power)
    else if x == 0 then .ok x
    else if 0 ≤ exponent then .error .numberOutOfRange
    else scaleReal fuel (x / Float.ofScientific 1 false 308) (exponent + 308)

def realNumber (negative : Bool) (x : Float) : Except Fault Number :=
  match Number.ofFloat? (if negative then -x else x) with
  | some n => .ok n
  | none => .error .numberOutOfRange

def finishReal (negative : Bool) (significand : Nat) (exponent : Int) (rest : Bytes) :
    Read Number :=
  ((scaleReal 4 significand.toUInt64.toFloat exponent).bind (realNumber negative)).map (·, rest)

def skipDigits : Bytes → Bytes
  | [] => []
  | b :: rest => if isDigit b then skipDigits rest else b :: rest

/-- An exponent too long for 32 bits: the number is zero or out of range. -/
def finishHugeExponent (negative : Bool) (significand : Nat) (growing : Bool) (rest : Bytes) :
    Read Number :=
  if significand ≠ 0 ∧ growing then .error .numberOutOfRange
  else (realNumber negative 0).map (·, skipDigits rest)

def exponentDigits (negative : Bool) (significand : Nat) (start : Int) (growing : Bool)
    (exponent : Nat) : Bytes → Read Number
  | b :: rest =>
    if isDigit b then
      let next := exponent * 10 + digitValue b
      if (next : Int) > exponentLimit then finishHugeExponent negative significand growing rest
      else exponentDigits negative significand start growing next rest
    else
      finishReal negative significand
        (if growing then min (start + exponent) exponentLimit
         else max (start - exponent) exponentFloor) (b :: rest)
  | [] =>
    finishReal negative significand
      (if growing then min (start + exponent) exponentLimit
       else max (start - exponent) exponentFloor) []

def exponentFirst (negative : Bool) (significand : Nat) (start : Int) (growing : Bool) :
    Bytes → Read Number
  | [] => .error .endInValue
  | b :: rest =>
    if isDigit b then
      exponentDigits negative significand start growing (digitValue b) rest
    else .error .invalidNumber

/-- Behind the `e`. -/
def exponentPart (negative : Bool) (significand : Nat) (start : Int) : Bytes → Read Number
  | 0x2b :: rest => exponentFirst negative significand start true rest
  | 0x2d :: rest => exponentFirst negative significand start false rest
  | input => exponentFirst negative significand start true input

def isExponentMark (b : UInt8) : Bool := b == 0x65 || b == 0x45

/-- Digits behind the point that no longer fit are passed over. -/
def fractionOverflow (negative : Bool) (significand : Nat) (exponent : Int) (input : Bytes) :
    Read Number :=
  match skipDigits input with
  | b :: rest =>
    if isExponentMark b then exponentPart negative significand exponent rest
    else finishReal negative significand exponent (b :: rest)
  | [] => finishReal negative significand exponent []

/-- Behind the point, `seen` digits having been read there. -/
def fraction (negative : Bool) (before : Int) : (seen significand : Nat) → Bytes → Read Number
  | seen, significand, b :: rest =>
    if isDigit b then
      let next := significand * 10 + digitValue b
      if next ≥ significandLimit then
        fractionOverflow negative significand (before - seen) (b :: rest)
      else fraction negative before (seen + 1) next rest
    else if seen = 0 then .error .invalidNumber
    else if isExponentMark b then exponentPart negative significand (before - seen) rest
    else finishReal negative significand (before - seen) (b :: rest)
  | seen, significand, [] =>
    if seen = 0 then .error .endInValue
    else finishReal negative significand (before - seen) []

/-- Integer digits that no longer fit raise the exponent. -/
def longInteger (negative : Bool) (significand : Nat) : (exponent : Nat) → Bytes → Read Number
  | exponent, b :: rest =>
    if isDigit b then longInteger negative significand (exponent + 1) rest
    else if b == 0x2e then fraction negative exponent 0 significand rest
    else if isExponentMark b then exponentPart negative significand exponent rest
    else finishReal negative significand exponent (b :: rest)
  | exponent, [] => finishReal negative significand exponent []

/-- An integer literal stays an integer in the 64-bit ranges; minus zero does not. -/
def finishInteger (negative : Bool) (significand : Nat) (rest : Bytes) : Read Number :=
  if negative then
    if significand = 0 ∨ significand > 0x8000_0000_0000_0000 then finishReal true significand 0 rest
    else .ok (.integer (-significand), rest)
  else .ok (.integer significand, rest)

def integerEnd (negative : Bool) (significand : Nat) : Bytes → Read Number
  | b :: rest =>
    if b == 0x2e then fraction negative 0 0 significand rest
    else if isExponentMark b then exponentPart negative significand 0 rest
    else finishInteger negative significand (b :: rest)
  | [] => finishInteger negative significand []

def integerDigits (negative : Bool) : (significand : Nat) → Bytes → Read Number
  | significand, b :: rest =>
    if isDigit b then
      let next := significand * 10 + digitValue b
      if next ≥ significandLimit then longInteger negative significand 0 (b :: rest)
      else integerDigits negative next rest
    else integerEnd negative significand (b :: rest)
  | significand, [] => integerEnd negative significand []

/-- Behind the sign. A zero stands alone before the point. -/
def readNumber (negative : Bool) : Bytes → Read Number
  | [] => .error .endInValue
  | 0x30 :: b :: rest =>
    if isDigit b then .error .invalidNumber else integerEnd negative 0 (b :: rest)
  | 0x30 :: [] => integerEnd negative 0 []
  | b :: rest =>
    if isDigit b then integerDigits negative (digitValue b) rest else .error .invalidNumber

def hexValue (b : UInt8) : Option Nat :=
  if isDigit b then some (digitValue b)
  else if 0x61 ≤ b ∧ b ≤ 0x66 then some (b.toNat - 0x57)
  else if 0x41 ≤ b ∧ b ≤ 0x46 then some (b.toNat - 0x37)
  else none

def hexUnit (a b c d : UInt8) : Option Nat := do
  return (((← hexValue a) * 16 + (← hexValue b)) * 16 + (← hexValue c)) * 16 + (← hexValue d)

/-- The four digits of a unit, and the rest behind them. -/
def readUnit : Bytes → Read Nat
  | a :: b :: c :: d :: rest =>
    match hexUnit a b c d with
    | some unit => .ok (unit, rest)
    | none => .error .invalidEscape
  | _ => .error .endInString

/-- Behind the unit of a leading surrogate. -/
def trailingSurrogate (lead : Nat) : Bytes → Read Char
  | 0x5c :: 0x75 :: rest =>
    match readUnit rest with
    | .error e => .error e
    | .ok (unit, rest) =>
      if 0xdc00 ≤ unit ∧ unit ≤ 0xdfff then
        .ok (Char.ofNat ((lead - 0xd800) * 0x400 + (unit - 0xdc00) + 0x10000), rest)
      else .error .loneSurrogate
  | 0x5c :: _ :: _ => .error .endOfHexEscape
  | 0x5c :: [] => .error .endInString
  | _ :: _ => .error .endOfHexEscape
  | [] => .error .endInString

/-- Behind `\u`. -/
def unicodeEscape (input : Bytes) : Read Char :=
  match readUnit input with
  | .error e => .error e
  | .ok (unit, rest) =>
    if 0xdc00 ≤ unit ∧ unit ≤ 0xdfff then .error .loneSurrogate
    else if 0xd800 ≤ unit ∧ unit ≤ 0xdbff then trailingSurrogate unit rest
    else .ok (Char.ofNat unit, rest)

/-- Behind a backslash. -/
def readEscape : Bytes → Read Char
  | [] => .error .endInString
  | b :: rest =>
    if b == 0x22 then .ok ('"', rest)
    else if b == 0x5c then .ok ('\\', rest)
    else if b == 0x2f then .ok ('/', rest)
    else if b == 0x62 then .ok ('\x08', rest)
    else if b == 0x66 then .ok ('\x0c', rest)
    else if b == 0x6e then .ok ('\n', rest)
    else if b == 0x72 then .ok ('\r', rest)
    else if b == 0x74 then .ok ('\t', rest)
    else if b == 0x75 then unicodeEscape rest
    else .error .invalidEscape

theorem unitShorter {input rest : Bytes} {unit : Nat} (h : readUnit input = .ok (unit, rest)) :
    rest.length < input.length := by
  unfold readUnit at h
  split at h
  · split at h
    · cases h; simp; omega
    · cases h
  · cases h

theorem surrogateShorter {input rest : Bytes} {lead : Nat} {c : Char}
    (h : trailingSurrogate lead input = .ok (c, rest)) : rest.length < input.length := by
  unfold trailingSurrogate at h
  split at h
  · rename_i tail
    cases hu : readUnit tail with
    | error e => rw [hu] at h; cases h
    | ok found =>
      obtain ⟨unit, after⟩ := found
      rw [hu] at h
      have shorter := unitShorter hu
      simp only at h
      split at h
      · injection h with same
        injection same with _ same
        subst same
        simp; omega
      · cases h
  all_goals cases h

theorem escapeShorter {input rest : Bytes} {c : Char}
    (h : readEscape input = .ok (c, rest)) : rest.length < input.length := by
  unfold readEscape at h
  split at h
  · cases h
  · rename_i b tail
    have direct : ∀ {d : Char}, (Except.ok (d, tail) : Read Char) = .ok (c, rest) →
        rest.length < (b :: tail).length := by
      intro d e; cases e; simp
    iterate 8 (split at h; · exact direct h)
    split at h
    · unfold unicodeEscape at h
      cases hu : readUnit tail with
      | error e => rw [hu] at h; cases h
      | ok found =>
        obtain ⟨unit, after⟩ := found
        rw [hu] at h
        simp only at h
        have shorter := unitShorter hu
        split at h
        · cases h
        · split at h
          · have := surrogateShorter h
            simp; omega
          · injection h with same
            injection same with _ same
            subst same
            simp; omega
    · cases h

/-- Behind the opening quote; `read` holds the bytes so far. -/
def readString (read : ByteArray) : Bytes → Read String
  | [] => .error .endInString
  | b :: rest =>
    if b == 0x22 then
      match String.fromUTF8? read with
      | some s => .ok (s, rest)
      | none => .error .invalidCodePoint
    else if b == 0x5c then
      match _taken : readEscape rest with
      | .ok (c, after) => readString (read ++ (String.singleton c).toUTF8) after
      | .error e => .error e
    else if b < 0x20 then .error .controlCharacter
    else readString (read.push b) rest
termination_by input => input.length
decreasing_by
  · have := escapeShorter _taken; simp; omega
  · simp

def readWord (j : Json) : (letters : Bytes) → Bytes → Read Json
  | [], rest => .ok (j, rest)
  | _ :: _, [] => .error .endInValue
  | letter :: letters, b :: rest =>
    if b == letter then readWord j letters rest else .error .expectedIdent

/-- A word or a number. -/
def readPlain : Bytes → Read Json
  | [] => .error .endInValue
  | 0x6e :: rest => readWord .null [0x75, 0x6c, 0x6c] rest
  | 0x74 :: rest => readWord (.bool true) [0x72, 0x75, 0x65] rest
  | 0x66 :: rest => readWord (.bool false) [0x61, 0x6c, 0x73, 0x65] rest
  | 0x2d :: rest =>
    match readNumber true rest with
    | .ok (n, rest) => .ok (.number n, rest)
    | .error e => .error e
  | b :: rest =>
    if isDigit b then
      match readNumber false (b :: rest) with
      | .ok (n, rest) => .ok (.number n, rest)
      | .error e => .error e
    else .error .expectedValue

def containerLimit : Nat := 127

/-- Before an item of a list that is not its first: a comma, and no closing bracket. -/
def listSeparator : Bytes → Except Fault Bytes
  | 0x2c :: rest =>
    match skipBlanks rest with
    | [] => .error .endInValue
    | 0x5d :: _ => .error .trailingComma
    | input => .ok input
  | _ => .error .expectedListSeparator

/-- Before a field that is not the first: a comma, and the quote of its name. -/
def objectSeparator : Bytes → Except Fault Bytes
  | 0x2c :: rest =>
    match skipBlanks rest with
    | [] => .error .endInValue
    | 0x22 :: rest => .ok rest
    | 0x7d :: _ => .error .trailingComma
    | _ => .error .keyNotString
  | _ => .error .expectedObjectSeparator

/-- Before the first field: the quote of its name. -/
def firstName : Bytes → Except Fault Bytes
  | 0x22 :: rest => .ok rest
  | _ => .error .keyNotString

def readColon (input : Bytes) : Except Fault Bytes :=
  match skipBlanks input with
  | 0x3a :: rest => .ok rest
  | [] => .error .endInObject
  | _ => .error .expectedColon

/-! Embedded documents. -/

def embeddedField : String := "$serde_json::private::RawValue"

def documentText (input : Bytes) : Read String :=
  match skipBlanks input with
  | 0x22 :: rest => readString .empty rest
  | 0x5b :: _ => .error (.noDocument .array)
  | 0x7b :: _ => .error (.noDocument .object)
  | input =>
    match readPlain input with
    | .error e => .error e
    | .ok (found, _) => .error (.noDocument found.outline)

/-- Behind the text of a document nothing else may stand in its object. -/
def documentEnd (input : Bytes) : Except Fault Bytes :=
  match skipBlanks input with
  | 0x7d :: rest => .ok rest
  | 0x2c :: _ => .error .trailingComma
  | [] => .error .endInObject
  | _ => .error .trailingCharacters

mutual
/-- One value, blanks before it passed over; `room` containers may still be entered. -/
def readValue (fuel room : Nat) (input : Bytes) : Read Json :=
  match fuel with
  | 0 => .error .endInValue
  | fuel + 1 =>
    match skipBlanks input with
    | 0x22 :: rest =>
      match readString .empty rest with
      | .ok (s, rest) => .ok (.string s, rest)
      | .error e => .error e
    | 0x5b :: rest =>
      match room with
      | 0 => .error .tooDeep
      | room + 1 => readItems fuel room [] rest
    | 0x7b :: rest =>
      match room with
      | 0 => .error .tooDeep
      | room + 1 => readFields fuel room [] true rest
    | input => readPlain input
/-- The items of a list and its closing bracket; `items` are those read, the last first. -/
def readItems (fuel room : Nat) (items : List Json) (input : Bytes) : Read Json :=
  match fuel with
  | 0 => .error .endInList
  | fuel + 1 =>
    match skipBlanks input with
    | [] => .error .endInList
    | 0x5d :: rest => .ok (.array items.reverse, rest)
    | input =>
      match (if items.isEmpty then .ok input else listSeparator input) with
      | .error e => .error e
      | .ok input =>
        match readValue fuel room input with
        | .error e => .error e
        | .ok (item, rest) => readItems fuel room (item :: items) rest
def readFields (fuel room : Nat) (fields : Table Json) (first : Bool) (input : Bytes) :
    Read Json :=
  match fuel with
  | 0 => .error .endInObject
  | fuel + 1 =>
    match skipBlanks input with
    | [] => .error .endInObject
    | 0x7d :: rest => .ok (.object fields, rest)
    | input =>
      match (if first then firstName input else objectSeparator input) with
      | .error e => .error e
      | .ok input =>
        match readString .empty input with
        | .error e => .error e
        | .ok (name, rest) =>
          match readColon rest with
          | .error e => .error e
          | .ok rest =>
            if first && name == embeddedField then readDocument fuel rest
            else
              match readValue fuel room rest with
              | .error e => .error e
              | .ok (value, rest) => readFields fuel room (fields.put name value) false rest
/-- An embedded document, which has all the room again, and the end of the object around it. -/
def readDocument (fuel : Nat) (input : Bytes) : Read Json :=
  match fuel with
  | 0 => .error .endInValue
  | fuel + 1 =>
    match documentText input with
    | .error e => .error e
    | .ok (text, rest) =>
      match readValue fuel containerLimit text.toUTF8.toList with
      | .error e => .error e
      | .ok (j, inside) =>
        if (skipBlanks inside).isEmpty then (documentEnd rest).map fun rest => (j, rest)
        else .error .trailingCharacters
end

/-- One value and nothing but blanks behind it. Of any two calls in a row one takes a byte off
the input, so twice its length bounds them. An embedded document is shorter than its object. -/
def read (input : Bytes) : Except Fault Json :=
  match readValue (2 * input.length + 2) containerLimit input with
  | .error e => .error e
  | .ok (j, rest) => if (skipBlanks rest).isEmpty then .ok j else .error .trailingCharacters

def readText (text : String) : Except Fault Json := read text.toUTF8.toList

end Bayeux.Json
