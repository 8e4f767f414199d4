import Bayeux.Toml
import Bayeux.Toml.Date
/-! Reading of TOML documents, line by line: a comment, a header or an entry, each to the end of
its line. A document that does not fit is refused as a whole. -/

namespace Bayeux.Toml.Reader
open Text Scan

/-- What may stand in a comment or, where it has no meaning of its own, in a string. -/
def isPlain (c : Char) : Bool := c == '\t' || (' ' ≤ c && c != '\x7f')

def newline? : List Char → Option (List Char)
  | '\n' :: rest => some rest
  | '\r' :: '\n' :: rest => some rest
  | _ => none

def isSpace (c : Char) : Bool := c == ' ' || c == '\t'

def skipSpaces (text : List Char) : List Char := text.dropWhile isSpace

def skipComment : List Char → List Char
  | '#' :: rest => rest.dropWhile isPlain
  | text => text

/-- The rest of a line holds nothing but a comment. -/
def lineEnd? (text : List Char) : Option (List Char) :=
  match skipComment (skipSpaces text) with
  | [] => some []
  | text => newline? text

/-- Spaces and line ends, and comments too if they count. -/
def skipBlank (comments : Bool) : (fuel : Nat) → List Char → List Char
  | 0, text => text
  | fuel + 1, text =>
    match newline? text with
    | some rest => skipBlank comments fuel rest
    | none =>
      match text with
      | c :: rest =>
        if isSpace c then skipBlank comments fuel rest
        else if comments && c == '#' then skipBlank comments fuel (skipComment text)
        else text
      | [] => []

def skipLines (text : List Char) : List Char := skipBlank true text.length text

/-! Strings. -/

def scalar? (n : Nat) : Option Char :=
  if n < 0xd800 ∨ (0xdfff < n ∧ n < 0x110000) then some (Char.ofNat n) else none

def unicodeEscape (width : Nat) : Scan Char := fun text =>
  let ds := (digits 16 (text.take width)).1
  if ds.length = width then (scalar? (valueOf 16 ds)).map fun c => (c, text.drop width) else none

def escape : Scan Char
  | 'b' :: rest => some ('\x08', rest)
  | 't' :: rest => some ('\t', rest)
  | 'n' :: rest => some ('\n', rest)
  | 'f' :: rest => some ('\x0c', rest)
  | 'r' :: rest => some ('\r', rest)
  | '"' :: rest => some ('"', rest)
  | '\\' :: rest => some ('\\', rest)
  | 'u' :: rest => unicodeEscape 4 rest
  | 'U' :: rest => unicodeEscape 8 rest
  | _ => none

def before (c : Char) : Option (List Char × List Char) → Option (List Char × List Char)
  | some (cs, rest) => some (c :: cs, rest)
  | none => none

/-- Behind the opening quote. -/
def basicString : (fuel : Nat) → Scan (List Char)
  | 0, _ => none
  | _ + 1, [] => none
  | fuel + 1, c :: rest =>
    if c = '"' then some ([], rest)
    else if c = '\\' then
      match escape rest with
      | some (e, rest) => before e (basicString fuel rest)
      | none => none
    else if isPlain c then before c (basicString fuel rest)
    else none

def literalString : Scan (List Char) := fun text =>
  let inside (c : Char) : Bool := isPlain c && c != '\''
  match text.dropWhile inside with
  | '\'' :: rest => some (text.takeWhile inside, rest)
  | _ => none

/-- A backslash at the end of a line takes all blank space behind it away. -/
def joinedLine? (text : List Char) : Option (List Char) :=
  (newline? (skipSpaces text)).map fun rest => skipBlank false rest.length rest

/-- Behind the opening quotes. Up to two quotes may stand inside and at the end. -/
def multilineString (quote : Char) : (fuel : Nat) → Scan (List Char)
  | 0, _ => none
  | fuel + 1, text =>
    let quotes := min 5 (text.takeWhile (· = quote)).length
    if 3 ≤ quotes then some (List.replicate (quotes - 3) quote, text.drop quotes)
    else
      match newline? text with
      | some rest => before '\n' (multilineString quote fuel rest)
      | none =>
        match text with
        | [] => none
        | c :: rest =>
          if c = '\\' && quote = '"' then
            match joinedLine? rest with
            | some rest => multilineString quote fuel rest
            | none =>
              match escape rest with
              | some (e, rest) => before e (multilineString quote fuel rest)
              | none => none
          else if isPlain c then before c (multilineString quote fuel rest)
          else none

def afterNewline (text : List Char) : List Char := (newline? text).getD text

def asText : Option (List Char × List Char) → Option (String × List Char)
  | some (cs, rest) => some (String.ofList cs, rest)
  | none => none

/-- On one line. -/
def lineString? : List Char → Option (Option (String × List Char))
  | '"' :: rest => some (asText (basicString (rest.length + 1) rest))
  | '\'' :: rest => some (asText (literalString rest))
  | _ => none

def string? : List Char → Option (Option (String × List Char))
  | '"' :: '"' :: '"' :: rest =>
    some (asText (multilineString '"' (rest.length + 1) (afterNewline rest)))
  | '\'' :: '\'' :: '\'' :: rest =>
    some (asText (multilineString '\'' (rest.length + 1) (afterNewline rest)))
  | text => lineString? text

/-! Numbers. -/

/-- More digits, with single underscores between them. -/
def moreDigits (radix : Nat) : List Char → List Nat × List Char
  | [] => ([], [])
  | [c] =>
    match digit? radix c with
    | some d => ([d], [])
    | none => ([], [c])
  | c :: e :: rest =>
    match digit? radix c with
    | some d => (d :: (moreDigits radix (e :: rest)).1, (moreDigits radix (e :: rest)).2)
    | none =>
      match c == '_', digit? radix e with
      | true, some d => (d :: (moreDigits radix rest).1, (moreDigits radix rest).2)
      | _, _ => ([], c :: e :: rest)

def digitRun (radix : Nat) : Scan (List Nat)
  | [] => none
  | c :: rest =>
    match digit? radix c with
    | some d => some (d :: (moreDigits radix rest).1, (moreDigits radix rest).2)
    | none => none

/-- Whether a minus was there. -/
def sign : List Char → Bool × List Char
  | '-' :: rest => (true, rest)
  | '+' :: rest => (false, rest)
  | text => (false, text)

/-- Digits without a needless zero in front. -/
def wholePart : Scan (List Nat) := fun text =>
  match digitRun 10 text with
  | some (0 :: _ :: _, _) => none
  | found => found

def signed (negative : Bool) (n : Nat) : Int := if negative then -n else n

def inRange (n : Int) : Option Toml :=
  if Number.int64Min ≤ n ∧ n ≤ Number.int64Max then some (.integer n) else none

def radixOf : List Char → Option (Nat × List Char)
  | '0' :: 'x' :: rest => some (16, rest)
  | '0' :: 'o' :: rest => some (8, rest)
  | '0' :: 'b' :: rest => some (2, rest)
  | _ => none

def integer : Scan Toml := fun text => do
  match radixOf text with
  | some (radix, rest) =>
    let (ds, rest) ← digitRun radix rest
    return (← inRange (valueOf radix ds), rest)
  | none =>
    let (negative, rest) := sign text
    let (ds, rest) ← wholePart rest
    return (← inRange (signed negative (valueOf 10 ds)), rest)

/-- The nearest double of `n * 10 ^ exponent`. -/
def scaled (n : Nat) (exponent : Int) : Float :=
  let top := (toString n).length + exponent
  if n = 0 ∨ top < -400 then 0
  else if 400 < top then 1 / 0
  else if exponent < 0 then Float.ofScientific n true exponent.natAbs
  else Float.ofScientific n false exponent.toNat

def exponentPart : List Char → Option (Option Int × List Char)
  | 'e' :: rest | 'E' :: rest =>
    let (negative, rest) := sign rest
    (digitRun 10 rest).map fun (ds, rest) => (some (signed negative (valueOf 10 ds)), rest)
  | text => some (none, text)

def fractionPart : List Char → Option (Option (List Nat) × List Char)
  | '.' :: rest => (digitRun 10 rest).map fun (ds, rest) => (some ds, rest)
  | text => some (none, text)

/-- Too large a number is refused, but not below zero. -/
def finishReal (negative : Bool) (x : Float) : Option Toml :=
  if negative then some (.real (-x))
  else if x == 1 / 0 then none
  else some (.real x)

def real : Scan Toml := fun text => do
  let (negative, rest) := sign text
  let (whole, rest) ← wholePart rest
  let (fraction?, rest) ← fractionPart rest
  let (exponent?, rest) ← exponentPart rest
  if fraction?.isNone && exponent?.isNone then none
  else
    let fraction := fraction?.getD []
    let x := scaled (valueOf 10 (whole ++ fraction)) (exponent?.getD 0 - fraction.length)
    return (← finishReal negative x, rest)

def namedReal : Scan Toml := fun text =>
  let (negative, rest) := sign text
  match word ['i', 'n', 'f'] rest, word ['n', 'a', 'n'] rest with
  | some ((), rest), _ => some (.real (if negative then -(1 / 0) else 1 / 0), rest)
  | none, some ((), rest) => some (.real (0 / 0), rest)
  | none, none => none

def number : Scan Toml := fun text =>
  match Moment.scan text with
  | some (m, rest) => some (.date m.text, rest)
  | none => ((real text).orElse fun _ => namedReal text).orElse fun _ => integer text

def boolean : Scan Toml := fun text =>
  match word ['t', 'r', 'u', 'e'] text, word ['f', 'a', 'l', 's', 'e'] text with
  | some ((), rest), _ => some (.boolean true, rest)
  | none, some ((), rest) => some (.boolean false, rest)
  | none, none => none

/-! Keys. -/

def isBare (c : Char) : Bool :=
  ('a' ≤ c && c ≤ 'z') || ('A' ≤ c && c ≤ 'Z') || ('0' ≤ c && c ≤ '9') || c == '-' || c == '_'

def bareKey : Scan String := fun text =>
  match text.takeWhile isBare with
  | [] => none
  | cs => some (String.ofList cs, text.dropWhile isBare)

def simpleKey : Scan String := fun text =>
  match lineString? text with
  | some quoted => quoted
  | none => bareKey text

def pathLimit : Nat := 79

def names : (fuel : Nat) → Scan (List String)
  | 0, _ => none
  | fuel + 1, text =>
    match simpleKey (skipSpaces text) with
    | none => none
    | some (name, rest) =>
      match skipSpaces rest with
      | '.' :: rest => (names fuel rest).map fun (more, rest) => (name :: more, rest)
      | rest => some ([name], rest)

def keyPath : Scan (List String × String) := fun text =>
  match names pathLimit text with
  | some (parts, rest) => parts.getLast?.map fun key => ((parts.dropLast, key), rest)
  | none => none

/-! Values. -/

/-- Lists and braces may be nested in so many others. -/
def containerLimit : Nat := 79

mutual
def value : (fuel room : Nat) → Scan Toml
  | 0, _, _ => none
  | fuel + 1, room, text =>
    match string? text with
    | some (some (s, rest)) => some (.string s, rest)
    | some none => none
    | none =>
      match text with
      | '[' :: rest =>
        if room = 0 then none
        else (items fuel (room - 1) rest).map fun (found, rest) => (.list found, rest)
      | '{' :: rest =>
        if room = 0 then none
        else
          match skipSpaces rest with
          | '}' :: rest => some (.table [], rest)
          | rest =>
            match pairs fuel (room - 1) rest with
            | some (found, rest) => (Node.braced found).map fun t => (t, rest)
            | none => none
      | text => (boolean text).orElse fun _ => number text

/-- Behind the opening bracket or a comma. -/
def items : (fuel room : Nat) → Scan (List Toml)
  | 0, _, _ => none
  | fuel + 1, room, text =>
    match skipLines text with
    | ']' :: rest => some ([], rest)
    | text =>
      match value fuel room text with
      | none => none
      | some (t, rest) =>
        match skipLines rest with
        | ',' :: rest => (items fuel room rest).map fun (more, rest) => (t :: more, rest)
        | ']' :: rest => some ([t], rest)
        | _ => none

/-- Entries up to the closing brace. -/
def pairs : (fuel room : Nat) → Scan (List Entry)
  | 0, _, _ => none
  | fuel + 1, room, text =>
    match entry fuel room text with
    | none => none
    | some (e, rest) =>
      match skipSpaces rest with
      | ',' :: rest => (pairs fuel room rest).map fun (more, rest) => (e :: more, rest)
      | '}' :: rest => some ([e], rest)
      | _ => none

def entry : (fuel room : Nat) → Scan Entry
  | 0, _, _ => none
  | fuel + 1, room, text =>
    match keyPath text with
    | some ((path, key), '=' :: rest) =>
      (value fuel room (skipSpaces rest)).map fun (t, rest) => (⟨path, key, t⟩, rest)
    | _ => none
end

/-- Three steps are taken for one character at most. -/
def entryLine (text : List Char) : Option (Entry × List Char) :=
  match entry (4 * text.length + 4) containerLimit text with
  | some (e, rest) => (lineEnd? rest).map fun rest => (e, rest)
  | none => none

def headerLine (text : List Char) : Option (Header × List Char) :=
  match text with
  | '[' :: '[' :: rest =>
    match keyPath rest with
    | some ((path, key), ']' :: ']' :: rest) =>
      (lineEnd? rest).map fun rest => (.row path key, rest)
    | _ => none
  | '[' :: rest =>
    match keyPath rest with
    | some ((path, key), ']' :: rest) => (lineEnd? rest).map fun rest => (.table path key, rest)
    | _ => none
  | _ => none

/-- The sections from here on, the open one first; its entries are held in reverse. -/
def sections : (fuel : Nat) → Header → List Entry → List Char → Option (List Section)
  | 0, _, _, _ => none
  | fuel + 1, header, entries, text =>
    match skipSpaces text with
    | [] => some [⟨header, entries.reverse⟩]
    | '[' :: rest =>
      match headerLine ('[' :: rest) with
      | some (next, rest) =>
        (sections fuel next [] rest).map (⟨header, entries.reverse⟩ :: ·)
      | none => none
    | c :: rest =>
      if c == '#' || c == '\n' || c == '\r' then
        match lineEnd? (c :: rest) with
        | some rest => sections fuel header entries rest
        | none => none
      else
        match entryLine (c :: rest) with
        | some (e, rest) => sections fuel header (e :: entries) rest
        | none => none

def withoutMark : List Char → List Char
  | '\ufeff' :: rest => rest
  | text => text

end Reader

def read? (text : String) : Option (Table Toml) :=
  let cs := Reader.withoutMark text.toList
  (Reader.sections (cs.length + 1) .root [] cs).bind Section.document

end Bayeux.Toml
