import Bayeux.Text.Scan
/-! Dates and times: a date, a time of day, or both with or without an offset, and their
spelling. -/

namespace Bayeux.Toml
open Text Scan

structure Day where
  year : Nat
  month : Nat
  day : Nat
  deriving DecidableEq, Repr

structure Clock where
  hour : Nat
  minute : Nat
  second : Nat
  nanosecond : Nat
  deriving DecidableEq, Repr

inductive Offset where
  | utc
  | minutes (west : Bool) (count : Nat)
  deriving DecidableEq, Repr

inductive Moment where
  | onDay (d : Day)
  | atTime (c : Clock)
  | full (d : Day) (c : Clock) (offset? : Option Offset)
  deriving DecidableEq, Repr

namespace Moment

def isLeap (year : Nat) : Bool := year % 4 == 0 && (year % 100 != 0 || year % 400 == 0)

def lastDay (year month : Nat) : Nat :=
  if month = 2 then (if isLeap year then 29 else 28)
  else if month = 4 ∨ month = 6 ∨ month = 9 ∨ month = 11 then 30
  else 31

def scanDay : Scan Day := fun text => do
  let (year, text) ← fixed 4 10000 text
  let ((), text) ← char '-' text
  let (month, text) ← fixed 2 13 text
  let ((), text) ← char '-' text
  let (day, text) ← fixed 2 32 text
  if month = 0 ∨ day = 0 ∨ lastDay year month < day then none
  else return (⟨year, month, day⟩, text)

/-- Nine digits count. -/
def nanoseconds (ds : List Nat) : Nat :=
  valueOf 10 (ds.take 9) * Nat.pow 10 (9 - min 9 ds.length)

def scanFraction : List Char → Option (Nat × List Char)
  | '.' :: text =>
    match digits 10 text with
    | ([], _) => none
    | (ds, rest) => some (nanoseconds ds, rest)
  | text => some (0, text)

def scanClock : Scan Clock := fun text => do
  let (hour, text) ← fixed 2 24 text
  let ((), text) ← char ':' text
  let (minute, text) ← fixed 2 60 text
  let ((), text) ← char ':' text
  let (second, text) ← fixed 2 61 text
  let (nanosecond, text) ← scanFraction text
  return (⟨hour, minute, second, nanosecond⟩, text)

def scanMinutes (west : Bool) : Scan Offset := fun text => do
  let (hour, text) ← fixed 2 24 text
  let ((), text) ← char ':' text
  let (minute, text) ← fixed 2 60 text
  return (.minutes west (hour * 60 + minute), text)

/-- No offset where there is no sign of one. -/
def scanOffset : List Char → Option (Option Offset × List Char)
  | 'Z' :: rest | 'z' :: rest => some (some .utc, rest)
  | '+' :: rest => (scanMinutes false rest).map fun (o, rest) => (some o, rest)
  | '-' :: rest => (scanMinutes true rest).map fun (o, rest) => (some o, rest)
  | text => some (none, text)

def isSeparator (c : Char) : Bool := c == 'T' || c == 't' || c == ' '

/-- A day alone if no time of day follows it. -/
def scanAfterDay (d : Day) (text : List Char) : Option (Moment × List Char) :=
  match text with
  | c :: rest =>
    if isSeparator c then
      match scanClock rest with
      | some (clock, rest) =>
        (scanOffset rest).map fun (offset?, rest) => (.full d clock offset?, rest)
      | none => some (.onDay d, text)
    else some (.onDay d, text)
  | [] => some (.onDay d, text)

def scan : Scan Moment := fun text =>
  match scanDay text with
  | some (d, rest) => scanAfterDay d rest
  | none => (scanClock text).map fun (c, rest) => (.atTime c, rest)

/-- A text that is a date, a time or both from end to end. -/
def read? (text : String) : Option Moment :=
  match scan text.toList with
  | some (m, []) => some m
  | _ => none

def padded (width n : Nat) : String :=
  let ds := toString n
  String.ofList (List.replicate (width - ds.length) '0') ++ ds

def dayText (d : Day) : String :=
  padded 4 d.year ++ "-" ++ padded 2 d.month ++ "-" ++ padded 2 d.day

def withoutZeros (cs : List Char) : List Char := (cs.reverse.dropWhile (· = '0')).reverse

def clockText (c : Clock) : String :=
  padded 2 c.hour ++ ":" ++ padded 2 c.minute ++ ":" ++ padded 2 c.second ++
    if c.nanosecond = 0 then ""
    else "." ++ String.ofList (withoutZeros (padded 9 c.nanosecond).toList)

def offsetText : Offset → String
  | .utc => "Z"
  | .minutes west count =>
    (if west && count != 0 then "-" else "+") ++ padded 2 (count / 60) ++ ":" ++
      padded 2 (count % 60)

def text : Moment → String
  | .onDay d => dayText d
  | .atTime c => clockText c
  | .full d c offset? =>
    dayText d ++ "T" ++ clockText c ++ match offset? with
      | some o => offsetText o
      | none => ""

end Moment
end Bayeux.Toml
