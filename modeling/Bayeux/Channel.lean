import Bayeux.Text.Split
import Bayeux.Text.Blank
/-! Channels. A path is one or more segments, each behind a slash; only the last segment may
be a wildcard. Every path has one fault or none, and a `Channel` is a path without
fault; its segments and its kind are read off the path. -/

namespace Bayeux

inductive ChannelFault where
  | empty
  | tooLong
  | noSlash
  | control
  | emptySegment
  | innerWildcard
  deriving DecidableEq, Repr

def ChannelFault.message : ChannelFault → String
  | .empty => "channel path cannot be empty"
  | .tooLong => "channel path too long"
  | .noSlash => "channel path must start with '/'"
  | .control => "channel path contains control characters"
  | .emptySegment => "channel path contains an empty segment"
  | .innerWildcard => "wildcards are only allowed in the last segment"

namespace Channel

/-- In bytes. -/
def maxPathSize : Nat := 1024

def metaRoot : String := "/meta/"

def serviceRoot : String := "/service/"

def single : List Char := ['*']

def deep : List Char := ['*', '*']

/-- The pieces between the slashes behind the leading one. -/
def pieces (path : String) : List (List Char) := Text.split '/' (path.toList.drop 1)

/-- The first rule that the path breaks. -/
def fault? (path : String) : Option ChannelFault :=
  if path.isEmpty then some .empty
  else if path.utf8ByteSize > maxPathSize then some .tooLong
  else if path.toList.head? ≠ some '/' then some .noSlash
  else if path.toList.any Text.isControl then some .control
  else if (pieces path).any List.isEmpty then some .emptySegment
  else if (pieces path).dropLast.any (fun piece => piece == single || piece == deep) then
    some .innerWildcard
  else none

end Channel

structure Channel where
  path : String
  valid : Channel.fault? path = none
  deriving DecidableEq

inductive ChannelKind where
  | metaChannel
  | service
  | wild
  | deepWild
  | application
  deriving DecidableEq, Repr

namespace Channel

def parse (path : String) : Except ChannelFault Channel :=
  match h : fault? path with
  | none => .ok ⟨path, h⟩
  | some fault => .error fault

def segments (c : Channel) : List String := (pieces c.path).map String.ofList

def startsWith (path root : String) : Bool := root.toList.isPrefixOf path.toList

/-- The reserved roots come before the wildcards. -/
def kind (c : Channel) : ChannelKind :=
  if startsWith c.path metaRoot then .metaChannel
  else if startsWith c.path serviceRoot then .service
  else
    match (pieces c.path).getLast? with
    | some last => if last = single then .wild else if last = deep then .deepWild else .application
    | none => .application

def isMeta (c : Channel) : Bool := c.kind == .metaChannel

def isService (c : Channel) : Bool := c.kind == .service

def isWild (c : Channel) : Bool := c.kind == .wild || c.kind == .deepWild

/-- `pattern` used as a subscription: `*` stands for one segment, `**` for one or more, and
any other channel only for itself. -/
def covers (pattern channel : Channel) : Bool :=
  let stem := pattern.segments.dropLast
  match pattern.kind with
  | .wild =>
    channel.segments.length == pattern.segments.length &&
      channel.segments.take stem.length == stem
  | .deepWild =>
    decide (channel.segments.length > stem.length) && channel.segments.take stem.length == stem
  | _ => pattern.path == channel.path

theorem parseOk {path : String} {c : Channel} (h : parse path = .ok c) : c.path = path := by
  unfold parse at h
  split at h
  · cases h; rfl
  · cases h

theorem parsePath (c : Channel) : parse c.path = .ok c := by
  unfold parse
  split
  · rfl
  · rename_i fault h
    rw [c.valid] at h; cases h

theorem parseError {path : String} {fault : ChannelFault} :
    parse path = .error fault ↔ fault? path = some fault := by
  unfold parse
  split <;> rename_i h
  · constructor
    · intro e; cases e
    · intro e; rw [h] at e; cases e
  · constructor
    · intro e; cases e; exact h
    · intro e; rw [h] at e; cases e; rfl

theorem pathInjective {a b : Channel} (h : a.path = b.path) : a = b := by
  cases a; cases b; cases h; rfl

end Channel
end Bayeux
