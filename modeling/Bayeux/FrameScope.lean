import Bayeux.Protocol
/-! Channels of one frame. Each distinct path is parsed at its first use and remembered until
the frame is done; faulty paths are not remembered. Remembering never changes the
answer, so `resolveAnswer` holds for every scope. -/

namespace Bayeux

structure FrameScope where
  channels : Table Channel
  parsed : ∀ path c, channels.get? path = some c → Channel.parse path = .ok c

namespace FrameScope

def empty : FrameScope := ⟨[], fun _ _ h => by cases h⟩

instance : Inhabited FrameScope := ⟨empty⟩

def size (s : FrameScope) : Nat := List.length s.channels

def isEmpty (s : FrameScope) : Bool := List.isEmpty s.channels

def knows (s : FrameScope) (path : String) : Bool := s.channels.has path

def remember (s : FrameScope) (path : String) (c : Channel) (h : Channel.parse path = .ok c) :
    FrameScope where
  channels := s.channels.put path c
  parsed other d found := by
    by_cases same : other = path
    · subst same
      rw [Table.getPutSame] at found
      cases found; exact h
    · rw [Table.getPutOther _ _ same] at found
      exact s.parsed other d found

def resolve (s : FrameScope) (path : String) : Except ProtocolError Channel × FrameScope :=
  match s.channels.get? path with
  | some c => (.ok c, s)
  | none =>
    match h : Channel.parse path with
    | .ok c => (.ok c, s.remember path c h)
    | .error fault => (.error (.invalidChannel path fault), s)

theorem resolveAnswer (s : FrameScope) (path : String) :
    (s.resolve path).1 = Channel.resolve path := by
  unfold resolve
  split
  · rename_i c found
    exact (Channel.resolveOk.mpr (s.parsed path c found)).symm
  · split
    · rename_i c h
      exact (Channel.resolveOk.mpr h).symm
    · rename_i fault h
      exact (Channel.resolveFault h).symm

end FrameScope
end Bayeux
