import Bayeux.Proofs.Server.Effects
import Bayeux.Proofs.Server.Orderly
/-! What a request may do to the server. A careful processor leaves the registry alone and reports
a subscription for a connected session only, so routing a request of a registered session
keeps the server orderly. The standard processors are careful. -/

namespace Bayeux

variable {σ : Type} {samples : σ → Timesync.Samples}

structure Careful (samples : σ → Timesync.Samples) (process : Processor σ) : Prop where
  leaves : ∀ transports id c request (s : Server σ),
    s.Leaves samples (process transports id c request s).2
  connected : ∀ transports id c request s done channel,
    (process transports id c request s).1 = .ok done → done.event? = some (.subscribed channel) →
      (process transports id c request s).2.stateOf id = .connected

theorem Standard.careful (settings : Settings) :
    Careful samples (process settings : Processor σ) where
  leaves transports id c request s := by
    obtain ⟨done, after, processed, effect⟩ := processEffect settings transports id c request s
    rw [processed]
    cases effect with
    | refused | reconnected | leaving | subscribed | unsubscribed => exact Server.leavesRefl s
    | handshook => exact Server.leavesTransition s id fun none => by cases none
    | connected => exact Server.leavesTransition s id fun _ => rfl
    | published => exact Server.leavesPublish s _ _
  connected transports id c request s done channel ok reported := by
    obtain ⟨other, after, processed, effect⟩ := processEffect settings transports id c request s
    rw [processed] at ok ⊢
    obtain rfl := Except.ok.inj ok
    cases effect with
    | subscribed succeeded own state asked => exact state
    | refused | handshook | connected | reconnected | leaving | unsubscribed | published =>
      cases reported

namespace Router

theorem keepsNotify {id : String} {s : Server σ} {event? : Option SessionEvent} (c : Context)
    (request : Request)
    (connected : ∀ channel, event? = some (.subscribed channel) → s.stateOf id = .connected) :
    s.Keeps samples id (notify id c s request event?) := by
  unfold notify
  split
  · exact Server.leavesKeeps (Server.leavesNote s _)
  · exact Server.keepsSubscribed (connected _ rfl) _
  · exact Server.leavesKeeps (Server.leavesUnsubscribed s id _)
  · exact Server.leavesKeeps (Server.leavesRefl s)

theorem keepsRespond {process : Processor σ} (careful : Careful samples process)
    (transports : List String) (id : String) (c : Context) (s : Server σ) :
    s.Keeps samples id (respond process transports id c s).2 := by
  obtain ⟨result, after, outcome, handled⟩ := handled process transports id c s
  rw [outcome]
  cases handled with
  | unprocessed closed => exact Server.leavesKeeps (Server.leavesRefl _)
  | undecodable reader fault => exact Server.leavesKeeps (Server.leavesRefl _)
  | @failed request e after read answer =>
    have left := careful.leaves transports id c request s
    rw [answer] at left
    exact Server.leavesKeeps left
  | @answered request done after read answer =>
    have left := careful.leaves transports id c request s
    have connected := careful.connected transports id c request s done
    rw [answer] at left connected
    exact Server.keepsTrans (Server.leavesKeeps left)
      (keepsNotify c request fun channel => connected channel rfl)

theorem leavesApplyDisconnect (id : String) (channel : Channel) (s : Server σ) :
    s.Leaves samples (applyDisconnect id channel s) :=
  Server.leavesDisconnected s id false (some channel)

end Router
end Bayeux
