import Bayeux.Proofs.Channel.Segments
import Bayeux.Route
/-! Two readings of a path. The route is read off the beginning and the end of the text, the kind
of the channel off its segments. A path without fault ends like a wildcard exactly if its
last segment is one, so the two agree wherever there is a channel. -/

namespace Bayeux

namespace Channel

theorem endsWith (c : Channel) (last : List Char) (plain : '/' ∉ last) :
    Route.endsWith c.path (String.ofList ('/' :: last)) = true ↔
      (pieces c.path).getLast? = some last := by
  rw [Route.endsWith, String.toList_ofList, List.isSuffixOf_iff_suffix, pathSlash c]
  exact Text.lastPiece plain _

theorem endsWildIff (c : Channel) :
    (Route.endsWith c.path "/*" || Route.endsWith c.path "/**") = true ↔ c.EndsWild := by
  have one := c.endsWith single (by decide)
  have two := c.endsWith deep (by decide)
  rw [Bool.or_eq_true]
  exact or_congr (one.trans (c.lastSegment single).symm) (two.trans (c.lastSegment deep).symm)

end Channel

namespace Route

/-- The operations and everything else below the reserved root. -/
def isReserved : Route → Bool
  | .handshake | .connect | .disconnect | .subscribe | .unsubscribe | .unknownMeta => true
  | .wildcardPublish | .service | .publish => false

/-- What the route of a path says about the channel of the same path. -/
structure Agrees (route : Route) (c : Channel) : Prop where
  reserved : route.isReserved = true ↔ c.kind = .metaChannel
  publish : route = .publish ↔ c.kind = .application
  wildcard : route = .wildcardPublish ↔ c.kind ≠ .metaChannel ∧ c.EndsWild
  service : route = .service ↔ c.kind = .service ∧ ¬c.EndsWild

theorem reservedIff (path : String) :
    (ofPath path).isReserved = true ↔ Channel.startsWith path Channel.metaRoot = true := by
  have operations : ∀ operation ∈ [handshakePath, connectPath, disconnectPath, subscribePath,
      unsubscribePath], Channel.startsWith operation Channel.metaRoot = true := by decide
  simp only [List.forall_mem_cons] at operations
  obtain ⟨handshake, connect, disconnect, subscribe, unsubscribe, -⟩ := operations
  unfold ofPath
  grind [isReserved]

theorem ofUnreserved {path : String}
    (unreserved : Channel.startsWith path Channel.metaRoot = false) :
    ofPath path =
      if endsWith path "/*" || endsWith path "/**" then .wildcardPublish
      else if Channel.startsWith path Channel.serviceRoot then .service
      else .publish := by
  have none : ¬(ofPath path).isReserved = true := by simp [reservedIff, unreserved]
  unfold ofPath at none ⊢
  grind [isReserved]

theorem agrees (c : Channel) : (ofPath c.path).Agrees c := by
  have wild := c.endsWildIff
  have reserved := reservedIff c.path
  cases root : Channel.startsWith c.path Channel.metaRoot with
  | true =>
    have kind := c.kindMeta.mpr root
    have route := reserved.mpr root
    refine ⟨?_, ?_, ?_, ?_⟩ <;> cases found : ofPath c.path <;> simp_all [isReserved]
  | false =>
    have meta_ : ¬c.kind = .metaChannel := by simp [c.kindMeta, root]
    refine ⟨?_, ?_, ?_, ?_⟩
    · rw [reserved, c.kindMeta]
    · rw [ofUnreserved root, c.kindApplication]
      grind
    · rw [ofUnreserved root]
      grind
    · rw [ofUnreserved root, c.kindService]
      grind

theorem publishKind {c : Channel} (publish : ofPath c.path = .publish) : c.kind = .application :=
  (agrees c).publish.mp publish

end Route
end Bayeux
