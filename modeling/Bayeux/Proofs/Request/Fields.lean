import Bayeux.Proofs.Request.Slots
import Bayeux.Proofs.Value.Layers
import Bayeux.Request
/-! What a request takes from its message, type by type. A field is looked at as it is seen under
its name, whatever layer it stands in. -/

namespace Bayeux

namespace Message

/-- A field as it is seen. -/
def shown? (m : Message) (name : String) : Option Json := (m.get? name).map Value.visible

theorem getVisible (m : Message) :
    Table.get? (m.fields.entries.mapValues Value.visible) = m.shown? := by
  funext name
  rw [Table.getMapValues, Record.getEntries]
  rfl

end Message

open Decode

namespace Request
variable {σ : Type} {slots : List (JsonSlot σ)} {m : Message}

theorem fieldsTaken (apart : slots.Pairwise Apart) (once : m.fields.names.Nodup) (initial : σ) :
    (fields slots initial m).toOption = takeAll m.shown? slots initial := by
  have distinct : (m.fields.entries.mapValues Value.visible).Distinct := by
    rw [Table.Distinct, Table.keysMapValues]
    exact once
  rw [fields, toOptionMapError, Message.visible, Value.visibleObject, ← Message.getVisible]
  exact fromFieldsTaken apart distinct initial

end Request

/-! One lemma for each type, field by field. -/

structure HandshakeRequest.Carries (r : HandshakeRequest) (m : Message) : Prop where
  id : AnyGiven (m.shown? Field.id) r.id
  version : TextGiven (m.shown? Field.version) r.version
  minimumVersion : TextGiven (m.shown? Field.minimumVersion) r.minimumVersion
  supportedConnectionTypes :
    Listed (m.shown? Field.supportedConnectionTypes) r.supportedConnectionTypes
  ext : AnyGiven (m.shown? Field.ext) r.ext

structure ConnectRequest.Carries (r : ConnectRequest) (m : Message) : Prop where
  id : AnyGiven (m.shown? Field.id) r.id
  clientId : TextGiven (m.shown? Field.clientId) r.clientId
  connectionType : TextGiven (m.shown? Field.connectionType) r.connectionType
  advice : AnyGiven (m.shown? Field.advice) r.advice

structure DisconnectRequest.Carries (r : DisconnectRequest) (m : Message) : Prop where
  id : AnyGiven (m.shown? Field.id) r.id
  clientId : TextGiven (m.shown? Field.clientId) r.clientId

structure SubscriptionRequest.Carries (r : SubscriptionRequest) (m : Message) : Prop where
  id : AnyGiven (m.shown? Field.id) r.id
  clientId : TextGiven (m.shown? Field.clientId) r.clientId
  subscription : TextGiven (m.shown? Field.subscription) r.subscription

structure PublishRequest.Carries (r : PublishRequest) (m : Message) : Prop where
  id : AnyGiven (m.shown? Field.id) r.id
  clientId : TextGiven (m.shown? Field.clientId) r.clientId
  channel : m.shown? Field.channel = some (.string r.channel)

namespace Request
variable {m : Message}

theorem fieldsApart : handshakeSlots.Pairwise Apart ∧ connectSlots.Pairwise Apart ∧
    disconnectSlots.Pairwise Apart ∧ subscriptionSlots.Pairwise Apart ∧
    publishSlots.Pairwise Apart := by
  refine ⟨?_, ?_, ?_, ?_, ?_⟩ <;>
    simp only [handshakeSlots, connectSlots, disconnectSlots, subscriptionSlots, publishSlots,
      List.pairwise_cons, List.forall_mem_cons, List.not_mem_nil, IsEmpty.forall_iff,
      implies_true, List.Pairwise.nil, and_true]
  all_goals and_intros
  all_goals exact slotsApart (by decide) fun _ _ _ => rfl

theorem handshakeIff {r : HandshakeRequest} :
    takeAll m.shown? handshakeSlots {} = some r ↔ r.Carries m := by
  constructor
  · intro taken
    obtain ⟨_, id, taken⟩ := (takenIff HandshakeRequest.id rfl).mp taken
    obtain ⟨_, version, taken⟩ := (takenIff HandshakeRequest.version rfl).mp taken
    obtain ⟨_, minimum, taken⟩ := (takenIff HandshakeRequest.minimumVersion rfl).mp taken
    obtain ⟨_, types, taken⟩ := (takenIff HandshakeRequest.supportedConnectionTypes rfl).mp taken
    obtain ⟨_, ext, taken⟩ := (takenIff HandshakeRequest.ext rfl).mp taken
    cases taken
    exact ⟨anyGivenIff.mp id, textGivenIff.mp version, textGivenIff.mp minimum,
      listedIff.mp types, anyGivenIff.mp ext⟩
  · intro carries
    refine (takenIff HandshakeRequest.id rfl).mpr ⟨_, anyGivenIff.mpr carries.id, ?_⟩
    refine (takenIff HandshakeRequest.version rfl).mpr ⟨_, textGivenIff.mpr carries.version, ?_⟩
    refine (takenIff HandshakeRequest.minimumVersion rfl).mpr
      ⟨_, textGivenIff.mpr carries.minimumVersion, ?_⟩
    refine (takenIff HandshakeRequest.supportedConnectionTypes rfl).mpr
      ⟨_, listedIff.mpr carries.supportedConnectionTypes, ?_⟩
    exact (takenIff HandshakeRequest.ext rfl).mpr ⟨_, anyGivenIff.mpr carries.ext, rfl⟩

theorem connectIff {r : ConnectRequest} :
    takeAll m.shown? connectSlots {} = some r ↔ r.Carries m := by
  constructor
  · intro taken
    obtain ⟨_, id, taken⟩ := (takenIff ConnectRequest.id rfl).mp taken
    obtain ⟨_, client, taken⟩ := (takenIff ConnectRequest.clientId rfl).mp taken
    obtain ⟨_, type, taken⟩ := (takenIff ConnectRequest.connectionType rfl).mp taken
    obtain ⟨_, advice, taken⟩ := (takenIff ConnectRequest.advice rfl).mp taken
    cases taken
    exact ⟨anyGivenIff.mp id, textGivenIff.mp client, textGivenIff.mp type,
      anyGivenIff.mp advice⟩
  · intro carries
    refine (takenIff ConnectRequest.id rfl).mpr ⟨_, anyGivenIff.mpr carries.id, ?_⟩
    refine (takenIff ConnectRequest.clientId rfl).mpr
      ⟨_, textGivenIff.mpr carries.clientId, ?_⟩
    refine (takenIff ConnectRequest.connectionType rfl).mpr
      ⟨_, textGivenIff.mpr carries.connectionType, ?_⟩
    exact (takenIff ConnectRequest.advice rfl).mpr ⟨_, anyGivenIff.mpr carries.advice, rfl⟩

theorem disconnectIff {r : DisconnectRequest} :
    takeAll m.shown? disconnectSlots {} = some r ↔ r.Carries m := by
  constructor
  · intro taken
    obtain ⟨_, id, taken⟩ := (takenIff DisconnectRequest.id rfl).mp taken
    obtain ⟨_, client, taken⟩ := (takenIff DisconnectRequest.clientId rfl).mp taken
    cases taken
    exact ⟨anyGivenIff.mp id, textGivenIff.mp client⟩
  · intro carries
    refine (takenIff DisconnectRequest.id rfl).mpr ⟨_, anyGivenIff.mpr carries.id, ?_⟩
    exact (takenIff DisconnectRequest.clientId rfl).mpr
      ⟨_, textGivenIff.mpr carries.clientId, rfl⟩

theorem subscriptionIff {r : SubscriptionRequest} :
    takeAll m.shown? subscriptionSlots {} = some r ↔ r.Carries m := by
  constructor
  · intro taken
    obtain ⟨_, id, taken⟩ := (takenIff SubscriptionRequest.id rfl).mp taken
    obtain ⟨_, client, taken⟩ := (takenIff SubscriptionRequest.clientId rfl).mp taken
    obtain ⟨_, channel, taken⟩ := (takenIff SubscriptionRequest.subscription rfl).mp taken
    cases taken
    exact ⟨anyGivenIff.mp id, textGivenIff.mp client, textGivenIff.mp channel⟩
  · intro carries
    refine (takenIff SubscriptionRequest.id rfl).mpr ⟨_, anyGivenIff.mpr carries.id, ?_⟩
    refine (takenIff SubscriptionRequest.clientId rfl).mpr
      ⟨_, textGivenIff.mpr carries.clientId, ?_⟩
    exact (takenIff SubscriptionRequest.subscription rfl).mpr
      ⟨_, textGivenIff.mpr carries.subscription, rfl⟩

/- The channel is no optional field, so its absence shows in the draft alone. -/
theorem publishIff {r : PublishRequest} :
    (takeAll m.shown? publishSlots {}).bind (fun draft => (finishPublish draft).toOption) = some r ↔
      r.Carries m := by
  constructor
  · intro taken
    obtain ⟨draft, taken, finished⟩ := Option.bind_eq_some_iff.mp taken
    obtain ⟨_, id, taken⟩ := (takenIff PublishDraft.id rfl).mp taken
    obtain ⟨_, client, taken⟩ := (takenIff PublishDraft.clientId rfl).mp taken
    cases channel : m.shown? Field.channel with
    | none =>
      simp only [takeAll, slot, channel] at taken
      cases taken
      cases finished
    | some j =>
      simp only [takeAll, slot, channel, Slot.take] at taken
      cases path : text j with
      | error fault =>
        rw [path] at taken
        cases taken
      | ok path_ =>
        rw [path] at taken
        cases taken
        cases finished
        exact ⟨anyGivenIff.mp id, textGivenIff.mp client,
          channel.trans (congrArg some ((textIff j _).mp path))⟩
  · intro carries
    refine Option.bind_eq_some_iff.mpr ⟨⟨r.id, r.clientId, some r.channel⟩, ?_, rfl⟩
    refine (takenIff PublishDraft.id rfl).mpr ⟨_, anyGivenIff.mpr carries.id, ?_⟩
    refine (takenIff PublishDraft.clientId rfl).mpr ⟨_, textGivenIff.mpr carries.clientId, ?_⟩
    simp only [takeAll, slot, carries.channel]
    rfl

end Request

/-! All types at once. -/

def Route.recognised : Route → List String
  | .handshake =>
    [Field.id, Field.version, Field.minimumVersion, Field.supportedConnectionTypes, Field.ext]
  | .connect => [Field.id, Field.clientId, Field.connectionType, Field.advice]
  | .disconnect => [Field.id, Field.clientId]
  | .subscribe | .unsubscribe => [Field.id, Field.clientId, Field.subscription]
  | .publish => [Field.id, Field.clientId, Field.channel]
  | .unknownMeta | .wildcardPublish | .service => []

/-- The fields that may hold any tree. -/
def Route.untyped : Route → List String
  | .handshake => [Field.id, Field.ext]
  | .connect => [Field.id, Field.advice]
  | .disconnect | .subscribe | .unsubscribe | .publish => [Field.id]
  | .unknownMeta | .wildcardPublish | .service => []

namespace Request
variable {m : Message}

inductive Carries (m : Message) : Route → Request → Prop where
  | handshake {r : HandshakeRequest} (carries : r.Carries m) : Carries m .handshake (.handshake r)
  | connect {r : ConnectRequest} (carries : r.Carries m) : Carries m .connect (.connect r)
  | disconnect {r : DisconnectRequest} (carries : r.Carries m) :
      Carries m .disconnect (.disconnect r)
  | subscribe {r : SubscriptionRequest} (carries : r.Carries m) :
      Carries m .subscribe (.subscribe r)
  | unsubscribe {r : SubscriptionRequest} (carries : r.Carries m) :
      Carries m .unsubscribe (.unsubscribe r)
  | publish {r : PublishRequest} (carries : r.Carries m) : Carries m .publish (.publish r)

def OptionalText (found : Option Json) : Prop :=
  found = none ∨ found = some .null ∨ ∃ s, found = some (.string s)

def OptionalTexts (found : Option Json) : Prop :=
  found = none ∨ ∃ read : List String, found = some (.array (read.map .string))

/-- The fields that must have a type have it. -/
def Fits (m : Message) : Route → Prop
  | .handshake =>
    OptionalText (m.shown? Field.version) ∧ OptionalText (m.shown? Field.minimumVersion) ∧
      OptionalTexts (m.shown? Field.supportedConnectionTypes)
  | .connect =>
    OptionalText (m.shown? Field.clientId) ∧ OptionalText (m.shown? Field.connectionType)
  | .disconnect => OptionalText (m.shown? Field.clientId)
  | .subscribe | .unsubscribe =>
    OptionalText (m.shown? Field.clientId) ∧ OptionalText (m.shown? Field.subscription)
  | .publish =>
    OptionalText (m.shown? Field.clientId) ∧
      ∃ path, m.shown? Field.channel = some (.string path)
  | .unknownMeta | .wildcardPublish | .service => False

/-- What the others hold stands for some tree. -/
def Settles (m : Message) (route : Route) : Prop :=
  ∀ name ∈ route.untyped, ∀ j ∈ m.shown? name, ∃ k, j.Stands k

theorem anyGiven {found : Option Json} :
    (∃ read, AnyGiven found read) ↔ ∀ j ∈ found, ∃ k, j.Stands k := by
  constructor
  · rintro ⟨_, _ | _ | ⟨given, stands⟩⟩ j inside
    · cases inside
    · cases inside
      exact ⟨.null, .null⟩
    · cases inside
      exact ⟨_, stands⟩
  · intro settled
    cases found with
    | none => exact ⟨none, .absent⟩
    | some j =>
      by_cases isNull : j = .null
      · exact ⟨none, isNull ▸ .null⟩
      · obtain ⟨k, stands⟩ := settled j rfl
        exact ⟨some k, .carried isNull stands⟩

theorem textGiven {found : Option Json} : (∃ read, TextGiven found read) ↔ OptionalText found := by
  constructor
  · rintro ⟨_, _ | _ | ⟨given, rfl⟩⟩
    · exact .inl rfl
    · exact .inr (.inl rfl)
    · exact .inr (.inr ⟨_, rfl⟩)
  · rintro (rfl | rfl | ⟨s, rfl⟩)
    · exact ⟨none, .absent⟩
    · exact ⟨none, .null⟩
    · exact ⟨some s, .carried nofun rfl⟩

theorem textsListed {found : Option Json} : (∃ read, Listed found read) ↔ OptionalTexts found := by
  constructor
  · rintro ⟨-, _ | read⟩
    · exact .inl rfl
    · exact .inr ⟨_, rfl⟩
  · rintro (rfl | ⟨read, rfl⟩)
    · exact ⟨[], .absent⟩
    · exact ⟨read, .carried read⟩

theorem carriesIffFits {route : Route} :
    (∃ request, Carries m route request) ↔ Fits m route ∧ Settles m route := by
  constructor
  · rintro ⟨_, carries⟩
    have settled : ∀ {name value}, AnyGiven (m.shown? name) value →
        ∀ j ∈ m.shown? name, ∃ k, j.Stands k := fun given => anyGiven.mp ⟨_, given⟩
    cases carries with
    | handshake carries =>
      refine ⟨⟨textGiven.mp ⟨_, carries.version⟩, textGiven.mp ⟨_, carries.minimumVersion⟩,
        textsListed.mp ⟨_, carries.supportedConnectionTypes⟩⟩, ?_⟩
      simp only [Settles, Route.untyped, List.forall_mem_cons]
      exact ⟨settled carries.id, settled carries.ext, by simp⟩
    | connect carries =>
      refine ⟨⟨textGiven.mp ⟨_, carries.clientId⟩, textGiven.mp ⟨_, carries.connectionType⟩⟩, ?_⟩
      simp only [Settles, Route.untyped, List.forall_mem_cons]
      exact ⟨settled carries.id, settled carries.advice, by simp⟩
    | disconnect carries =>
      exact ⟨textGiven.mp ⟨_, carries.clientId⟩, List.forall_mem_singleton.mpr (settled carries.id)⟩
    | subscribe carries | unsubscribe carries =>
      exact ⟨⟨textGiven.mp ⟨_, carries.clientId⟩, textGiven.mp ⟨_, carries.subscription⟩⟩,
        List.forall_mem_singleton.mpr (settled carries.id)⟩
    | publish carries =>
      exact ⟨⟨textGiven.mp ⟨_, carries.clientId⟩, _, carries.channel⟩,
        List.forall_mem_singleton.mpr (settled carries.id)⟩
  · rintro ⟨fits, settles⟩
    have given : ∀ name ∈ route.untyped, ∃ value, AnyGiven (m.shown? name) value :=
      fun name inside => anyGiven.mpr (settles name inside)
    cases route with
    | handshake =>
      obtain ⟨version, minimum, types⟩ := fits
      obtain ⟨_, id⟩ := given Field.id (by decide)
      obtain ⟨_, version⟩ := textGiven.mpr version
      obtain ⟨_, minimum⟩ := textGiven.mpr minimum
      obtain ⟨_, types⟩ := textsListed.mpr types
      obtain ⟨_, ext⟩ := given Field.ext (by decide)
      exact ⟨_, .handshake (r := ⟨_, _, _, _, _⟩) ⟨id, version, minimum, types, ext⟩⟩
    | connect =>
      obtain ⟨client, type⟩ := fits
      obtain ⟨_, id⟩ := given Field.id (by decide)
      obtain ⟨_, client⟩ := textGiven.mpr client
      obtain ⟨_, type⟩ := textGiven.mpr type
      obtain ⟨_, advice⟩ := given Field.advice (by decide)
      exact ⟨_, .connect (r := ⟨_, _, _, _⟩) ⟨id, client, type, advice⟩⟩
    | disconnect =>
      obtain ⟨_, id⟩ := given Field.id (by decide)
      obtain ⟨_, client⟩ := textGiven.mpr fits
      exact ⟨_, .disconnect (r := ⟨_, _⟩) ⟨id, client⟩⟩
    | subscribe =>
      obtain ⟨_, id⟩ := given Field.id (by decide)
      obtain ⟨⟨_, client⟩, _, channel⟩ := And.imp textGiven.mpr textGiven.mpr fits
      exact ⟨_, .subscribe (r := ⟨_, _, _⟩) ⟨id, client, channel⟩⟩
    | unsubscribe =>
      obtain ⟨_, id⟩ := given Field.id (by decide)
      obtain ⟨⟨_, client⟩, _, channel⟩ := And.imp textGiven.mpr textGiven.mpr fits
      exact ⟨_, .unsubscribe (r := ⟨_, _, _⟩) ⟨id, client, channel⟩⟩
    | publish =>
      obtain ⟨client, path, channel⟩ := fits
      obtain ⟨_, id⟩ := given Field.id (by decide)
      obtain ⟨_, client⟩ := textGiven.mpr client
      exact ⟨_, .publish (r := ⟨_, _, path⟩) ⟨id, client, channel⟩⟩
    | unknownMeta | wildcardPublish | service => exact fits.elim

variable {n : Message} {route : Route} {read : Message → Except ProcessingError Request}
  {request : Request}

/-- The request that some fields make. -/
def taken (find : String → Option Json) : Route → Option Request
  | .handshake => (takeAll find handshakeSlots {}).map .handshake
  | .connect => (takeAll find connectSlots {}).map .connect
  | .disconnect => (takeAll find disconnectSlots {}).map .disconnect
  | .subscribe => (takeAll find subscriptionSlots {}).map .subscribe
  | .unsubscribe => (takeAll find subscriptionSlots {}).map .unsubscribe
  | .publish =>
    ((takeAll find publishSlots {}).bind fun draft => (finishPublish draft).toOption).map .publish
  | .unknownMeta | .wildcardPublish | .service => none

theorem readTaken (reader : reader? route = some read) (once : m.fields.names.Nodup) :
    (read m).toOption = taken m.shown? route := by
  obtain ⟨handshake, connect, disconnect, subscription, publish⟩ := fieldsApart
  cases route <;> cases reader <;> simp only [toOptionMap, taken]
  · exact congrArg _ (fieldsTaken handshake once {})
  · exact congrArg _ (fieldsTaken connect once {})
  · exact congrArg _ (fieldsTaken disconnect once {})
  · exact congrArg _ (fieldsTaken subscription once {})
  · exact congrArg _ (fieldsTaken subscription once {})
  · rw [← fieldsTaken publish once {}, PublishRequest.ofMessage]
    cases fields publishSlots {} m with
    | error e => rfl
    | ok draft => exact congrArg _ (toOptionMapError _ _)

theorem takenCarries : taken m.shown? route = some request ↔ Carries m route request := by
  constructor
  · intro found
    cases route with
    | handshake =>
      obtain ⟨r, read, rfl⟩ := Option.map_eq_some_iff.mp found
      exact .handshake (handshakeIff.mp read)
    | connect =>
      obtain ⟨r, read, rfl⟩ := Option.map_eq_some_iff.mp found
      exact .connect (connectIff.mp read)
    | disconnect =>
      obtain ⟨r, read, rfl⟩ := Option.map_eq_some_iff.mp found
      exact .disconnect (disconnectIff.mp read)
    | subscribe =>
      obtain ⟨r, read, rfl⟩ := Option.map_eq_some_iff.mp found
      exact .subscribe (subscriptionIff.mp read)
    | unsubscribe =>
      obtain ⟨r, read, rfl⟩ := Option.map_eq_some_iff.mp found
      exact .unsubscribe (subscriptionIff.mp read)
    | publish =>
      obtain ⟨r, read, rfl⟩ := Option.map_eq_some_iff.mp found
      exact .publish (publishIff.mp read)
    | unknownMeta | wildcardPublish | service => cases found
  · intro carries
    cases carries with
    | handshake carries => exact congrArg (Option.map _) (handshakeIff.mpr carries)
    | connect carries => exact congrArg (Option.map _) (connectIff.mpr carries)
    | disconnect carries => exact congrArg (Option.map _) (disconnectIff.mpr carries)
    | subscribe carries | unsubscribe carries =>
      exact congrArg (Option.map _) (subscriptionIff.mpr carries)
    | publish carries => exact congrArg (Option.map _) (publishIff.mpr carries)

theorem readIff (reader : reader? route = some read) (once : m.fields.names.Nodup) :
    read m = .ok request ↔ Carries m route request := by
  rw [← okOfToOption, readTaken reader once, takenCarries]

theorem takenCongr {find other : String → Option Json}
    (alike : ∀ name ∈ route.recognised, find name = other name) :
    taken find route = taken other route := by
  have filled : ∀ {σ : Type} (slots : List (JsonSlot σ)) (initial : σ),
      slots.map Slot.name = route.recognised →
        takeAll find slots initial = takeAll other slots initial := by
    intro σ slots initial named
    refine takeAllCongr (fun slot inside => alike slot.name ?_) initial
    exact named ▸ List.mem_map_of_mem inside
  cases route with
  | handshake => exact congrArg (Option.map _) (filled handshakeSlots {} rfl)
  | connect => exact congrArg (Option.map _) (filled connectSlots {} rfl)
  | disconnect => exact congrArg (Option.map _) (filled disconnectSlots {} rfl)
  | subscribe | unsubscribe => exact congrArg (Option.map _) (filled subscriptionSlots {} rfl)
  | publish => simp only [taken, filled publishSlots {} rfl]
  | unknownMeta | wildcardPublish | service => rfl

end Request

end Bayeux
