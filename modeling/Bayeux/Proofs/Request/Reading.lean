import Bayeux.Proofs.Json.Batches
import Bayeux.Proofs.Request.Fields
/-! Requests depend on the fields of their type alone. Nothing else of a message can change what is
read or spoil it, neither other fields nor the order nor the layers they stand in. What a field
holds that may hold any tree is read as it stands there, unless it embeds a document. -/

namespace Bayeux.Request
open Decode
variable {m n : Message} {route : Route} {read : Message → Except ProcessingError Request}
  {request : Request} {found other : Option Json}

/-- Equal requests, of trees that are equal up to the order of fields. -/
inductive Same : Request → Request → Prop where
  | handshake {r : HandshakeRequest} {id ext : Option Json} (sameId : Option.Rel Json.Same r.id id)
      (sameExt : Option.Rel Json.Same r.ext ext) :
      Same (.handshake r) (.handshake { r with id := id, ext := ext })
  | connect {r : ConnectRequest} {id advice : Option Json} (sameId : Option.Rel Json.Same r.id id)
      (sameAdvice : Option.Rel Json.Same r.advice advice) :
      Same (.connect r) (.connect { r with id := id, advice := advice })
  | disconnect {r : DisconnectRequest} {id : Option Json} (sameId : Option.Rel Json.Same r.id id) :
      Same (.disconnect r) (.disconnect { r with id := id })
  | subscribe {r : SubscriptionRequest} {id : Option Json} (sameId : Option.Rel Json.Same r.id id) :
      Same (.subscribe r) (.subscribe { r with id := id })
  | unsubscribe {r : SubscriptionRequest} {id : Option Json}
      (sameId : Option.Rel Json.Same r.id id) :
      Same (.unsubscribe r) (.unsubscribe { r with id := id })
  | publish {r : PublishRequest} {id : Option Json} (sameId : Option.Rel Json.Same r.id id) :
      Same (.publish r) (.publish { r with id := id })

/-- No document is embedded in a field that may hold any tree. -/
def Plain (m : Message) (route : Route) : Prop :=
  ∀ name ∈ route.untyped, ∀ j ∈ m.shown? name, j.Plain

/-- What the request has of those fields. -/
def untyped : Request → List (String × Option Json)
  | .handshake r => [(Field.id, r.id), (Field.ext, r.ext)]
  | .connect r => [(Field.id, r.id), (Field.advice, r.advice)]
  | .disconnect r => [(Field.id, r.id)]
  | .subscribe r | .unsubscribe r => [(Field.id, r.id)]
  | .publish r => [(Field.id, r.id)]

theorem anyVerbatim (plain : ∀ j ∈ found, j.Plain) {value : Option Json}
    (given : AnyGiven found value) : Verbatim found value := by
  rcases given with _ | _ | ⟨given, stands⟩
  · exact .absent
  · exact .null
  · exact .carried given (Json.standsPlain (plain _ rfl) stands)

theorem carriesUntyped (carries : Carries m route request) :
    ∀ entry ∈ request.untyped, AnyGiven (m.shown? entry.1) entry.2 := by
  cases carries with
  | handshake carries =>
    simp only [untyped, List.forall_mem_cons]
    exact ⟨carries.id, carries.ext, by simp⟩
  | connect carries =>
    simp only [untyped, List.forall_mem_cons]
    exact ⟨carries.id, carries.advice, by simp⟩
  | disconnect carries => exact List.forall_mem_singleton.mpr carries.id
  | subscribe carries | unsubscribe carries => exact List.forall_mem_singleton.mpr carries.id
  | publish carries => exact List.forall_mem_singleton.mpr carries.id

theorem plainArrived {frame : ByteArray} {batch : List Value}
    (read : Frame.decodeBatch frame = .ok batch) (inside : .object m.fields ∈ batch) :
    Plain m route := by
  intro name _ j held
  have sane := Frame.saneBatch read _ inside
  rw [Value.visibleObject, Json.saneFields] at sane
  obtain ⟨-, -, each⟩ := sane
  have found : Table.get? (m.fields.entries.mapValues Value.visible) name = some j :=
    (congrFun m.getVisible name).trans held
  exact (each _ (Table.memOfGet found)).unembedded

theorem settlesPlain (plain : Plain m route) : Settles m route :=
  fun name inside j held => ⟨j, Json.standsSelf (plain name inside j held)⟩

theorem anySame (same : Option.Rel Json.Same found other) (plain : ∀ j ∈ found, j.Plain)
    (plainToo : ∀ j ∈ other, j.Plain) {value : Option Json} (given : AnyGiven found value) :
    ∃ value', AnyGiven other value' ∧ Option.Rel Json.Same value value' := by
  rcases given with _ | _ | ⟨given, stands⟩
  · cases same
    exact ⟨none, .absent, .none⟩
  · cases same with
    | some same =>
      cases same
      exact ⟨none, .null, .none⟩
  · cases same with
    | @some _ k same =>
      obtain rfl := Json.standsPlain (plain _ rfl) stands
      refine ⟨some k, .carried (fun isNull => given ?_) (Json.standsSelf (plainToo k rfl)),
        .some same⟩
      subst isNull
      cases same
      rfl

theorem textSame (same : Option.Rel Json.Same found other) {value : Option String}
    (given : TextGiven found value) : TextGiven other value := by
  rcases given with _ | _ | ⟨given, rfl⟩
  · cases same
    exact .absent
  · cases same with
    | some same =>
      cases same
      exact .null
  · cases same with
    | some same =>
      cases same
      exact .carried given rfl

theorem stringsSame {strings : List String} {items : List Json}
    (same : List.Forall₂ Json.Same (strings.map .string) items) :
    items = strings.map .string := by
  induction strings generalizing items with
  | nil =>
    cases same
    rfl
  | cons s rest ih =>
    cases same with
    | cons head tail =>
      cases head
      rw [ih tail]
      rfl

theorem listedSame (same : Option.Rel Json.Same found other) {strings : List String}
    (listed : Listed found strings) : Listed other strings := by
  rcases listed with _ | _
  · cases same
    exact .absent
  · cases same with
    | some same =>
      cases same with
      | array items =>
        rw [stringsSame (Json.sameItems.mp items)]
        exact .carried strings

theorem carriesSame (plain : Plain m route) (plainToo : Plain n route)
    (alike : ∀ name ∈ route.recognised, Option.Rel Json.Same (m.shown? name) (n.shown? name))
    (carries : Carries m route request) :
    ∃ request', Carries n route request' ∧ request.Same request' := by
  have again : ∀ {name value}, name ∈ route.untyped → name ∈ route.recognised →
      AnyGiven (m.shown? name) value →
        ∃ value', AnyGiven (n.shown? name) value' ∧ Option.Rel Json.Same value value' :=
    fun free known => anySame (alike _ known) (plain _ free) (plainToo _ free)
  cases carries with
  | handshake carries =>
    obtain ⟨id, given, sameId⟩ := again (by decide) (by decide) carries.id
    obtain ⟨ext, ext_, sameExt⟩ := again (by decide) (by decide) carries.ext
    refine ⟨_, .handshake ⟨given, ?_, ?_, ?_, ext_⟩, .handshake sameId sameExt⟩
    · exact textSame (alike Field.version (by decide)) carries.version
    · exact textSame (alike Field.minimumVersion (by decide)) carries.minimumVersion
    · exact listedSame (alike Field.supportedConnectionTypes (by decide))
        carries.supportedConnectionTypes
  | connect carries =>
    obtain ⟨id, given, sameId⟩ := again (by decide) (by decide) carries.id
    obtain ⟨advice, advice_, sameAdvice⟩ := again (by decide) (by decide) carries.advice
    refine ⟨_, .connect ⟨given, ?_, ?_, advice_⟩, .connect sameId sameAdvice⟩
    · exact textSame (alike Field.clientId (by decide)) carries.clientId
    · exact textSame (alike Field.connectionType (by decide)) carries.connectionType
  | disconnect carries =>
    obtain ⟨id, given, sameId⟩ := again (by decide) (by decide) carries.id
    have client := textSame (alike Field.clientId (by decide)) carries.clientId
    refine ⟨_, ?_, .disconnect sameId⟩
    exact .disconnect ⟨given, client⟩
  | subscribe carries =>
    obtain ⟨id, given, sameId⟩ := again (by decide) (by decide) carries.id
    have client := textSame (alike Field.clientId (by decide)) carries.clientId
    have channel := textSame (alike Field.subscription (by decide)) carries.subscription
    refine ⟨_, ?_, .subscribe sameId⟩
    exact .subscribe ⟨given, client, channel⟩
  | unsubscribe carries =>
    obtain ⟨id, given, sameId⟩ := again (by decide) (by decide) carries.id
    have client := textSame (alike Field.clientId (by decide)) carries.clientId
    have channel := textSame (alike Field.subscription (by decide)) carries.subscription
    refine ⟨_, ?_, .unsubscribe sameId⟩
    exact .unsubscribe ⟨given, client, channel⟩
  | publish carries =>
    obtain ⟨id, given, sameId⟩ := again (by decide) (by decide) carries.id
    have client := textSame (alike Field.clientId (by decide)) carries.clientId
    have channel := alike Field.channel (by decide)
    rw [carries.channel] at channel
    cases path : n.shown? Field.channel with
    | none =>
      rw [path] at channel
      cases channel
    | some j =>
      rw [path] at channel
      cases channel with
      | some same =>
        cases same
        refine ⟨_, ?_, .publish sameId⟩
        exact .publish ⟨given, client, path⟩

theorem fieldsRefused {σ : Type} {slots : List (JsonSlot σ)} {initial : σ} {e : ProcessingError}
    (refused : fields slots initial m = .error e) :
    ∃ fault, e = .decode (m.channel?.getD "<none>") fault := by
  unfold fields at refused
  cases read : struct "request" slots initial m.visible with
  | ok s =>
    rw [read] at refused
    cases refused
  | error fault =>
    rw [read] at refused
    cases refused
    exact ⟨fault, rfl⟩

theorem publishRefused {e : ProcessingError} (refused : PublishRequest.ofMessage m = .error e) :
    ∃ fault, e = .decode (m.channel?.getD "<none>") fault := by
  unfold PublishRequest.ofMessage at refused
  cases read : fields publishSlots {} m with
  | error other =>
    rw [read] at refused
    cases refused
    exact fieldsRefused read
  | ok draft =>
    rw [read] at refused
    cases finished : finishPublish draft with
    | ok r =>
      simp only [finished] at refused
      cases refused
    | error fault =>
      simp only [finished] at refused
      cases refused
      exact ⟨fault, rfl⟩

theorem readRefused (reader : reader? route = some read) {e : ProcessingError}
    (refused : read m = .error e) :
    ∃ fault, e = .decode (m.channel?.getD "<none>") fault := by
  have opened : ∀ {α : Type} {made : α → Request} {x : Except ProcessingError α},
      x.map made = .error e → x = .error e := by
    intro α made x mapped
    cases x with
    | error other => exact congrArg Except.error (Except.error.inj mapped)
    | ok r => cases mapped
  cases route <;> cases reader
  · exact fieldsRefused (opened refused)
  · exact fieldsRefused (opened refused)
  · exact fieldsRefused (opened refused)
  · exact fieldsRefused (opened refused)
  · exact fieldsRefused (opened refused)
  · exact publishRefused (opened refused)

/- The error as well, for it names the channel only. -/
theorem readOverlay (reader : reader? route = some read) (m : Message) :
    read m.overlay = read m := by
  have channel : m.overlay.channel? = m.channel? := by
    simp only [Message.channel?, Message.textField?, Message.getOverlay]
  have same : ∀ {σ : Type} (slots : List (JsonSlot σ)) (initial : σ),
      fields slots initial m.overlay = fields slots initial m := fun slots initial => by
    rw [fields, fields, Message.visibleOverlay, channel]
  cases route <;> cases reader
  · simp only [HandshakeRequest.ofMessage, same]
  · simp only [ConnectRequest.ofMessage, same]
  · simp only [DisconnectRequest.ofMessage, same]
  · simp only [SubscriptionRequest.ofMessage, same]
  · simp only [SubscriptionRequest.ofMessage, same]
  · simp only [PublishRequest.ofMessage, same, channel]

/-- All that a reading depends on. -/
structure ReadsFields (route : Route) (read : Message → Except ProcessingError Request)
    (m : Message) : Prop where
  fits : Plain m route → ((∃ request, read m = .ok request) ↔ Fits m route)
  settled : (∃ request, read m = .ok request) ↔ Fits m route ∧ Settles m route
  refused : ∀ e, read m = .error e → ∃ fault, e = .decode (m.channel?.getD "<none>") fault
  carries : ∀ request, read m = .ok request ↔ Carries m route request
  verbatim : ∀ request, read m = .ok request → ∀ entry ∈ request.untyped,
    (∀ j ∈ m.shown? entry.1, j.Plain) → Verbatim (m.shown? entry.1) entry.2
  alike : ∀ n : Message, n.fields.names.Nodup →
    (∀ name ∈ route.recognised, m.shown? name = n.shown? name) →
    (read m).toOption = (read n).toOption
  same : ∀ n : Message, n.fields.names.Nodup → Plain m route → Plain n route →
    (∀ name ∈ route.recognised, Option.Rel Json.Same (m.shown? name) (n.shown? name)) →
    Option.Rel Same (read m).toOption (read n).toOption
  reordered : ∀ n : Message,
    List.Perm (m.fields.entries.mapValues Value.visible)
      (n.fields.entries.mapValues Value.visible) →
    (read m).toOption = (read n).toOption
  added : ∀ name ∉ route.recognised, ∀ value,
    (read (m.put name value)).toOption = (read m).toOption
  removed : ∀ name ∉ route.recognised, (read (m.remove name).2).toOption = (read m).toOption
  overlaid : read m.overlay = read m

theorem readAlike (reader : reader? route = some read) (once : m.fields.names.Nodup)
    (onceToo : n.fields.names.Nodup)
    (alike : ∀ name ∈ route.recognised, m.shown? name = n.shown? name) :
    (read m).toOption = (read n).toOption := by
  rw [readTaken reader once, readTaken reader onceToo, takenCongr alike]

theorem relSymm {x y : Option Json} (same : Option.Rel Json.Same x y) :
    Option.Rel Json.Same y x := by
  cases same with
  | none => exact .none
  | some same => exact .some (Json.sameSymm same)

theorem readSame (reader : reader? route = some read) (once : m.fields.names.Nodup)
    (onceToo : n.fields.names.Nodup) (plain : Plain m route) (plainToo : Plain n route)
    (alike : ∀ name ∈ route.recognised, Option.Rel Json.Same (m.shown? name) (n.shown? name)) :
    Option.Rel Same (read m).toOption (read n).toOption := by
  rw [readTaken reader once, readTaken reader onceToo]
  cases first : taken m.shown? route with
  | some request =>
    obtain ⟨other, carries, same⟩ := carriesSame plain plainToo alike (takenCarries.mp first)
    rw [takenCarries.mpr carries]
    exact .some same
  | none =>
    cases second : taken n.shown? route with
    | none => exact .none
    | some other =>
      have turned := fun name known => relSymm (alike name known)
      obtain ⟨request, carries, -⟩ :=
        carriesSame plainToo plain turned (takenCarries.mp second)
      rw [takenCarries.mpr carries] at first
      cases first

theorem readReordered (reader : reader? route = some read) (once : m.fields.names.Nodup)
    (perm : List.Perm (m.fields.entries.mapValues Value.visible)
      (n.fields.entries.mapValues Value.visible)) :
    (read m).toOption = (read n).toOption := by
  have keys : ∀ m : Message,
      (m.fields.entries.mapValues Value.visible).keys = m.fields.names := fun m =>
    Table.keysMapValues Value.visible m.fields.entries
  have distinct : (m.fields.entries.mapValues Value.visible).Distinct := by
    rw [Table.Distinct, keys]
    exact once
  have names : List.Perm (m.fields.entries.mapValues Value.visible).keys
      (n.fields.entries.mapValues Value.visible).keys := perm.map Prod.fst
  have distinctToo := names.nodup_iff.mp distinct
  refine readAlike reader once (keys n ▸ distinctToo) fun name _ => ?_
  rw [← Message.getVisible, ← Message.getVisible]
  exact Table.getPerm distinct perm name

theorem readsItsFields (reader : reader? route = some read) (distinct : m.fields.Distinct) :
    ReadsFields route read m := by
  have once := Record.namesOnce distinct
  have settled : (∃ request, read m = .ok request) ↔ Fits m route ∧ Settles m route := by
    rw [← carriesIffFits]
    exact exists_congr fun request => readIff reader once
  have shown : ∀ {n : Message}, n.fields.Distinct →
      (∀ name ∈ route.recognised, n.get? name = m.get? name) →
        (read n).toOption = (read m).toOption := fun other alike =>
    readAlike reader (Record.namesOnce other) once fun name known =>
      congrArg (Option.map Value.visible) (alike name known)
  refine ⟨fun plain => ?fits, settled, fun e => readRefused reader,
    fun request => readIff reader once, fun request ok entry inside plain => ?verbatim,
    fun n => readAlike reader once, fun n => readSame reader once,
    fun n => readReordered reader once, fun name unknown value => ?added,
    fun name unknown => ?removed, readOverlay reader m⟩
  case fits => exact settled.trans (and_iff_left (settlesPlain plain))
  case verbatim =>
    exact anyVerbatim plain (carriesUntyped ((readIff reader once).mp ok) entry inside)
  case added =>
    refine shown (Record.distinctPut distinct name value) fun other known => ?_
    have apart : other ≠ name := fun same => unknown (same ▸ known)
    exact (Record.getPut m.fields name other value).trans (if_neg apart)
  case removed =>
    refine shown (Record.distinctRemove distinct name) fun other known => ?_
    have apart : other ≠ name := fun same => unknown (same ▸ known)
    exact (Record.getRemove distinct name other).trans (if_neg apart)

/- One text hides a number below it, and one number is gone. -/
theorem readsItsFieldsPatched :
    let m : Message := ⟨.patched
      (.plain [(Field.clientId, .integer 1), (Field.connectionType, .integer 2), ("other", .null)])
      [(Field.id, .integer 3), (Field.clientId, .string "a")] [Field.connectionType]⟩
    let read : Message → Except ProcessingError Request :=
      fun m => (ConnectRequest.ofMessage m).map .connect
    m.fields.Distinct ∧ ReadsFields .connect read m ∧
      read m = .ok (.connect { id := some (.number (.integer 3)), clientId := some "a" }) := by
  intro m read
  have distinct : m.fields.Distinct :=
    (by decide : [Field.clientId, Field.connectionType, "other"].Nodup ∧
      [Field.id, Field.clientId].Nodup)
  have reads : ReadsFields .connect read m := readsItsFields rfl distinct
  exact ⟨distinct, reads, rfl⟩

/- The list stands for its object; a number in the place of the text is refused. -/
theorem readsEmbeddedId :
    let embeds : Value → Message := fun v =>
      ⟨.plain [(Field.id, .object (.plain [(Json.embeddedField, v)]))]⟩
    let m := embeds (.string "[1]")
    let read : Message → Except ProcessingError Request :=
      fun m => (ConnectRequest.ofMessage m).map .connect
    let list : Json := .array [.number (.integer 1)]
    read m = .ok (.connect { id := some list }) ∧ ¬Verbatim (m.shown? Field.id) (some list) ∧
      Fits (embeds (.integer 1)) .connect ∧
      (read (embeds (.integer 1))).toOption.isNone = true := by
  intro embeds m read list
  have parsed : Json.readText "[1]" = .ok list := by decide +kernel
  have carries : Carries m .connect (.connect { id := some list }) :=
    .connect ⟨.carried nofun (.document parsed), .absent, .absent, .absent⟩
  have once : m.fields.names.Nodup := List.nodup_singleton _
  have reader : reader? .connect = some read := rfl
  refine ⟨(readIff reader once).mpr carries, fun verbatim => ?_, ⟨.inl rfl, .inl rfl⟩, rfl⟩
  have shown : m.shown? Field.id = some (.object [(Json.embeddedField, .string "[1]")]) := rfl
  rw [shown] at verbatim
  cases verbatim with
  | carried _ same => exact nomatch same

end Bayeux.Request
