import Bayeux.Proofs.Message.Accessors
import Bayeux.Processor.Standard
/-! What a reply has of its request, and what it says about it. The channel, the id and the verdict
are written first, with an error beside a verdict against the request; whatever is put into
the reply later stands beside them. -/

namespace Bayeux

namespace Message
variable {m : Message}

def Reports (m : Message) (verdict : Bool) : Prop :=
  m.get? Field.successful = some (.bool verdict)

theorem isSuccessfulOf {verdict : Bool} (reports : m.Reports verdict) :
    m.isSuccessful = verdict := by
  rw [Reports] at reports
  simp [isSuccessful, reports, Value.asBool?]

end Message

namespace Reply

/-- The reply repeats these of its request, and has nothing from or for the extensions. -/
structure Repeats (path : String) (request reply : Message) : Prop where
  channel : reply.get? Field.channel = some (.string path)
  id : reply.get? Field.id = request.get? Field.id
  ext : reply.get? Field.ext = none

/-- It also says whether the request has succeeded, and what went wrong if it has not. -/
structure Correlates (path : String) (request : Message) (verdict : Bool) (reply : Message) : Prop
    extends Repeats path request reply where
  successful : reply.Reports verdict
  error : (reply.get? Field.error).isSome = !verdict

variable {path : String} {request reply : Message} {verdict : Bool} {name : String}

def correlated : List String :=
  [Field.channel, Field.id, Field.ext, Field.successful, Field.error]

theorem correlatesUntouched {other : Message} (correlates : Correlates path request verdict reply)
    (same : ∀ name ∈ correlated, other.get? name = reply.get? name) :
    Correlates path request verdict other where
  channel := (same _ (by decide)).trans correlates.channel
  id := (same _ (by decide)).trans correlates.id
  ext := (same _ (by decide)).trans correlates.ext
  successful := (same _ (by decide)).trans correlates.successful
  error := (congrArg Option.isSome (same _ (by decide))).trans correlates.error

theorem correlatesPut (correlates : Correlates path request verdict reply)
    (beside : name ∉ correlated) (value : Value) :
    Correlates path request verdict (reply.put name value) := by
  refine correlatesUntouched correlates fun other kept => ?_
  rw [Message.getPut, if_neg]
  rintro rfl
  exact beside kept

theorem correlatesPutAdvice (correlates : Correlates path request verdict reply) (field : String)
    (value : Value) : Correlates path request verdict (reply.putAdvice field value) := by
  refine correlatesUntouched correlates fun other kept => Message.getPutWithin _ _ _ ?_
  rintro rfl
  exact absurd kept (by decide)

theorem getWithId (reply request : Message) (name : String) :
    (withId reply request).get? name =
      if name = Field.id then (request.get? Field.id).or (reply.get? Field.id)
      else reply.get? name := by
  unfold withId
  cases found : request.get? Field.id with
  | none => split <;> simp_all
  | some id => rw [Message.getPut]; rfl

theorem getWithClient (reply : Message) (clientId? : Option String)
    (other : name ≠ Field.clientId) :
    (withClient reply clientId?).get? name = reply.get? name := by
  cases clientId? with
  | none => rfl
  | some clientId => exact (Message.getPut _ _ _ _).trans (if_neg other)

theorem getSkeleton (path : String) (request : Message) (clientId? : Option String)
    (other : name ≠ Field.clientId) :
    (skeleton path request clientId?).get? name =
      if name = Field.id then request.get? Field.id
      else if name = Field.channel then some (.string path) else none := by
  have empty : ∀ name, (Message.forChannel path).get? name =
      if name = Field.channel then some (.string path) else none := fun name =>
    Message.getPut _ _ _ _
  have unnamed : (Field.id = Field.channel) = False := by decide
  rw [skeleton, getWithClient _ _ other, getWithId, empty, empty]
  simp [unnamed]

theorem correlatesSuccess (path : String) (request : Message) (clientId? : Option String) :
    Correlates path request true (success path request clientId?) := by
  have fields : ∀ {name}, name ≠ Field.clientId →
      (success path request clientId?).get? name =
        if name = Field.successful then some (.bool true)
        else if name = Field.id then request.get? Field.id
        else if name = Field.channel then some (.string path) else none := fun other =>
    (Message.getPut _ _ _ _).trans (by rw [getSkeleton path request clientId? other])
  exact ⟨⟨fields (by decide), fields (by decide), fields (by decide)⟩, fields (by decide),
    congrArg Option.isSome (fields (by decide))⟩

theorem correlatesFailure (path : String) (request : Message) (clientId? : Option String)
    (error : String) (reconnect? : Option String) :
    Correlates path request false (failure path request clientId? error reconnect?) := by
  have fields : ∀ {name}, name ≠ Field.clientId →
      (((skeleton path request clientId?).put Field.successful (.bool false)).putText Field.error
        error).get? name =
        if name = Field.error then some (.string error)
        else if name = Field.successful then some (.bool false)
        else if name = Field.id then request.get? Field.id
        else if name = Field.channel then some (.string path) else none := fun other => by
    rw [Message.putText, Message.getPut, Message.getPut, getSkeleton path request clientId? other]
  have failed : Correlates path request false (((skeleton path request clientId?).put
      Field.successful (.bool false)).putText Field.error error) :=
    ⟨⟨fields (by decide), fields (by decide), fields (by decide)⟩, fields (by decide),
      congrArg Option.isSome (fields (by decide))⟩
  unfold failure
  cases reconnect? with
  | none => exact failed
  | some reconnect => exact correlatesPutAdvice failed _ _

theorem correlatesRefusal (path reason : String) (request : Message) (clientId? : Option String) :
    Correlates path request false (refusal path reason request clientId?) := by
  have fields : ∀ {name}, name ≠ Field.clientId →
      (refusal path reason request clientId?).get? name =
        if name = Field.id then request.get? Field.id
        else if name = Field.error then some (.string reason)
        else if name = Field.channel then some (.string path)
        else if name = Field.successful then some (.bool false) else none := fun other => by
    rw [refusal, getWithClient _ _ other, getWithId]
    simp only [Message.putText, Message.getPut]
    split
    · exact Option.or_none
    · rfl
  exact ⟨⟨fields (by decide), fields (by decide), fields (by decide)⟩, fields (by decide),
    congrArg Option.isSome (fields (by decide))⟩

end Reply
end Bayeux
