import Bayeux.Proofs.Channel.Segments
/-! The grammar of channel paths. A text is a channel exactly if it is short, has no controls and
spells segments of which only the last may be a wildcard. No text spells two lists of
segments, so the segments and the kind of a channel are those of the grammar, and no
subtraction or slice taken on the way goes wrong. -/

namespace Bayeux.Channel

def IsSegment (segment : String) : Prop := segment ≠ "" ∧ '/' ∉ segment.toList

def IsTame (segment : String) : Prop := segment ≠ "*" ∧ segment ≠ "**"

/-- Segments, each behind a slash; a wildcard is not followed by another one. -/
inductive Spells : String → List String → Prop
  | last {segment : String} (plain : IsSegment segment) : Spells ("/" ++ segment) [segment]
  | cons {segment path : String} {segments : List String} (plain : IsSegment segment)
      (tame : IsTame segment) (rest : Spells path segments) :
      Spells ("/" ++ segment ++ path) (segment :: segments)

def IsPrintable (c : Char) : Prop := ¬(c.toNat < 0x20 ∨ 0x7f ≤ c.toNat ∧ c.toNat ≤ 0x9f)

structure Grammatical (path : String) : Prop where
  short : path.utf8ByteSize ≤ 1024
  printable : ∀ c ∈ path.toList, IsPrintable c
  spelled : ∃ segments, Spells path segments

def BeginsWith (path root : String) : Prop := ∃ rest, path = root ++ rest

def IsFree (path : String) : Prop := ¬BeginsWith path "/meta/" ∧ ¬BeginsWith path "/service/"

inductive Classed (path : String) (segments : List String) : ChannelKind → Prop
  | metaChannel (root : BeginsWith path "/meta/") : Classed path segments .metaChannel
  | service (other : ¬BeginsWith path "/meta/") (root : BeginsWith path "/service/") :
      Classed path segments .service
  | wild (free : IsFree path) (last : segments.getLast? = some "*") : Classed path segments .wild
  | deepWild (free : IsFree path) (last : segments.getLast? = some "**") :
      Classed path segments .deepWild
  | application (free : IsFree path) (one : segments.getLast? ≠ some "*")
      (two : segments.getLast? ≠ some "**") : Classed path segments .application

section Spells
variable {path : String} {segments others : List String}

theorem spellsSlash (spells : Spells path segments) : path.toList = '/' :: path.toList.drop 1 := by
  cases spells with
  | last plain => simp
  | cons plain tame rest => simp

theorem spellsSome (spells : Spells path segments) : segments ≠ [] := by
  cases spells with
  | last plain => exact List.cons_ne_nil _ _
  | cons plain tame rest => exact List.cons_ne_nil _ _

theorem spellsPlain (spells : Spells path segments) : ∀ segment ∈ segments, IsSegment segment := by
  induction spells with
  | last plain => simpa using plain
  | cons plain tame rest ih => exact List.forall_mem_cons.mpr ⟨plain, ih⟩

theorem spellsTame (spells : Spells path segments) :
    ∀ segment ∈ segments.dropLast, IsTame segment := by
  induction spells with
  | last plain => simp
  | cons plain tame rest ih =>
    rw [List.dropLast_cons_of_ne_nil (spellsSome rest)]
    exact List.forall_mem_cons.mpr ⟨tame, ih⟩

theorem spellsPieces (spells : Spells path segments) :
    pieces path = segments.map String.toList := by
  induction spells with
  | last plain => simp [pieces, Text.splitPiece plain.2]
  | @cons segment path segments plain tame rest ih =>
    rw [pieces] at ih
    rw [List.map_cons, ← ih, ← Text.splitAppend plain.2, ← spellsSlash rest]
    simp [pieces]

theorem spellsJoined (spells : Spells path segments) :
    "/" ++ "/".intercalate segments = path := by
  induction spells with
  | last plain => rw [String.intercalate_singleton]
  | cons plain tame rest ih =>
    obtain ⟨next, others, rfl⟩ := List.exists_cons_of_ne_nil (spellsSome rest)
    rw [String.intercalate_cons_cons, ← ih]
    simp only [String.append_assoc]

end Spells

/- The induction is on the pieces; the last one ends the text, and any other has its slash behind
it from the join. -/
theorem spellsJoin {pieces : List (List Char)} (some_ : pieces ≠ [])
    (plain : ∀ piece ∈ pieces, piece ≠ [] ∧ '/' ∉ piece)
    (tame : ∀ piece ∈ pieces.dropLast, piece ≠ single ∧ piece ≠ deep) :
    Spells (String.ofList ('/' :: Text.join '/' pieces)) (pieces.map String.ofList) := by
  have segment : ∀ piece : List Char, piece ≠ [] ∧ '/' ∉ piece → IsSegment (String.ofList piece) :=
    fun piece good => ⟨by simpa [← String.toList_inj] using good.1, by simpa using good.2⟩
  induction pieces with
  | nil => exact absurd rfl some_
  | cons piece rest ih =>
    have here := segment piece (plain piece List.mem_cons_self)
    cases rest with
    | nil =>
      have text : String.ofList ('/' :: Text.join '/' [piece]) = "/" ++ String.ofList piece := by
        simp [Text.join]
      rw [text]
      exact .last here
    | cons next others =>
      have text : String.ofList ('/' :: Text.join '/' (piece :: next :: others)) =
          "/" ++ String.ofList piece ++ String.ofList ('/' :: Text.join '/' (next :: others)) := by
        simp [← String.toList_inj, Text.join]
      have wild := tame piece List.mem_cons_self
      have inner : IsTame (String.ofList piece) := by
        constructor <;> rw [ne_eq, ← String.toList_inj, String.toList_ofList]
        · exact wild.1
        · exact wild.2
      rw [text, List.map_cons]
      exact .cons here inner (ih (List.cons_ne_nil _ _)
        (fun other inside => plain other (List.mem_cons_of_mem _ inside))
        (fun other inside => tame other (List.mem_cons_of_mem _ inside)))

/-! Subtractions and slices that can go wrong, `none` where they do. -/

def before? : Nat → Option Nat
  | 0 => none
  | n + 1 => some n

def firstOf? {α : Type} (items : List α) (count : Nat) : Option (List α) :=
  if count ≤ items.length then some (items.take count) else none

/-- What stands behind the first byte, if a character ends there. -/
def behindByte? : List Char → Option (List Char)
  | [] => none
  | c :: rest => if c.utf8Size = 1 then some rest else none

/-- The faults of the pieces. -/
def piecesFault? (pieces : List (List Char)) : Option (Option ChannelFault) :=
  if pieces.any List.isEmpty then some (some .emptySegment)
  else do
    let inner ← firstOf? pieces (← before? pieces.length)
    return if inner.any fun piece => piece == single || piece == deep then some .innerWildcard
      else none

/-- `fault?` with every subtraction and slice checked. -/
def faultChecked? (path : String) : Option (Option ChannelFault) :=
  if path.isEmpty then some (some .empty)
  else if path.utf8ByteSize > maxPathSize then some (some .tooLong)
  else if path.toList.head? ≠ some '/' then some (some .noSlash)
  else if path.toList.any Text.isControl then some (some .control)
  else (behindByte? path.toList).bind fun rest => piecesFault? (Text.split '/' rest)

def stemsAgree? (pattern channel : Channel) (stem : Nat) : Option Bool := do
  return (← firstOf? channel.segments stem) == (← firstOf? pattern.segments stem)

/-- `covers` with every subtraction and slice checked. -/
def coversChecked? (pattern channel : Channel) : Option Bool := do
  let stem ← before? pattern.segments.length
  match pattern.kind with
  | .wild =>
    if channel.segments.length = pattern.segments.length then stemsAgree? pattern channel stem
    else some false
  | .deepWild =>
    if channel.segments.length > stem then stemsAgree? pattern channel stem else some false
  | _ => some (pattern.path == channel.path)

theorem controlIff (c : Char) : Text.isControl c = false ↔ IsPrintable c := by
  simp only [Text.isControl, IsPrintable, Bool.or_eq_false_iff, Bool.and_eq_false_iff,
    decide_eq_false_iff_not]
  omega

theorem faultNoneIff (path : String) : fault? path = none ↔
    path.utf8ByteSize ≤ maxPathSize ∧ path.toList.head? = some '/' ∧
      (∀ c ∈ path.toList, Text.isControl c = false) ∧ (∀ piece ∈ pieces path, piece ≠ []) ∧
        ∀ piece ∈ (pieces path).dropLast, piece ≠ single ∧ piece ≠ deep := by
  unfold fault?
  cases empty : path.isEmpty with
  | true =>
    have none_ : path.toList = [] := by simpa using empty
    simp [none_]
  | false => grind

theorem pathJoined {path : String} (slash : path.toList.head? = some '/') :
    String.ofList ('/' :: Text.join '/' (pieces path)) = path := by
  rw [pieces, Text.joinSplit, ← String.toList_inj, String.toList_ofList]
  cases chars : path.toList with
  | nil => simp [chars] at slash
  | cons first rest => simp_all

theorem grammaticalIff (path : String) : fault? path = none ↔ Grammatical path := by
  rw [faultNoneIff]
  constructor
  · rintro ⟨short, slash, printable, filled, tame⟩
    have whole : ∀ piece ∈ pieces path, piece ≠ [] ∧ '/' ∉ piece := fun piece inside =>
      ⟨filled piece inside, Text.splitWithout '/' _ piece inside⟩
    have some_ : pieces path ≠ [] := Text.splitNonempty '/' _
    have spells := spellsJoin some_ whole tame
    rw [pathJoined slash] at spells
    exact ⟨short, fun c inside => (controlIff c).mp (printable c inside), _, spells⟩
  · rintro ⟨short, printable, segments, spells⟩
    have slash : path.toList.head? = some '/' := by rw [spellsSlash spells, List.head?_cons]
    refine ⟨short, slash, fun c inside => (controlIff c).mpr (printable c inside), ?_, ?_⟩
    · rw [spellsPieces spells, List.forall_mem_map]
      exact fun segment inside => by simpa using (spellsPlain spells segment inside).1
    · rw [spellsPieces spells, ← List.map_dropLast, List.forall_mem_map]
      intro segment inside
      have tame := spellsTame spells segment inside
      exact ⟨fun same => tame.1 (String.toList_inj.mp same),
        fun same => tame.2 (String.toList_inj.mp same)⟩

theorem spelled (c : Channel) : Spells c.path c.segments := by
  obtain ⟨-, -, segments, spells⟩ := (grammaticalIff c.path).mp c.valid
  have same : c.segments = segments := by
    rw [Channel.segments, spellsPieces spells, List.map_map]
    simp
  exact same ▸ spells

theorem startsWithIff (path root : String) :
    startsWith path root = true ↔ BeginsWith path root := by
  rw [startsWith, List.isPrefixOf_iff_prefix]
  constructor
  · rintro ⟨rest, whole⟩
    refine ⟨String.ofList rest, ?_⟩
    rw [← String.toList_inj, String.toList_append, String.toList_ofList, whole]
  · rintro ⟨rest, rfl⟩
    exact ⟨rest.toList, by rw [String.toList_append]⟩

theorem parseIff (path : String) : (∃ c, parse path = .ok c) ↔ fault? path = none := by
  constructor
  · rintro ⟨c, parsed⟩
    exact parseOk parsed ▸ c.valid
  · exact fun valid => ⟨⟨path, valid⟩, parsePath ⟨path, valid⟩⟩

theorem classed (c : Channel) : Classed c.path c.segments c.kind := by
  have reserved := startsWithIff c.path metaRoot
  have service := startsWithIff c.path serviceRoot
  obtain ⟨last, found⟩ : ∃ last, (pieces c.path).getLast? = some last :=
    Option.isSome_iff_exists.mp (List.getLast?_isSome.mpr (Text.splitNonempty '/' _))
  have shown : c.segments.getLast? = some (String.ofList last) := (c.lastSegment last).mpr found
  unfold kind
  rw [found]
  split
  · exact .metaChannel (reserved.mp ‹_›)
  · rename_i other
    split
    · exact .service (fun root => other (reserved.mpr root)) (service.mp ‹_›)
    · rename_i public_
      have free : IsFree c.path :=
        ⟨fun root => other (reserved.mpr root), fun root => public_ (service.mpr root)⟩
      simp only
      split
      · rename_i one
        exact .wild free (shown.trans (one ▸ rfl))
      · rename_i one
        split
        · rename_i two
          exact .deepWild free (shown.trans (two ▸ rfl))
        · rename_i two
          refine .application free ?_ ?_
          · rw [shown, ne_eq, Option.some.injEq, ← String.toList_inj, String.toList_ofList]
            exact one
          · rw [shown, ne_eq, Option.some.injEq, ← String.toList_inj, String.toList_ofList]
            exact two

theorem beforeSome {α : Type} {items : List α} (some_ : items ≠ []) :
    before? items.length = some items.dropLast.length := by
  cases items with
  | nil => exact absurd rfl some_
  | cons first rest => simp [before?]

theorem firstWithin {α : Type} {items : List α} {count : Nat} (within : count ≤ items.length) :
    firstOf? items count = some (items.take count) :=
  if_pos within

theorem firstBefore {α : Type} (items : List α) :
    firstOf? items items.dropLast.length = some items.dropLast := by
  rw [firstWithin (by simp), List.length_dropLast, ← List.dropLast_eq_take]

theorem behindSlash {chars : List Char} (slash : chars.head? = some '/') :
    behindByte? chars = some (chars.drop 1) := by
  cases chars with
  | nil => cases slash
  | cons first rest =>
    obtain rfl := Option.some.inj slash
    rfl

theorem faultChecked (path : String) : faultChecked? path = some (fault? path) := by
  unfold faultChecked? fault?
  by_cases slash : path.toList.head? = some '/'
  · have some_ : pieces path ≠ [] := Text.splitNonempty '/' _
    have checked : (behindByte? path.toList).bind (fun rest => piecesFault? (Text.split '/' rest)) =
        piecesFault? (pieces path) := by
      rw [behindSlash slash]
      rfl
    rw [checked, piecesFault?, beforeSome some_]
    simp only [Option.bind_eq_bind, Option.bind_some, firstBefore]
    grind
  · grind

theorem stemsAgree {pattern channel : Channel}
    (within : pattern.segments.dropLast.length ≤ channel.segments.length) :
    stemsAgree? pattern channel pattern.segments.dropLast.length =
      some (channel.segments.take pattern.segments.dropLast.length ==
        pattern.segments.dropLast) := by
  rw [stemsAgree?, firstWithin within, firstBefore]
  rfl

theorem coversChecked (pattern channel : Channel) :
    coversChecked? pattern channel = some (pattern.covers channel) := by
  have some_ : pattern.segments ≠ [] := spellsSome pattern.spelled
  unfold coversChecked? covers
  rw [beforeSome some_]
  simp only [Option.bind_eq_bind, Option.bind_some]
  cases pattern.kind with
  | wild =>
    simp only
    split
    · rename_i same
      rw [stemsAgree (by simp [same])]
      simp [same]
    · rename_i different
      simp [different]
  | deepWild =>
    simp only
    split
    · rename_i longer
      rw [stemsAgree (Nat.le_of_lt longer), decide_eq_true longer, Bool.true_and]
    · rename_i shorter
      rw [decide_eq_false shorter, Bool.false_and]
  | metaChannel | service | application => rfl

/-- What a channel shows of the text it was read from. -/
structure ReadFrom (c : Channel) (s : String) : Prop where
  path : c.path = s
  spelled : Spells s c.segments
  joined : "/" ++ "/".intercalate c.segments = s
  filled : c.segments ≠ [] ∧ ∀ segment ∈ c.segments, segment ≠ ""
  classed : Classed s c.segments c.kind

theorem readFrom (c : Channel) : ReadFrom c c.path :=
  ⟨rfl, c.spelled, spellsJoined c.spelled,
    ⟨spellsSome c.spelled, fun segment inside => (spellsPlain c.spelled segment inside).1⟩,
    c.classed⟩

theorem parseExact (s : String) :
    ((∃ c, parse s = .ok c) ↔ Grammatical s) ∧
      (∀ c, parse s = .ok c →
        ReadFrom c s ∧ ∀ t d, parse t = .ok d → (c = d ↔ c.path = d.path)) ∧
      faultChecked? s = some (fault? s) ∧
      ∀ pattern channel, coversChecked? pattern channel = some (pattern.covers channel) := by
  refine ⟨(parseIff s).trans (grammaticalIff s), fun c parsed => ⟨?_, fun t d _ => ?_⟩,
    faultChecked s, coversChecked⟩
  · exact parseOk parsed ▸ readFrom c
  · exact ⟨congrArg path, pathInjective⟩

/- Names that only look like wildcards may stand anywhere. -/
theorem parseExactLookalikes :
    let c : Channel := ⟨"/a*/***/**", by decide⟩
    parse "/a*/***/**" = .ok c ∧ Grammatical "/a*/***/**" ∧ ReadFrom c "/a*/***/**" ∧
      ¬Grammatical "/a/*/b" := by
  intro c
  have parsed : parse "/a*/***/**" = .ok c := parsePath c
  have whole := parseExact "/a*/***/**"
  refine ⟨parsed, whole.1.mp ⟨c, parsed⟩, (whole.2.1 c parsed).1, fun inner => ?_⟩
  obtain ⟨d, refused⟩ := (parseExact "/a/*/b").1.mpr inner
  cases refused

end Bayeux.Channel
