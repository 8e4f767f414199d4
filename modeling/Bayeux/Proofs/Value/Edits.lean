import Bayeux.Proofs.Value.Twins
import Bayeux.Value.Path
/-! Edits of a value at any path below it, one after the other. Twins stay
twins when both are edited at one path, whatever layers the path leads through, and the two
answers match. -/

namespace Bayeux

namespace Pairs
variable {α β : Type} {R : α → β → Prop}

theorem pairAt {xs : List α} {ys : List β} (pairs : List.Forall₂ R xs ys) (index : Nat) :
    Option.Rel R xs[index]? ys[index]? := by
  induction pairs generalizing index with
  | nil => exact .none
  | cons head _ ih =>
    cases index with
    | zero => exact .some head
    | succ index => simpa using ih index

theorem pairsSet {xs : List α} {ys : List β} (pairs : List.Forall₂ R xs ys) (index : Nat)
    {x : α} {y : β} (pair : R x y) : List.Forall₂ R (xs.set index x) (ys.set index y) := by
  induction pairs generalizing index with
  | nil => exact .nil
  | cons head tail ih =>
    cases index with
    | zero => exact .cons pair tail
    | succ index => exact .cons head (ih index)

theorem pairsSetLeft {xs : List α} {ys : List β} (pairs : List.Forall₂ R xs ys) {index : Nat}
    {x : α} {y : β} (here : ys[index]? = some y) (pair : R x y) :
    List.Forall₂ R (xs.set index x) ys := by
  obtain ⟨inside, rfl⟩ := List.getElem?_eq_some_iff.mp here
  have both := pairsSet pairs index pair
  rwa [List.set_getElem_self] at both

theorem pairsErase {xs : List α} {ys : List β} (pairs : List.Forall₂ R xs ys) (index : Nat) :
    List.Forall₂ R (xs.eraseIdx index) (ys.eraseIdx index) := by
  induction pairs generalizing index with
  | nil => exact .nil
  | cons head tail ih =>
    cases index with
    | zero => exact tail
    | succ index => exact .cons head (ih index)

theorem relCases {x : Option α} {y : Option β} (rel : Option.Rel R x y) :
    (x = none ∧ y = none) ∨ ∃ a b, x = some a ∧ y = some b ∧ R a b := by
  cases rel with
  | none => exact .inl ⟨rfl, rfl⟩
  | some pair => exact .inr ⟨_, _, rfl, rfl, pair⟩

theorem joinRel {x : Option (Option α)} {y : Option (Option β)}
    (rel : Option.Rel (Option.Rel R) x y) : Option.Rel R x.join y.join := by
  cases rel with
  | none => exact .none
  | some inner => exact inner

end Pairs

/-- What is done to the value at the end of a path; what is written is an `α`. -/
inductive Edit (α : Type) where
  | look
  | overlay
  | assign (value : α)
  | put (name : String) (value : α)
  | remove (name : String)
  | clear
  | push (value : α)
  | set (index : Nat) (value : α)
  | insert (index : Nat) (value : α)
  | erase (index : Nat)
  | extend (values : List α)

namespace Edit

def map {α β : Type} (f : α → β) : Edit α → Edit β
  | .look => .look
  | .overlay => .overlay
  | .assign value => .assign (f value)
  | .put name value => .put name (f value)
  | .remove name => .remove name
  | .clear => .clear
  | .push value => .push (f value)
  | .set index value => .set index (f value)
  | .insert index value => .insert index (f value)
  | .erase index => .erase index
  | .extend values => .extend (values.map f)

theorem mapMap {α β γ : Type} (f : α → β) (g : β → γ) (e : Edit α) :
    (e.map f).map g = e.map (g ∘ f) := by
  cases e <;> simp [map]

def written {α : Type} : Edit α → List α
  | .assign value | .put _ value | .push value | .set _ value | .insert _ value => [value]
  | .extend values => values
  | _ => []

inductive Outcome where
  | done
  | value (value? : Option Value)
  /-- Whether the place was there; an insertion anywhere else is a fault. -/
  | fits (inside : Bool)
  /-- There is no such edit of a value of this kind. -/
  | misfit

def onRecord : Edit Value → Record Value → Record Value × Outcome
  | .put name value, fields => (fields.put name value, .done)
  | .remove name, fields => ((fields.remove name).2, .value (fields.remove name).1)
  | .clear, fields => (fields.clear, .done)
  | _, fields => (fields, .misfit)

def onSequence : Edit Value → Sequence Value → Sequence Value × Outcome
  | .push value, items => (items.push value, .done)
  | .set index value, items => ((items.set index value).2, .value (items.set index value).1)
  | .insert index value, items =>
    ((items.insert index value).2, .fits (items.insert index value).1)
  | .erase index, items => ((items.remove index).2, .value (items.remove index).1)
  | .extend values, items => (items.extend values, .done)
  | .clear, items => (items.clear, .done)
  | _, items => (items, .misfit)

def inside (e : Edit Value) : Value → Value × Outcome
  | .object fields => (.object (e.onRecord fields).1, (e.onRecord fields).2)
  | .array items => (.array (e.onSequence items).1, (e.onSequence items).2)
  | scalar => (scalar, .misfit)

def apply (e : Edit Value) (v : Value) : Value × Outcome :=
  match e with
  | .look => (v, .value (some v))
  | .overlay => (v.overlay, .value (some v.overlay))
  | .assign value => (value, .done)
  | e => e.inside v

inductive Outcome.Rel (R : Value → Value → Prop) : Outcome → Outcome → Prop
  | done : Outcome.Rel R .done .done
  | value {v? w? : Option Value} (same : Option.Rel R v? w?) : Outcome.Rel R (.value v?) (.value w?)
  | fits (inside : Bool) : Outcome.Rel R (.fits inside) (.fits inside)
  | misfit : Outcome.Rel R .misfit .misfit

theorem Outcome.relMono {R S : Value → Value → Prop} (weaker : ∀ v w, R v w → S v w)
    {a b : Outcome} (rel : Outcome.Rel R a b) : Outcome.Rel S a b := by
  cases rel with
  | done => exact .done
  | fits inside => exact .fits inside
  | misfit => exact .misfit
  | value same =>
    cases same with
    | none => exact .value .none
    | some pair => exact .value (.some (weaker _ _ pair))

/-- The same edit writing values that match; looking matches making an overlay. -/
inductive Match (R : Value → Value → Prop) : Edit Value → Edit Value → Prop
  | look : Match R .look .look
  | overlay : Match R .overlay .overlay
  | flat : Match R .overlay .look
  | assign {x y} (pair : R x y) : Match R (.assign x) (.assign y)
  | put (name : String) {x y} (pair : R x y) : Match R (.put name x) (.put name y)
  | remove (name : String) : Match R (.remove name) (.remove name)
  | clear : Match R .clear .clear
  | push {x y} (pair : R x y) : Match R (.push x) (.push y)
  | set (index : Nat) {x y} (pair : R x y) : Match R (.set index x) (.set index y)
  | insert (index : Nat) {x y} (pair : R x y) : Match R (.insert index x) (.insert index y)
  | erase (index : Nat) : Match R (.erase index) (.erase index)
  | extend {xs ys} (pairs : List.Forall₂ R xs ys) : Match R (.extend xs) (.extend ys)

theorem matchMap {α : Type} {R : Value → Value → Prop} {f g : α → Value} (e : Edit α)
    (pairs : ∀ x ∈ e.written, R (f x) (g x)) : Match R (e.map f) (e.map g) := by
  cases e with
  | look => exact .look
  | overlay => exact .overlay
  | assign value => exact .assign (pairs value (by simp [written]))
  | put name value => exact .put name (pairs value (by simp [written]))
  | remove name => exact .remove name
  | clear => exact .clear
  | push value => exact .push (pairs value (by simp [written]))
  | set index value => exact .set index (pairs value (by simp [written]))
  | insert index value => exact .insert index (pairs value (by simp [written]))
  | erase index => exact .erase index
  | extend values =>
    refine .extend ?_
    rw [List.forall₂_map_left_iff, List.forall₂_map_right_iff, List.forall₂_same]
    exact fun value inside => pairs value inside

end Edit

namespace Value

theorem onRecordTwins {e d : Edit Value} (edits : e.Match Twins d) {f g : Record Value}
    (twins : Twins (.object f) (.object g)) :
    Twins (.object (e.onRecord f).1) (.object (d.onRecord g).1) ∧
      Edit.Outcome.Rel Twins (e.onRecord f).2 (d.onRecord g).2 := by
  have fields := fieldsOfTwins twins
  obtain ⟨left, right⟩ := distinctOfTwins twins
  cases edits with
  | put name pair =>
    refine ⟨twinsOfFields (Record.distinctPut left _ _) (Record.distinctPut right _ _) ?_, .done⟩
    intro other
    simp only [Edit.onRecord, Record.getPut]
    split
    · exact .some pair
    · exact fields other
  | remove name =>
    refine ⟨twinsOfFields (Record.distinctRemove left _) (Record.distinctRemove right _) ?_, ?_⟩
    · intro other
      simp only [Edit.onRecord, Record.getRemove left, Record.getRemove right]
      split
      · exact .none
      · exact fields other
    · simp only [Edit.onRecord, Record.removed]
      exact .value (fields name)
  | clear =>
    refine ⟨twinsOfFields (Record.distinctClear left) (Record.distinctClear right) ?_, .done⟩
    intro other
    simp only [Edit.onRecord, Record.getClear]
    exact .none
  | look | overlay | flat | assign | push | set | insert | erase | extend =>
    exact ⟨twins, .misfit⟩

theorem onSequenceTwins {e d : Edit Value} (edits : e.Match Twins d) {a b : Sequence Value}
    (twins : Twins (.array a) (.array b)) :
    Twins (.array (e.onSequence a).1) (.array (d.onSequence b).1) ∧
      Edit.Outcome.Rel Twins (e.onSequence a).2 (d.onSequence b).2 := by
  have items := itemsOfTwins twins
  have sizes := items.length_eq
  cases edits with
  | push pair =>
    refine ⟨twinsOfItems ?_, .done⟩
    simp only [Edit.onSequence, Sequence.itemsPush]
    exact List.rel_append items (.cons pair .nil)
  | extend pairs =>
    refine ⟨twinsOfItems ?_, .done⟩
    simp only [Edit.onSequence, Sequence.itemsExtend]
    exact List.rel_append items pairs
  | clear =>
    refine ⟨twinsOfItems ?_, .done⟩
    simp only [Edit.onSequence, Sequence.itemsClear]
    exact .nil
  | set index pair =>
    simp only [Edit.onSequence, Sequence.setItems]
    refine ⟨twinsOfItems ?_, .value (Pairs.pairAt items index)⟩
    simp only [Sequence.setItems]
    exact Pairs.pairsSet items index pair
  | erase index =>
    simp only [Edit.onSequence, Sequence.removeItems]
    refine ⟨twinsOfItems ?_, .value (Pairs.pairAt items index)⟩
    simp only [Sequence.removeItems]
    exact Pairs.pairsErase items index
  | insert index pair =>
    simp only [Edit.onSequence, Sequence.insertItems, sizes]
    refine ⟨twinsOfItems ?_, .fits _⟩
    simp only [Sequence.insertItems, sizes]
    split
    · exact List.rel_append (List.forall₂_take index items)
        (.cons pair (List.forall₂_drop index items))
    · exact items
  | look | overlay | flat | assign | put | remove => exact ⟨twins, .misfit⟩

theorem insideTwins {e d : Edit Value} (edits : e.Match Twins d) {v w : Value}
    (twins : Twins v w) :
    Twins (e.inside v).1 (d.inside w).1 ∧ Edit.Outcome.Rel Twins (e.inside v).2 (d.inside w).2 := by
  cases twins with
  | null => exact ⟨.null, .misfit⟩
  | bool b => exact ⟨.bool b, .misfit⟩
  | number n => exact ⟨.number n, .misfit⟩
  | string s => exact ⟨.string s, .misfit⟩
  | array sizes items => exact onSequenceTwins edits (.array sizes items)
  | object left right names values => exact onRecordTwins edits (.object left right names values)

theorem applyTwins {e d : Edit Value} (edits : e.Match Twins d) {v w : Value}
    (twins : Twins v w) :
    Twins (e.apply v).1 (d.apply w).1 ∧ Edit.Outcome.Rel Twins (e.apply v).2 (d.apply w).2 := by
  have deeper := insideTwins edits twins
  cases edits with
  | look => exact ⟨twins, .value (.some twins)⟩
  | overlay =>
    have both := startTwins twins (.inr rfl) (.inr rfl)
    exact ⟨both, .value (.some both)⟩
  | flat => exact ⟨twinsOverlay twins, .value (.some (twinsOverlay twins))⟩
  | assign pair => exact ⟨pair, .done⟩
  | put | remove | clear | push | set | insert | erase | extend => exact deeper

theorem childTwins {v w : Value} (twins : Twins v w) (step : Step) :
    Option.Rel Twins (v.child? step) (w.child? step) := by
  cases twins with
  | null | bool | number | string => cases step <;> exact .none
  | array sizes items =>
    cases step with
    | field => exact .none
    | index position => exact Pairs.pairAt (itemsOfTwins (.array sizes items)) position
  | object left right names values =>
    cases step with
    | field name => exact fieldsOfTwins (.object left right names values) name
    | index => exact .none

theorem atTwins (path : Path) {v w : Value} (twins : Twins v w) :
    Option.Rel Twins (v.at? path) (w.at? path) := by
  induction path generalizing v w with
  | nil => exact .some twins
  | cons step rest ih =>
    have below := childTwins twins step
    unfold at?
    generalize v.child? step = x, w.child? step = y at below ⊢
    cases below with
    | none => exact .none
    | some pair => exact ih pair

section EditAt
variable {β γ : Type} {R : β → γ → Prop} {change : Value → Value × β} {other : Value → Value × γ}

theorem editFieldTwins {f g : Record Value} (twins : Twins (.object f) (.object g)) (name : String)
    (step : ∀ x y, Twins x y → Twins (change x).1 (other y).1 ∧ R (change x).2 (other y).2) :
    Twins (.object (f.edit overlay name change).1) (.object (g.edit overlay name other).1) ∧
      Option.Rel R (f.edit overlay name change).2 (g.edit overlay name other).2 := by
  have fields := fieldsOfTwins twins
  obtain ⟨left, right⟩ := distinctOfTwins twins
  obtain ⟨inLeft, inRight⟩ | ⟨x, y, inLeft, inRight, pair⟩ := Pairs.relCases (fields name)
  · rw [Record.editAbsent _ _ inLeft, Record.editAbsent _ _ inRight]
    exact ⟨twins, .none⟩
  · obtain ⟨start, starts, result, distinct, gets⟩ := Record.editPresent overlay change inLeft
    obtain ⟨start', starts', result', distinct', gets'⟩ := Record.editPresent overlay other inRight
    obtain ⟨after, answers⟩ := step start start' (startTwins pair starts starts')
    rw [result, result']
    refine ⟨twinsOfFields (distinct left) (distinct' right) fun key => ?_, .some answers⟩
    rw [gets, gets']
    split
    · exact .some after
    · exact fields key

theorem editItemTwins {a b : Sequence Value} (twins : Twins (.array a) (.array b)) (index : Nat)
    (step : ∀ x y, Twins x y → Twins (change x).1 (other y).1 ∧ R (change x).2 (other y).2) :
    Twins (.array (a.edit overlay index change).1) (.array (b.edit overlay index other).1) ∧
      Option.Rel R (a.edit overlay index change).2 (b.edit overlay index other).2 := by
  have items := itemsOfTwins twins
  obtain ⟨inLeft, inRight⟩ | ⟨x, y, inLeft, inRight, pair⟩ :=
    Pairs.relCases (Pairs.pairAt items index)
  · rw [Sequence.editOutside _ _ inLeft, Sequence.editOutside _ _ inRight]
    exact ⟨twins, .none⟩
  · obtain ⟨start, starts, result, changed⟩ := Sequence.editInside overlay change inLeft
    obtain ⟨start', starts', result', changed'⟩ := Sequence.editInside overlay other inRight
    obtain ⟨after, answers⟩ := step start start' (startTwins pair starts starts')
    rw [result, result']
    refine ⟨twinsOfItems ?_, .some answers⟩
    rw [changed, changed']
    exact Pairs.pairsSet items index after

/- A change that keeps twins twins does so at the end of any path: the induction is on the path,
and each step down starts at a value or at an overlay of it. -/
theorem editTwins
    (step : ∀ x y, Twins x y → Twins (change x).1 (other y).1 ∧ R (change x).2 (other y).2)
    (path : Path) {v w : Value} (twins : Twins v w) :
    Twins (editAt change path v).1 (editAt other path w).1 ∧
      Option.Rel R (editAt change path v).2 (editAt other path w).2 := by
  induction path generalizing v w with
  | nil =>
    obtain ⟨after, answers⟩ := step v w twins
    exact ⟨after, .some answers⟩
  | cons first rest ih =>
    cases twins with
    | null => cases first <;> exact ⟨.null, .none⟩
    | bool b => cases first <;> exact ⟨.bool b, .none⟩
    | number n => cases first <;> exact ⟨.number n, .none⟩
    | string s => cases first <;> exact ⟨.string s, .none⟩
    | array sizes items =>
      cases first with
      | field => exact ⟨.array sizes items, .none⟩
      | index position =>
        obtain ⟨after, answers⟩ :=
          editItemTwins (.array sizes items) position fun x y pair => ih pair
        exact ⟨after, Pairs.joinRel answers⟩
    | object left right names values =>
      cases first with
      | index => exact ⟨.object left right names values, .none⟩
      | field name =>
        obtain ⟨after, answers⟩ :=
          editFieldTwins (.object left right names values) name fun x y pair => ih pair
        exact ⟨after, Pairs.joinRel answers⟩

end EditAt

end Value
end Bayeux
