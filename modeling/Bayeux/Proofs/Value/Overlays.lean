import Bayeux.Proofs.Value.Edits
import Bayeux.Proofs.Value.Equality
/-! Runs of edits on an overlay and on a plain copy of the value below it. The two stay twins
after every edit, so no answer on the way, no look at any path and no comparison tells
the overlay from the copy. -/

namespace Bayeux

/-- What an edit writes: a value brought along, or one taken from the tree as it stands, bare
or overlaid. Null stands for a place that is not there. -/
inductive Source where
  | given (value : Value)
  | copied (path : Path)
  | overlaid (path : Path)

namespace Source

def of (root : Value) : Source → Value
  | .given value => value
  | .copied path => (root.at? path).getD .null
  | .overlaid path => ((root.at? path).getD .null).overlay

def plain : Source → Source
  | .given value => .given value.plainCopy
  | .copied path => .copied path
  | .overlaid path => .copied path

def Sound : Source → Prop
  | .given value => value.Sound
  | _ => True

end Source

def Edit.plain : Edit Source → Edit Source
  | .overlay => .look
  | edit => edit.map Source.plain

structure Placed where
  path : Path
  edit : Edit Source

namespace Placed

def run (e : Placed) (v : Value) : Value × Option Edit.Outcome :=
  v.editAt (e.edit.map (Source.of v)).apply e.path

def plain (e : Placed) : Placed := { e with edit := e.edit.plain }

def Sound (e : Placed) : Prop := ∀ source ∈ e.edit.written, source.Sound

end Placed

namespace Value

def editAll (v : Value) : List Placed → Value
  | [] => v
  | e :: rest => (e.run v).1.editAll rest

/-- What each edit gives back; `none` where its path led nowhere. -/
def answers (v : Value) : List Placed → List (Option Edit.Outcome)
  | [] => []
  | e :: rest => (e.run v).2 :: (e.run v).1.answers rest

/-- Go down to a place to change it, and leave it as it is. -/
def walk (v : Value) (path : Path) : Value × Option Value := v.editAt (fun x => (x, x)) path

/-- The same tree up to the order of fields. -/
def Alike (v w : Value) : Prop := v.visible.Reordered w.visible

/-- Nothing that can be asked of the two values tells them apart. -/
structure SeenAlike (v w : Value) : Prop where
  tree : Alike v w
  equal : v.same w = true
  get : ∀ path, Option.Rel Alike (v.at? path) (w.at? path)
  getMut : ∀ path, Option.Rel Alike (v.walk path).2 (w.walk path).2
  object : ∀ path f g, v.at? path = some (.object f) → w.at? path = some (.object g) →
    (∀ name, f.has name = g.has name) ∧ f.size = g.size ∧ f.isEmpty = g.isEmpty
  array : ∀ path a b, v.at? path = some (.array a) → w.at? path = some (.array b) →
    a.size = b.size ∧ a.isEmpty = b.isEmpty

structure RunsAlike (v : Value) (edits : List Placed) (w : Value) (others : List Placed) :
    Prop where
  outcomes : List.Forall₂ (Option.Rel (Edit.Outcome.Rel Alike)) (v.answers edits) (w.answers others)
  seen : ∀ n, SeenAlike (v.editAll (edits.take n)) (w.editAll (others.take n))

theorem twinsAlike {v w : Value} (twins : Twins v w) : Alike v w := twinsReordered twins

theorem relAlike {x y : Option Value} (rel : Option.Rel Twins x y) : Option.Rel Alike x y := by
  cases rel with
  | none => exact .none
  | some twins => exact .some (twinsAlike twins)

theorem walkTwins (path : Path) {v w : Value} (twins : Twins v w) : Twins (v.walk path).1 w := by
  unfold walk
  induction path generalizing v w with
  | nil => exact twins
  | cons first rest ih =>
    cases twins with
    | null => cases first <;> exact .null
    | bool b => cases first <;> exact .bool b
    | number n => cases first <;> exact .number n
    | string s => cases first <;> exact .string s
    | @array a b sizes items =>
      have pairs := itemsOfTwins (.array sizes items)
      cases first with
      | field => exact .array sizes items
      | index position =>
        simp only [editAt]
        obtain ⟨inLeft, -⟩ | ⟨x, y, inLeft, inRight, pair⟩ :=
          Pairs.relCases (Pairs.pairAt pairs position)
        · rw [Sequence.editOutside _ _ inLeft]
          exact .array sizes items
        · obtain ⟨start, starts, -, changed⟩ :=
            Sequence.editInside overlay (editAt (fun x => (x, x)) rest) inLeft
          have below := ih (startTwins pair starts (.inl rfl))
          refine twinsOfItems ?_
          rw [changed]
          exact Pairs.pairsSetLeft pairs inRight below
    | @object f g left right names values =>
      have fields := fieldsOfTwins (.object left right names values)
      cases first with
      | index => exact .object left right names values
      | field name =>
        simp only [editAt]
        obtain ⟨inLeft, -⟩ | ⟨x, y, inLeft, inRight, pair⟩ := Pairs.relCases (fields name)
        · rw [Record.editAbsent _ _ inLeft]
          exact .object left right names values
        · obtain ⟨start, starts, -, distinct, gets⟩ :=
            Record.editPresent overlay (editAt (fun x => (x, x)) rest) inLeft
          have below := ih (startTwins pair starts (.inl rfl))
          refine twinsOfFields (distinct left) right fun key => ?_
          rw [gets]
          split
          · rename_i same
            rw [same, inRight]
            exact .some below
          · exact fields key

theorem twinsSeen {v w : Value} (twins : Twins v w) : SeenAlike v w where
  tree := twinsAlike twins
  equal := twinsSame twins
  get path := relAlike (atTwins path twins)
  getMut path := relAlike (editTwins (fun _ _ pair => ⟨pair, pair⟩) path twins).2
  object path f g left right := by
    have below := atTwins path twins
    rw [left, right, Option.rel_some_some] at below
    have sizes := sizesOfTwins below
    refine ⟨fun name => ?_, sizes, by simp only [Record.isEmpty, sizes]⟩
    obtain ⟨inLeft, inRight⟩ | ⟨x, y, inLeft, inRight, -⟩ :=
      Pairs.relCases (fieldsOfTwins below name)
    all_goals simp only [Record.has, inLeft, inRight, Option.isSome]
  array path a b left right := by
    have below := atTwins path twins
    rw [left, right, Option.rel_some_some] at below
    have sizes : a.size = b.size := (itemsOfTwins below).length_eq
    exact ⟨sizes, by simp only [Sequence.isEmpty, sizes]⟩

theorem sourceTwins {v w : Value} (twins : Twins v w) {source : Source} (sound : source.Sound) :
    Twins (source.of v) (source.of w) ∧ Twins (source.of v) (source.plain.of w) := by
  have standing : ∀ path, Twins ((v.at? path).getD .null) ((w.at? path).getD .null) := by
    intro path
    obtain ⟨inLeft, inRight⟩ | ⟨x, y, inLeft, inRight, pair⟩ := Pairs.relCases (atTwins path twins)
    · rw [inLeft, inRight]
      exact .null
    · rw [inLeft, inRight]
      exact pair
  cases source with
  | given value => exact ⟨twinsRefl sound, twinsPlainCopy sound⟩
  | copied path => exact ⟨standing path, standing path⟩
  | overlaid path =>
    exact ⟨startTwins (standing path) (.inr rfl) (.inr rfl), twinsOverlay (standing path)⟩

theorem matchPlain {v w : Value} (twins : Twins v w) {e : Edit Source}
    (sound : ∀ source ∈ e.written, source.Sound) :
    (e.map (Source.of v)).Match Twins (e.plain.map (Source.of w)) := by
  have bare : e = .overlay ∨ e.plain = e.map Source.plain := by
    cases e <;> simp [Edit.plain]
  rcases bare with rfl | bare
  · exact .flat
  · rw [bare, Edit.mapMap]
    exact Edit.matchMap e fun source inside => (sourceTwins twins (sound source inside)).2

/-- The same edit on both sides, or one that makes no overlay on the right. -/
def Paired (e d : Placed) : Prop := e.Sound ∧ (d = e ∨ d = e.plain)

theorem runTwins {v w : Value} (twins : Twins v w) {e d : Placed} (pair : Paired e d) :
    Twins (e.run v).1 (d.run w).1 ∧
      Option.Rel (Edit.Outcome.Rel Twins) (e.run v).2 (d.run w).2 := by
  obtain ⟨sound, rfl | rfl⟩ := pair
  · have edits := Edit.matchMap d.edit
      fun source inside => (sourceTwins twins (sound source inside)).1
    exact editTwins (fun _ _ pair => applyTwins edits pair) d.path twins
  · have edits := matchPlain twins sound
    exact editTwins (fun _ _ pair => applyTwins edits pair) e.path twins

theorem editAllTwins {v w : Value} (twins : Twins v w) {edits others : List Placed}
    (pairs : List.Forall₂ Paired edits others) : Twins (v.editAll edits) (w.editAll others) := by
  induction pairs generalizing v w with
  | nil => exact twins
  | cons pair _ ih => exact ih (runTwins twins pair).1

theorem answersTwins {v w : Value} (twins : Twins v w) {edits others : List Placed}
    (pairs : List.Forall₂ Paired edits others) :
    List.Forall₂ (Option.Rel (Edit.Outcome.Rel Alike)) (v.answers edits) (w.answers others) := by
  induction pairs generalizing v w with
  | nil => exact .nil
  | @cons e d _ _ pair _ ih =>
    obtain ⟨after, outcome⟩ := runTwins twins pair
    refine .cons ?_ (ih after)
    generalize (e.run v).2 = x, (d.run w).2 = y at outcome ⊢
    cases outcome with
    | none => exact .none
    | some same => exact .some (Edit.Outcome.relMono (fun _ _ => twinsAlike) same)

theorem runsTwins {v w : Value} (twins : Twins v w) {edits others : List Placed}
    (pairs : List.Forall₂ Paired edits others) : RunsAlike v edits w others where
  outcomes := answersTwins twins pairs
  seen n := twinsSeen (editAllTwins twins (List.forall₂_take n pairs))

/- Run on an overlay, edits are told apart from the same edits on a plain copy by nothing, also
when the copy takes plain values and makes no overlay on the way. -/
theorem overlayLikeCopy {v : Value} (sound : v.Sound) {edits : List Placed}
    (given : ∀ e ∈ edits, e.Sound) :
    RunsAlike v.overlay edits v.plainCopy edits ∧
      RunsAlike v.overlay edits v.plainCopy (edits.map Placed.plain) ∧
      ∀ n path, SeenAlike ((v.overlay.editAll (edits.take n)).walk path).1
        (v.overlay.editAll (edits.take n)) := by
  have start := twinsOverlay (twinsPlainCopy sound)
  have both : List.Forall₂ Paired edits edits :=
    List.forall₂_same.mpr fun e inside => ⟨given e inside, .inl rfl⟩
  have bare : List.Forall₂ Paired edits (edits.map Placed.plain) :=
    List.forall₂_map_right_iff.mpr
      (List.forall₂_same.mpr fun e inside => ⟨given e inside, .inr rfl⟩)
  have self := startTwins (twinsRefl sound) (.inr rfl) (.inr rfl)
  refine ⟨runsTwins start both, runsTwins start bare, fun n path => ?_⟩
  exact twinsSeen (walkTwins path (editAllTwins self (List.forall₂_take n both)))

theorem overlayLikeCopyNested :
    let inner : Record Value := .plain [("x", .bool true), ("y", .null)]
    let v : Value := .object (.view (.plain [("a", .object inner)]))
    let edits : List Placed :=
      [⟨[.field "a"], .remove "x"⟩, ⟨[], .overlay⟩,
        ⟨[.field "a"], .put "z" (.overlaid [.field "a"])⟩,
        ⟨[.field "a", .field "z", .field "y"], .assign (.given (.bool false))⟩]
    v.Sound ∧ (∀ e ∈ edits, e.Sound) ∧
      RunsAlike v.overlay edits v.plainCopy edits ∧
      RunsAlike v.overlay edits v.plainCopy (edits.map Placed.plain) ∧
      ∀ n path, SeenAlike ((v.overlay.editAll (edits.take n)).walk path).1
        (v.overlay.editAll (edits.take n)) := by
  intro inner v edits
  have below : (Value.object inner).Sound := by
    refine .object (by decide : ["x", "y"].Nodup) fun name x here => ?_
    have shown := Table.memOfGet here
    simp only [List.mem_cons, Prod.mk.injEq, List.not_mem_nil, or_false] at shown
    rcases shown with ⟨-, rfl⟩ | ⟨-, rfl⟩
    · exact .bool true
    · exact .null
  have sound : v.Sound := by
    refine .object (by decide : ["a"].Nodup) fun name x here => ?_
    have shown := Table.memOfGet here
    simp only [List.mem_cons, Prod.mk.injEq, List.not_mem_nil, or_false] at shown
    obtain ⟨-, rfl⟩ := shown
    exact below
  have given : ∀ e ∈ edits, e.Sound := by
    intro e inside source written
    simp only [edits, List.mem_cons, List.not_mem_nil, or_false] at inside
    rcases inside with rfl | rfl | rfl | rfl
    all_goals simp only [Edit.written, List.mem_cons, List.not_mem_nil, or_false] at written
    · subst written
      trivial
    · subst written
      exact .bool false
  exact ⟨sound, given, overlayLikeCopy sound given⟩

end Value
end Bayeux
