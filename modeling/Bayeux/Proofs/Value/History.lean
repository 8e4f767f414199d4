import Bayeux.Packet
import Bayeux.Proofs.Json.Spelling
import Bayeux.Proofs.Value.Layers
import Mathlib.Logic.Function.Iterate
/-! The order of the fields of an overlay, read off the history of its edits. Fields that were
written or reached since they were last removed come first, by the first such touch. What is
left of the base follows as the base has it. -/

namespace Bayeux

inductive Mark where
  | put (name : String)
  | reached (name : String)
  | missed (name : String)
  | removed (name : String)
  | cleared
  deriving DecidableEq, Repr

namespace Mark

def touches? : Mark → Option String
  | .put name | .reached name => some name
  | _ => none

def removes (name : String) : Mark → Bool
  | .removed other => other == name
  | .cleared => true
  | _ => false

def touches : List Mark → List String
  | [] => []
  | mark :: later =>
    match mark.touches? with
    | some name => if later.any (removes name) then touches later else name :: touches later
    | none => touches later

/-- The fields touched since they were last removed, in the order of the first such touch. -/
def touched (log : List Mark) : List String := (touches log).eraseDups

/-- The field was removed, and not put again. -/
def gone (name : String) : List Mark → Bool
  | [] => false
  | mark :: later => (mark.removes name && !decide (.put name ∈ later)) || gone name later

theorem touchesSnoc (log : List Mark) (mark : Mark) :
    touches (log ++ [mark]) =
      (touches log).filter (fun name => !mark.removes name) ++ mark.touches?.toList := by
  induction log with
  | nil => cases touch : mark.touches? <;> simp [touches, touch]
  | cons first later ih =>
    rw [List.cons_append, touches, touches]
    cases first.touches? with
    | none => exact ih
    | some name =>
      simp only [List.any_append, List.any_cons, List.any_nil, Bool.or_false, ih]
      cases later.any (removes name) with
      | true => rfl
      | false => cases removed : mark.removes name <;> simp [removed]

theorem goneSnoc (name : String) (log : List Mark) (mark : Mark) :
    gone name (log ++ [mark]) =
      (mark.removes name || (gone name log && !decide (mark = .put name))) := by
  induction log with
  | nil => simp [gone]
  | cons first later ih =>
    have later_ : decide (.put name ∈ later ++ [mark]) =
        (decide (.put name ∈ later) || decide (mark = .put name)) := by
      simp [eq_comm]
    rw [List.cons_append, gone, ih, gone, later_]
    cases first.removes name <;> cases decide (Mark.put name ∈ later) <;>
      cases decide (mark = .put name) <;> cases mark.removes name <;> simp

theorem eraseDupsFilter (keep : String → Bool) : (names : List String) →
    (names.filter keep).eraseDups = names.eraseDups.filter keep
  | [] => rfl
  | name :: rest => by
    have others := eraseDupsFilter keep (rest.filter fun other => !other == name)
    rw [List.eraseDups_cons, List.filter_cons, List.filter_cons]
    cases kept : keep name with
    | false =>
      -- A name that is not kept may as well be left out before.
      have same : (rest.filter fun other => !other == name).filter keep = rest.filter keep := by
        rw [List.filter_filter]
        refine List.filter_congr fun other _ => ?_
        by_cases here : other = name <;> simp [here, kept]
      rw [if_neg Bool.false_ne_true, if_neg Bool.false_ne_true, ← others, same]
    | true =>
      rw [if_pos rfl, if_pos rfl, List.eraseDups_cons, ← others, List.filter_filter,
        List.filter_filter]
      simp only [Bool.and_comm]
termination_by names => names.length
decreasing_by
  have shorter := List.length_filter_le (fun other => !other == name) rest
  simp only [List.length_cons]
  omega

theorem touchedTouch {log : List Mark} {mark : Mark} {name : String}
    (touch : mark.touches? = some name) :
    touched (log ++ [mark]) =
      if name ∈ touched log then touched log else touched log ++ [name] := by
  have keeps : ∀ other, mark.removes other = false := by
    cases mark <;> first | (intro; rfl) | cases touch
  have all : (touches log).filter (fun other => !mark.removes other) = touches log :=
    List.filter_eq_self.mpr fun other _ => by simp [keeps]
  rw [touched, touchesSnoc, all, touch, List.eraseDups_append]
  simp only [touched, List.mem_eraseDups]
  by_cases before : name ∈ touches log <;> simp [List.removeAll, before, List.eraseDups_cons]

theorem touchedOther (log : List Mark) {mark : Mark} (touch : mark.touches? = none) :
    touched (log ++ [mark]) = (touched log).filter fun name => !mark.removes name := by
  rw [touched, touchesSnoc, touch, Option.toList_none, List.append_nil, eraseDupsFilter, touched]

end Mark

namespace Record
open Mark

/-- One operation on an object. Reaching for a field gives it to be changed in place. -/
inductive Stroke where
  | put (name : String) (value : Value)
  | reach (name : String) (change : Value → Value)
  | remove (name : String)
  | clear

namespace Stroke

def run (o : Record Value) : Stroke → Record Value × Mark
  | .put name value => (o.put name value, .put name)
  | .reach name change =>
    let (o, found) := o.edit Value.overlay name fun value => (change value, ())
    (o, if found.isSome then .reached name else .missed name)
  | .remove name => ((o.remove name).2, .removed name)
  | .clear => (o.clear, .cleared)

def idle (o : Record Value) : Stroke → Bool
  | .put _ _ => false
  | .reach name _ | .remove name => !o.has name
  | .clear => o.isEmpty

end Stroke

def after (o : Record Value) : List Stroke → Record Value
  | [] => o
  | stroke :: rest => (stroke.run o).1.after rest

def history (o : Record Value) : List Stroke → List Mark
  | [] => []
  | stroke :: rest => (stroke.run o).2 :: (stroke.run o).1.history rest

def allIdle (o : Record Value) : List Stroke → Bool
  | [] => true
  | stroke :: rest => stroke.idle o && (stroke.run o).1.allIdle rest

/-- The fields of the base that the history has left alone. -/
def untouched (log : List Mark) (b : Record Value) : Table Value :=
  b.entries.filter fun field => !(decide (field.1 ∈ touched log) || gone field.1 log)

/-- What a patch has of the history: its own table has the touched fields in their order, and
it hides those fields of the base that are gone. -/
structure Kept (b : Record Value) (log : List Mark) (base : Record Value) (outer : Table Value)
    (removed : List String) : Prop where
  base : base.entries = b.entries
  distinct : Table.Distinct outer
  keys : Table.keys outer = touched log
  hidden : ∀ name ∈ b.names, name ∉ touched log → (name ∈ removed ↔ gone name log = true)

variable {b base : Record Value} {log : List Mark} {outer : Table Value} {removed : List String}
  {name : String}

theorem keptStart (same : base.entries = b.entries) : Kept b [] base [] [] where
  base := same
  distinct := List.nodup_nil
  keys := rfl
  hidden name _ _ := by simp [gone]

theorem keptTouch (kept : Kept b log base outer removed) {mark : Mark} (value : Value)
    {left : List String} (touch : mark.touches? = some name)
    (others : ∀ other, other ≠ name → (other ∈ left ↔ other ∈ removed)) :
    Kept b (log ++ [mark]) base (Table.put outer name value) left where
  base := kept.base
  distinct := Table.distinctPut kept.distinct name value
  keys := by rw [Table.keysPut, touchedTouch touch, kept.keys]
  hidden other inside fresh := by
    rw [touchedTouch touch] at fresh
    have different : other ≠ name := by
      rintro rfl
      split at fresh
      · rename_i before
        exact fresh before
      · simp at fresh
    have before : other ∉ touched log := by
      split at fresh
      · exact fresh
      · exact fun here => fresh (List.mem_append_left _ here)
    have stays : gone other (log ++ [mark]) = gone other log := by
      rw [goneSnoc]
      cases mark <;> cases touch <;> simp [Mark.removes, Ne.symm different]
    rw [others other different, stays]
    exact kept.hidden other inside before

theorem keptMissed (kept : Kept b log base outer removed) (name : String) :
    Kept b (log ++ [.missed name]) base outer removed := by
  have same : touched (log ++ [.missed name]) = touched log := by
    rw [touchedOther log rfl]
    exact List.filter_eq_self.mpr fun _ _ => rfl
  refine ⟨kept.base, kept.distinct, kept.keys.trans same.symm, fun other inside fresh => ?_⟩
  rw [goneSnoc, kept.hidden other inside (same ▸ fresh)]
  simp [Mark.removes]

theorem keptRemoved (kept : Kept b log base outer removed) (name : String) {left : List String}
    (hides : name ∈ b.names → name ∈ left)
    (others : ∀ other, other ≠ name → (other ∈ left ↔ other ∈ removed)) :
    Kept b (log ++ [.removed name]) base (Table.remove outer name) left where
  base := kept.base
  distinct := Table.distinctRemove kept.distinct name
  keys := by
    rw [Table.keysRemove, List.Nodup.erase_eq_filter kept.distinct, kept.keys, touchedOther log rfl]
    refine List.filter_congr fun other _ => ?_
    simp [Mark.removes, bne, Bool.beq_comm]
  hidden other inside fresh := by
    rw [goneSnoc]
    by_cases same : other = name
    · subst other
      simp [Mark.removes, hides inside]
    · have before : other ∉ touched log := fun here => fresh (by
        rw [touchedOther log rfl]
        exact List.mem_filter.mpr ⟨here, by simp [Mark.removes, Ne.symm same]⟩)
      rw [others other same, kept.hidden other inside before]
      simp [Mark.removes, Ne.symm same]

theorem keptCleared (kept : Kept b log base outer removed) {left : List String}
    (hides : ∀ name ∈ b.names, name ∈ left) : Kept b (log ++ [.cleared]) base [] left where
  base := kept.base
  distinct := List.nodup_nil
  keys := by
    rw [touchedOther log rfl]
    exact (List.filter_eq_nil_iff.mpr fun _ _ => by simp [Mark.removes]).symm
  hidden name inside _ := by simp [goneSnoc, Mark.removes, hides name inside]

theorem keptNames (kept : Kept b log base outer removed) : base.names = b.names :=
  congrArg Table.keys kept.base

theorem keptGet (kept : Kept b log base outer removed) (name : String) :
    base.get? name = b.get? name := by
  rw [← getEntries base, kept.base, getEntries]

theorem keptEntries (kept : Kept b log base outer removed) :
    (patched base outer removed).entries = outer ++ untouched log b := by
  rw [entries, kept.base, untouched]
  refine congrArg (outer ++ ·) (List.filter_congr fun field inside => ?_)
  have named : field.1 ∈ b.names := List.mem_map.mpr ⟨field, inside, rfl⟩
  have own := Table.hasIff outer field.1
  rw [kept.keys] at own
  by_cases here : field.1 ∈ touched log
  · simp [own.mpr here, here]
  · have absent : Table.has outer field.1 = false := Bool.eq_false_iff.mpr (here ∘ own.mp)
    simp [absent, here, kept.hidden field.1 named here]

/-- An overlay and the history it has had since it was made over `b`. A view is a patch that
nothing has been written to. -/
inductive Traced (b : Record Value) (log : List Mark) : Record Value → Prop where
  | view {base : Record Value} (kept : Kept b log base [] []) : Traced b log (.view base)
  | patched {base : Record Value} {outer : Table Value} {removed : List String}
      (kept : Kept b log base outer removed) : Traced b log (.patched base outer removed)

theorem tracedOverlay (b : Record Value) : Traced b [] b.overlay := by
  cases b with
  | plain fields => exact .view (keptStart rfl)
  | view base => exact .view (keptStart rfl)
  | patched base outer removed => exact .view (keptStart rfl)

theorem tracedReach (kept : Kept b log base outer removed) (name : String)
    (change : Value → Value) :
    Traced b (log ++ [((Stroke.reach name change).run (.patched base outer removed)).2])
      ((Stroke.reach name change).run (.patched base outer removed)).1 := by
  have missed := Traced.patched (keptMissed kept name)
  have reached : ∀ value, Traced b (log ++ [.reached name])
      (.patched base (Table.put outer name value) removed) := fun value =>
    .patched (keptTouch kept value rfl fun _ _ => Iff.rfl)
  simp only [Stroke.run, edit]
  cases Table.get? outer name with
  | some value => exact reached _
  | none =>
    simp only
    split
    · exact missed
    · cases base.get? name with
      | some value => exact reached _
      | none => exact missed

theorem tracedRemove (kept : Kept b log base outer removed) (name : String) :
    Traced b (log ++ [.removed name]) ((patched base outer removed).remove name).2 := by
  have shown : name ∈ b.names → (base.get? name).isSome = true := fun inside => by
    rwa [keptGet kept, ← memNames]
  refine .patched (keptRemoved kept name (fun inside => ?_) fun other different => ?_)
  · by_cases before : name ∈ removed
    · simp [before]
    · simp [before, shown inside]
  · generalize (if name ∈ removed then none else base.get? name) = inner
    cases inner <;> simp [different]

theorem tracedStroke {o : Record Value} (traced : Traced b log o) (stroke : Stroke) :
    Traced b (log ++ [(stroke.run o).2]) (stroke.run o).1 := by
  cases traced with
  | patched kept =>
    cases stroke with
    | put name value =>
      exact .patched (keptTouch kept value rfl fun other different =>
        List.mem_erase_of_ne different)
    | reach name change => exact tracedReach kept name change
    | remove name => exact tracedRemove kept name
    | clear =>
      refine .patched (keptCleared kept fun name inside => ?_)
      rw [← keptNames kept] at inside
      rename_i removed
      by_cases before : name ∈ removed <;> simp [before, inside]
  | @view base kept =>
    cases stroke with
    | put name value => exact .patched (keptTouch kept value rfl fun _ _ => Iff.rfl)
    | reach name change =>
      cases found : base.get? name with
      | none =>
        simp only [Stroke.run, edit, found]
        exact .view (keptMissed kept name)
      | some value =>
        simp only [Stroke.run, edit, found]
        exact .patched (keptTouch kept (change value.overlay) rfl fun _ _ => Iff.rfl)
    | remove name =>
      simp only [Stroke.run, remove]
      cases found : base.get? name with
      | none =>
        have absent : name ∉ b.names := by
          rw [memNames, ← keptGet kept, found]
          exact Bool.false_ne_true
        exact .view (keptRemoved kept name (fun inside => absurd inside absent)
          fun _ _ => Iff.rfl)
      | some value =>
        exact .patched (keptRemoved kept name (fun _ => List.mem_singleton_self name)
          fun other different => by simp [different])
    | clear => exact .patched (keptCleared kept fun name inside => (keptNames kept).symm ▸ inside)

theorem tracedAfter {o : Record Value} (traced : Traced b log o) (strokes : List Stroke) :
    Traced b (log ++ o.history strokes) (o.after strokes) := by
  induction strokes generalizing log o with
  | nil => rwa [history, List.append_nil]
  | cons stroke rest ih =>
    have further := ih (tracedStroke traced stroke)
    rwa [List.append_assoc] at further

theorem tracedShows {o : Record Value} (traced : Traced b log o) :
    ∃ fields : Table Value, Table.keys fields = touched log ∧
      (∀ field ∈ fields, o.get? field.1 = some field.2) ∧
      o.entries = fields ++ untouched log b := by
  cases traced with
  | patched kept =>
    refine ⟨_, kept.keys, fun field inside => ?_, keptEntries kept⟩
    simp only [get?, Table.getOfMem kept.distinct inside]
  | @view base kept =>
    have all : (patched base [] []).entries = base.entries :=
      List.filter_eq_self.mpr fun _ _ => rfl
    refine ⟨[], kept.keys, fun field inside => ?_, all.symm.trans (keptEntries kept)⟩
    exact absurd inside List.not_mem_nil

theorem tracedFresh {o : Record Value} (traced : Traced b log o) {value : Value}
    (change : Value → Value) (there : b.get? name = some value) (fresh : name ∉ touched log)
    (stays : gone name log = false) :
    ((Stroke.reach name change).run o).1.get? name = some (change value.overlay) := by
  cases traced with
  | @view base kept =>
    simp [Stroke.run, edit, keptGet kept, there, get?, Table.get?]
  | @patched base outer removed kept =>
    have unwritten : Table.get? outer name = none := by
      rw [Table.getNoneIff, kept.keys]
      exact fresh
    have shown : name ∉ removed := fun inside => by
      have hidden := kept.hidden name ((memNames b name).mpr (by simp [there])) fresh
      rw [stays] at hidden
      exact Bool.false_ne_true (hidden.mp inside)
    simp [Stroke.run, edit, unwritten, shown, keptGet kept, there, get?, Table.getPutSame]

/- What has nothing to work on changes nothing that is seen. -/
theorem entriesRemoveAbsent {o : Record Value} (absent : o.get? name = none) :
    (o.remove name).2.entries = o.entries := by
  cases o with
  | plain fields =>
    simp only [get?] at absent
    simp only [remove, entries, Table.removeAbsent absent]
  | view base =>
    simp only [get?] at absent
    simp only [remove, absent]
  | patched base outer removed =>
    simp only [get?] at absent
    cases written : Table.get? outer name with
    | some value => simp [written] at absent
    | none =>
      simp only [written] at absent
      simp only [remove, absent, Table.removeAbsent written, Option.isSome_none, Bool.false_eq_true,
        if_false]

theorem entriesClear (o : Record Value) : o.clear.entries = [] := by
  have nothing : o.clear.names = [] := List.eq_nil_iff_forall_not_mem.mpr fun name inside => by
    rw [memNames, getClear] at inside
    cases inside
  exact List.map_eq_nil_iff.mp nothing

theorem entriesIdle {o : Record Value} {stroke : Stroke} (idle : stroke.idle o = true) :
    (stroke.run o).1.entries = o.entries := by
  have unseen : ∀ name, (!o.has name) = true → o.get? name = none := by
    intro name absent
    simpa [has] using absent
  cases stroke with
  | put name value => cases idle
  | reach name change =>
    simp only [Stroke.run, editAbsent Value.overlay _ (unseen name idle)]
  | remove name => exact entriesRemoveAbsent (unseen name idle)
  | clear =>
    have nothing : o.entries = [] :=
      List.eq_nil_of_length_eq_zero (by simpa [Stroke.idle, isEmpty, size] using idle)
    exact (entriesClear o).trans nothing.symm

theorem entriesAllIdle {o : Record Value} {strokes : List Stroke}
    (idle : o.allIdle strokes = true) : (o.after strokes).entries = o.entries := by
  induction strokes generalizing o with
  | nil => rfl
  | cons stroke rest ih =>
    obtain ⟨first, later⟩ := (Bool.and_eq_true _ _).mp idle
    exact (ih later).trans (entriesIdle first)

def objectText (fields : Table Value) : String :=
  "\x7b" ++ ",".intercalate (fields.map fun field =>
    (Json.string field.1).text ++ ":" ++ field.2.visible.text) ++ "\x7d"

theorem textEntries (r : Record Value) : (Value.object r).visible.text = objectText r.entries := by
  rw [Value.visibleObject, Json.textObject, Table.mapValues, List.map_map]
  rfl

end Record

theorem Packet.freezeAgain (n : Nat) (p : Packet) : (Packet.freeze^[n] p).text = p.text := by
  induction n generalizing p with
  | zero => rfl
  | succ n ih => exact (ih p.freeze).trans (freezeText p)

namespace Record
open Mark

/- A field that is reached for the first time is an overlay of what the base has there, so that the
law holds of what is done to it in turn. -/
theorem encodedByHistory (b : Record Value) (strokes : List Stroke) :
    let o := b.overlay.after strokes
    let log := b.overlay.history strokes
    (∃ fields : Table Value, Table.keys fields = touched log ∧
      (∀ field ∈ fields, o.get? field.1 = some field.2) ∧
      (Value.object o).visible.text = objectText (fields ++ untouched log b) ∧
      o.names = touched log ++ Table.keys (untouched log b)) ∧
    (Value.object b).visible.text = objectText b.entries ∧
    (∀ name value change, b.get? name = some value → name ∉ touched log →
      gone name log = false →
      ((Stroke.reach name change).run o).1.get? name = some (change value.overlay)) ∧
    (b.overlay.allIdle strokes = true →
      (Value.object o).visible.text = (Value.object b).visible.text ∧ o.names = b.names) ∧
    ∀ n (p : Packet), (Packet.freeze^[n] p).text = p.text := by
  intro o log
  have traced : Traced b log o := tracedAfter (tracedOverlay b) strokes
  refine ⟨?_, textEntries b, ?_, fun idle => ?_, Packet.freezeAgain⟩
  · obtain ⟨fields, keys, gets, shown⟩ := tracedShows traced
    refine ⟨fields, keys, gets, by rw [textEntries, shown], ?_⟩
    rw [names, shown, Table.keys, List.map_append]
    exact congrArg (· ++ _) keys
  · exact fun name value change there fresh stays => tracedFresh traced change there fresh stays
  · have same : o.entries = b.entries := (entriesAllIdle idle).trans (entriesOverlay b)
    exact ⟨by rw [textEntries, textEntries, same], congrArg Table.keys same⟩

theorem encodedByHistoryNested :
    let b : Record Value :=
      .plain [("channel", .string "/a"), ("data", .object (.plain [("x", .bool true)]))]
    let below : Value → Value
      | .object fields => .object (fields.put "y" .null)
      | value => value
    let strokes : List Stroke := [.reach "data" below, .reach "none" id, .remove "channel",
      .put "id" (.string "7"), .put "channel" (.string "/b"), .reach "id" id]
    let vain : List Stroke := [.reach "none" id, .remove "none"]
    b.overlay.history strokes = [.reached "data", .missed "none", .removed "channel", .put "id",
      .put "channel", .reached "id"] ∧
    (Value.object (b.overlay.after strokes)).visible.text =
      "\x7b\"data\":\x7b\"y\":null,\"x\":true\x7d,\"id\":\"7\",\"channel\":\"/b\"\x7d" ∧
    (b.overlay.after strokes).names = ["data", "id", "channel"] ∧
    ((Stroke.reach "data" below).run (b.overlay.after vain)).1.get? "data" =
      some (below (Value.object (.plain [("x", .bool true)])).overlay) ∧
    (Value.object (b.overlay.after vain)).visible.text = (Value.object b).visible.text := by
  intro b below strokes vain
  obtain ⟨⟨-, -, -, -, names⟩, -⟩ := encodedByHistory b strokes
  obtain ⟨-, -, fresh, same, -⟩ := encodedByHistory b vain
  refine ⟨rfl, ?_, names, fresh "data" _ below rfl (by decide) rfl, (same rfl).1⟩
  have shown : (Value.object (b.overlay.after strokes)).visible = .object
      [("data", .object [("y", .null), ("x", .bool true)]), ("id", .string "7"),
        ("channel", .string "/b")] := rfl
  simp only [shown, Json.text, Json.write, Json.writeFields, Json.writeStringChars]
  rfl

end Record
end Bayeux
