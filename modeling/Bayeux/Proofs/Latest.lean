/-! The latest of some items that did something. What an item does may depend on the items before
it, as it does when the items are the calls of a run. -/

namespace Bayeux

structure Latest {α : Type} (does : List α → α → Prop) (items before : List α) (item : α)
    (since : List α) : Prop where
  split : items = before ++ item :: since
  did : does before item
  last : ∀ mid other rest, since = mid ++ other :: rest → ¬does (before ++ item :: mid) other

def Never {α : Type} (does : List α → α → Prop) (items : List α) : Prop :=
  ∀ before item since, items = before ++ item :: since → ¬does before item

/-- The items behind the latest one that did it, or all of them. -/
inductive Since {α : Type} (does : List α → α → Prop) (items : List α) : List α → Prop where
  | latest {before since : List α} {item : α} (found : Latest does items before item since) :
      Since does items since
  | never (none : Never does items) : Since does items items

variable {α : Type} {does : List α → α → Prop} {items before since : List α} {item other : α}

theorem splitSnoc (split : items ++ [other] = before ++ item :: since) :
    (before = items ∧ item = other ∧ since = []) ∨
      ∃ rest, items = before ++ item :: rest ∧ since = rest ++ [other] := by
  rcases List.eq_nil_or_concat since with rfl | ⟨rest, last, rfl⟩
  · obtain ⟨rfl, same⟩ := List.append_inj' split rfl
    simp only [List.cons.injEq, and_true] at same
    exact .inl ⟨rfl, same.symm, rfl⟩
  · have regrouped : items ++ [other] = (before ++ item :: rest) ++ [last] := by simpa using split
    obtain ⟨rfl, same⟩ := List.append_inj' regrouped rfl
    simp only [List.cons.injEq, and_true] at same
    exact .inr ⟨rest, rfl, by rw [same, List.concat_eq_append]⟩

theorem neverNil : Never does [] := by
  intro before item since split
  simp at split

theorem neverSnoc (none : Never does items) (idle : ¬does items other) :
    Never does (items ++ [other]) := by
  intro before item since split
  rcases splitSnoc split with ⟨rfl, rfl, -⟩ | ⟨rest, split, -⟩
  · exact idle
  · exact none before item rest split

theorem latestHere (now : does items item) : Latest does (items ++ [item]) items item [] where
  split := rfl
  did := now
  last mid other rest split := by simp at split

theorem latestSnoc (found : Latest does items before item since) (idle : ¬does items other) :
    Latest does (items ++ [other]) before item (since ++ [other]) where
  split := by simp [found.split]
  did := found.did
  last mid next rest split := by
    rcases splitSnoc split with ⟨rfl, rfl, -⟩ | ⟨more, split, -⟩
    · rw [← found.split]
      exact idle
    · exact found.last mid next more split

theorem sinceHere (now : does items item) : Since does (items ++ [item]) [] :=
  .latest (latestHere now)

theorem sinceSnoc (recent : Since does items since) (idle : ¬does items other) :
    Since does (items ++ [other]) (since ++ [other]) := by
  cases recent with
  | latest found => exact .latest (latestSnoc found idle)
  | never none => exact .never (neverSnoc none idle)

end Bayeux
