import Bayeux.Channel
/-! Paths as segments. A path without fault is its segments, each behind a slash; what its text
ends with is what its last segment is, and its kind is read off both ends. -/

namespace Bayeux

namespace Text

theorem splitBetween (separator : Char) (left right : List Char) :
    split separator (left ++ separator :: right) =
      split separator left ++ split separator right := by
  induction left with
  | nil => simp [split]
  | cons c rest ih =>
    by_cases h : c = separator
    · simp [split, h, ih]
    · simp only [List.cons_append, split, if_neg h, ih]
      cases hs : split separator rest with
      | nil => exact absurd hs (splitNonempty separator rest)
      | cons piece pieces => rfl

theorem joinConcat (separator : Char) {pieces : List (List Char)} (some_ : pieces ≠ [])
    (last : List Char) :
    join separator (pieces ++ [last]) = join separator pieces ++ separator :: last := by
  induction pieces with
  | nil => exact absurd rfl some_
  | cons piece rest ih =>
    cases rest with
    | nil => rfl
    | cons next others =>
      have inner := ih (List.cons_ne_nil next others)
      simp only [List.cons_append] at inner
      simp only [List.cons_append, join, inner, List.append_assoc]

/- Behind a leading separator, so that the last piece always has one before it. -/
theorem lastPiece {separator : Char} {last : List Char} (plain : separator ∉ last)
    (cs : List Char) : separator :: last <:+ separator :: cs ↔
      (split separator cs).getLast? = some last := by
  constructor
  · rintro ⟨front, same⟩
    cases front with
    | nil =>
      cases same
      rw [splitPiece plain]
      rfl
    | cons c early =>
      have rest : cs = early ++ separator :: last := (List.cons.inj same).2.symm
      rw [rest, splitBetween, splitPiece plain, List.getLast?_concat]
  · intro found
    obtain ⟨early, pieces⟩ := List.getLast?_eq_some_iff.mp found
    have whole := joinSplit separator cs
    rw [pieces] at whole
    cases early with
    | nil => exact ⟨[], by simpa [join] using whole⟩
    | cons piece rest =>
      rw [joinConcat separator (List.cons_ne_nil piece rest)] at whole
      exact ⟨separator :: join separator (piece :: rest), by simpa using whole⟩

end Text

namespace Channel

def EndsWild (c : Channel) : Prop :=
  c.segments.getLast? = some "*" ∨ c.segments.getLast? = some "**"

theorem pathSlash (c : Channel) : c.path.toList = '/' :: c.path.toList.drop 1 := by
  have slash : c.path.toList.head? = some '/' := by
    have valid := c.valid
    unfold fault? at valid
    grind
  cases chars : c.path.toList with
  | nil => simp [chars] at slash
  | cons first rest =>
    simp only [chars, List.head?_cons, Option.some.injEq] at slash
    simp [slash]

theorem lastSegment (c : Channel) (last : List Char) :
    c.segments.getLast? = some (String.ofList last) ↔ (pieces c.path).getLast? = some last := by
  simp only [segments, List.getLast?_map, Option.map_eq_some_iff, String.ofList_inj,
    exists_eq_right]

theorem kindMeta (c : Channel) :
    c.kind = .metaChannel ↔ startsWith c.path metaRoot = true := by
  unfold kind
  grind

theorem kindService (c : Channel) : c.kind = .service ↔
    startsWith c.path metaRoot = false ∧ startsWith c.path serviceRoot = true := by
  unfold kind
  grind

theorem kindApplication (c : Channel) : c.kind = .application ↔
    startsWith c.path metaRoot = false ∧ startsWith c.path serviceRoot = false ∧ ¬c.EndsWild := by
  have wild : c.EndsWild ↔
      (pieces c.path).getLast? = some single ∨ (pieces c.path).getLast? = some deep :=
    or_congr (c.lastSegment single) (c.lastSegment deep)
  rw [wild]
  unfold kind
  grind

end Channel
end Bayeux
