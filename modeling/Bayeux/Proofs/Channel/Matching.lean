import Bayeux.Proofs.Channel.Grammar
/-! Matching as text. A pattern compares segments; what it means is said of the text of paths: `*`
stands for one segment behind its stem, `**` for anything not empty behind it. The two agree
because the text of a stem followed by a slash ends a segment wherever it stands. -/

namespace Bayeux.Channel

def textOf : List String → String
  | [] => ""
  | segment :: rest => "/" ++ segment ++ textOf rest

theorem textAppend (segments others : List String) :
    textOf (segments ++ others) = textOf segments ++ textOf others := by
  induction segments with
  | nil => rw [List.nil_append, textOf, String.empty_append]
  | cons segment rest ih => simp only [List.cons_append, textOf, ih, String.append_assoc]

theorem textSpelled {path : String} {segments : List String} (spells : Spells path segments) :
    textOf segments = path := by
  induction spells with
  | last plain => rw [textOf, textOf, String.append_empty]
  | cons plain tame rest ih => rw [textOf, ih]

theorem pathText (c : Channel) : c.path = textOf c.segments := (textSpelled c.spelled).symm

theorem piecesBehind {stem : List String} (plain : ∀ segment ∈ stem, IsSegment segment)
    (s : String) :
    pieces (textOf stem ++ "/" ++ s) = stem.map String.toList ++ Text.split '/' s.toList := by
  induction stem with
  | nil => simp [pieces, textOf]
  | cons segment rest ih =>
    obtain ⟨here, behind⟩ := List.forall_mem_cons.mp plain
    have slash : (textOf rest ++ "/" ++ s).toList =
        '/' :: (textOf rest ++ "/" ++ s).toList.drop 1 := by
      cases rest <;> simp [textOf]
    have inner := ih behind
    rw [pieces] at inner
    rw [List.map_cons, List.cons_append, ← inner, ← Text.splitAppend here.2, ← slash]
    simp [pieces, textOf]

theorem segmentsBehind {c : Channel} {stem : List String}
    (plain : ∀ segment ∈ stem, IsSegment segment) {s : String}
    (path : c.path = textOf stem ++ "/" ++ s) :
    c.segments = stem ++ (Text.split '/' s.toList).map String.ofList := by
  rw [segments, path, piecesBehind plain, List.map_append, List.map_map]
  simp

section Pattern
variable {p c : Channel}

def stem (p : Channel) : List String := p.segments.dropLast

theorem stemPlain (p : Channel) : ∀ segment ∈ p.stem, IsSegment segment :=
  fun segment inside => spellsPlain p.spelled segment (List.dropLast_subset _ inside)

theorem stemLast {last : String} (ends : p.segments.getLast? = some last) :
    p.segments = p.stem ++ [last] := by
  obtain ⟨early, whole⟩ := List.getLast?_eq_some_iff.mp ends
  rw [stem, whole, List.dropLast_concat]

theorem stemText {last : String} (ends : p.segments.getLast? = some last) :
    p.path = textOf p.stem ++ ("/" ++ last) := by
  rw [pathText, stemLast ends, textAppend]
  simp [textOf, stem]

theorem kindEnds : (p.kind = .wild → p.segments.getLast? = some "*") ∧
    (p.kind = .deepWild → p.segments.getLast? = some "**") := by
  have classed := p.classed
  generalize p.kind = kind at classed
  cases classed <;> simp_all

theorem takeStem (p c : Channel) :
    c.segments.take p.stem.length = p.stem ↔ ∃ rest, c.segments = p.stem ++ rest := by
  rw [eq_comm, ← List.prefix_iff_eq_take]
  exact ⟨fun ⟨rest, whole⟩ => ⟨rest, whole.symm⟩, fun ⟨rest, whole⟩ => ⟨rest, whole.symm⟩⟩

theorem coversWild (kind : p.kind = .wild) :
    p.covers c = true ↔ ∃ segment, c.segments = p.stem ++ [segment] := by
  have one : p.segments.length = p.stem.length + 1 := by
    rw [stemLast (kindEnds.1 kind), List.length_append, List.length_singleton]
  simp only [covers, kind, Bool.and_eq_true, beq_iff_eq, one]
  rw [← stem, takeStem]
  constructor
  · rintro ⟨sizes, rest, whole⟩
    rw [whole, List.length_append] at sizes
    obtain ⟨segment, rfl⟩ := List.length_eq_one_iff.mp (Nat.add_left_cancel sizes)
    exact ⟨segment, whole⟩
  · rintro ⟨segment, whole⟩
    exact ⟨by rw [whole, List.length_append, List.length_singleton], [segment], whole⟩

theorem coversDeepWild (kind : p.kind = .deepWild) :
    p.covers c = true ↔ ∃ rest, rest ≠ [] ∧ c.segments = p.stem ++ rest := by
  simp only [covers, kind, Bool.and_eq_true, beq_iff_eq, decide_eq_true_eq]
  rw [← stem, takeStem]
  constructor
  · rintro ⟨longer, rest, whole⟩
    refine ⟨rest, fun nothing => ?_, whole⟩
    rw [whole, nothing, List.append_nil] at longer
    exact Nat.lt_irrefl _ longer
  · rintro ⟨rest, some_, whole⟩
    have behind := List.length_pos_iff.mpr some_
    exact ⟨by rw [whole, List.length_append]; omega, rest, whole⟩

theorem coversItself (wild : p.kind ≠ .wild) (deepWild : p.kind ≠ .deepWild) :
    p.covers c = true ↔ p.path = c.path := by
  unfold covers
  cases kind : p.kind <;> simp_all

theorem wildText (kind : p.kind = .wild) : p.covers c = true ↔
    ∃ s, s ≠ "" ∧ '/' ∉ s.toList ∧ c.path = textOf p.stem ++ "/" ++ s := by
  rw [coversWild kind]
  constructor
  · rintro ⟨segment, whole⟩
    obtain ⟨some_, plain⟩ := spellsPlain c.spelled segment (by simp [whole])
    refine ⟨segment, some_, plain, ?_⟩
    rw [pathText, whole, textAppend, textOf, textOf, String.append_empty, String.append_assoc]
  · rintro ⟨s, -, plain, path⟩
    refine ⟨s, ?_⟩
    rw [segmentsBehind (stemPlain p) path, Text.splitPiece plain]
    simp

theorem deepWildText (kind : p.kind = .deepWild) : p.covers c = true ↔
    ∃ s, s ≠ "" ∧ c.path = textOf p.stem ++ "/" ++ s := by
  rw [coversDeepWild kind]
  constructor
  · rintro ⟨rest, some_, whole⟩
    obtain ⟨first, others, rfl⟩ := List.exists_cons_of_ne_nil some_
    have filled := (spellsPlain c.spelled first (by simp [whole])).1
    refine ⟨first ++ textOf others, fun nothing => filled ?_, ?_⟩
    · exact (String.append_eq_empty_iff.mp nothing).1
    · rw [pathText, whole, textAppend, textOf]
      simp only [String.append_assoc]
  · rintro ⟨s, -, path⟩
    refine ⟨_, ?_, segmentsBehind (stemPlain p) path⟩
    simpa using Text.splitNonempty '/' s.toList

theorem wildStem {stem : String} (kind : p.kind = .wild) (path : p.path = stem ++ "/*") :
    stem = textOf p.stem :=
  (String.append_left_inj _).mp (path.symm.trans (stemText (kindEnds.1 kind)))

theorem deepWildStem {stem : String} (kind : p.kind = .deepWild) (path : p.path = stem ++ "/**") :
    stem = textOf p.stem :=
  (String.append_left_inj _).mp (path.symm.trans (stemText (kindEnds.2 kind)))

/- A slash in front of stars is the last one, so what ends with another slash ends before it. -/
theorem stemWithin {early behind stem stars : List Char}
    (same : early ++ '/' :: behind = stem ++ '/' :: stars) (plain : '/' ∉ stars) :
    ∃ between, stem ++ ['/'] = early ++ '/' :: between := by
  rcases List.append_eq_append_iff.mp same with ⟨gap, rfl, rest⟩ | ⟨gap, rfl, rest⟩
  · cases gap with
    | nil => exact ⟨[], by rw [List.append_nil]⟩
    | cons first more =>
      obtain ⟨rfl, -⟩ := List.cons.inj rest
      exact ⟨more ++ ['/'], by simp⟩
  · cases gap with
    | nil => exact ⟨[], by rw [List.append_nil]⟩
    | cons first more =>
      obtain ⟨-, inside⟩ := List.cons.inj rest
      exact absurd (by simp [inside]) plain

/-- Everything that a pattern matches lies below what the pattern itself lies below. -/
theorem coversBelow {early behind : String} (some_ : behind ≠ "")
    (path : p.path = early ++ "/" ++ behind) (covered : p.covers c = true) :
    ∃ s, s ≠ "" ∧ c.path = early ++ "/" ++ s := by
  have within : ∀ stars : List Char, '/' ∉ stars →
      p.path = textOf p.stem ++ ("/" ++ String.ofList stars) →
        ∀ s, s ≠ "" → c.path = textOf p.stem ++ "/" ++ s →
          ∃ s, s ≠ "" ∧ c.path = early ++ "/" ++ s := by
    intro stars plain ends s filled shown
    have same := congrArg String.toList (path.symm.trans ends)
    simp only [String.toList_append, String.toList_ofList] at same
    obtain ⟨between, whole⟩ := stemWithin (by simpa using same) plain
    refine ⟨String.ofList between ++ s, fun nothing => ?_, ?_⟩
    · exact filled (String.append_eq_empty_iff.mp nothing).2
    · have more := congrArg (· ++ s.toList) whole
      rw [shown, ← String.toList_inj]
      simpa using more
  by_cases wild : p.kind = .wild
  · obtain ⟨s, filled, -, shown⟩ := (wildText wild).mp covered
    exact within single (by decide) (stemText (kindEnds.1 wild)) s filled shown
  · by_cases deepWild : p.kind = .deepWild
    · obtain ⟨s, filled, shown⟩ := (deepWildText deepWild).mp covered
      exact within deep (by decide) (stemText (kindEnds.2 deepWild)) s filled shown
    · exact ⟨behind, some_, (coversItself wild deepWild).mp covered ▸ path⟩

end Pattern

structure MatchesAsText (p c : Channel) : Prop where
  wild : ∀ stem, p.kind = .wild → p.path = stem ++ "/*" →
    (p.covers c = true ↔ ∃ s, s ≠ "" ∧ '/' ∉ s.toList ∧ c.path = stem ++ "/" ++ s)
  deepWild : ∀ stem, p.kind = .deepWild → p.path = stem ++ "/**" →
    (p.covers c = true ↔ ∃ s, s ≠ "" ∧ c.path = stem ++ "/" ++ s)
  other : p.kind ≠ .wild → p.kind ≠ .deepWild → (p.covers c = true ↔ c.path = p.path)
  /-- The first two leave no pattern of their kind out. -/
  shaped : (p.kind = .wild → ∃ stem, p.path = stem ++ "/*") ∧
    (p.kind = .deepWild → ∃ stem, p.path = stem ++ "/**")

theorem matchesAsText (p c : Channel) : MatchesAsText p c where
  wild _ kind path := wildStem kind path ▸ wildText kind
  deepWild _ kind path := deepWildStem kind path ▸ deepWildText kind
  other wild deepWild := (coversItself wild deepWild).trans eq_comm
  shaped :=
    ⟨fun kind => ⟨_, stemText (kindEnds.1 kind)⟩, fun kind => ⟨_, stemText (kindEnds.2 kind)⟩⟩

theorem coversSelf (c : Channel) : c.covers c = true := by
  by_cases wild : c.kind = .wild
  · have ends := stemText (kindEnds.1 wild)
    exact (wildText wild).mpr ⟨"*", by decide, by decide, by rw [ends, String.append_assoc]⟩
  · by_cases deepWild : c.kind = .deepWild
    · have ends := stemText (kindEnds.2 deepWild)
      exact (deepWildText deepWild).mpr ⟨"**", by decide, by rw [ends, String.append_assoc]⟩
    · exact (coversItself wild deepWild).mpr rfl

theorem deepCovers {stem behind : String} {p deep c : Channel} (kind : deep.kind = .deepWild)
    (path : deep.path = stem ++ "/**") (some_ : behind ≠ "")
    (below : p.path = stem ++ "/" ++ behind) (covered : p.covers c = true) :
    deep.covers c = true :=
  ((matchesAsText deep c).deepWild stem kind path).mpr (coversBelow some_ below covered)

theorem coversText :
    (∀ p c, MatchesAsText p c) ∧ (∀ c : Channel, c.covers c = true) ∧
      (∀ (stem : String) (one deep c : Channel), one.path = stem ++ "/*" →
        deep.path = stem ++ "/**" → deep.kind = .deepWild →
          one.covers c = true → deep.covers c = true) ∧
      (∀ (stem rest : String) (long short c : Channel), long.path = stem ++ "/" ++ rest ++ "/**" →
        short.path = stem ++ "/**" → short.kind = .deepWild →
          long.covers c = true → short.covers c = true) ∧
      ∀ (stem : String) (p c : Channel), p.path = stem ++ "/*" ∨ p.path = stem ++ "/**" →
        ¬BeginsWith c.path (stem ++ "/") → p.covers c = false := by
  refine ⟨matchesAsText, coversSelf, ?_, ?_, ?_⟩
  · intro stem one deep c single deeper kind covered
    have below : one.path = stem ++ "/" ++ "*" := by rw [single, String.append_assoc]; rfl
    exact deepCovers kind deeper (by decide) below covered
  · intro stem rest long short c path shorter kind covered
    have below : long.path = stem ++ "/" ++ (rest ++ "/**") := by rw [path, String.append_assoc]
    exact deepCovers kind shorter (by simp [String.append_eq_empty_iff]) below covered
  · intro stem p c shape apart
    have below : ∃ stars, stars ≠ "" ∧ p.path = stem ++ "/" ++ stars := by
      rcases shape with path | path
      · exact ⟨"*", by decide, by rw [path, String.append_assoc]; rfl⟩
      · exact ⟨"**", by decide, by rw [path, String.append_assoc]; rfl⟩
    obtain ⟨stars, some_, path⟩ := below
    rw [← Bool.not_eq_true]
    intro covered
    obtain ⟨s, -, shown⟩ := coversBelow some_ path covered
    exact apart ⟨s, shown⟩

theorem coversTextRooms :
    let one : Channel := ⟨"/chat/*", by decide⟩
    let deep : Channel := ⟨"/chat/**", by decide⟩
    let long : Channel := ⟨"/chat/a/**", by decide⟩
    let nested : Channel := ⟨"/chat/a/*", by decide⟩
    let beside : Channel := ⟨"/chats/a", by decide⟩
    one.kind = .wild ∧ deep.kind = .deepWild ∧ one.covers nested = false ∧
      long.covers nested = true ∧ deep.covers nested = true ∧ deep.covers beside = false := by
  intro one deep long nested beside
  obtain ⟨texts, -, -, longer, whole⟩ := coversText
  have covered : long.covers nested = true :=
    ((texts long nested).deepWild "/chat/a" (by decide) rfl).mpr ⟨"*", by decide, rfl⟩
  refine ⟨by decide, by decide, ?_, covered, ?_, ?_⟩
  · rw [← Bool.not_eq_true]
    intro matched
    obtain ⟨s, -, plain, path⟩ := ((texts one nested).wild "/chat" (by decide) rfl).mp matched
    have same : "a/*" = s := (String.append_right_inj "/chat/").mp path
    exact plain (same ▸ by decide)
  · exact longer "/chat" "a" long deep nested rfl rfl (by decide) covered
  · refine whole "/chat" deep beside (.inr rfl) ?_
    rintro ⟨rest, path⟩
    have same := congrArg (fun s => s.toList[5]?) path
    simp [beside] at same

end Bayeux.Channel
