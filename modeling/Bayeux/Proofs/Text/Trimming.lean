import Bayeux.Text.Blank
import Mathlib.Data.List.TakeWhile
/-! Trimming takes all blanks from both ends of a text and no other character. What is left neither
begins nor ends with a blank, and nothing else of the text is left. -/

namespace Bayeux.Text

/-- The property White_Space, character by character. -/
def White (c : Char) : Prop :=
  0x09 ≤ c.toNat ∧ c.toNat ≤ 0x0d ∨ c.toNat = 0x20 ∨ c.toNat = 0x85 ∨ c.toNat = 0xa0 ∨
    c.toNat = 0x1680 ∨ 0x2000 ≤ c.toNat ∧ c.toNat ≤ 0x200a ∨ c.toNat = 0x2028 ∨ c.toNat = 0x2029 ∨
    c.toNat = 0x202f ∨ c.toNat = 0x205f ∨ c.toNat = 0x3000

/-- A text without the blanks at its ends. -/
structure Trimmed (s core : String) : Prop where
  between : ∃ left right : String, s = left ++ core ++ right ∧
    (∀ c ∈ left.toList, White c) ∧ ∀ c ∈ right.toList, White c
  first : ∀ c, core.toList.head? = some c → ¬White c
  last : ∀ c, core.toList.getLast? = some c → ¬White c

theorem isBlankIff (c : Char) : isBlank c = true ↔ White c := by
  simp [isBlank, blankRanges, White]
  omega

theorem trimLeftBlank {blanks rest : List Char} (all : ∀ c ∈ blanks, White c)
    (first : ∀ c, rest.head? = some c → ¬White c) : trimLeft (blanks ++ rest) = rest := by
  have gone : trimLeft (blanks ++ rest) = trimLeft rest :=
    List.dropWhile_append_of_pos fun c inside => (isBlankIff c).mpr (all c inside)
  rw [gone]
  cases rest with
  | nil => rfl
  | cons c rest =>
    refine List.dropWhile_cons_of_neg ?_
    rw [isBlankIff]
    exact first c rfl

theorem trimLeftParts (cs : List Char) : ∃ blanks, cs = blanks ++ trimLeft cs ∧
    (∀ c ∈ blanks, White c) ∧ ∀ c, (trimLeft cs).head? = some c → ¬White c := by
  refine ⟨cs.takeWhile isBlank, List.takeWhile_append_dropWhile.symm, fun c inside => ?_,
    fun c found white => ?_⟩
  · exact (isBlankIff c).mp (List.mem_takeWhile_imp inside)
  · have stays := List.head?_dropWhile_not isBlank cs
    simp only [trimLeft] at found
    simp only [found, (isBlankIff c).mpr white, Bool.true_eq_false] at stays

theorem trimBetween {left core right : List Char} (blankLeft : ∀ c ∈ left, White c)
    (blankRight : ∀ c ∈ right, White c) (first : ∀ c, core.head? = some c → ¬White c)
    (last : ∀ c, core.getLast? = some c → ¬White c) : trim (left ++ core ++ right) = core := by
  have turned : ∀ c ∈ right.reverse, White c :=
    fun c inside => blankRight c (List.mem_reverse.mp inside)
  cases core with
  | nil =>
    -- Nothing but blanks, which all go from the left.
    have all : ∀ c ∈ left ++ right, White c := fun c inside =>
      (List.mem_append.mp inside).elim (blankLeft c) (blankRight c)
    have gone : trimLeft (left ++ right ++ []) = [] := trimLeftBlank all nofun
    rw [List.append_nil] at gone
    rw [List.append_nil, trim, gone]
    rfl
  | cons c rest =>
    have begun : trimLeft (left ++ (c :: rest ++ right)) = c :: rest ++ right :=
      trimLeftBlank blankLeft fun d found => first d found
    have ended : trimLeft (right.reverse ++ (c :: rest).reverse) = (c :: rest).reverse :=
      trimLeftBlank turned fun d found => last d (by rwa [List.head?_reverse] at found)
    rw [List.append_assoc, trim, begun, List.reverse_append, ended, List.reverse_reverse]

theorem trimParts (cs : List Char) : ∃ left right, cs = left ++ trim cs ++ right ∧
    (∀ c ∈ left, White c) ∧ (∀ c ∈ right, White c) ∧
    (∀ c, (trim cs).head? = some c → ¬White c) ∧ ∀ c, (trim cs).getLast? = some c → ¬White c := by
  obtain ⟨left, begins, blankLeft, first⟩ := trimLeftParts cs
  obtain ⟨right, ends, blankRight, last⟩ := trimLeftParts (trimLeft cs).reverse
  have middle : trimLeft cs = trim cs ++ right.reverse := by
    rw [trim, ← List.reverse_append, ← ends, List.reverse_reverse]
  refine ⟨left, right.reverse, ?_, blankLeft, fun c inside => ?_, fun c found => ?_,
    fun c found => ?_⟩
  · rw [List.append_assoc, ← middle, ← begins]
  · exact blankRight c (List.mem_reverse.mp inside)
  · refine first c ?_
    rw [middle, List.head?_append, found]
    rfl
  · refine last c ?_
    rwa [trim, List.getLast?_reverse] at found

theorem trimmedIff (s core : String) : Trimmed s core ↔ trim s.toList = core.toList := by
  constructor
  · rintro ⟨⟨left, right, rfl, blankLeft, blankRight⟩, first, last⟩
    rw [String.toList_append, String.toList_append]
    exact trimBetween blankLeft blankRight first last
  · intro same
    obtain ⟨left, right, whole, blankLeft, blankRight, first, last⟩ := trimParts s.toList
    rw [same] at whole first last
    refine ⟨⟨String.ofList left, String.ofList right, ?_, ?_, ?_⟩, first, last⟩
    · rw [← String.toList_inj, whole]
      simp only [String.toList_append, String.toList_ofList]
    · rwa [String.toList_ofList]
    · rwa [String.toList_ofList]

theorem trimmedTidy {s : String} (tidy : ∀ c ∈ s.toList, ¬White c) : Trimmed s s where
  between := ⟨"", "", by simp, nofun, nofun⟩
  first c found := tidy c (List.mem_of_head? found)
  last c found := tidy c (List.mem_of_getLast? found)

/- Whatever stands behind a tidy beginning, blanks go from its end only. -/
theorem trimmedBehind {front : String} (some_ : front ≠ "") (tidy : ∀ c ∈ front.toList, ¬White c)
    (rest : String) : ∃ kept, Trimmed (front ++ rest) (front ++ kept) := by
  obtain ⟨blanks, ends, blank, last⟩ := trimLeftParts rest.toList.reverse
  generalize trimLeft rest.toList.reverse = kept at ends last
  have whole : rest = String.ofList kept.reverse ++ String.ofList blanks.reverse := by
    rw [← String.toList_inj, String.toList_append, String.toList_ofList, String.toList_ofList,
      ← List.reverse_append, ← ends, List.reverse_reverse]
  refine ⟨String.ofList kept.reverse, ⟨"", String.ofList blanks.reverse, ?_, nofun, ?_⟩, ?_, ?_⟩
  · rw [String.empty_append, String.append_assoc, ← whole]
  · rw [String.toList_ofList]
    exact fun c inside => blank c (List.mem_reverse.mp inside)
  · intro c found
    obtain ⟨first, others, begins⟩ :=
      List.exists_cons_of_ne_nil (mt String.toList_eq_nil_iff.mp some_)
    rw [String.toList_append, begins] at found
    cases found
    exact tidy c (begins ▸ List.mem_cons_self)
  · intro c found
    rw [String.toList_append, String.toList_ofList, List.getLast?_append, List.getLast?_reverse,
      Option.or_eq_some_iff] at found
    rcases found with inKept | ⟨-, inFront⟩
    · exact last c inKept
    · exact tidy c (List.mem_of_getLast? inFront)

end Bayeux.Text
