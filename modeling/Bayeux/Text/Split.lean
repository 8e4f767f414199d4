/-! Splitting characters at every separator. There is always one piece more than there are
separators, no piece holds one, and joining the pieces gives the characters back. -/

namespace Bayeux.Text

def split (separator : Char) : List Char → List (List Char)
  | [] => [[]]
  | c :: rest =>
    if c = separator then [] :: split separator rest
    else
      match split separator rest with
      | [] => [[c]]
      | piece :: pieces => (c :: piece) :: pieces

def join (separator : Char) : List (List Char) → List Char
  | [] => []
  | [piece] => piece
  | piece :: pieces => piece ++ separator :: join separator pieces

theorem splitNonempty (separator : Char) (cs : List Char) : split separator cs ≠ [] := by
  cases cs with
  | nil => simp [split]
  | cons c rest =>
    by_cases h : c = separator
    · simp [split, h]
    · simp only [split, if_neg h]
      split <;> simp

theorem joinSplit (separator : Char) (cs : List Char) :
    join separator (split separator cs) = cs := by
  induction cs with
  | nil => rfl
  | cons c rest ih =>
    by_cases h : c = separator
    · simp only [split, if_pos h]
      cases hs : split separator rest with
      | nil => exact absurd hs (splitNonempty separator rest)
      | cons piece pieces => simp [join, ← hs, ih, h]
    · simp only [split, if_neg h]
      cases hs : split separator rest with
      | nil => exact absurd hs (splitNonempty separator rest)
      | cons piece pieces =>
        rw [hs] at ih
        cases pieces <;> simp_all [join]

theorem splitWithout (separator : Char) (cs : List Char) :
    ∀ piece ∈ split separator cs, separator ∉ piece := by
  induction cs with
  | nil => simp [split]
  | cons c rest ih =>
    by_cases h : c = separator
    · simp only [split, if_pos h, List.mem_cons]
      rintro piece (rfl | inside)
      · simp
      · exact ih piece inside
    · simp only [split, if_neg h]
      cases hs : split separator rest with
      | nil => exact absurd hs (splitNonempty separator rest)
      | cons first pieces =>
        rw [hs] at ih
        intro piece inside
        rcases List.mem_cons.mp inside with rfl | inside
        · exact fun bad => (List.mem_cons.mp bad).elim (fun e => h e.symm)
            (ih first List.mem_cons_self)
        · exact ih piece (List.mem_cons_of_mem _ inside)

theorem splitPiece {separator : Char} {cs : List Char} (h : separator ∉ cs) :
    split separator cs = [cs] := by
  induction cs with
  | nil => rfl
  | cons c rest ih =>
    have hc : c ≠ separator := fun e => h (e ▸ List.mem_cons_self)
    simp [split, hc, ih fun bad => h (List.mem_cons_of_mem _ bad)]

theorem splitAppend {separator : Char} {piece : List Char} (h : separator ∉ piece)
    (rest : List Char) :
    split separator (piece ++ separator :: rest) = piece :: split separator rest := by
  induction piece with
  | nil => simp [split]
  | cons c tail ih =>
    have hc : c ≠ separator := fun e => h (e ▸ List.mem_cons_self)
    simp [split, hc, ih fun bad => h (List.mem_cons_of_mem _ bad)]

end Bayeux.Text
