import Bayeux.Text.Split
/-! Patterns that paths are held against. A colon captures the rest of a segment, a star the
rest of the path. Every capture has a name, which does not matter. -/

namespace Bayeux.Http.Pattern

inductive Piece where
  | exact (c : Char)
  | segment
  | rest
  deriving DecidableEq, Repr

def isCapture (c : Char) : Bool := c == ':' || c == '*'

def pieces (inName : Bool) : List Char → List Piece
  | [] => []
  | c :: cs =>
    if inName && c != '/' then pieces true cs
    else if c = ':' then .segment :: pieces true cs
    else if c = '*' then [.rest]
    else .exact c :: pieces false cs

/-- Nothing is captured at the end of a path; in front of a slash a segment may be empty. -/
def matchesPieces : List Piece → List Char → Bool
  | [], path => path.isEmpty
  | .exact c :: pieces, d :: path => c == d && matchesPieces pieces path
  | .exact _ :: _, [] => false
  | .segment :: pieces, path => !path.isEmpty && matchesPieces pieces (path.dropWhile (· != '/'))
  | .rest :: _, path => !path.isEmpty

def fits (pattern path : String) : Bool := matchesPieces (pieces false pattern.toList) path.toList

/-- What stands in front of the first capture. -/
def stem (pattern : String) : List Char := pattern.toList.takeWhile fun c => !isCapture c

/-- The pattern leaves the path to capture something before the path is at its end. -/
def branchesOff (pattern path : String) : Bool :=
  (stem pattern).isPrefixOf path.toList && decide (stem pattern ≠ path.toList)

/-! Which patterns are sound. -/

def maxSegments : Nat := 25

/-- A segment holds one capture at most, with the name up to its end. A star stands at the start
of the last segment. -/
def soundSegment (isLast : Bool) (segment : List Char) : Bool :=
  match segment.dropWhile fun c => !isCapture c with
  | [] => true
  | mark :: name =>
    !name.isEmpty && !name.any isCapture &&
      (mark == ':' || isLast && decide (segment = mark :: name))

def soundSegments : List (List Char) → Bool
  | [] => true
  | [segment] => soundSegment true segment
  | segment :: rest => soundSegment false segment && soundSegments rest

def isSound (pattern : String) : Bool :=
  match pattern.toList with
  | '/' :: rest =>
    soundSegments (Text.split '/' rest) && decide (rest.count ':' ≤ maxSegments)
  | _ => false

theorem matchesPlain {pattern : List Char} (plain : ∀ c ∈ pattern, c ≠ ':' ∧ c ≠ '*')
    (path : List Char) : matchesPieces (pieces false pattern) path = decide (pattern = path) := by
  induction pattern generalizing path with
  | nil => cases path <;> rfl
  | cons c cs ih =>
    obtain ⟨noColon, noStar⟩ := plain c List.mem_cons_self
    have there := ih fun d h => plain d (List.mem_cons_of_mem c h)
    cases path with
    | nil => simp [pieces, matchesPieces, noColon, noStar]
    | cons d ds =>
      rw [pieces, if_neg (by simp), if_neg noColon, if_neg noStar, matchesPieces, there]
      by_cases same : c = d <;> simp [same]

theorem fitsPlain {pattern : String} (plain : ∀ c ∈ pattern.toList, c ≠ ':' ∧ c ≠ '*')
    (path : String) : fits pattern path = decide (pattern = path) := by
  simp only [fits, matchesPlain plain, String.toList_inj]

end Bayeux.Http.Pattern
