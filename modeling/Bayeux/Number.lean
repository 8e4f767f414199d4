/-! Numbers of a message: integers of the signed and unsigned 64-bit ranges, and
finite doubles held by their bits. Two numbers are the same only within one of
the two kinds; the two zeros of a double are the same number. -/

namespace Bayeux

/-- A finite double: the exponent field is not the one of infinities and NaNs. -/
structure Double where
  bits : UInt64
  finite : bits >>> 52 &&& 0x7ff ≠ 0x7ff
  deriving DecidableEq

namespace Double

def ofFloat? (x : Float) : Option Double :=
  if h : x.toBits >>> 52 &&& 0x7ff ≠ 0x7ff then some ⟨x.toBits, h⟩ else none

def toFloat (d : Double) : Float := Float.ofBits d.bits

def negative (d : Double) : Bool := d.bits >>> 63 != 0

def magnitude (d : Double) : UInt64 := d.bits &&& 0x7fff_ffff_ffff_ffff

def isZero (d : Double) : Bool := d.magnitude == 0

def same (a b : Double) : Bool := a.bits == b.bits || (a.isZero && b.isZero)

theorem sameRefl (a : Double) : a.same a = true := by simp [same]

theorem sameSymm {a b : Double} (h : a.same b = true) : b.same a = true := by
  simp only [same, Bool.or_eq_true, beq_iff_eq, Bool.and_eq_true] at *
  exact h.elim (fun e => .inl e.symm) (fun e => .inr ⟨e.2, e.1⟩)

theorem sameTrans {a b c : Double} (h : a.same b = true) (k : b.same c = true) :
    a.same c = true := by
  simp only [same, Bool.or_eq_true, beq_iff_eq, Bool.and_eq_true, isZero, magnitude] at *
  rcases h with h | h <;> rcases k with k | k
  · exact .inl (h.trans k)
  · exact .inr ⟨h ▸ k.1, k.2⟩
  · exact .inr ⟨h.1, k ▸ h.2⟩
  · exact .inr ⟨h.1, k.2⟩

end Double

inductive Number where
  | integer (n : Int)
  | real (d : Double)
  deriving DecidableEq

namespace Number

def int64Min : Int := -9223372036854775808
def int64Max : Int := 9223372036854775807
def uint64Max : Int := 18446744073709551615

/-- The integers a number can hold exactly. -/
def InRange (n : Int) : Prop := int64Min ≤ n ∧ n ≤ uint64Max

instance (n : Int) : Decidable (InRange n) := by unfold InRange; infer_instance

def ofFloat? (x : Float) : Option Number := (Double.ofFloat? x).map .real

def same : Number → Number → Bool
  | .integer m, .integer n => m == n
  | .real a, .real b => a.same b
  | _, _ => false

def asInt64 : Number → Option Int
  | .integer n => if int64Min ≤ n ∧ n ≤ int64Max then some n else none
  | .real _ => none

/-- The nearest double of an integer, a half going to the even neighbour. -/
def toFloat : Number → Float
  | .integer n =>
    let size := n.natAbs.toUInt64.toFloat
    if n < 0 then -size else size
  | .real d => d.toFloat

theorem sameRefl (a : Number) : a.same a = true := by
  cases a <;> simp [same, Double.sameRefl]

theorem sameSymm {a b : Number} (h : a.same b = true) : b.same a = true := by
  cases a <;> cases b <;> simp_all [same]
  exact Double.sameSymm h

theorem sameTrans {a b c : Number} (h : a.same b = true) (k : b.same c = true) :
    a.same c = true := by
  cases a <;> cases b <;> cases c <;> simp_all [same]
  exact Double.sameTrans h k

theorem sameIntegers (m n : Int) : (integer m).same (integer n) = true ↔ m = n := by
  simp [same]

end Number
end Bayeux
