import Bayeux.Frame
/-! Whether two trees are equal can be decided, and so whether a text says just that. -/

namespace Bayeux

namespace Json

mutual
def equals : Json → Json → Bool
  | .null, .null => true
  | .bool b, .bool c => b == c
  | .number m, .number n => decide (m = n)
  | .string s, .string t => s == t
  | .array items, .array others => equalItems items others
  | .object fields, .object others => equalFields fields others
  | _, _ => false
def equalItems : List Json → List Json → Bool
  | [], [] => true
  | item :: rest, other :: others => equals item other && equalItems rest others
  | _, _ => false
def equalFields : Table Json → Table Json → Bool
  | [], [] => true
  | (name, value) :: rest, (label, other) :: others =>
    name == label && equals value other && equalFields rest others
  | _, _ => false
end

mutual
theorem equalsIff (j k : Json) : equals j k = true ↔ j = k := by
  cases j <;> cases k <;>
    simp [equals, equalItemsIff _ _, equalFieldsIff _ _]
theorem equalItemsIff (items others : List Json) :
    equalItems items others = true ↔ items = others := by
  cases items <;> cases others <;> simp [equalItems, equalsIff _ _, equalItemsIff _ _]
theorem equalFieldsIff (fields others : Table Json) :
    equalFields fields others = true ↔ fields = others := by
  cases fields <;> cases others <;>
    simp [equalFields, equalsIff _ _, equalFieldsIff _ _, Prod.ext_iff]
end

instance : DecidableEq Json := fun j k => decidable_of_iff (equals j k = true) (equalsIff j k)

end Json

namespace Frame

theorem decodeRead {frame : ByteArray} {j : Json} (within : frame.size ≤ maxFrameSize)
    (read : Json.read frame.toList = .ok j) : decode frame = .ok (.ofJson j) := by
  simp only [decode, if_neg (Nat.not_lt.mpr within), read]

theorem decodeBatchItems {text : String} {items : List Json}
    (within : text.utf8ByteSize ≤ maxFrameSize) (read : Json.readText text = .ok (.array items)) :
    decodeBatch text.toUTF8 = .ok (Value.ofItems items) := by
  have known : decode text.toUTF8 = .ok (.ofJson (.array items)) := decodeRead within read
  rw [decodeBatch, known]
  rfl

end Frame
end Bayeux
