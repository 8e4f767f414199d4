import Bayeux.Proofs.Json.Equality
import Bayeux.Proofs.Json.Sanity
import Bayeux.Proofs.Value.Twins
/-! What is encoded decodes to the same visible value, and what was decoded encodes to a text that
is no longer and decodes to the same value. An embedded document is read with all the room again,
so that what a text with one shows can be too deep to be read once it is written out. -/

namespace Bayeux

namespace Json

theorem readWritten {j : Json} (legible : Throughout Legible j) (distinct : Distinct j) :
    readText j.text = if depth j ≤ containerLimit then .ok j else .error .tooDeep := by
  have read := readSpelled j legible distinct (2 * (spelled j).length + 2) containerLimit
    (by omega) .finished
  rw [List.append_nil] at read
  have whole : j.text.toUTF8.toList = spelled j := bytesText j
  rw [readText, whole, Json.read, read]
  by_cases fits : depth j ≤ containerLimit
  · simp only [if_pos fits]
    rfl
  · simp only [if_neg fits]

theorem textSize {j : Json} (integral : Throughout Integral j) :
    j.text.utf8ByteSize = weight j := by
  rw [← bytesLength, bytesText, spelledWeight j integral]

theorem readReads {input : Bytes} {j : Json} (known : Json.read input = .ok j) :
    ∃ rest, Reads (.value containerLimit) input j rest := by
  unfold Json.read at known
  split at known
  · cases known
  · rename_i found
    split at known
    · cases known
      exact ⟨_, valueReads found⟩
    · cases known

theorem readFits {input : Bytes} {j : Json} (known : Json.read input = .ok j) :
    Sane j ∧ weight j ≤ input.length ∧ (¬Embeds input → depth j ≤ containerLimit) := by
  obtain ⟨rest, read⟩ := readReads known
  have weighs := (readWeight read trivial).2
  refine ⟨readSane read trivial trivial, ?_, fun alone => ?_⟩
  · simp only [Stage.credit] at weighs
    omega
  · exact readDepth read trivial List.suffix_rfl trivial alone

mutual
theorem legibleThroughout : (j : Json) → Throughout Integral j → Throughout Ranged j →
    Throughout Unembedded j → Throughout Legible j
  | .null, a, b, c | .bool _, a, b, c | .number _, a, b, c | .string _, a, b, c => ⟨a, b, c⟩
  | .array items, ⟨a, as⟩, ⟨b, bs⟩, ⟨c, cs⟩ => ⟨⟨a, b, c⟩, legibleItems items as bs cs⟩
  | .object fields, ⟨a, as⟩, ⟨b, bs⟩, ⟨c, cs⟩ => ⟨⟨a, b, c⟩, legibleFields fields as bs cs⟩
theorem legibleItems : (items : List Json) → ThroughoutItems Integral items →
    ThroughoutItems Ranged items → ThroughoutItems Unembedded items → ThroughoutItems Legible items
  | [], _, _, _ => trivial
  | item :: items, ⟨a, as⟩, ⟨b, bs⟩, ⟨c, cs⟩ =>
    ⟨legibleThroughout item a b c, legibleItems items as bs cs⟩
theorem legibleFields : (fields : List (String × Json)) → ThroughoutFields Integral fields →
    ThroughoutFields Ranged fields → ThroughoutFields Unembedded fields →
    ThroughoutFields Legible fields
  | [], _, _, _ => trivial
  | (_, value) :: fields, ⟨a, as⟩, ⟨b, bs⟩, ⟨c, cs⟩ =>
    ⟨legibleThroughout value a b c, legibleFields fields as bs cs⟩
end

end Json

namespace Value

theorem distinctVisible {v : Value} (sound : v.Sound) : v.visible.Distinct := by
  induction sound with
  | null => trivial
  | bool b => trivial
  | number n => trivial
  | string s => trivial
  | array each ih =>
    rw [visibleArray]
    refine (Json.distinctItemsIff _).mpr fun item inside => ?_
    obtain ⟨x, member, rfl⟩ := List.mem_map.mp inside
    exact ih x member
  | @object fields distinct each ih =>
    rw [visibleObject]
    refine ⟨by rw [Table.keysMapValues]; exact Record.namesOnce distinct,
      (Json.distinctFieldsIff _).mpr fun field inside => ?_⟩
    obtain ⟨⟨name, x⟩, member, rfl⟩ := List.mem_map.mp inside
    refine ih name x ?_
    rw [← Record.getEntries]
    exact Table.getOfMem (Record.namesOnce distinct) member

end Value

namespace Frame
open Value (soundShown)
open Json (Throughout Legible Integral Embeds depth containerLimit legibleThroughout)

theorem encodeOk {v : Value} {text : String} (written : encode v = .ok text) :
    text = v.visible.text ∧ text.utf8ByteSize ≤ maxFrameSize := by
  simp only [encode] at written
  split at written
  · cases written
  · rename_i within
    cases written
    exact ⟨rfl, Nat.not_lt.mp within⟩

theorem decodeOk {frame : ByteArray} {v : Value} (read : decode frame = .ok v) :
    ∃ j, frame.size ≤ maxFrameSize ∧ Json.read frame.toList = .ok j ∧ v = .ofJson j := by
  unfold decode at read
  split at read
  · cases read
  · rename_i within
    split at read
    · rename_i j known
      cases read
      exact ⟨j, Nat.not_lt.mp within, known, rfl⟩
    · cases read

theorem decodeWritten {v : Value} (legible : Throughout Legible v.visible)
    (distinct : v.visible.Distinct) {text : String} (written : encode v = .ok text) :
    decode text.toUTF8 =
      if depth v.visible ≤ containerLimit then .ok v.plainCopy else .error (.json .tooDeep) := by
  obtain ⟨rfl, within⟩ := encodeOk written
  have small : ¬v.visible.text.toUTF8.size > maxFrameSize := Nat.not_lt.mpr within
  have read : Json.read v.visible.text.toUTF8.toList = _ := Json.readWritten legible distinct
  simp only [decode, if_neg small]
  rw [read]
  by_cases fits : depth v.visible ≤ containerLimit
  · simp only [if_pos fits]
    rfl
  · simp only [if_neg fits]

theorem codecRoundTrip :
    (∀ v : Value, v.Sound → Throughout Legible v.visible → ∀ text, encode v = .ok text →
      decode text.toUTF8 =
        if depth v.visible ≤ containerLimit then .ok v.plainCopy else .error (.json .tooDeep)) ∧
    ∀ (frame : ByteArray) (v : Value), decode frame = .ok v → Throughout Integral v.visible →
      ∃ text, encode v = .ok text ∧ text.utf8ByteSize ≤ frame.size ∧
        (decode text.toUTF8 =
          if depth v.visible ≤ containerLimit then .ok v else .error (.json .tooDeep)) ∧
        (¬Embeds frame.toList → depth v.visible ≤ containerLimit) := by
  constructor
  · intro v sound legible text written
    exact decodeWritten legible (Value.distinctVisible sound) written
  · intro frame v read integral
    obtain ⟨j, within, known, rfl⟩ := decodeOk read
    have shown := Value.visibleOfJson j
    rw [shown] at integral ⊢
    obtain ⟨sane, weighs, fits⟩ := Json.readFits known
    have size : j.text.utf8ByteSize ≤ frame.size := by
      rw [Json.textSize integral]
      rwa [Json.toListData] at weighs
    have written : encode (.ofJson j) = .ok j.text := by
      simp only [encode, shown]
      exact if_neg (Nat.not_lt.mpr (size.trans within))
    have legible := legibleThroughout j integral sane.ranged sane.unembedded
    have again := decodeWritten (by rwa [shown]) (by rw [shown]; exact sane.distinct) written
    rw [Value.plainCopy, shown] at again
    exact ⟨j.text, written, size, again, fits⟩

theorem encodeText {v : Value} {text : String} (shown : v.visible.text = text)
    (within : text.utf8ByteSize ≤ maxFrameSize) : encode v = .ok text := by
  simp only [encode, shown]
  exact if_neg (Nat.not_lt.mpr within)

theorem codecRoundTripOverlaid :
    let list : Sequence Value := .copied (.plain [.null]) [.bool true, .integer (-5), .string "é\n"]
    let fields : Record Value := .patched (.plain [("a", .null), ("b", .null), ("c", .array list)])
      [("d", .string "\"")] ["b"]
    let v : Value := .object fields
    let text := "\x7b\"d\":\"\\\"\",\"a\":null,\"c\":[true,-5,\"é\\n\"]\x7d"
    let frame := " \x7b \"k\": [1.5], \"k\" : [ 2 , \"\\u0041\"] \x7d"
    let w : Value := .ofJson (.object [("k", .array [.number (.integer 2), .string "A"])])
    v.Sound ∧ Throughout Legible v.visible ∧ encode v = .ok text ∧
      decode text.toUTF8 = .ok v.plainCopy ∧
      decode frame.toUTF8 = .ok w ∧ Throughout Integral w.visible ∧
      ∃ again, encode w = .ok again ∧ again.utf8ByteSize ≤ frame.toUTF8.size ∧
        decode again.toUTF8 = .ok w := by
  intro list fields v text frame w
  have items : (Value.array list).Sound := by
    refine .array fun item inside => ?_
    simp only [list, Sequence.items, List.mem_cons, List.not_mem_nil, or_false] at inside
    rcases inside with rfl | rfl | rfl
    · exact .bool true
    · exact .number _
    · exact .string _
  have sound : v.Sound := by
    refine soundShown (by decide : ["a", "b", "c"].Nodup ∧ ["d"].Nodup) ?_
    have entries : fields.entries = [("d", .string "\""), ("a", .null), ("c", .array list)] := rfl
    rw [entries]
    exact List.forall_mem_cons.mpr ⟨.string _, List.forall_mem_cons.mpr
      ⟨.null, List.forall_mem_singleton.mpr items⟩⟩
  have shown : v.visible = .object [("d", .string "\""), ("a", .null),
      ("c", .array [.bool true, .number (.integer (-5)), .string "é\n"])] := rfl
  have legible : Throughout Legible v.visible := by
    rw [shown]
    decide
  have spelled : v.visible.text = text := by
    simp only [shown, Json.text, Json.write, Json.writeFields, Json.writeItems,
      Json.writeStringChars]
    rfl
  have written := encodeText spelled (by decide)
  have read : decode frame.toUTF8 = .ok w := decodeRead (by decide +kernel) (by decide +kernel)
  have integral : Throughout Integral w.visible :=
    ⟨trivial, ⟨trivial, trivial, trivial, trivial⟩, trivial⟩
  have kept := codecRoundTrip.1 v sound legible text written
  obtain ⟨again, encoded, size, back, -⟩ := codecRoundTrip.2 frame.toUTF8 w read integral
  have flat : depth w.visible ≤ containerLimit := by decide
  rw [if_pos flat] at back
  exact ⟨sound, legible, written, kept, read, integral, again, encoded, size, back⟩

def nestedLists : Nat → Json
  | 0 => .array []
  | n + 1 => .array [nestedLists n]

theorem nestedDistinct (n : Nat) : (nestedLists n).Distinct := by
  induction n with
  | zero => trivial
  | succ n ih => exact ⟨ih, trivial⟩

/-- An object that stands for another value, and a document that no longer fits into its lists. -/
theorem embeddedNotKept :
    (¬∀ v : Value, v.Sound → Throughout Integral v.visible → Throughout Json.Ranged v.visible →
      depth v.visible ≤ containerLimit → ∀ text, encode v = .ok text →
        decode text.toUTF8 = .ok v.plainCopy) ∧
    ¬∀ (frame : ByteArray) (v : Value), decode frame = .ok v → Throughout Integral v.visible →
      ∃ text, encode v = .ok text ∧ decode text.toUTF8 = .ok v := by
  constructor
  · intro kept
    let v : Value := .object (.plain [("$serde_json::private::RawValue", .string "1")])
    have sound : v.Sound :=
      soundShown (by decide : ["$serde_json::private::RawValue"].Nodup)
        (List.forall_mem_singleton.mpr (.string "1"))
    have spelled : v.visible.text = "\x7b\"$serde_json::private::RawValue\":\"1\"\x7d" := by
      have shown : v.visible = .object [("$serde_json::private::RawValue", .string "1")] := rfl
      simp only [shown, Json.text, Json.write, Json.writeFields, Json.writeStringChars]
      rfl
    have back := kept v sound (by decide) (by decide) (by decide) _ (encodeText spelled (by decide))
    have other : decode "\x7b\"$serde_json::private::RawValue\":\"1\"\x7d".toUTF8 =
        .ok (.ofJson (.number (.integer 1))) := decodeRead (by decide) (by decide +kernel)
    rw [other] at back
    cases back
  · intro kept
    let bytes : Json.Bytes := List.replicate 126 0x5b ++
      "\x7b\"$serde_json::private::RawValue\":\"[[]]\"\x7d".toUTF8.data.toList ++
        List.replicate 126 0x5d
    have known : Json.read bytes = .ok (nestedLists 127) := by decide +kernel
    have read : decode bytes.toByteArray = .ok (.ofJson (nestedLists 127)) :=
      decodeRead (by decide +kernel) (by rwa [Json.toListData, List.data_toByteArray])
    have shown := Value.visibleOfJson (nestedLists 127)
    have legible : Throughout Legible (nestedLists 127) := by decide +kernel
    have integral : Throughout Integral (nestedLists 127) := by decide +kernel
    have deep : ¬depth (nestedLists 127) ≤ containerLimit := by decide +kernel
    obtain ⟨text, written, back⟩ := kept _ _ read (by rwa [shown])
    have lost := decodeWritten (by rwa [shown]) (by rw [shown]; exact nestedDistinct 127) written
    rw [shown, if_neg deep] at lost
    cases lost.symm.trans back

end Frame
end Bayeux
