import Bayeux.Packet
import Bayeux.Proofs.Json.RoundTrip
/-! The text of packets decodes to the messages of all of them, one packet behind the other, however
many of them are empty. -/

namespace Bayeux

namespace Frame
open Json (Throughout ThroughoutItems Legible depth containerLimit)

theorem decodeBatchWritten {items : List Json} (legible : ∀ item ∈ items, Throughout Legible item)
    (distinct : ∀ item ∈ items, item.Distinct)
    (within : (Json.text (.array items)).utf8ByteSize ≤ maxFrameSize) :
    decodeBatch (Json.text (.array items)).toUTF8 =
      if ∀ item ∈ items, depth item < containerLimit then .ok (items.map Value.ofJson)
      else .error (.json .tooDeep) := by
  have shown : (Value.ofJson (.array items)).visible = .array items := Value.visibleOfJson _
  have whole : Throughout Legible (.array items) :=
    ⟨⟨trivial, trivial, trivial⟩, (Json.throughoutItemsIff _ _).mpr legible⟩
  have names : Json.Distinct (.array items) := (Json.distinctItemsIff _).mpr distinct
  have read := decodeWritten (by rwa [shown]) (by rwa [shown])
    (encodeText (congrArg Json.text shown) within)
  have fits : depth (.array items) ≤ containerLimit ↔
      ∀ item ∈ items, depth item < containerLimit := by
    rw [depth, Nat.succ_le_iff, Nat.lt_iff_le_pred (by decide), Json.depthItemsIff]
    exact forall₂_congr fun item _ => (Nat.lt_iff_le_pred (by decide)).symm
  rw [Value.plainCopy, shown] at read
  simp only [decodeBatch, read, fits]
  by_cases shallow : ∀ item ∈ items, depth item < containerLimit
  · simp only [if_pos shallow, Value.ofJson, Value.ofItemsMap]
    rfl
  · simp only [if_neg shallow]

/- A batch has no embedded document left in it, for reading has put its tree in its place. -/
theorem saneBatch {frame : ByteArray} {batch : List Value} (read : decodeBatch frame = .ok batch) :
    ∀ v ∈ batch, v.visible.Sane := by
  unfold decodeBatch at read
  cases decoded : decode frame with
  | error e =>
    rw [decoded] at read
    cases read
  | ok whole =>
    obtain ⟨j, -, known, rfl⟩ := decodeOk decoded
    have sane := (Json.readFits known).1
    rw [decoded] at read
    cases j with
    | null | bool | number | string => cases read
    | array items =>
      obtain rfl : Value.ofItems items = batch := Except.ok.inj read
      rw [Value.ofItemsMap]
      refine List.forall_mem_map.mpr fun item inside => ?_
      rw [Value.visibleOfJson]
      exact (Json.saneItems items).mp sane item inside
    | object fields =>
      obtain rfl : [Value.ofJson (.object fields)] = batch := Except.ok.inj read
      refine List.forall_mem_singleton.mpr ?_
      rw [Value.visibleOfJson]
      exact sane

end Frame

namespace Packet
open Json (Throughout Legible depth containerLimit)

theorem textDecodes :
    (∀ packets : List Packet,
      (textOfAll? packets = none ↔ ∀ p ∈ packets, p.messages = []) ∧
      ∀ text, textOfAll? packets = some text → text.utf8ByteSize ≤ maxFrameSize →
        (∀ m ∈ packets.flatMap messages,
          (Value.object m.fields).Sound ∧ Throughout Legible m.visible) →
        Frame.decodeBatch text.toUTF8 =
          if ∀ m ∈ packets.flatMap messages, depth m.visible < containerLimit then
            .ok ((packets.flatMap messages).map fun m => (Value.object m.fields).plainCopy)
          else .error (.json .tooDeep)) ∧
    ∀ p : Packet, (p.messages ≠ [] → textOfAll? [p] = some p.text) ∧
      (p.messages = [] → p.text = "[]") := by
  constructor
  · intro packets
    constructor
    · rw [textOfMessages, ite_eq_left_iff]
      simp
    · intro text known within each
      rw [textOfMessages] at known
      split at known
      · cases known
      · cases known
        have decoded := Frame.decodeBatchWritten
          (List.forall_mem_map.mpr fun m inside => (each m inside).2)
          (List.forall_mem_map.mpr fun m inside => Value.distinctVisible (each m inside).1) within
        simp only [List.forall_mem_map, List.map_map] at decoded
        exact decoded
  · intro p
    constructor
    · intro some_
      rw [textOfMessages, textMessages]
      simp [some_]
    · intro none
      rw [textMessages, none]
      rfl

theorem textDecodesEmpties :
    let quiet : Packet := .empty .response
    let channel : Message := ⟨.plain [("channel", .string "/a")]⟩
    let list : Message := ⟨.view (.plain [("id", .array (.plain [.integer 7, .null]))])⟩
    let packets := [quiet, .response [channel], quiet, .response [list, .empty], quiet]
    let text := "[\x7b\"channel\":\"/a\"\x7d,\x7b\"id\":[7,null]\x7d,\x7b\x7d]"
    textOfAll? packets = some text ∧ textOfAll? [quiet, quiet] = none ∧ quiet.text = "[]" ∧
      Frame.decodeBatch text.toUTF8 = .ok [.object (.plain [("channel", .string "/a")]),
        .object (.plain [("id", .array (.plain [.integer 7, .null]))]), .object .empty] := by
  intro quiet channel list packets text
  have written : textOfAll? packets = some text := by
    rw [textOfMessages]
    have shown : messagesText [channel, list, .empty] = text := by
      have trees : [channel, list, Message.empty].map Message.visible =
          [.object [("channel", .string "/a")],
            .object [("id", .array [.number (.integer 7), .null])], .object []] := rfl
      rw [messagesText, trees]
      simp only [Json.text, Json.write, Json.writeItems, Json.writeFields, Json.writeStringChars]
      rfl
    exact congrArg some shown
  have each : ∀ m ∈ packets.flatMap messages,
      (Value.object m.fields).Sound ∧ Throughout Legible m.visible := by
    have all : packets.flatMap messages = [channel, list, .empty] := rfl
    simp only [all, List.forall_mem_cons, List.not_mem_nil, false_imp_iff, implies_true, and_true]
    have items : (Value.array (.plain [.integer 7, .null])).Sound := by
      refine .array (List.forall_mem_cons.mpr ⟨.number _, List.forall_mem_singleton.mpr .null⟩)
    refine ⟨⟨?_, by decide⟩, ⟨?_, by decide⟩, ?_, by decide⟩
    · exact Value.soundShown (by decide : ["channel"].Nodup)
        (List.forall_mem_singleton.mpr (.string "/a"))
    · exact Value.soundShown (by decide : ["id"].Nodup) (List.forall_mem_singleton.mpr items)
    · exact Value.soundShown List.nodup_nil (fun _ inside => by cases inside)
  have decoded := (textDecodes.1 packets).2 text written (by decide) each
  have silent := (textDecodes.1 [quiet, quiet]).1.mpr (by simp [quiet, Packet.empty])
  exact ⟨written, silent, (textDecodes.2 quiet).2 rfl, decoded⟩

theorem embeddedNotSent :
    ¬∀ (packets : List Packet) (text : String), textOfAll? packets = some text →
      text.utf8ByteSize ≤ maxFrameSize →
      (∀ m ∈ packets.flatMap messages, (Value.object m.fields).Sound ∧
        Throughout Json.Integral m.visible ∧ Throughout Json.Ranged m.visible ∧
        depth m.visible < containerLimit) →
      Frame.decodeBatch text.toUTF8 =
        .ok ((packets.flatMap messages).map fun m => (Value.object m.fields).plainCopy) := by
  intro sent
  let m : Message := ⟨.plain [("$serde_json::private::RawValue", .string "1")]⟩
  let text := "[\x7b\"$serde_json::private::RawValue\":\"1\"\x7d]"
  have shown : messagesText [m] = text := by
    have tree : m.visible = .object [("$serde_json::private::RawValue", .string "1")] := rfl
    rw [messagesText, List.map_singleton, tree]
    simp only [Json.text, Json.write, Json.writeItems, Json.writeFields, Json.writeStringChars]
    rfl
  have written : textOfAll? [.response [m]] = some text := by
    rw [textOfMessages]
    exact congrArg some shown
  have sound : (Value.object m.fields).Sound :=
    Value.soundShown (by decide : ["$serde_json::private::RawValue"].Nodup)
      (List.forall_mem_singleton.mpr (.string "1"))
  have back := sent [.response [m]] text written (by decide)
    (List.forall_mem_singleton.mpr ⟨sound, by decide, by decide, by decide⟩)
  have read : Json.readText text = .ok (.array [.number (.integer 1)]) := by decide +kernel
  rw [Frame.decodeBatchItems (by decide) read] at back
  cases back

end Packet
end Bayeux
