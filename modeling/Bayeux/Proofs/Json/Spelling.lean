import Bayeux.Json.Reader
import Bayeux.Json.Text
import Mathlib.Data.List.Basic
/-! The written form of a tree as bytes, put together from the bytes of its parts. -/

namespace Bayeux.Json

theorem toListLoop (frame : ByteArray) (i : Nat) (read : List UInt8) :
    ByteArray.toList.loop frame i read = read.reverse ++ frame.data.toList.drop i := by
  fun_induction ByteArray.toList.loop frame i read with
  | case1 i read inside ih =>
    have here : i < frame.data.toList.length := inside
    have item : frame.get! i = frame.data.toList[i] := getElem!_pos frame.data i inside
    rw [ih, List.drop_eq_getElem_cons here, item]
    simp
  | case2 i read beyond =>
    have past : frame.data.toList.length ≤ i := Nat.not_lt.mp beyond
    rw [List.drop_eq_nil_of_le past, List.append_nil]

theorem toListData (frame : ByteArray) : frame.toList = frame.data.toList := by
  rw [ByteArray.toList, toListLoop]
  rfl

def bytesOf (s : String) : Bytes := s.toUTF8.toList

theorem bytesAppend (s t : String) : bytesOf (s ++ t) = bytesOf s ++ bytesOf t := by
  simp [bytesOf, toListData]

theorem bytesPush (s : String) (c : Char) :
    bytesOf (s.push c) = bytesOf s ++ String.utf8EncodeChar c := by
  simp [bytesOf, toListData, List.utf8Encode_singleton]

theorem bytesChars (s : String) : bytesOf s = s.toList.flatMap String.utf8EncodeChar := by
  rw [bytesOf, toListData, String.toUTF8_eq_toByteArray, ← String.utf8Encode_toList,
    List.utf8Encode, List.data_toByteArray]

theorem bytesEmpty : bytesOf "" = [] := by
  rw [bytesChars]
  rfl

theorem bytesLength (s : String) : (bytesOf s).length = s.utf8ByteSize := by
  rw [bytesOf, toListData]
  rfl

def spelledChar (c : Char) : Bytes := bytesOf (writeChar "" c)

def spelledString (s : String) : Bytes := 0x22 :: s.toList.flatMap spelledChar ++ [0x22]

def spelledNumber (n : Number) : Bytes := bytesOf n.text

mutual
def spelled : Json → Bytes
  | .null => [0x6e, 0x75, 0x6c, 0x6c]
  | .bool true => [0x74, 0x72, 0x75, 0x65]
  | .bool false => [0x66, 0x61, 0x6c, 0x73, 0x65]
  | .number n => spelledNumber n
  | .string s => spelledString s
  | .array items => 0x5b :: spelledItems true items ++ [0x5d]
  | .object fields => 0x7b :: spelledFields true fields ++ [0x7d]
def spelledItems (first : Bool) : List Json → Bytes
  | [] => []
  | item :: rest => (if first then [] else [0x2c]) ++ spelled item ++ spelledItems false rest
def spelledFields (first : Bool) : Table Json → Bytes
  | [] => []
  | (name, value) :: rest =>
    (if first then [] else [0x2c]) ++ spelledString name ++ 0x3a :: spelled value ++
      spelledFields false rest
end

theorem bytesWriteChar (text : String) (c : Char) :
    bytesOf (writeChar text c) = bytesOf text ++ spelledChar c := by
  unfold spelledChar writeChar
  split <;> try (rw [bytesAppend, bytesAppend, bytesEmpty, List.nil_append])
  split
  · simp only [bytesPush, bytesAppend, bytesEmpty, List.nil_append, List.append_assoc]
  · rw [bytesPush, bytesPush, bytesEmpty, List.nil_append]

theorem writeStringChars (text s : String) :
    writeString text s = (s.toList.foldl writeChar (text.push '"')).push '"' := by
  rw [writeString, String.foldl_eq_foldl_toList]

theorem bytesWriteString (text s : String) :
    bytesOf (writeString text s) = bytesOf text ++ spelledString s := by
  have chars : ∀ (cs : List Char) (text : String),
      bytesOf (cs.foldl writeChar text) = bytesOf text ++ cs.flatMap spelledChar := by
    intro cs
    induction cs with
    | nil => simp
    | cons c cs ih =>
      intro text
      rw [List.foldl_cons, ih, bytesWriteChar, List.flatMap_cons, List.append_assoc]
  rw [writeStringChars, bytesPush, chars, bytesPush, spelledString]
  simp only [List.append_assoc]
  rfl

theorem separated (text : String) (first : Bool) :
    bytesOf (if first then text else text.push ',') =
      bytesOf text ++ if first then [] else [0x2c] := by
  cases first
  · simp only [Bool.false_eq_true, if_false, bytesPush]
    rfl
  · simp

mutual
theorem bytesWrite (text : String) : (j : Json) →
    bytesOf (write text j) = bytesOf text ++ spelled j
  | .null => by
    rw [write, bytesAppend, bytesChars "null"]
    rfl
  | .bool true => by
    rw [write, bytesAppend, bytesChars "true"]
    rfl
  | .bool false => by
    rw [write, bytesAppend, bytesChars "false"]
    rfl
  | .number n => by rw [write, bytesAppend]; rfl
  | .string s => by rw [write, bytesWriteString, spelled]
  | .array items => by
    rw [write, bytesPush, bytesWriteItems _ true items, bytesPush, spelled]
    simp only [List.append_assoc]
    rfl
  | .object fields => by
    rw [write, bytesPush, bytesWriteFields _ true fields, bytesPush, spelled]
    simp only [List.append_assoc]
    rfl
theorem bytesWriteItems (text : String) (first : Bool) : (items : List Json) →
    bytesOf (writeItems text first items) = bytesOf text ++ spelledItems first items
  | [] => by simp [writeItems, spelledItems]
  | item :: rest => by
    rw [writeItems, bytesWriteItems _ false rest, bytesWrite _ item, separated, spelledItems]
    simp only [List.append_assoc]
theorem bytesWriteFields (text : String) (first : Bool) : (fields : List (String × Json)) →
    bytesOf (writeFields text first fields) = bytesOf text ++ spelledFields first fields
  | [] => by simp [writeFields, spelledFields]
  | (name, value) :: rest => by
    simp only [writeFields]
    rw [bytesWriteFields _ false rest, bytesWrite _ value, bytesPush, bytesWriteString, separated,
      spelledFields]
    simp only [List.append_assoc]
    rfl
end

theorem bytesText (j : Json) : bytesOf j.text = spelled j := by
  rw [text, bytesWrite, bytesEmpty, List.nil_append]

theorem bytesInj {s t : String} (same : bytesOf s = bytesOf t) : s = t := by
  rw [bytesOf, bytesOf, toListData, toListData] at same
  exact String.toByteArray_inj.mp (ByteArray.ext (Array.toList_inj.mp same))

/- As texts: what is written follows what was written before. -/
theorem writeText (text : String) (j : Json) : write text j = text ++ j.text := by
  refine bytesInj ?_
  rw [bytesWrite, bytesAppend, bytesText]

def fieldText (field : String × Json) : String :=
  (Json.string field.1).text ++ ":" ++ field.2.text

theorem writeFieldText (text : String) (field : String × Json) (rest : Table Json) :
    writeFields text true (field :: rest) = writeFields (text ++ fieldText field) false rest := by
  have name : writeString text field.1 = text ++ (Json.string field.1).text := by
    rw [← writeText, write]
  have colon : ∀ s : String, s.push ':' = s ++ ":" := fun _ => rfl
  simp only [writeFields, if_true]
  rw [writeText, name, colon, fieldText]
  simp only [String.append_assoc]

theorem writeFieldsText (text : String) : (fields : Table Json) →
    writeFields text true fields = text ++ ",".intercalate (fields.map fieldText)
  | [] => by simp [writeFields]
  | [field] => by
    rw [writeFieldText, List.map_singleton, String.intercalate_singleton]
    rfl
  | field :: next :: rest => by
    have comma : writeFields (text ++ fieldText field) false (next :: rest) =
        writeFields (text ++ fieldText field ++ ",") true (next :: rest) := rfl
    rw [writeFieldText, comma, writeFieldsText _ (next :: rest)]
    simp only [List.map_cons, String.intercalate_cons_cons, String.append_assoc]

theorem textObject (fields : Table Json) :
    (Json.object fields).text = "\x7b" ++ ",".intercalate (fields.map fieldText) ++ "\x7d" := by
  rw [text, write, writeFieldsText]
  rfl

end Bayeux.Json
