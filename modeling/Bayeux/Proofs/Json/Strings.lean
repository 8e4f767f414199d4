import Bayeux.Proofs.Json.Spelling
import Mathlib.Tactic.IntervalCases
/-! A string that was written is read back character by character. -/

namespace Bayeux.Json

/-- Stands for itself inside a string. -/
structure Raw (b : UInt8) : Prop where
  quote : b ≠ 0x22
  backslash : b ≠ 0x5c
  visible : ¬b < 0x20

theorem rawByte {n : Nat} (small : n < 256) (visible : 0x20 ≤ n) (quote : n ≠ 0x22)
    (backslash : n ≠ 0x5c) : Raw (UInt8.ofNat n) := by
  have value : (UInt8.ofNat n).toNat = n := UInt8.toNat_ofNat_of_lt' small
  refine ⟨fun same => quote ?_, fun same => backslash ?_, fun below => ?_⟩
  · rw [← value, same]
    rfl
  · rw [← value, same]
    rfl
  · have below : (UInt8.ofNat n).toNat < 0x20 := below
    omega

theorem highByte {n : Nat} (small : n < 256) (high : 128 ≤ n) : Raw (UInt8.ofNat n) :=
  rawByte small (by omega) (by omega) (by omega)

theorem encodedRaw {c : Char} (visible : 0x20 ≤ c.toNat) (quote : c ≠ '"') (backslash : c ≠ '\\') :
    ∀ b ∈ String.utf8EncodeChar c, Raw b := by
  have quote : c.toNat ≠ 0x22 := fun same => quote (Char.toNat_inj.mp same)
  have backslash : c.toNat ≠ 0x5c := fun same => backslash (Char.toNat_inj.mp same)
  have value : c.val.toNat = c.toNat := rfl
  simp only [String.utf8EncodeChar, value]
  generalize c.toNat = n at *
  -- Behind the ASCII characters every byte has its highest bit set.
  split_ifs with ascii two three
  · intro b inside
    rw [List.mem_singleton.mp inside]
    exact rawByte (by omega) visible quote backslash
  all_goals
    simp only [List.forall_mem_cons, List.not_mem_nil, false_imp_iff, implies_true, and_true]
    and_intros
    all_goals exact highByte (by omega) (by omega)

inductive Spelling (c : Char) : Bytes → Prop where
  | escaped {behind : Bytes} (known : ∀ rest, readEscape (behind ++ rest) = .ok (c, rest)) :
      Spelling c (0x5c :: behind)
  | plain (raw : ∀ b ∈ String.utf8EncodeChar c, Raw b) : Spelling c (String.utf8EncodeChar c)

theorem hexBytes {n : Nat} (small : n < 32) (rest : Bytes) :
    readEscape ([0x75, 0x30, 0x30] ++ String.utf8EncodeChar (hexDigit (n / 16)) ++
      String.utf8EncodeChar (hexDigit (n % 16)) ++ rest) = .ok (Char.ofNat n, rest) := by
  interval_cases n <;> rfl

theorem spelling (c : Char) : Spelling c (spelledChar c) := by
  unfold spelledChar writeChar
  split
  case h_8 quote backslash _ _ _ _ _ =>
    split
    · rename_i control
      rw [bytesPush, bytesPush, bytesChars]
      have known := hexBytes (show c.toNat < 32 from control)
      rw [Char.ofNat_toNat] at known
      exact .escaped known
    · rename_i visible
      rw [bytesPush, bytesEmpty, List.nil_append]
      exact .plain (encodedRaw (Nat.not_lt.mp visible) quote backslash)
  all_goals
    rw [bytesChars]
    exact .escaped fun rest => rfl

theorem readRaw {bs : Bytes} (raw : ∀ b ∈ bs, Raw b) (read : ByteArray) (rest : Bytes) :
    readString read (bs ++ rest) = readString (read ++ bs.toByteArray) rest := by
  induction bs generalizing read with
  | nil => simp
  | cons b bs ih =>
    obtain ⟨here, others⟩ := List.forall_mem_cons.mp raw
    have whole : read ++ (b :: bs).toByteArray = read.push b ++ bs.toByteArray := by
      rw [← ByteArray.append_toByteArray_singleton, ByteArray.append_assoc,
        ← List.toByteArray_append, List.singleton_append]
    rw [List.cons_append, readString, if_neg (by simpa using here.quote),
      if_neg (by simpa using here.backslash), if_neg here.visible, ih others, whole]

theorem readChar (c : Char) (read : ByteArray) (rest : Bytes) :
    readString read (spelledChar c ++ rest) = readString (read ++ [c].utf8Encode) rest := by
  have way := spelling c
  generalize spelledChar c = bs at way
  cases way with
  | escaped known =>
    rw [List.cons_append, readString, if_neg (by decide), if_pos (by decide)]
    split
    · rename_i taken
      cases (known rest).symm.trans taken
      rw [String.toUTF8_eq_toByteArray, String.toByteArray_singleton]
    · rename_i taken
      cases (known rest).symm.trans taken
  | plain raw => rw [readRaw raw, List.utf8Encode_singleton]

theorem readChars (cs : List Char) (read : ByteArray) (rest : Bytes) :
    readString read (cs.flatMap spelledChar ++ rest) = readString (read ++ cs.utf8Encode) rest := by
  induction cs generalizing read with
  | nil => simp
  | cons c cs ih =>
    rw [List.flatMap_cons, List.append_assoc, readChar, ih, ByteArray.append_assoc,
      ← List.utf8Encode_cons]

/- Behind the opening quote. -/
theorem readSpelledString (s : String) (rest : Bytes) :
    readString .empty (s.toList.flatMap spelledChar ++ 0x22 :: rest) = .ok (s, rest) := by
  have known : String.fromUTF8? s.toByteArray = some s := by
    rw [String.fromUTF8?, dif_pos s.isValidUTF8]
    rfl
  rw [readChars, String.utf8Encode_toList, ByteArray.empty_append, readString,
    if_pos (by decide), known]

end Bayeux.Json
