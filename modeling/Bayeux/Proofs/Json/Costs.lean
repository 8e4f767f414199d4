import Bayeux.Proofs.Json.Strings
/-! A string is written with no more bytes than it was read from, whichever escapes stood in it. -/

namespace Bayeux.Json

/-- The bytes a byte of a character takes inside a string. -/
def byteCost (b : UInt8) : Nat :=
  if b = 0x22 ∨ b = 0x5c ∨ b = 0x08 ∨ b = 0x09 ∨ b = 0x0a ∨ b = 0x0c ∨ b = 0x0d then 2
  else if b < 0x20 then 6
  else 1

def cost (bs : Bytes) : Nat := (bs.map byteCost).sum

theorem costAppend (bs cs : Bytes) : cost (bs ++ cs) = cost bs + cost cs := by
  simp [cost]

theorem rawCost {b : UInt8} (raw : Raw b) : byteCost b = 1 := by
  obtain ⟨quote, backslash, visible⟩ := raw
  have other : ∀ c : UInt8, c < 0x20 → b ≠ c := fun c low same => visible (same ▸ low)
  unfold byteCost
  rw [if_neg, if_neg visible]
  rintro (same | same | same | same | same | same | same)
  · exact quote same
  · exact backslash same
  all_goals exact other _ (by decide) same

theorem rawsCost {bs : Bytes} (raw : ∀ b ∈ bs, Raw b) : cost bs = bs.length := by
  induction bs with
  | nil => rfl
  | cons b bs ih =>
    obtain ⟨here, others⟩ := List.forall_mem_cons.mp raw
    have one : cost [b] = 1 := by simp [cost, rawCost here]
    rw [← List.singleton_append, costAppend, ih others, one, List.length_append]
    rfl

theorem controlCost {n : Nat} (small : n < 32) :
    (spelledChar (Char.ofNat n)).length = cost (String.utf8EncodeChar (Char.ofNat n)) := by
  rw [spelledChar, bytesChars]
  interval_cases n <;> rfl

theorem spelledCharCost (c : Char) : (spelledChar c).length = cost (String.utf8EncodeChar c) := by
  by_cases control : c.toNat < 32
  · have known := controlCost control
    rwa [Char.ofNat_toNat] at known
  · by_cases quote : c = '"'
    · rw [quote, spelledChar, bytesChars]
      rfl
    · by_cases backslash : c = '\\'
      · rw [backslash, spelledChar, bytesChars]
        rfl
      · have visible : 0x20 ≤ c.toNat := Nat.not_lt.mp control
        have same : spelledChar c = String.utf8EncodeChar c := by
          unfold spelledChar writeChar
          split
          case h_8 =>
            rw [if_neg (show ¬c.val < 0x20 from control), bytesPush, bytesEmpty, List.nil_append]
          all_goals
            first
            | exact absurd rfl quote
            | exact absurd rfl backslash
            | exact absurd (by decide) control
        rw [same, rawsCost (encodedRaw visible quote backslash)]

theorem spelledStringCost (s : String) : (spelledString s).length = cost (bytesOf s) + 2 := by
  have chars : ∀ cs : List Char,
      (cs.flatMap spelledChar).length = cost (cs.flatMap String.utf8EncodeChar) := by
    intro cs
    induction cs with
    | nil => rfl
    | cons c cs ih =>
      rw [List.flatMap_cons, List.flatMap_cons, List.length_append, ih, spelledCharCost, costAppend]
  rw [spelledString, List.length_append, List.length_cons, chars, bytesChars]
  rfl

theorem byteCostSix (b : UInt8) : byteCost b ≤ 6 := by
  unfold byteCost
  split_ifs <;> decide

theorem charCost (c : Char) : cost (String.utf8EncodeChar c) ≤ 6 := by
  by_cases ascii : c.toNat ≤ 127
  · have alone : String.utf8EncodeChar c = [c.val.toUInt8] := by
      unfold String.utf8EncodeChar
      exact if_pos ascii
    have six := byteCostSix c.val.toUInt8
    simpa [alone, cost] using six
  · have quote : c ≠ '"' := by
      rintro rfl
      exact ascii (by decide)
    have backslash : c ≠ '\\' := by
      rintro rfl
      exact ascii (by decide)
    rw [rawsCost (encodedRaw (by omega) quote backslash), String.length_utf8EncodeChar]
    exact c.utf8Size_le_four.trans (by decide)

/- Escapes, from behind the backslash. -/

theorem unitTail {input rest : Bytes} {unit : Nat} (read : readUnit input = .ok (unit, rest)) :
    rest <:+ input ∧ rest.length + 4 = input.length := by
  unfold readUnit at read
  split at read
  · split at read
    · cases read
      exact ⟨⟨[_, _, _, _], rfl⟩, rfl⟩
    · cases read
  · cases read

theorem surrogateTail {input rest : Bytes} {lead : Nat} {c : Char}
    (read : trailingSurrogate lead input = .ok (c, rest)) : rest <:+ input := by
  unfold trailingSurrogate at read
  split at read
  · split at read
    · cases read
    · rename_i known
      split at read
      · simp only [Except.ok.injEq, Prod.mk.injEq] at read
        obtain ⟨-, rfl⟩ := read
        exact (unitTail known).1.trans ⟨[_, _], rfl⟩
      · cases read
  all_goals cases read

theorem unicodeTail {input rest : Bytes} {c : Char}
    (read : unicodeEscape input = .ok (c, rest)) :
    rest <:+ input ∧ rest.length + 4 ≤ input.length := by
  unfold unicodeEscape at read
  split at read
  · cases read
  · rename_i known
    obtain ⟨tail, four⟩ := unitTail known
    split at read
    · cases read
    · split at read
      · have behind := surrogateTail read
        exact ⟨behind.trans tail, four ▸ Nat.add_le_add_right behind.length_le 4⟩
      · cases read
        exact ⟨tail, four.le⟩

theorem escapeTail {input rest : Bytes} {c : Char} (read : readEscape input = .ok (c, rest)) :
    rest <:+ input ∧ cost (String.utf8EncodeChar c) + rest.length ≤ input.length + 1 := by
  unfold readEscape at read
  split at read
  · cases read
  · rename_i b behind
    have direct : ∀ {d : Char}, cost (String.utf8EncodeChar d) ≤ 2 →
        (Except.ok (d, behind) : Read Char) = .ok (c, rest) →
        rest <:+ b :: behind ∧
          cost (String.utf8EncodeChar c) + rest.length ≤ (b :: behind).length + 1 := by
      intro d two same
      cases same
      exact ⟨List.suffix_cons b _, by rw [List.length_cons]; omega⟩
    iterate 8 (split at read; · exact direct (by decide) read)
    split at read
    · obtain ⟨tail, four⟩ := unicodeTail read
      have six := charCost c
      exact ⟨tail.trans (List.suffix_cons b behind), by rw [List.length_cons]; omega⟩
    · cases read

theorem bytesOfRead {read : ByteArray} {s : String} (known : String.fromUTF8? read = some s) :
    bytesOf s = read.toList := by
  unfold String.fromUTF8? at known
  split at known
  · cases known
    rfl
  · cases known

theorem stringTail {read : ByteArray} {input rest : Bytes} {s : String}
    (known : readString read input = .ok (s, rest)) :
    rest <:+ input ∧ cost (bytesOf s) + 1 + rest.length ≤ cost read.toList + input.length := by
  fun_induction readString read input with
  | case1 read => cases known
  | case2 read b behind quote t found =>
    cases known
    refine ⟨List.suffix_cons b rest, ?_⟩
    rw [bytesOfRead found, List.length_cons]
    omega
  | case3 read b behind quote found => cases known
  | case4 read b behind quote backslash c after taken ih =>
    obtain ⟨tail, short⟩ := ih known
    obtain ⟨escape, paid⟩ := escapeTail taken
    refine ⟨(tail.trans escape).trans (List.suffix_cons b behind), ?_⟩
    have more : cost (read ++ (String.singleton c).toUTF8).toList =
        cost read.toList + cost (String.utf8EncodeChar c) := by
      rw [← costAppend]
      simp [toListData, List.utf8Encode_singleton]
    rw [more] at short
    rw [List.length_cons]
    omega
  | case5 read b behind quote backslash fault taken => cases known
  | case6 read b behind quote backslash control => cases known
  | case7 read b behind quote backslash control ih =>
    obtain ⟨tail, short⟩ := ih known
    refine ⟨tail.trans (List.suffix_cons b behind), ?_⟩
    have raw : byteCost b = 1 := rawCost ⟨by simpa using quote, by simpa using backslash, control⟩
    have more : cost (read.push b).toList = cost read.toList + 1 := by
      simp [toListData, cost, raw]
    rw [more] at short
    rw [List.length_cons]
    omega

end Bayeux.Json
