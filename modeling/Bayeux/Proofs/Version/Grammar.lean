import Bayeux.Proofs.Text.Trimming
import Bayeux.Version
import Mathlib.Data.List.Induction
/-! The grammar of version texts. What stands between the blanks at both ends is a major part alone
or a major and a minor part, and behind a second point anything. A version is read off every text
of this grammar and off no other, and its own text is one of them. -/

namespace Bayeux.Version

/-- Decimal digits and their number, the last digit being that of the ones. -/
inductive Digits : String → Nat → Prop
  | one {d : Nat} (digit : d < 10) : Digits (String.singleton (Nat.digitChar d)) d
  | more {text : String} {n d : Nat} (front : Digits text n) (digit : d < 10) :
      Digits (text.push (Nat.digitChar d)) (10 * n + d)

/-- One part of a version: its number fits a byte, however many zeros it begins with. -/
inductive Part : String → UInt8 → Prop
  | plain {digits : String} {n : Nat} (spelled : Digits digits n) (small : n ≤ 255) :
      Part digits (.ofNat n)
  | plus {digits : String} {n : Nat} (spelled : Digits digits n) (small : n ≤ 255) :
      Part ("+" ++ digits) (.ofNat n)

inductive Spells : String → Version → Prop
  | major {text : String} {major : UInt8} (part : Part text major) : Spells text ⟨major, 0⟩
  | minor {first second : String} {major minor : UInt8} (part : Part first major)
      (next : Part second minor) : Spells (first ++ "." ++ second) ⟨major, minor⟩
  | patch {first second : String} {major minor : UInt8} (part : Part first major)
      (next : Part second minor) (rest : String) :
      Spells (first ++ "." ++ second ++ "." ++ rest) ⟨major, minor⟩

theorem isDigitIff (c : Char) : isDigit c = true ↔ ∃ d < 10, c = Nat.digitChar d := by
  have codes : isDigit c = true ↔ 48 ≤ c.toNat ∧ c.toNat ≤ 57 := by
    rw [isDigit, Bool.and_eq_true, decide_eq_true_eq, decide_eq_true_eq]
    exact Iff.rfl
  rw [codes]
  constructor
  · rintro ⟨low, high⟩
    refine ⟨c.toNat - 48, by omega, Char.toNat_inj.mp ?_⟩
    rw [Nat.toNat_digitChar_of_lt_ten (by omega)]
    omega
  · rintro ⟨d, digit, rfl⟩
    rw [Nat.toNat_digitChar_of_lt_ten digit]
    omega

theorem digitsValueSnoc (cs : List Char) {d : Nat} (digit : d < 10) :
    digitsValue (cs ++ [Nat.digitChar d]) = 10 * digitsValue cs + d := by
  rw [digitsValue, List.foldl_append, List.foldl_cons, List.foldl_nil,
    Nat.toNat_digitChar_of_lt_ten digit]
  simp [digitsValue]
  omega

theorem digitsRead {text : String} {n : Nat} (spelled : Digits text n) :
    text.toList ≠ [] ∧ (∀ c ∈ text.toList, isDigit c = true) ∧ digitsValue text.toList = n := by
  induction spelled with
  | @one d digit =>
    rw [String.toList_singleton]
    refine ⟨List.cons_ne_nil _ _, ?_, ?_⟩
    · exact List.forall_mem_singleton.mpr ((isDigitIff _).mpr ⟨d, digit, rfl⟩)
    · simpa [digitsValue] using digitsValueSnoc [] digit
  | @more text n d front digit ih =>
    obtain ⟨-, all, value⟩ := ih
    rw [String.toList_push]
    refine ⟨List.concat_ne_nil _ _, ?_, by rw [digitsValueSnoc _ digit, value]⟩
    refine List.forall_mem_append.mpr ⟨all, ?_⟩
    exact List.forall_mem_singleton.mpr ((isDigitIff _).mpr ⟨d, digit, rfl⟩)

/- The induction takes the digits from the right, as their number does. -/
theorem digitsSpelled {cs : List Char} (some_ : cs ≠ []) (all : ∀ c ∈ cs, isDigit c = true) :
    Digits (String.ofList cs) (digitsValue cs) := by
  induction cs using List.reverseRecOn with
  | nil => exact absurd rfl some_
  | append_singleton front c ih =>
    obtain ⟨d, digit, rfl⟩ := (isDigitIff c).mp (all c (by simp))
    rw [digitsValueSnoc front digit]
    cases front with
    | nil => simpa [digitsValue] using Digits.one digit
    | cons first rest =>
      have text : String.ofList (first :: rest ++ [Nat.digitChar d]) =
          (String.ofList (first :: rest)).push (Nat.digitChar d) := by
        rw [← String.toList_inj, String.toList_push, String.toList_ofList, String.toList_ofList]
      rw [text]
      refine .more (ih (List.cons_ne_nil _ _) fun c inside => ?_) digit
      exact all c (List.mem_append_left _ inside)

/-- The digits of a part, read without its plus. -/
def byte? (digits : List Char) : Option UInt8 :=
  if digits ≠ [] ∧ digits.all isDigit ∧ digitsValue digits < 256 then
    some (digitsValue digits).toUInt8
  else none

theorem byteIff (cs : List Char) (b : UInt8) : byte? cs = some b ↔
    ∃ n ≤ 255, Digits (String.ofList cs) n ∧ b = .ofNat n := by
  have spelled : ∀ n, Digits (String.ofList cs) n ↔
      cs ≠ [] ∧ (∀ c ∈ cs, isDigit c = true) ∧ digitsValue cs = n := by
    intro n
    constructor
    · intro spelled
      simpa using digitsRead spelled
    · rintro ⟨some_, all, rfl⟩
      exact digitsSpelled some_ all
  unfold byte?
  split
  · rename_i good
    obtain ⟨some_, all, small⟩ := good
    rw [List.all_eq_true] at all
    constructor
    · intro same
      cases same
      exact ⟨_, Nat.le_of_lt_succ small, (spelled _).mpr ⟨some_, all, rfl⟩, rfl⟩
    · rintro ⟨n, -, digits, rfl⟩
      rw [((spelled n).mp digits).2.2]
  · rename_i bad
    refine ⟨nofun, ?_⟩
    rintro ⟨n, small, digits, rfl⟩
    obtain ⟨some_, all, rfl⟩ := (spelled n).mp digits
    exact absurd ⟨some_, List.all_eq_true.mpr all, Nat.lt_succ_of_le small⟩ bad

theorem partPlus (cs : List Char) : part? ('+' :: cs) = byte? cs := rfl

theorem partPlain {cs : List Char} (plain : cs.head? ≠ some '+') : part? cs = byte? cs := by
  unfold part?
  dsimp only
  split
  · exact absurd rfl plain
  · rfl

theorem plusApart (cs : List Char) : (∃ rest, cs = '+' :: rest) ∨ cs.head? ≠ some '+' := by
  cases cs with
  | nil => exact .inr nofun
  | cons c rest =>
    by_cases plus : c = '+'
    · exact .inl ⟨rest, plus ▸ rfl⟩
    · exact .inr (by simpa using plus)

theorem digitsPlain {text : String} {n : Nat} (spelled : Digits text n) :
    text.toList.head? ≠ some '+' := by
  intro plus
  have digit := (digitsRead spelled).2.1 '+' (List.mem_of_head? plus)
  exact absurd digit (by decide)

theorem partIff (cs : List Char) (b : UInt8) : part? cs = some b ↔ Part (String.ofList cs) b := by
  constructor
  · intro read
    obtain ⟨rest, rfl⟩ | plain := plusApart cs
    · rw [partPlus] at read
      obtain ⟨n, small, spelled, rfl⟩ := (byteIff rest b).mp read
      have text : String.ofList ('+' :: rest) = "+" ++ String.ofList rest := by
        rw [← String.toList_inj, String.toList_append, String.toList_ofList]
        exact congrArg ('+' :: ·) String.toList_ofList.symm
      exact text ▸ .plus spelled small
    · rw [partPlain plain] at read
      obtain ⟨n, small, spelled, rfl⟩ := (byteIff cs b).mp read
      exact .plain spelled small
  · intro part
    generalize text_ : String.ofList cs = text at part
    have chars : cs = text.toList := by rw [← text_, String.toList_ofList]
    subst chars
    cases part with
    | plain spelled small =>
      rw [partPlain (digitsPlain spelled), byteIff]
      exact ⟨_, small, by rwa [String.ofList_toList], rfl⟩
    | @plus digits n spelled small =>
      have behind : ("+" ++ digits).toList = '+' :: digits.toList := by
        rw [String.toList_append]
        rfl
      rw [behind, partPlus, byteIff]
      exact ⟨_, small, by rwa [String.ofList_toList], rfl⟩

theorem partNoPoint {text : String} {b : UInt8} (part : Part text b) : '.' ∉ text.toList := by
  have noDigit : ∀ {digits : String} {n : Nat}, Digits digits n → '.' ∉ digits.toList :=
    fun spelled inside => absurd ((digitsRead spelled).2.1 '.' inside) (by decide)
  cases part with
  | plain spelled small => exact noDigit spelled
  | plus spelled small =>
    rw [String.toList_append]
    intro inside
    rcases List.mem_append.mp inside with first | rest
    · exact absurd first (by decide)
    · exact noDigit spelled rest

theorem partRead {text : String} {b : UInt8} (part : Part text b) : part? text.toList = some b := by
  rw [partIff, String.ofList_toList]
  exact part

theorem spellsRead {text : String} {v : Version} (spells : Spells text v) :
    ofParts? (Text.split '.' text.toList) = some v := by
  have point : ".".toList = ['.'] := rfl
  cases spells with
  | major part =>
    rw [Text.splitPiece (partNoPoint part)]
    simp [ofParts?, partRead part]
  | minor part next =>
    rw [String.toList_append, String.toList_append, point, List.append_assoc, List.singleton_append,
      Text.splitAppend (partNoPoint part), Text.splitPiece (partNoPoint next)]
    simp [ofParts?, partRead part, partRead next]
  | patch part next rest =>
    simp only [String.toList_append, point, List.append_assoc, List.cons_append, List.nil_append]
    rw [Text.splitAppend (partNoPoint part), Text.splitAppend (partNoPoint next)]
    simp [ofParts?, partRead part, partRead next]

theorem readSpells {cs : List Char} {v : Version}
    (read : ofParts? (Text.split '.' cs) = some v) : Spells (String.ofList cs) v := by
  have whole := Text.joinSplit '.' cs
  generalize Text.split '.' cs = pieces at read whole
  subst whole
  match pieces with
  | [] => cases read
  | [first] =>
    simp only [ofParts?, Option.bind_eq_bind, Option.bind_eq_some_iff] at read
    obtain ⟨major, part, made⟩ := read
    cases made
    exact .major ((partIff first major).mp part)
  | first :: second :: rest =>
    simp only [ofParts?, Option.bind_eq_bind, Option.bind_eq_some_iff] at read
    obtain ⟨major, part, minor, next, made⟩ := read
    cases made
    have part := (partIff first major).mp part
    have next := (partIff second minor).mp next
    cases rest with
    | nil =>
      have text : String.ofList (Text.join '.' [first, second]) =
          String.ofList first ++ "." ++ String.ofList second := by
        simp [← String.toList_inj, Text.join]
      rw [text]
      exact .minor part next
    | cons third others =>
      have text : String.ofList (Text.join '.' (first :: second :: third :: others)) =
          String.ofList first ++ "." ++ String.ofList second ++ "." ++
            String.ofList (Text.join '.' (third :: others)) := by
        simp [← String.toList_inj, Text.join]
      rw [text]
      exact .patch part next _

theorem parseIff (s : String) (v : Version) :
    parse s = .ok v ↔ ∃ core, Text.Trimmed s core ∧ Spells core v := by
  have read : parse s = .ok v ↔ ofParts? (Text.split '.' (Text.trim s.toList)) = some v := by
    unfold parse
    split
    · rename_i w found
      rw [found, Except.ok.injEq, Option.some.injEq]
    · rename_i found
      rw [found]
      exact ⟨nofun, nofun⟩
  rw [read]
  constructor
  · intro read
    refine ⟨String.ofList (Text.trim s.toList), ?_, readSpells read⟩
    rw [Text.trimmedIff, String.toList_ofList]
  · rintro ⟨core, trimmed, spells⟩
    rw [(Text.trimmedIff s core).mp trimmed]
    exact spellsRead spells

/-! The text of a version. -/

theorem digitsNumber (n : Nat) : Digits (toString n) n := by
  have value : digitsValue (Nat.toDigits 10 n) = n := by
    have read : Nat.ofDigitChars 10 (Nat.toDigits 10 n) 0 = n := Nat.ofDigitChars_ten_toDigits
    rw [Nat.ofDigitChars_eq_foldl] at read
    simp only [digitsValue, Nat.mul_comm _ 10]
    exact read
  have all : ∀ c ∈ Nat.toDigits 10 n, isDigit c = true := fun c inside =>
    (Nat.isDigit_of_mem_toDigits (by decide) (by decide) inside : c.isDigit = true)
  have spelled := digitsSpelled Nat.toDigits_ne_nil all
  rwa [value, ← Nat.toString_eq_ofList_toDigits] at spelled

theorem partNumber (b : UInt8) : Part (toString b.toNat) b := by
  have part := Part.plain (digitsNumber b.toNat) (Nat.le_of_lt_succ b.toNat_lt)
  rwa [UInt8.ofNat_toNat] at part

theorem spellsText (v : Version) : Spells v.text v :=
  .minor (partNumber v.major) (partNumber v.minor)

theorem spellsTextMore (v : Version) (rest : String) : Spells (v.text ++ "." ++ rest) v :=
  .patch (partNumber v.major) (partNumber v.minor) rest

theorem textTidy (v : Version) : ∀ c ∈ (v.text ++ ".").toList, ¬Text.White c := by
  have digit : ∀ n : Nat, ∀ c ∈ (toString n).toList, ¬Text.White c := by
    intro n c inside
    obtain ⟨d, small, rfl⟩ := (isDigitIff c).mp ((digitsRead (digitsNumber n)).2.1 c inside)
    rw [Text.White, Nat.toNat_digitChar_of_lt_ten small]
    omega
  have point : ∀ c ∈ ".".toList, ¬Text.White c := by
    intro c inside
    obtain rfl := List.mem_singleton.mp inside
    rw [← Text.isBlankIff]
    decide
  simp only [text, String.toList_append, List.forall_mem_append]
  exact ⟨⟨⟨digit _, point⟩, digit _⟩, point⟩

theorem parseText (v : Version) : parse v.text = .ok v := by
  refine (parseIff v.text v).mpr ⟨v.text, Text.trimmedTidy fun c inside => ?_, spellsText v⟩
  refine textTidy v c ?_
  rw [String.toList_append]
  exact List.mem_append_left _ inside

theorem parseTextMore (v : Version) (rest : String) : parse (v.text ++ "." ++ rest) = .ok v := by
  have some_ : v.text ++ "." ≠ "" := by simp
  obtain ⟨kept, trimmed⟩ := Text.trimmedBehind some_ (textTidy v) rest
  exact (parseIff _ v).mpr ⟨_, trimmed, spellsTextMore v kept⟩

theorem parseFault {s : String} {e : ProtocolError} (refused : parse s = .error e) :
    e = .invalidVersion s := by
  unfold parse at refused
  split at refused
  · cases refused
  · cases refused
    rfl

/- A part may be empty nowhere, so `1.` is no version; a patch may be, so `1.2.` is one. -/
theorem parseGrammar (s : String) :
    (∀ v, parse s = .ok v ↔ ∃ core, Text.Trimmed s core ∧ Spells core v) ∧
    (∀ e, parse s = .error e ↔
      e = .invalidVersion s ∧ ¬∃ core v, Text.Trimmed s core ∧ Spells core v) ∧
    ∀ v : Version, parse v.text = .ok v ∧ ∀ rest, parse (v.text ++ "." ++ rest) = .ok v := by
  refine ⟨parseIff s, fun e => ⟨fun refused => ?refused, ?outside⟩,
    fun v => ⟨parseText v, parseTextMore v⟩⟩
  case refused =>
    refine ⟨parseFault refused, ?_⟩
    rintro ⟨core, v, spelled⟩
    have read := (parseIff s v).mpr ⟨core, spelled⟩
    rw [refused] at read
    cases read
  case outside =>
    rintro ⟨rfl, outside⟩
    cases read : parse s with
    | ok v =>
      obtain ⟨core, spelled⟩ := (parseIff s v).mp read
      exact absurd ⟨core, v, spelled⟩ outside
    | error e => rw [parseFault read]

/- Blanks of any width, a plus, zeros in front and a patch that ends in a blank. -/
example : parse "\u00a0+001.255. \u3000" = .ok ⟨1, 255⟩ := by cbv

end Bayeux.Version
