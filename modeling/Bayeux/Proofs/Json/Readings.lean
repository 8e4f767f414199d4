import Bayeux.Proofs.Json.Spelling
/-! What was read, step by step and without a bound on the calls. -/

namespace Bayeux.Json

/-- Where in a container the reader stands. -/
inductive Stage where
  | value (room : Nat)
  | items (room : Nat) (before : List Json)
  | fields (room : Nat) (before : Table Json) (first : Bool)
  | document

def attempt (fuel : Nat) : Stage → Bytes → Read Json
  | .value room, input => readValue fuel room input
  | .items room before, input => readItems fuel room before input
  | .fields room before first, input => readFields fuel room before first input
  | .document, input => readDocument fuel input

/-- What stands before an item, and before the name of a field. -/
def beforeItem (first : Bool) (input : Bytes) : Except Fault Bytes :=
  if first then .ok input else listSeparator input

def beforeName (first : Bool) (input : Bytes) : Except Fault Bytes :=
  if first then firstName input else objectSeparator input

inductive Reads : Stage → Bytes → Json → Bytes → Prop where
  | string {room : Nat} {input inner rest : Bytes} {s : String}
      (opened : skipBlanks input = 0x22 :: inner)
      (known : readString .empty inner = .ok (s, rest)) :
      Reads (.value room) input (.string s) rest
  | array {room : Nat} {input inner rest : Bytes} {j : Json}
      (opened : skipBlanks input = 0x5b :: inner)
      (inside : Reads (.items room []) inner j rest) :
      Reads (.value (room + 1)) input j rest
  | object {room : Nat} {input inner rest : Bytes} {j : Json}
      (opened : skipBlanks input = 0x7b :: inner)
      (inside : Reads (.fields room [] true) inner j rest) :
      Reads (.value (room + 1)) input j rest
  | plain {room : Nat} {input rest : Bytes} {j : Json}
      (known : readPlain (skipBlanks input) = .ok (j, rest)) :
      Reads (.value room) input j rest
  | itemsEnd {room : Nat} {before : List Json} {input rest : Bytes}
      (closed : skipBlanks input = 0x5d :: rest) :
      Reads (.items room before) input (.array before.reverse) rest
  | item {room : Nat} {before : List Json} {input behind middle rest : Bytes} {item j : Json}
      (separated : beforeItem before.isEmpty (skipBlanks input) = .ok behind)
      (here : Reads (.value room) behind item middle)
      (others : Reads (.items room (item :: before)) middle j rest) :
      Reads (.items room before) input j rest
  | fieldsEnd {room : Nat} {before : Table Json} {first : Bool} {input rest : Bytes}
      (closed : skipBlanks input = 0x7d :: rest) :
      Reads (.fields room before first) input (.object before) rest
  | field {room : Nat} {before : Table Json} {first : Bool} {name : String} {value j : Json}
      {input quoted named colon middle rest : Bytes}
      (separated : beforeName first (skipBlanks input) = .ok quoted)
      (known : readString .empty quoted = .ok (name, named))
      (parted : readColon named = .ok colon)
      (plain : first = true → name ≠ embeddedField)
      (here : Reads (.value room) colon value middle)
      (others : Reads (.fields room (before.put name value) false) middle j rest) :
      Reads (.fields room before first) input j rest
  | embedded {room : Nat} {before : Table Json} {j : Json} {input quoted named colon rest : Bytes}
      (separated : beforeName true (skipBlanks input) = .ok quoted)
      (known : readString .empty quoted = .ok (embeddedField, named))
      (parted : readColon named = .ok colon)
      (inside : Reads .document colon j rest) :
      Reads (.fields room before true) input j rest
  | document {j : Json} {input behind inside rest : Bytes} {text : String}
      (known : documentText input = .ok (text, behind))
      (here : Reads (.value containerLimit) (bytesOf text) j inside)
      (closed : documentEnd behind = .ok rest) :
      Reads .document input j rest

theorem reads {fuel : Nat} (stage : Stage) {input rest : Bytes} {j : Json}
    (known : attempt fuel stage input = .ok (j, rest)) : Reads stage input j rest := by
  induction fuel generalizing stage input rest j with
  | zero => cases stage <;> cases known
  | succ fuel ih =>
    cases stage with
    | value room =>
      simp only [attempt, readValue] at known
      split at known
      · rename_i opened
        split at known
        · cases known
          exact .string opened ‹_›
        · cases known
      · rename_i opened
        cases room with
        | zero => cases known
        | succ room => exact .array opened (ih (.items room []) known)
      · rename_i opened
        cases room with
        | zero => cases known
        | succ room => exact .object opened (ih (.fields room [] true) known)
      · exact .plain known
    | items room before =>
      simp only [attempt, readItems] at known
      split at known
      · cases known
      · cases known
        exact .itemsEnd ‹_›
      · split at known
        · cases known
        · rename_i separated
          split at known
          · cases known
          · rename_i here
            exact .item separated (ih (.value room) here)
              (ih (.items room _) known)
    | fields room before first =>
      simp only [attempt, readFields] at known
      split at known
      · cases known
      · cases known
        exact .fieldsEnd ‹_›
      · split at known
        · cases known
        · rename_i separated
          split at known
          · cases known
          · rename_i name named found
            split at known
            · cases known
            · rename_i parted
              split at known
              · rename_i marked
                obtain ⟨rfl, same⟩ := Bool.and_eq_true_iff.mp marked
                cases eq_of_beq same
                exact .embedded separated found parted (ih .document known)
              · rename_i plain
                split at known
                · cases known
                · rename_i here
                  refine .field separated found parted ?_ (ih (.value room) here)
                    (ih (.fields room _ false) known)
                  rintro rfl rfl
                  exact plain (by simp)
    | document =>
      simp only [attempt, readDocument] at known
      split at known
      · cases known
      · rename_i behind found
        split at known
        · cases known
        · rename_i here
          split at known
          · cases closed : documentEnd behind with
            | error fault =>
              rw [closed] at known
              cases known
            | ok left =>
              rw [closed] at known
              cases known
              exact .document found (ih (.value containerLimit) here) closed
          · cases known

theorem valueReads {fuel room : Nat} {input rest : Bytes} {j : Json}
    (known : readValue fuel room input = .ok (j, rest)) : Reads (.value room) input j rest :=
  reads (.value room) known

end Bayeux.Json
