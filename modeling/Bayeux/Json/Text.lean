import Bayeux.Json
import Bayeux.Number.Text
/-! The compact written form of a JSON tree: no blanks, fields in their order, the quote,
the backslash and the controls below the blank escaped, all else written as it is.
Every writer appends to the text it is given; `write text j` is `text` followed by
the written form of `j`. -/

namespace Bayeux.Json

def hexDigit (n : Nat) : Char := (Nat.digitChar n)

def writeChar (text : String) (c : Char) : String :=
  match c with
  | '"' => text ++ "\\\""
  | '\\' => text ++ "\\\\"
  | '\x08' => text ++ "\\b"
  | '\t' => text ++ "\\t"
  | '\n' => text ++ "\\n"
  | '\x0c' => text ++ "\\f"
  | '\r' => text ++ "\\r"
  | c =>
    if c.val < 0x20 then
      ((text ++ "\\u00").push (hexDigit (c.toNat / 16))).push (hexDigit (c.toNat % 16))
    else text.push c

def writeString (text s : String) : String := (s.foldl writeChar (text.push '"')).push '"'

mutual
def write (text : String) : Json → String
  | .null => text ++ "null"
  | .bool true => text ++ "true"
  | .bool false => text ++ "false"
  | .number n => text ++ n.text
  | .string s => writeString text s
  | .array items => (writeItems (text.push '[') true items).push ']'
  | .object fields => (writeFields (text.push '\x7b') true fields).push '\x7d'
def writeItems (text : String) (first : Bool) : List Json → String
  | [] => text
  | item :: rest => writeItems (write (if first then text else text.push ',') item) false rest
def writeFields (text : String) (first : Bool) : Table Json → String
  | [] => text
  | (name, value) :: rest =>
    let text := writeString (if first then text else text.push ',') name
    writeFields (write (text.push ':') value) false rest
end

def text (j : Json) : String := write "" j

end Bayeux.Json
