import Bayeux.Json
import Bayeux.Number.Text
import Bayeux.Text.Quoted
/-! What a value is called where another one was expected: leaves are shown, containers are not. -/

namespace Bayeux.Json

inductive Outline where
  | null
  | bool (b : Bool)
  | number (n : Number)
  | string (s : String)
  | array
  | object
  deriving DecidableEq

def outline : Json → Outline
  | .null => .null
  | .bool b => .bool b
  | .number n => .number n
  | .string s => .string s
  | .array _ => .array
  | .object _ => .object

def Outline.text : Outline → String
  | .null => "null"
  | .bool b => "boolean `" ++ toString b ++ "`"
  | .number (.integer n) => "integer `" ++ toString n ++ "`"
  | .number (.real d) => "floating point `" ++ Number.realText d ++ "`"
  | .string s => "string " ++ Text.quoted s
  | .array => "sequence"
  | .object => "map"

end Bayeux.Json
