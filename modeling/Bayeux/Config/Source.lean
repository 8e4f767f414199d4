import Bayeux.Config
import Bayeux.Config.Layer
import Bayeux.Toml.Reader
/-! Where a configuration comes from: one file, or the first file found and the environment over
it. Texts of the environment stand for numbers and truth values too. -/

namespace Bayeux.Config
open Decode

inductive SourceFault where
  | unreadable
  | malformedFile
  | notLoaded
  /-- A name leads to no place in its list. -/
  | outOfBounds
  | malformed
  deriving DecidableEq, Repr

def SourceFault.message : SourceFault → String
  | .unreadable => "Failed to read config file"
  | .malformedFile => "Failed to parse config file"
  | .notLoaded => "Failed to load configuration"
  | .outOfBounds => "index out of bounds"
  | .malformed => "Failed to parse configuration"

/-- Leaves as they are written; what a list has too many of does not matter. -/
def loose : Style Json Fault := { strict with struct := fun _ => Decode.looseStruct }

/-- `none` where there is no file. -/
def ofFile (environment : Table String) : Option String → Except SourceFault Config
  | none => .error .unreadable
  | some contents =>
    match Toml.read? contents with
    | none => .error .malformedFile
    | some fields =>
      (read loose environment (.object (Toml.fieldsToJson fields))).mapError
        fun _ => .malformedFile

/-! Settings. -/

def fitting {α : Type} (value? : Option α) : Except SourceFault α :=
  match value? with
  | some value => .ok value
  | none => .error .malformed

def unsigned (setting : Setting) : Except SourceFault UInt64 :=
  (fitting setting.unsigned?).map .ofNat

def word16 (setting : Setting) : Except SourceFault UInt16 :=
  match fitting setting.unsigned? with
  | .ok n => if n < 65536 then .ok (.ofNat n) else .error .malformed
  | .error fault => .error fault

def versionOf (setting : Setting) : Except SourceFault Version :=
  match fitting setting.text? with
  | .ok s => (Version.parse s).mapError fun _ => .malformed
  | .error fault => .error fault

def group {σ : Type} (slots : List (Slot Setting SourceFault σ)) (initial : σ) :
    Setting → Except SourceFault σ
  | .group fields => fromFields slots fields initial
  | .list items => (fromItems slots items initial).map Prod.fst
  | _ => .error .malformed

def coerced : Style Setting SourceFault where
  text setting := fitting setting.text?
  version := versionOf
  boolean setting := fitting setting.boolean?
  word16 := word16
  word64 := unsigned
  wordSize := unsigned
  int64 setting := (fitting setting.signed?).map .ofInt
  struct _ _ := group

/-! Loading. -/

def environmentRoot : String := "meteor__"

/-- Two underscores separate names. -/
def withPoints : List Char → List Char
  | '_' :: '_' :: rest => '.' :: withPoints rest
  | c :: rest => c :: withPoints rest
  | [] => []

def environmentEntry? (setting : String × String) : Option (String × Setting) :=
  let name := (Setting.lowered setting.1).toList
  if environmentRoot.toList.isPrefixOf name then
    some (String.ofList (withPoints (name.drop environmentRoot.length)), .text setting.2)
  else none

/-- Only the first of these files that exists is read. -/
def paths : List String :=
  ["meteor.toml", "/etc/meteor/meteor.toml", "~/.config/meteor/meteor.toml"]

def fileLayer : Option String → Except SourceFault (Table Setting)
  | none => .ok []
  | some contents =>
    match (Toml.read? contents).bind Setting.ofDocument with
    | some fields => .ok fields
    | none => .error .notLoaded

def load (contents? : String → Option String) (environment : Table String) :
    Except SourceFault Config :=
  match fileLayer (paths.findSome? contents?) with
  | .error fault => .error fault
  | .ok fields =>
    match Setting.layered [fields, environment.filterMap environmentEntry?] with
    | some settings => read coerced environment settings
    | none => .error .outOfBounds

end Bayeux.Config
