import Bayeux.Json
import Bayeux.Text.Scan
/-! TOML trees, and the tables that a document builds up. A table is defined once: by a header,
by dotted keys inside another table, or implied by the headers of tables below it, and only
an implied table may still get a header of its own. -/

namespace Bayeux

inductive Toml where
  | string (s : String)
  | integer (n : Int)
  | real (x : Float)
  | boolean (b : Bool)
  /-- A date, a time or both, in its usual spelling. -/
  | date (spelling : String)
  | list (items : List Toml)
  | table (fields : List (String × Toml))

namespace Toml

/-- The field that stands for a date where a tree has no dates. -/
def dateField : String := "$__toml_private_datetime"

mutual
/-- A date as an object with one field. What is not a finite number is null. -/
def toJson : Toml → Json
  | .string s => .string s
  | .integer n => .number (.integer n)
  | .real x => match Number.ofFloat? x with
    | some d => .number d
    | none => .null
  | .boolean b => .bool b
  | .date spelling => .object [(dateField, .string spelling)]
  | .list items => .array (itemsToJson items)
  | .table fields => .object (fieldsToJson fields)

def itemsToJson : List Toml → List Json
  | [] => []
  | t :: rest => toJson t :: itemsToJson rest

def fieldsToJson : List (String × Toml) → List (String × Json)
  | [] => []
  | (name, t) :: rest => (name, toJson t) :: fieldsToJson rest
end

inductive Origin where
  | header
  | dotted
  | implied
  deriving DecidableEq, Repr

/-- A tree under construction: a finished value, a table, or the rows of a list of tables. -/
inductive Node where
  | value (t : Toml)
  | table (origin : Origin) (fields : List (String × Node))
  | rows (tables : List (List (String × Node)))

/-- One line `path.key = value`. -/
structure Entry where
  path : List String
  key : String
  value : Toml

namespace Node

abbrev Fields := List (String × Node)

/-- The last row, to be changed. -/
def onLast {α : Type} (change : α → Option α) : List α → Option (List α)
  | [] => none
  | [row] => (change row).map fun row => [row]
  | row :: rest => (onLast change rest).map (row :: ·)

/-- Go down a path of header names, making implied tables where there is none. -/
def descend (change : Fields → Option Fields) : List String → Fields → Option Fields
  | [], fields => change fields
  | name :: path, fields =>
    match Table.get? fields name with
    | none => (descend change path []).map fun sub => Table.put fields name (.table .implied sub)
    | some (.table origin sub) =>
      (descend change path sub).map fun sub => Table.put fields name (.table origin sub)
    | some (.rows tables) =>
      (onLast (descend change path) tables).map fun tables => Table.put fields name (.rows tables)
    | some (.value _) => none

/-- Dotted keys do not reach into tables that have a header, and end in a table of their own. -/
def enter (direct dotted : Bool) (key : String) (t : Toml) : List String → Fields → Option Fields
  | [], fields =>
    if dotted = direct || Table.has fields key then none
    else some (Table.put fields key (.value t))
  | name :: path, fields =>
    match Table.get? fields name with
    | none =>
      (enter direct true key t path []).map fun sub => Table.put fields name (.table .dotted sub)
    | some (.table origin sub) =>
      if origin = .header then none
      else (enter direct (origin = .dotted) key t path sub).map fun sub =>
        Table.put fields name (.table origin sub)
    | some (.rows tables) =>
      (onLast (enter direct false key t path) tables).map fun tables =>
        Table.put fields name (.rows tables)
    | some (.value _) => none

def fill : List Entry → Fields → Option Fields
  | [], fields => some fields
  | e :: rest, fields =>
    match enter e.path.isEmpty false e.key e.value e.path fields with
    | some fields => fill rest fields
    | none => none

/-- An implied table that gets its header goes to the end of the table around it. -/
def putTable (key : String) (entries : List Entry) (fields : Fields) : Option Fields :=
  match Table.get? fields key with
  | none => (fill entries []).map fun sub => Table.put fields key (.table .header sub)
  | some (.table .implied sub) =>
    (fill entries sub).map fun sub =>
      Table.put (Table.remove fields key) key (.table .header sub)
  | some _ => none

def putRow (key : String) (entries : List Entry) (fields : Fields) : Option Fields :=
  match Table.get? fields key with
  | none => (fill entries []).map fun row => Table.put fields key (.rows [row])
  | some (.rows tables) =>
    (fill entries []).map fun row => Table.put fields key (.rows (tables ++ [row]))
  | some _ => none

mutual
def finish : Node → Toml
  | .value t => t
  | .table _ fields => .table (finishFields fields)
  | .rows tables => .list (finishRows tables)

def finishFields : List (String × Node) → List (String × Toml)
  | [] => []
  | (name, node) :: rest => (name, finish node) :: finishFields rest

def finishRows : List (List (String × Node)) → List Toml
  | [] => []
  | row :: rest => .table (finishFields row) :: finishRows rest
end

/-- A table written between braces. -/
def braced (entries : List Entry) : Option Toml :=
  (fill entries []).map fun fields => .table (finishFields fields)

end Node

inductive Header where
  | root
  | table (path : List String) (key : String)
  | row (path : List String) (key : String)

structure Section where
  header : Header
  entries : List Entry

namespace Section

def place (section_ : Section) (fields : Node.Fields) : Option Node.Fields :=
  match section_.header with
  | .root => Node.fill section_.entries fields
  | .table path key => Node.descend (Node.putTable key section_.entries) path fields
  | .row path key => Node.descend (Node.putRow key section_.entries) path fields

def placeAll : List Section → Node.Fields → Option Node.Fields
  | [], fields => some fields
  | s :: rest, fields =>
    match s.place fields with
    | some fields => placeAll rest fields
    | none => none

def document (sections : List Section) : Option (Table Toml) :=
  (placeAll sections []).map Node.finishFields

end Section
end Toml
end Bayeux
