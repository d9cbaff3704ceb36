import ImportSurvey.Toml.Value

namespace ImportSurvey.Toml

/-- What made a table. -/
inductive Origin where
  /-- Its own header. -/
  | header
  /-- The header of a table below it. -/
  | deeperHeader
  /-- A dotted key. -/
  | dottedKey
deriving DecidableEq, Repr

/-- A node of a document: a value, a table, or the tables of one repeated header, the last one
apart. -/
inductive Node where
  | value (v : TomlValue)
  | table (origin : Origin) (fields : List (String × Node))
  | tables (earlier : List (List (String × Node))) (last : List (String × Node))

abbrev Fields := List (String × Node)

/-- The parts of a dotted key, the last one apart. -/
structure KeyPath where
  outer : List String
  last : String
deriving DecidableEq, Repr

mutual

def Node.toValue : Node → TomlValue
  | .value v => v
  | .table _ fields => .table (fieldValues fields)
  | .tables earlier last => .array (tableValues earlier ++ [.table (fieldValues last)])

def fieldValues : List (String × Node) → List (String × TomlValue)
  | [] => []
  | (key, node) :: rest => (key, node.toValue) :: fieldValues rest

def tableValues : List (List (String × Node)) → List TomlValue
  | [] => []
  | fields :: rest => .table (fieldValues fields) :: tableValues rest

end

/-- Replaces the node under a key. -/
def replaceNode (key : String) (node : Node) (fields : Fields) : Fields :=
  fields.map fun f => if f.1 = key then (key, node) else f

/-- Changes the table at the end of a path. Tables on the way are made if they are missing, of the
tables of a repeated header the last one is meant, and a value is no table. Dotted keys do not lead
through tables that a header opened. -/
def changeAt (dotted : Bool) (change : Origin → Fields → Option Fields) :
    List String → Origin → Fields → Option Fields
  | [], origin, fields => change origin fields
  | key :: path, _, fields =>
    match fields.lookup key with
    | none =>
      let origin := if dotted then .dottedKey else .deeperHeader
      (changeAt dotted change path origin []).map fun inner => fields ++ [(key, .table origin inner)]
    | some (.value _) => none
    | some (.table origin inner) =>
      if dotted && origin == .header then none
      else (changeAt dotted change path origin inner).map fun inner =>
        replaceNode key (.table origin inner) fields
    | some (.tables earlier last) =>
      (changeAt dotted change path .header last).map fun last =>
        replaceNode key (.tables earlier last) fields

/-- Enters a value under a key that is not there yet. -/
def enterValue (key : String) (v : TomlValue) (fields : Fields) : Option Fields :=
  if (fields.lookup key).isSome then none else some (fields ++ [(key, .value v)])

/-- Assigns a value to a dotted key. The table that gets the value is the current one, or one that
was made by dotted keys. -/
def assign (key : KeyPath) (v : TomlValue) (fields : Fields) : Option Fields :=
  changeAt true
    (fun origin inner =>
      if (origin == .dottedKey) == key.outer.isEmpty then none else enterValue key.last v inner)
    key.outer .header fields

/-- Opens a table by its header: a new one, or one that was made by the header of a deeper table. -/
def openTable (key : String) (fields : Fields) : Option Fields :=
  match fields.lookup key with
  | none => some (fields ++ [(key, .table .header [])])
  | some (.table .deeperHeader inner) => some (replaceNode key (.table .header inner) fields)
  | some _ => none

/-- Opens one more table of a repeated header. -/
def openNext (key : String) (fields : Fields) : Option Fields :=
  match fields.lookup key with
  | none => some (fields ++ [(key, .tables [] [])])
  | some (.tables earlier last) => some (replaceNode key (.tables (earlier ++ [last]) []) fields)
  | some _ => none

/-- The table of a list of assignments between braces. -/
def inlineTable? (pairs : List (KeyPath × TomlValue)) : Option TomlValue :=
  (pairs.foldlM (fun fields pair => assign pair.1 pair.2 fields) []).map fun fields =>
    .table (fieldValues fields)

/-- A line of a document. -/
inductive Statement where
  | assignment (key : KeyPath) (v : TomlValue)
  | header (key : KeyPath)
  | repeatedHeader (key : KeyPath)

/-- A document read so far: its tables, and the path of the table that assignments go to. -/
structure Draft where
  fields : Fields
  current : List String

def Draft.empty : Draft := ⟨[], []⟩

/-- Opens the table of a header and makes it the current one. -/
def Draft.open (d : Draft) (key : KeyPath) (opening : String → Fields → Option Fields) :
    Option Draft :=
  (changeAt false (fun _ => opening key.last) key.outer .header d.fields).map fun fields =>
    ⟨fields, key.outer ++ [key.last]⟩

def Draft.add (d : Draft) : Statement → Option Draft
  | .assignment key v =>
    (changeAt false (fun _ => assign key v) d.current .header d.fields).map fun fields =>
      { d with fields }
  | .header key => d.open key openTable
  | .repeatedHeader key => d.open key openNext

/-- The fields of the document that some statements make. -/
def fieldsOf? (statements : List Statement) : Option (List (String × TomlValue)) :=
  (statements.foldlM Draft.add .empty).map fun d => fieldValues d.fields

end ImportSurvey.Toml
