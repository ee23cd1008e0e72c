import LayeredFlags.Toml.Literal
/-!
# TOML Trees

While a document is read, its tables are kept in a tree that remembers how each table came
about, because that decides whether it may be opened or extended again. A key is defined
once; a header may open a table that was only implied before, which then moves to the end of
its parent; dotted keys extend only tables that dotted keys or headers have implied.
-/

namespace LayeredFlags.Toml

/-- How a table came about. -/
inductive Origin where
  /-- The document itself, a table with a header of its own, or an element of a list. -/
  | header
  /-- A table that the path of a header passes through. -/
  | implied
  /-- A table that a dotted key passes through. -/
  | dotted
deriving DecidableEq, Repr

/-- What a key of a table under construction holds. -/
inductive Node where
  /-- A value that was given after an equals sign. -/
  | value (given : Value)
  /-- A table, and how it came about. -/
  | table (origin : Origin) (fields : List (String × Node))
  /-- The tables that repeated headers have opened, in order. -/
  | tables (elements : List (List (String × Node)))

namespace Node

mutual

/-- The value that a node stands for. -/
def toValue : Node → Value
  | .value given => given
  | .table _ fields => .table (fieldValues fields)
  | .tables elements => .tables (elementValues elements)
termination_by structural node => node

/-- The values of the fields of a table. -/
def fieldValues : List (String × Node) → List (String × Value)
  | [] => []
  | (key, node) :: rest => (key, node.toValue) :: fieldValues rest
termination_by structural fields => fields

/-- The fields of the elements of a list of tables, with their values. -/
def elementValues : List (List (String × Node)) → List (List (String × Value))
  | [] => []
  | fields :: rest => fieldValues fields :: elementValues rest
termination_by structural elements => elements

end

end Node

/-- The fields of a table under construction, in order. -/
abbrev Fields := List (String × Node)

namespace Fields

/-- Replace the node of a key, in place, or add the key at the end. -/
def put (key : String) (node : Node) : Fields → Fields
  | [] => [(key, node)]
  | field :: rest => if field.1 = key then (key, node) :: rest else field :: put key node rest

/-- Change the last element of a list of tables, if the change succeeds. -/
def changeLast (change : Fields → Option Fields) : List Fields → Option (List Fields)
  | [] => none
  | [last] => (change last).map ([·])
  | first :: second :: rest => (changeLast change (second :: rest)).map (first :: ·)

/-- Change the table at the end of a path. Tables that are not there are made, as implied
ones or as dotted ones; of a list of tables the last element is taken. Dotted keys do not
pass through a table with a header of its own, and nothing passes through a value. -/
def changeAt (dotted : Bool) (change : Origin → Fields → Option Fields) :
    List String → Origin → Fields → Option Fields
  | [], origin, fields => change origin fields
  | key :: path, _, fields =>
    match fields.lookup key with
    | none =>
      let origin := if dotted then Origin.dotted else Origin.implied
      (changeAt dotted change path origin []).map fun inner =>
        put key (.table origin inner) fields
    | some (.value _) => none
    | some (.tables elements) =>
      (changeLast (changeAt dotted change path .header) elements).map fun elements =>
        put key (.tables elements) fields
    | some (.table origin inner) =>
      -- A table with a header is complete when the next header begins.
      if dotted && origin == .header then none
      else
        (changeAt dotted change path origin inner).map fun inner =>
          put key (.table origin inner) fields

/-- Add a new key to a table that was reached by a dotted key, or by none. A key that is
reached by others has to be in a table of dotted keys. -/
def addNew (reached : Bool) (key : String) (value : Value) (origin : Origin)
    (fields : Fields) : Option Fields :=
  -- A table that the path of a header has implied is none of dotted keys.
  if reached != (origin == .dotted) then none
  else
    match fields.lookup key with
    | some _ => none
    | none => some (put key (.value value) fields)

/-- Define a possibly dotted key in a table that has a header of its own. -/
def define (path : List String) (value : Value) (fields : Fields) : Option Fields :=
  match path.getLast? with
  | none => none
  | some key =>
    let outer := path.dropLast
    changeAt true (addNew (!outer.isEmpty) key value) outer .header fields

/-- Open the table of a header. It must be new or no more than implied. -/
def openTable (path : List String) (fields : Fields) : Option Fields :=
  match path.getLast? with
  | none => none
  | some key =>
    changeAt false
      (fun _ fields =>
        match fields.lookup key with
        | none => some (put key (.table .header []) fields)
        | some (.table .implied inner) =>
          -- The table takes the place of its header, which comes last.
          some (fields.filter (·.1 != key) ++ [(key, .table .header inner)])
        | some _ => none)
      path.dropLast .header fields

/-- Open one more element of the list of tables of a header. -/
def openElement (path : List String) (fields : Fields) : Option Fields :=
  match path.getLast? with
  | none => none
  | some key =>
    changeAt false
      (fun _ fields =>
        match fields.lookup key with
        | none => some (put key (.tables [[]]) fields)
        | some (.tables elements) => some (put key (.tables (elements ++ [[]])) fields)
        | some _ => none)
      path.dropLast .header fields

/-- Define some possibly dotted keys, in order. -/
def defineAll (pairs : List (List String × Value)) (fields : Fields) : Option Fields :=
  pairs.foldlM (fun fields pair => define pair.1 pair.2 fields) fields

end Fields

end LayeredFlags.Toml
