import LayeredFlags.Toml.Literal
import LayeredFlags.Toml.Tree
/-!
# TOML Documents

A document is a list of statements: headers that open a table or one more element of a list
of tables, and pairs of a key and a value for the table opened last. Values may be nested,
and keys dotted, up to a limit.
-/

namespace LayeredFlags.Toml

open Text

/-- Values are nested, and parts of a key joined, fewer than this many times. -/
def nestingLimit : Nat := 80

/-- One statement of a document. -/
inductive Statement where
  /-- The header of a table. -/
  | openTable (path : List String)
  /-- The header of one more element of a list of tables. -/
  | openElement (path : List String)
  /-- A key and its value. -/
  | define (path : List String) (value : Value)

/-- The text from after its spaces, tabs, line ends and comments on, as the flag tells from
within a comment. -/
def skipTrivia (inComment : Bool) : List Char → List Char
  | [] => []
  | '\r' :: '\n' :: rest => skipTrivia false rest
  | '\n' :: rest => skipTrivia false rest
  | c :: rest =>
    if inComment then if isPlain c then skipTrivia true rest else c :: rest
    else if c = ' ' ∨ c = '\t' then skipTrivia false rest
    else if c = '#' then skipTrivia true rest
    else c :: rest

/-- Read the end of a line, before which there may be spaces and a comment. -/
def lineEnd (text : List Char) : Option (List Char) :=
  let rest := match skipSpaces text with
    | '#' :: rest => rest.dropWhile isPlain
    | rest => rest
  match rest with
  | [] => some []
  | '\n' :: rest => some rest
  | '\r' :: '\n' :: rest => some rest
  | _ => none

/-- The character may stand in a key without quotes. -/
def isBareKey (c : Char) : Bool :=
  c.isAlphanum || c == '_' || c == '-'

/-- Read one part of a key. -/
def keyPart : Scan String
  | '\x22' :: rest =>
    (basicString rest).map fun (read, rest) => (String.ofList read, rest)
  | '\x27' :: rest =>
    (literalString rest).map fun (read, rest) => (String.ofList read, rest)
  | text =>
    let read := text.takeWhile isBareKey
    if read.isEmpty then none else some (String.ofList read, text.dropWhile isBareKey)

/-- Read the parts of a key and the spaces around them. The first argument bounds the number
of parts. -/
def keyParts : Nat → Scan (List String)
  | 0, _ => none
  | parts + 1, text => do
    let (part, rest) ← keyPart (skipSpaces text)
    match skipSpaces rest with
    | '.' :: rest =>
      let (path, rest) ← keyParts parts rest
      return (part :: path, rest)
    | rest => return ([part], rest)

/-- Read a key, which may be dotted. -/
def key : Scan (List String) :=
  keyParts (nestingLimit - 1)

/-- Read the items of an array from after its opening bracket or a comma. The number bounds
the number of items. -/
def items (value : Scan Value) : Nat → Scan (List Value)
  | 0, _ => none
  | bound + 1, text =>
    match skipTrivia false text with
    | ']' :: rest => some ([], rest)
    | text => do
      let (item, rest) ← value text
      match skipTrivia false rest with
      | ',' :: rest =>
        let (more, rest) ← items value bound rest
        return (item :: more, rest)
      | ']' :: rest => return ([item], rest)
      | _ => none

/-- Read a key, an equals sign and a value, with spaces around each. -/
def pair (value : Scan Value) : Scan (List String × Value) := fun text => do
  let (path, rest) ← key text
  match rest with
  | '=' :: rest =>
    let (read, rest) ← value (skipSpaces rest)
    return ((path, read), rest)
  | _ => none

/-- Read the pairs of an inline table from after its opening brace or a comma. The number
bounds the number of pairs. -/
def inlinePairs (value : Scan Value) : Nat → Scan (List (List String × Value))
  | 0, _ => none
  | bound + 1, text => do
    let (first, rest) ← pair value text
    match skipSpaces rest with
    | ',' :: rest =>
      let (more, rest) ← inlinePairs value bound rest
      return (first :: more, rest)
    | '}' :: rest => return ([first], rest)
    | _ => none

/-- Read an inline table from after its opening brace. -/
def inlineTable (value : Scan Value) : Scan Value := fun text =>
  match skipSpaces text with
  | '}' :: rest => some (.table [], rest)
  | text => do
    let (pairs, rest) ← inlinePairs value text.length text
    let fields ← Fields.defineAll pairs []
    return (.table (Node.fieldValues fields), rest)

/-- Read a value that is nested no deeper than the given number. -/
def value : Nat → Scan Value
  | 0, text => scalar text
  | depth + 1, text =>
    match text with
    -- An item and its comma take up a character at least, so the text bounds their number.
    | '[' :: rest => (items (value depth) text.length rest).map fun (read, rest) =>
        (.array read, rest)
    | '{' :: rest => inlineTable (value depth) rest
    | _ => scalar text

/-- Read one statement. -/
def statement (text : List Char) : Option (Statement × List Char) :=
  match text with
  | '[' :: '[' :: rest => do
    let (path, rest) ← key rest
    match rest with
    | ']' :: ']' :: rest => return (.openElement path, ← lineEnd rest)
    | _ => none
  | '[' :: rest => do
    let (path, rest) ← key rest
    match rest with
    | ']' :: rest => return (.openTable path, ← lineEnd rest)
    | _ => none
  | _ => do
    let ((path, read), rest) ← pair (value (nestingLimit - 1)) text
    return (.define path read, ← lineEnd rest)

/-- Read the statements of a text. The number bounds the number of statements. -/
def statements : Nat → List Char → Option (List Statement)
  | 0, _ => none
  | bound + 1, text =>
    match skipTrivia false text with
    | [] => some []
    | text => do
      let (first, rest) ← statement text
      return first :: (← statements bound rest)

/-- The root of a document under construction, and the path of the table opened last. -/
structure Draft where
  /-- The fields of the document. -/
  root : Fields
  /-- The path of the table that pairs go into. -/
  path : List String

/-- Carry out one statement. -/
def Draft.apply (draft : Draft) : Statement → Option Draft
  | .openTable path => (draft.root.openTable path).map (⟨·, path⟩)
  | .openElement path => (draft.root.openElement path).map (⟨·, path⟩)
  | .define path value =>
    (draft.root.changeAt false (fun _ fields => fields.define path value) draft.path
      .header).map (⟨·, draft.path⟩)

/-- The fields of a document, or nothing if the text is not TOML. A byte order mark at its
start is skipped. -/
def parse (text : String) : Option (List (String × Value)) := do
  let text := match text.toList with
    | '\uFEFF' :: rest => rest
    | text => text
  -- Every statement takes up a character at least.
  let draft ← (← statements (text.length + 1) text).foldlM Draft.apply ⟨[], []⟩
  return Node.fieldValues draft.root

end LayeredFlags.Toml
