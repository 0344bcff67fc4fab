import NodeGateway.Toml.Scalar
import NodeGateway.Toml.Text

/-!
# Documents in TOML

A document is a list of lines: keys with their values, and headers that say to which table the keys
behind them belong. It is read into a tree of settings. A key may not be given twice, and neither
may the header of a table; a header between double brackets adds another table to a list.

## Main definitions

* `Toml.readValue`, and the lists and tables that a value may hold;
* `Toml.define?`, `Toml.openTable?` and `Toml.appendTable?`, which put what was read into the tree;
* `Toml.read?`, which reads a document.
-/

namespace NodeGateway.Toml

/-! ### Putting values into the tree -/

/-- A table with a member changed, or added if it is not there. -/
def setMember (name : String) (value : SettingTree) (members : List (String × SettingTree)) :
    SettingTree :=
  .table (SettingTree.alter name (fun _ => value) members)

/-- Changes a tree, or the last table of a list of tables. -/
def throughLast (change : SettingTree → Option SettingTree) : SettingTree → Option SettingTree
  | .list items => do
    let last ← items.getLast?
    return .list (items.dropLast ++ [← change last])
  | tree => change tree

/-- Changes what stands at the end of a path. Tables on the way that are not there are added. -/
def alterAt? (change : Option SettingTree → Option SettingTree) :
    List String → SettingTree → Option SettingTree
  | [name], .table members => do
    return setMember name (← change (members.lookup name)) members
  | name :: path, .table members => do
    let inner := (members.lookup name).getD (.table [])
    return setMember name (← throughLast (alterAt? change path) inner) members
  | _, _ => none

/-- Puts a value at the end of a path where nothing stands yet. -/
def define? (value : SettingTree) : List String → SettingTree → Option SettingTree :=
  alterAt? fun
    | none => some value
    | some _ => none

/-- Makes sure that a table stands at the end of a path. -/
def openTable? : List String → SettingTree → Option SettingTree :=
  alterAt? fun
    | none => some (.table [])
    | some (.table members) => some (.table members)
    | some _ => none

/-- Adds a table to the list at the end of a path. -/
def appendTable? : List String → SettingTree → Option SettingTree :=
  alterAt? fun
    | none => some (.list [.table []])
    | some (.list items) => some (.list (items ++ [.table []]))
    | some _ => none

/-! ### Values -/

mutual

/-- Reads a **value**. -/
def readValue : (fuel : Nat) → List Char → Option (SettingTree × List Char)
  | 0, _ | _, [] => none
  | fuel + 1, c :: rest =>
    if c = '"' || c = '\'' then
      (readText c rest).map fun (text, rest) => (.text text false, rest)
    else if c = '[' then
      (readItems fuel rest).map fun (items, rest) => (.list items, rest)
    else if c = '\x7b' then
      match skipSpace rest with
      | '\x7d' :: rest => some (.table [], rest)
      | rest => readPairs fuel (.table []) rest
    else readScalar (c :: rest)

/-- Reads the items of a list up to its bracket; a comma may stand behind the last of them. -/
def readItems : (fuel : Nat) → List Char → Option (List SettingTree × List Char)
  | 0, _ => none
  | fuel + 1, text =>
    match skipBlank text.length text with
    | ']' :: rest => some ([], rest)
    | text => do
      let (item, rest) ← readValue fuel text
      match skipBlank rest.length rest with
      | ',' :: rest =>
        let (items, rest) ← readItems fuel rest
        return (item :: items, rest)
      | ']' :: rest => return ([item], rest)
      | _ => none

/-- Reads the pairs of a table up to its brace. -/
def readPairs : (fuel : Nat) → SettingTree → List Char → Option (SettingTree × List Char)
  | 0, _, _ => none
  | fuel + 1, tree, text => do
    let (key, rest) ← readKey (text.length + 1) text
    match rest with
    | '=' :: rest =>
      let (value, rest) ← readValue fuel (skipSpace rest)
      let tree ← define? value key tree
      match skipSpace rest with
      | ',' :: rest => readPairs fuel tree rest
      | '\x7d' :: rest => return (tree, rest)
      | _ => none
    | _ => none

end

/-! ### Documents -/

/-- A **document** as far as it has been read: its tree, the headers that were given, and the path
of the table that keys belong to. -/
structure Document where
  tree : SettingTree := .table []
  headers : List (List String) := []
  path : List String := []

namespace Document

/-- The document with the header of a table. -/
def openTable? (path : List String) (document : Document) : Option Document := do
  guard !(document.headers.contains path)
  return { tree := ← Toml.openTable? path document.tree, headers := path :: document.headers, path }

/-- The document with the header of another table in a list. Headers inside the list may be given
again for the new table. -/
def appendTable? (path : List String) (document : Document) : Option Document := do
  let kept := document.headers.filter fun header => !(path.isPrefixOf header)
  return { tree := ← Toml.appendTable? path document.tree, headers := kept, path }

/-- The document with a value. -/
def define? (key : List String) (value : SettingTree) (document : Document) : Option Document := do
  return { document with tree := ← Toml.define? value (document.path ++ key) document.tree }

end Document

/-- Reads one line: a header, or a key with its value. -/
def readStatement (document : Document) (text : List Char) : Option (Document × List Char) :=
  match text with
  | '[' :: '[' :: rest => do
    let (path, rest) ← readKey (rest.length + 1) rest
    match rest with
    | ']' :: ']' :: rest => return (← document.appendTable? path, rest)
    | _ => none
  | '[' :: rest => do
    let (path, rest) ← readKey (rest.length + 1) rest
    match rest with
    | ']' :: rest => return (← document.openTable? path, rest)
    | _ => none
  | _ => do
    let (key, rest) ← readKey (text.length + 1) text
    match rest with
    | '=' :: rest =>
      let (value, rest) ← readValue (2 * rest.length + 2) (skipSpace rest)
      return (← document.define? key value, rest)
    | _ => none

/-- Reads the lines of a document. Nothing but a comment may stand behind what a line says. -/
def readStatements : (fuel : Nat) → Document → List Char → Option Document
  | 0, _, _ => none
  | fuel + 1, document, text =>
    match skipBlank text.length text with
    | [] => some document
    | text => do
      let (document, rest) ← readStatement document text
      match skipComment rest with
      | [] => return document
      | '\n' :: rest => readStatements fuel document rest
      | '\r' :: '\n' :: rest => readStatements fuel document rest
      | _ => none

/-- The text without the mark of byte order at its beginning. -/
def withoutByteOrderMark : List Char → List Char
  | '\uFEFF' :: rest => rest
  | text => text

/-- Reads a **document**. -/
def read? (text : String) : Option SettingTree :=
  (readStatements (text.length + 1) {} (withoutByteOrderMark text.toList)).map (·.tree)

end NodeGateway.Toml
