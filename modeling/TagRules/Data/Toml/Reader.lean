/-
# Reading TOML

A document is a row of lines: headers, keys with values, comments, and blank lines.
Lists may run over several lines; tables between braces may not.

Key definitions: `Toml.key?`, `Toml.value?`, `Toml.read?`.
-/
import TagRules.Data.Toml.Document
import TagRules.Data.Toml.Scalar

namespace TagRules.Data.Toml

/-- A text without its leading blanks. -/
def dropBlank (cs : List Char) : List Char := cs.dropWhile fun c => c = ' ' || c = '\t'

/-- A text without leading blanks, line ends and comments. -/
def skipLines? (inComment : Bool) : List Char → Option (List Char)
  | [] => some []
  | '\r' :: '\n' :: cs => skipLines? false cs
  | c :: cs =>
    if c = '\n' then skipLines? false cs
    else if inComment then if isPlain c then skipLines? true cs else none
    else if c = ' ' || c = '\t' then skipLines? false cs
    else if c = '#' then skipLines? true cs
    else some (c :: cs)

/-- Read the end of a line: blanks, perhaps a comment, and a line end or the end of the
text. -/
def endLine? (cs : List Char) : Option (List Char) :=
  let rest := match dropBlank cs with
    | '#' :: rest => rest.dropWhile isPlain
    | rest => rest
  match rest with
  | [] => some []
  | '\n' :: rest => some rest
  | '\r' :: '\n' :: rest => some rest
  | _ => none

/-- Whether a character may stand in a key without quotes. -/
def isKeyChar (c : Char) : Bool := c.isAlphanum || c = '-' || c = '_'

/-- Read one name of a key. -/
def name? (cs : List Char) : Option (String × List Char) :=
  match cs with
  | '"' :: rest => basic? [] rest
  | '\'' :: rest => literal? [] rest
  | _ =>
    let name := cs.takeWhile isKeyChar
    if name.isEmpty then none else some (String.ofList name, cs.drop name.length)

/-- Read a key: names with dots between them. The last name is returned apart. Each name
takes a character or more, so the length of the text is enough fuel. -/
def key? : Nat → List Char → Option (List String × String × List Char)
  | 0, _ => none
  | fuel + 1, cs => do
    let (name, rest) ← name? (dropBlank cs)
    match dropBlank rest with
    | '.' :: rest =>
      let (path, last, rest) ← key? fuel rest
      pure (name :: path, last, rest)
    | rest => pure ([], name, rest)

/-- How deeply lists and tables between brackets may nest. -/
def nestingLimit : Nat := 80

mutual

/-- Read a value. `depth` is the number of brackets that are open around it. Every call
reads a character or more of the text, so its length is enough fuel. -/
def value? : Nat → Nat → List Char → Option (Value × List Char)
  | 0, _, _ => none
  | fuel + 1, depth, cs =>
    match cs with
    | '[' :: rest =>
      if nestingLimit ≤ depth then none
      else (items? fuel (depth + 1) rest).map fun (items, rest) => (.list items, rest)
    | '\x7b' :: rest =>
      if nestingLimit ≤ depth then none
      else
        match dropBlank rest with
        | '\x7d' :: rest => some (.table [], rest)
        | rest =>
          (fields? fuel (depth + 1) [] rest).map fun (fields, rest) =>
            (.table (fieldValues fields), rest)
    | _ => scalar? cs

/-- Read the items of a list through the closing bracket. A comma may follow the last. -/
def items? : Nat → Nat → List Char → Option (List Value × List Char)
  | 0, _, _ => none
  | fuel + 1, depth, cs =>
    match skipLines? false cs with
    | none => none
    | some (']' :: rest) => some ([], rest)
    | some cs =>
      match value? fuel depth cs with
      | none => none
      | some (v, rest) =>
        match skipLines? false rest with
        | some (',' :: rest) => (items? fuel depth rest).map fun (vs, rest) => (v :: vs, rest)
        | some (']' :: rest) => some ([v], rest)
        | _ => none

/-- Read the fields of a table between braces, one or more, through the closing brace. -/
def fields? : Nat → Nat → NodeFields → List Char → Option (NodeFields × List Char)
  | 0, _, _, _ => none
  | fuel + 1, depth, fields, cs =>
    match key? fuel cs with
    | some (path, name, '=' :: rest) =>
      match value? fuel depth (dropBlank rest) with
      | none => none
      | some (v, rest) =>
        match addField? path name v fields with
        | none => none
        | some fields =>
          match dropBlank rest with
          | ',' :: rest => fields? fuel depth fields rest
          | '\x7d' :: rest => some (fields, rest)
          | _ => none
    | _ => none

end

/-- A document that is being read: its fields, and the header of the table that is open. -/
structure Draft where
  root : NodeFields
  header : List String
deriving Repr

/-- Read a header, after its first bracket. -/
def header? (d : Draft) (cs : List Char) : Option (Draft × List Char) :=
  match cs with
  | '[' :: cs => do
    let (path, name, rest) ← key? cs.length cs
    match rest with
    | ']' :: ']' :: rest =>
      let root ← addItem? path name d.root
      pure (⟨root, path ++ [name]⟩, rest)
    | _ => none
  | cs => do
    let (path, name, rest) ← key? cs.length cs
    match rest with
    | ']' :: rest =>
      let root ← addTable? path name d.root
      pure (⟨root, path ++ [name]⟩, rest)
    | _ => none

/-- Read a key with its value. -/
def field? (d : Draft) (cs : List Char) : Option (Draft × List Char) := do
  let (path, name, rest) ← key? cs.length cs
  match rest with
  | '=' :: rest =>
    let rest := dropBlank rest
    let (v, rest) ← value? (rest.length + 1) 0 rest
    let root ← inOpen? (addField? path name v) d.header d.root
    pure ({ d with root }, rest)
  | _ => none

/-- Read lines to the end. Each takes a character or more, so the length of the text is
enough fuel. -/
def lines? : Nat → Draft → List Char → Option Draft
  | fuel, d, cs =>
    match skipLines? false cs, fuel with
    | none, _ => none
    | some [], _ => some d
    | some (_ :: _), 0 => none
    | some (c :: cs), fuel + 1 =>
      match if c = '[' then header? d cs else field? d (c :: cs) with
      | none => none
      | some (d, rest) =>
        match endLine? rest with
        | none => none
        | some rest => lines? fuel d rest

/-- Read a TOML text. A byte order mark at its start does not count. -/
def read? (source : String) : Option Value :=
  let cs := match source.toList with
    | '\ufeff' :: cs => cs
    | cs => cs
  (lines? cs.length ⟨[], []⟩ cs).map fun d => .table (fieldValues d.root)

end TagRules.Data.Toml
