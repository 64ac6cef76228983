/-
# Reading JSON

A strict reader: one value, with blanks around it and nothing else. There are no
comments, no trailing commas, and no byte order mark.

A number without fraction and exponent is an integer, except for minus zero. Escapes
in texts are UTF-16 units; a text in which half of a pair stands alone is
unreadable, and so is a table with such a name.

Key definitions: `Json.units?`, `Json.number?`, `Json.read?`.
-/
import TagRules.Data.Value
import TagRules.Text.Decimal

namespace TagRules.Data.Json

open Text (isDigit)

/-- Whether a character is a blank between the parts of a JSON text. -/
def isBlank (c : Char) : Bool := c = ' ' || c = '\t' || c = '\n' || c = '\r'

def dropBlank (cs : List Char) : List Char := cs.dropWhile isBlank

/-- A part of a text: a character, or a UTF-16 unit that an escape spells. -/
inductive TextUnit
  | char (c : Char)
  | unit (n : Nat)
deriving Repr

/-- The character of a one-letter escape. -/
def shortEscape? : Char → Option Char
  | '"' => some '"'
  | '\\' => some '\\'
  | '/' => some '/'
  | 'b' => some '\x08'
  | 'f' => some '\x0c'
  | 'n' => some '\n'
  | 'r' => some '\r'
  | 't' => some '\t'
  | _ => none

/-- Read a text through its closing quote. Parts read before are given last first. -/
def units? (before : List TextUnit) : List Char → Option (List TextUnit × List Char)
  | [] => none
  | '"' :: rest => some (before.reverse, rest)
  | '\\' :: 'u' :: a :: b :: c :: d :: rest =>
    match Text.hexNumber? [a, b, c, d] with
    | some n => units? (.unit n :: before) rest
    | none => none
  | '\\' :: c :: rest =>
    match shortEscape? c with
    | some c => units? (.char c :: before) rest
    | none => none
  | c :: rest => if c.toNat < 0x20 then none else units? (.char c :: before) rest

/-- Join UTF-16 units to characters, if none of them is half of a pair that stands alone. -/
def joinUnits? : List TextUnit → Option (List Char)
  | [] => some []
  | .char c :: rest => (joinUnits? rest).map (c :: ·)
  | .unit n :: .unit m :: rest =>
    if 0xD800 ≤ n ∧ n < 0xDC00 then
      if 0xDC00 ≤ m ∧ m < 0xE000 then do
        let c ← Text.charOfCode? (0x10000 + (n - 0xD800) * 0x400 + (m - 0xDC00))
        (joinUnits? rest).map (c :: ·)
      else none
    else do
      let c ← Text.charOfCode? n
      (joinUnits? (.unit m :: rest)).map (c :: ·)
  | .unit n :: rest => do
    let c ← Text.charOfCode? n
    (joinUnits? rest).map (c :: ·)

/-- Read a text after its opening quote. It is `none` inside if it is unreadable. -/
def string? (cs : List Char) : Option (Option String × List Char) :=
  (units? [] cs).map fun (us, rest) => ((joinUnits? us).map String.ofList, rest)

/-- Split off the digits at the start. -/
def spanDigits (cs : List Char) : List Char × List Char :=
  let ds := cs.takeWhile isDigit
  (ds, cs.drop ds.length)

/-- Read a fraction, if there is one: what it is written as. -/
def fraction? (cs : List Char) : Option (List Char × List Char) :=
  match cs with
  | '.' :: rest =>
    let (ds, rest) := spanDigits rest
    if ds.isEmpty then none else some ('.' :: ds, rest)
  | _ => some ([], cs)

/-- Read an exponent, if there is one: what it is written as. -/
def exponent? (cs : List Char) : Option (List Char × List Char) :=
  match cs with
  | c :: rest =>
    if c = 'e' ∨ c = 'E' then
      let (sign, rest) := match rest with
        | '+' :: rest => (['+'], rest)
        | '-' :: rest => (['-'], rest)
        | _ => ([], rest)
      let (ds, rest) := spanDigits rest
      if ds.isEmpty then none else some (c :: sign ++ ds, rest)
    else some ([], cs)
  | [] => some ([], cs)

def number? (cs : List Char) : Option (Value × List Char) := do
  let (negative, cs) := match cs with
    | '-' :: cs => (true, cs)
    | _ => (false, cs)
  let (ds, rest) := spanDigits cs
  if ds.isEmpty || (ds.head? = some '0' && 1 < ds.length) then none
  let (fraction, rest) ← fraction? rest
  let (exponent, rest) ← exponent? rest
  let n := Text.decimalValue ds
  let v :=
    if fraction.isEmpty && exponent.isEmpty && !(negative && n = 0) then
      Value.integer (if negative then -(n : Int) else n)
    else
      .real (String.ofList ((if negative then ['-'] else []) ++ ds ++ fraction ++ exponent))
  pure (v, rest)

/-- The table with the given fields, unless a name is unreadable. -/
def tableOf (fields : List (Option String × Value)) : Value :=
  match fields.mapM fun e => e.1.map fun name => (name, e.2) with
  | some fields => .table fields
  | none => .unreadable

mutual

/-- Read a value, after blanks. Every call reads a character or more of the text, so its
length is enough fuel. -/
def value? : Nat → List Char → Option (Value × List Char)
  | 0, _ => none
  | fuel + 1, cs =>
    match dropBlank cs with
    | 'n' :: 'u' :: 'l' :: 'l' :: rest => some (.null, rest)
    | 't' :: 'r' :: 'u' :: 'e' :: rest => some (.bool true, rest)
    | 'f' :: 'a' :: 'l' :: 's' :: 'e' :: rest => some (.bool false, rest)
    | '"' :: rest =>
      (string? rest).map fun (s, rest) => ((s.map Value.text).getD .unreadable, rest)
    | '[' :: rest =>
      match dropBlank rest with
      | ']' :: rest => some (.list [], rest)
      | _ => (items? fuel rest).map fun (items, rest) => (.list items, rest)
    | '\x7b' :: rest =>
      match dropBlank rest with
      | '\x7d' :: rest => some (.table [], rest)
      | _ => (fields? fuel rest).map fun (fields, rest) => (tableOf fields, rest)
    | cs => number? cs

/-- Read the items of a list, one or more, through the closing bracket. -/
def items? : Nat → List Char → Option (List Value × List Char)
  | 0, _ => none
  | fuel + 1, cs =>
    match value? fuel cs with
    | none => none
    | some (v, rest) =>
      match dropBlank rest with
      | ',' :: rest => (items? fuel rest).map fun (vs, rest) => (v :: vs, rest)
      | ']' :: rest => some ([v], rest)
      | _ => none

/-- Read the fields of a table, one or more, through the closing brace. -/
def fields? : Nat → List Char → Option (List (Option String × Value) × List Char)
  | 0, _ => none
  | fuel + 1, cs =>
    match dropBlank cs with
    | '"' :: rest =>
      match string? rest with
      | none => none
      | some (name, rest) =>
        match dropBlank rest with
        | ':' :: rest =>
          match value? fuel rest with
          | none => none
          | some (v, rest) =>
            match dropBlank rest with
            | ',' :: rest => (fields? fuel rest).map fun (fs, rest) => ((name, v) :: fs, rest)
            | '\x7d' :: rest => some ([(name, v)], rest)
            | _ => none
        | _ => none
    | _ => none

end

/-- Read a JSON text. -/
def read? (source : String) : Option Value :=
  let cs := source.toList
  match value? (cs.length + 1) cs with
  | some (v, rest) => if (dropBlank rest).isEmpty then some v else none
  | none => none

end TagRules.Data.Json
