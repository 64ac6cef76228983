/-
# Writing JSON

Values are written on one line without blanks, or over several lines with two blanks
for each level. Quotes, backslashes and control characters are escaped, with short
escapes where there are any; all other characters stand for themselves.

Key definitions: `Json.quote`, `Json.compact`, `Json.pretty`.
-/
import TagRules.Data.Value

namespace TagRules.Data.Json

def hexDigit (n : Nat) : Char := if n < 10 then Char.ofNat (48 + n) else Char.ofNat (87 + n)

/-- How a character is written in a text. -/
def escapeChar (c : Char) : List Char :=
  match c with
  | '"' => ['\\', '"']
  | '\\' => ['\\', '\\']
  | '\x08' => ['\\', 'b']
  | '\x0c' => ['\\', 'f']
  | '\n' => ['\\', 'n']
  | '\r' => ['\\', 'r']
  | '\t' => ['\\', 't']
  | c =>
    if c.toNat < 0x20 then
      ['\\', 'u', '0', '0', hexDigit (c.toNat / 16), hexDigit (c.toNat % 16)]
    else [c]

/-- A text between quotes. -/
def quote (s : String) : String := "\"" ++ String.ofList (s.toList.flatMap escapeChar) ++ "\""

/-- A value without parts. -/
def scalar : Value → String
  | .bool b => if b then "true" else "false"
  | .integer n => toString n
  | .real written => written
  | .text s => quote s
  | _ => "null"

mutual

def compact : Value → String
  | .list items => "[" ++ String.intercalate "," (compactItems items) ++ "]"
  | .table fields => "\x7b" ++ String.intercalate "," (compactFields fields) ++ "\x7d"
  | v => scalar v

def compactItems : List Value → List String
  | [] => []
  | v :: vs => compact v :: compactItems vs

def compactFields : List (String × Value) → List String
  | [] => []
  | (name, v) :: fs => (quote name ++ ":" ++ compact v) :: compactFields fs

end

def indent (level : Nat) : String := String.ofList (List.replicate (2 * level) ' ')

/-- Parts between brackets, each on a line of its own; nothing between them if there are
none. -/
def bracketed (start stop : String) (level : Nat) (parts : List String) : String :=
  if parts.isEmpty then start ++ stop
  else
    start ++ "\n" ++ String.intercalate ",\n" (parts.map (indent (level + 1) ++ ·)) ++ "\n" ++
      indent level ++ stop

mutual

/-- A value over several lines, at a level of indentation. -/
def prettyAt (level : Nat) : Value → String
  | .list items => bracketed "[" "]" level (prettyItems (level + 1) items)
  | .table fields => bracketed "\x7b" "\x7d" level (prettyFields (level + 1) fields)
  | v => scalar v

def prettyItems (level : Nat) : List Value → List String
  | [] => []
  | v :: vs => prettyAt level v :: prettyItems level vs

def prettyFields (level : Nat) : List (String × Value) → List String
  | [] => []
  | (name, v) :: fs => (quote name ++ ": " ++ prettyAt level v) :: prettyFields level fs

end

/-- A value over several lines. -/
def pretty (v : Value) : String := prettyAt 0 v

end TagRules.Data.Json
