/-
# Scalars of TOML

Texts, numbers, truth values and dates. Texts come in four forms: between double
quotes, with escapes, or between single quotes, without; and on one line, or between
three quotes, on several. A line feed right after three opening quotes does not count,
and one or two further quotes before the closing three do.

Numbers may have underscores between digits. A date is read as a table with one field
of a reserved name, which no record has.

Key definitions: `Toml.text?`, `Toml.number?`, `Toml.isDate`, `Toml.scalar?`.
-/
import TagRules.Data.Value
import TagRules.Text.Decimal

namespace TagRules.Data.Toml

open Text (isDigit decimalValue)

/-- Whether a character may stand in a text or comment as it is, on one line. -/
def isPlain (c : Char) : Bool := c = '\t' || (0x20 ≤ c.toNat && c.toNat ≠ 0x7F)

/-- The character of a one-letter escape. -/
def shortEscape? : Char → Option Char
  | 'b' => some '\x08'
  | 't' => some '\t'
  | 'n' => some '\n'
  | 'f' => some '\x0c'
  | 'r' => some '\r'
  | '"' => some '"'
  | '\\' => some '\\'
  | _ => none

/-- The character whose code hexadecimal digits spell. -/
def codeChar? (digits : List Char) : Option Char := (Text.hexNumber? digits).bind Text.charOfCode?

/-- Read a text between double quotes on one line, through the closing quote. Characters
read before are given last first. -/
def basic? (before : List Char) : List Char → Option (String × List Char)
  | [] => none
  | '"' :: rest => some (String.ofList before.reverse, rest)
  | '\\' :: 'u' :: a :: b :: c :: d :: rest =>
    match codeChar? [a, b, c, d] with
    | some c => basic? (c :: before) rest
    | none => none
  | '\\' :: 'U' :: a :: b :: c :: d :: e :: f :: g :: h :: rest =>
    match codeChar? [a, b, c, d, e, f, g, h] with
    | some c => basic? (c :: before) rest
    | none => none
  | '\\' :: c :: rest =>
    match shortEscape? c with
    | some c => basic? (c :: before) rest
    | none => none
  | c :: rest => if isPlain c then basic? (c :: before) rest else none

/-- Read a text between single quotes on one line, through the closing quote. -/
def literal? (before : List Char) : List Char → Option (String × List Char)
  | [] => none
  | '\'' :: rest => some (String.ofList before.reverse, rest)
  | c :: rest => if isPlain c then literal? (c :: before) rest else none

/-- Whether a backslash ends a line: only blanks follow it there. -/
def endsLine (cs : List Char) : Bool :=
  match cs.dropWhile fun c => c = ' ' || c = '\t' with
  | '\n' :: _ | '\r' :: '\n' :: _ => true
  | _ => false

/-- Read a text between three double quotes, through the closing quotes. `skipping` says
that blanks and line ends do not count, after a backslash at the end of a line. -/
def basicLines? (before : List Char) (skipping : Bool) : List Char → Option (String × List Char)
  | [] => none
  | '"' :: '"' :: '"' :: '"' :: '"' :: rest =>
    some (String.ofList ('"' :: '"' :: before).reverse, rest)
  | '"' :: '"' :: '"' :: '"' :: rest => some (String.ofList ('"' :: before).reverse, rest)
  | '"' :: '"' :: '"' :: rest => some (String.ofList before.reverse, rest)
  | '\\' :: 'u' :: a :: b :: c :: d :: rest =>
    match codeChar? [a, b, c, d] with
    | some c => basicLines? (c :: before) false rest
    | none => none
  | '\\' :: 'U' :: a :: b :: c :: d :: e :: f :: g :: h :: rest =>
    match codeChar? [a, b, c, d, e, f, g, h] with
    | some c => basicLines? (c :: before) false rest
    | none => none
  | '\\' :: c :: rest =>
    match shortEscape? c with
    | some c => basicLines? (c :: before) false rest
    | none => if endsLine (c :: rest) then basicLines? before true (c :: rest) else none
  | '\r' :: '\n' :: rest => basicLines? (if skipping then before else '\n' :: before) skipping rest
  | c :: rest =>
    if skipping && (c = ' ' || c = '\t' || c = '\n') then basicLines? before true rest
    else if isPlain c || c = '\n' then basicLines? (c :: before) false rest
    else none

/-- Read a text between three single quotes, through the closing quotes. -/
def literalLines? (before : List Char) : List Char → Option (String × List Char)
  | [] => none
  | '\'' :: '\'' :: '\'' :: '\'' :: '\'' :: rest =>
    some (String.ofList ('\'' :: '\'' :: before).reverse, rest)
  | '\'' :: '\'' :: '\'' :: '\'' :: rest => some (String.ofList ('\'' :: before).reverse, rest)
  | '\'' :: '\'' :: '\'' :: rest => some (String.ofList before.reverse, rest)
  | '\r' :: '\n' :: rest => literalLines? ('\n' :: before) rest
  | c :: rest => if isPlain c || c = '\n' then literalLines? (c :: before) rest else none

/-- A text without a line end at its start. -/
def dropLineEnd : List Char → List Char
  | '\n' :: rest => rest
  | '\r' :: '\n' :: rest => rest
  | cs => cs

/-- Read a text of any form, if the input starts with a quote. -/
def text? : List Char → Option (String × List Char)
  | '"' :: '"' :: '"' :: rest => basicLines? [] false (dropLineEnd rest)
  | '"' :: rest => basic? [] rest
  | '\'' :: '\'' :: '\'' :: rest => literalLines? [] (dropLineEnd rest)
  | '\'' :: rest => literal? [] rest
  | _ => none

/-- The digits of a run with underscores, each of which stands between two digits. -/
def digitRun? (isDigit : Char → Bool) : List Char → Option (List Char)
  | [] => none
  | [c] => if isDigit c then some [c] else none
  | c :: '_' :: rest => if isDigit c then (digitRun? isDigit rest).map (c :: ·) else none
  | c :: rest => if isDigit c then (digitRun? isDigit rest).map (c :: ·) else none

/-- The number that a run of digits in some base denotes. -/
def based? (base : Nat) (cs : List Char) : Option Nat := do
  let isDigit (c : Char) : Bool := (Text.hexValue? c).any (· < base)
  let ds ← digitRun? isDigit cs
  let ns ← ds.mapM Text.hexValue?
  pure (Text.positional base ns)

/-- The number that decimal digits denote, without leading zeros. -/
def decimal? (cs : List Char) : Option Nat := do
  let ds ← digitRun? isDigit cs
  if ds.head? = some '0' && 1 < ds.length then none else pure (decimalValue ds)

/-- Split off a sign. -/
def splitSign : List Char → Bool × List Char
  | '-' :: cs => (true, cs)
  | '+' :: cs => (false, cs)
  | cs => (false, cs)

/-- Whether a text is an exponent without its letter. -/
def isExponent (cs : List Char) : Bool := (digitRun? isDigit (splitSign cs).2).isSome

/-- Whether a text is a number with a fraction, an exponent or both, without its sign. -/
def isReal (cs : List Char) : Bool :=
  let whole := cs.takeWhile fun c => isDigit c || c = '_'
  (decimal? whole).isSome &&
    match cs.drop whole.length with
    | '.' :: rest =>
      let fraction := rest.takeWhile fun c => isDigit c || c = '_'
      (digitRun? isDigit fraction).isSome &&
        match rest.drop fraction.length with
        | [] => true
        | c :: rest => (c = 'e' || c = 'E') && isExponent rest
    | c :: rest => (c = 'e' || c = 'E') && isExponent rest
    | [] => false

/-- A real number without its sign: its digits as a natural number, and the power of ten
to multiply it with. -/
def scaled (cs : List Char) : Nat × Int :=
  let cs := cs.filter (· ≠ '_')
  let mantissa := cs.takeWhile fun c => c ≠ 'e' ∧ c ≠ 'E'
  let whole := mantissa.takeWhile isDigit
  let fraction := mantissa.drop (whole.length + 1)
  let (negative, ds) := splitSign (cs.drop (mantissa.length + 1))
  let n : Int := decimalValue ds
  (decimalValue (whole ++ fraction), (if negative then -n else n) - fraction.length)

/-- Whether a real number is too large for a double: it rounds to 2 ^ 1024 or more. -/
def overflows (cs : List Char) : Bool :=
  let bound := Nat.pow 2 1024 - Nat.pow 2 970
  let (n, power) := scaled cs
  if n = 0 then false
  else if 400 < power then true
  else if 0 ≤ power then bound ≤ n * Nat.pow 10 power.toNat
  else if power < -(cs.length : Int) then false
  else bound * Nat.pow 10 (-power).toNat ≤ n

/-- An integer, unless it needs more than 128 bits. -/
def integer? (n : Int) : Option Value :=
  if -(Nat.pow 2 127 : Int) ≤ n ∧ n < Nat.pow 2 128 then some (.integer n) else none

/-- Read a whole word as a number. Numbers that are too large are errors. -/
def number? (cs : List Char) : Option Value :=
  match cs with
  | '0' :: 'x' :: ds => (based? 16 ds).bind fun n => integer? n
  | '0' :: 'o' :: ds => (based? 8 ds).bind fun n => integer? n
  | '0' :: 'b' :: ds => (based? 2 ds).bind fun n => integer? n
  | _ =>
    let (negative, ds) := splitSign cs
    match decimal? ds with
    | some n => integer? (if negative then -(n : Int) else n)
    | none =>
      if (isReal ds && !overflows ds) || ds = ['i', 'n', 'f'] || ds = ['n', 'a', 'n'] then
        some (.real (String.ofList cs))
      else none

/-- A number of exactly two digits. -/
def twoDigits? : List Char → Option Nat
  | [a, b] => if isDigit a && isDigit b then some (decimalValue [a, b]) else none
  | _ => none

/-- The number of days in a month. -/
def daysIn (year month : Nat) : Nat :=
  if month = 2 then
    if year % 4 = 0 ∧ (year % 100 ≠ 0 ∨ year % 400 = 0) then 29 else 28
  else if month = 4 ∨ month = 6 ∨ month = 9 ∨ month = 11 then 30
  else 31

/-- Whether a text is a day: a year, a month and a day of the month. -/
def isDay (cs : List Char) : Bool :=
  match cs with
  | [y1, y2, y3, y4, '-', m1, m2, '-', d1, d2] =>
    [y1, y2, y3, y4].all isDigit &&
      match twoDigits? [m1, m2], twoDigits? [d1, d2] with
      | some month, some day =>
        1 ≤ month && month ≤ 12 && 1 ≤ day &&
          day ≤ daysIn (decimalValue [y1, y2, y3, y4]) month
      | _, _ => false
  | _ => false

/-- Whether a text is a distance from universal time. -/
def isOffset (cs : List Char) : Bool :=
  match cs with
  | ['Z'] | ['z'] => true
  | [sign, h1, h2, ':', m1, m2] =>
    (sign = '+' || sign = '-') && (twoDigits? [h1, h2]).any (· ≤ 23) &&
      (twoDigits? [m1, m2]).any (· ≤ 59)
  | _ => false

/-- Whether a text is a time of day; `offset` says whether a distance from universal time
may follow. -/
def isTime (offset : Bool) (cs : List Char) : Bool :=
  match cs with
  | h1 :: h2 :: ':' :: m1 :: m2 :: ':' :: s1 :: s2 :: rest =>
    let rest? := match rest with
      | '.' :: rest =>
        let ds := rest.takeWhile isDigit
        if ds.isEmpty then none else some (rest.drop ds.length)
      | _ => some rest
    (twoDigits? [h1, h2]).any (· ≤ 23) && (twoDigits? [m1, m2]).any (· ≤ 59) &&
      (twoDigits? [s1, s2]).any (· ≤ 60) &&
      rest?.any fun rest => rest.isEmpty || (offset && isOffset rest)
  | _ => false

/-- Whether a text is a date: a day, a time, or both with a letter or blank between them. -/
def isDate (cs : List Char) : Bool :=
  isDay cs || isTime false cs ||
    (isDay (cs.take 10) &&
      match cs.drop 10 with
      | c :: rest => (c = 'T' || c = 't' || c = ' ') && isTime true rest
      | [] => false)

/-- The name of the field that holds a date. -/
def dateField : String := "$date"

/-- The meaning of a word that is no text. -/
def word? (cs : List Char) : Option Value :=
  if cs = ['t', 'r', 'u', 'e'] then some (.bool true)
  else if cs = ['f', 'a', 'l', 's', 'e'] then some (.bool false)
  else if isDate cs then some (.table [(dateField, .text (String.ofList cs))])
  else number? cs

/-- Whether a character may stand in a word that is no text. -/
def isWordChar (c : Char) : Bool :=
  c.isAlphanum || c = '+' || c = '-' || c = '_' || c = '.' || c = ':'

/-- Read a text, a number, a truth value or a date. -/
def scalar? (cs : List Char) : Option (Value × List Char) :=
  match cs with
  | '"' :: _ | '\'' :: _ => (text? cs).map fun (s, rest) => (.text s, rest)
  | _ =>
    let word := cs.takeWhile isWordChar
    let rest := cs.drop word.length
    match rest with
    | ' ' :: c :: more =>
      if isDay word && isDigit c then
        let time := (c :: more).takeWhile isWordChar
        (word? (word ++ ' ' :: time)).map fun v => (v, (c :: more).drop time.length)
      else (word? word).map fun v => (v, rest)
    | _ => (word? word).map fun v => (v, rest)

end TagRules.Data.Toml
