/-
# Reading patterns

The grammar of patterns, read from left to right. Groups that are open are kept on a
stack, so each step reads one part: an atom, a repetition of the atom before it, a
bar, or the start or end of a group.

Not every text is a pattern. Errors are unclosed or unopened groups and brackets,
repetition of nothing, ranges and repetitions the wrong way round, look-around,
references to groups, unknown escapes, flags and properties, names of groups that
occur twice, and parts nested more than `nestingLimit` deep.

Key definitions: `Reader.step?`, `Regex.read?`.
-/
import TagRules.Pattern.Brackets

namespace TagRules.Pattern

/-- How deeply the parts of a pattern may nest. -/
def nestingLimit : Nat := 250

namespace Reader

/-- An expression with how deeply its spelling nests. -/
structure Nested where
  regex : Regex
  depth : Nat
deriving Repr

/-- A part of a branch. -/
inductive Part
  | expr (e : Nested)
  /-- a change of flags, which cannot be repeated -/
  | flags
deriving Repr

/-- The expression of a part. -/
def Part.nested : Part → Nested
  | .expr e => e
  | .flags => ⟨.empty, 0⟩

/-- What has been read of a group. Lists have the last read first. -/
structure Scope where
  /-- whether the group captures -/
  captures : Bool
  /-- the flags that hold now -/
  flags : Flags
  branches : List Nested
  parts : List Part
deriving Repr

/-- The state between two steps. -/
structure State where
  /-- the names of groups -/
  names : List String
  scope : Scope
  /-- the groups around this one, innermost first -/
  outer : List Scope
deriving Repr

/-- Nesting of several things side by side, which is a level of its own. -/
def sideBySide (es : List Nested) (join : List Regex → Regex) : Nested :=
  let depth := (es.map (·.depth)).foldl max 0
  ⟨join (es.map (·.regex)), if 2 ≤ es.length then depth + 1 else depth⟩

/-- The branch that has been read last. -/
def Scope.branch (s : Scope) : Nested := sideBySide (s.parts.reverse.map Part.nested) Regex.seq

/-- All that has been read of a group. -/
def Scope.body (s : Scope) : Nested := sideBySide (s.branch :: s.branches).reverse Regex.oneOf

def Scope.push (s : Scope) (p : Part) : Scope := { s with parts := p :: s.parts }

/-- One more part at the end of the innermost group. -/
def State.push (s : State) (p : Part) : State := { s with scope := s.scope.push p }

/-- One more atom at the end of the innermost group. -/
def State.atom (s : State) (r : Regex) : State := s.push (.expr ⟨r, 0⟩)

/-- The expression of one character. -/
def charRegex (f : Flags) (c : Char) : Regex := .chars (f.fold (.single c))

def dotRegex? (f : Flags) : Option Regex :=
  if !f.unicode then none
  else if f.dotAll then some (.chars .all)
  else if f.anyLine then some (.chars (CharSet.compl ⟨[(10, 10), (13, 13)]⟩))
  else some (.chars (CharSet.single '\n').compl)

def caret (f : Flags) : Look :=
  if f.multiLine then if f.anyLine then .anyLineStart else .lineStart else .textStart

def dollar (f : Flags) : Look :=
  if f.multiLine then if f.anyLine then .anyLineEnd else .lineEnd else .textEnd

/-- Read a run of digits; in a spaced pattern, without blanks and comments. -/
def digits (spaced inComment : Bool) : List Char → List Char × List Char
  | [] => ([], [])
  | c :: cs =>
    if inComment then digits spaced (c ≠ '\n') cs
    else if Text.isDigit c then
      let (ds, rest) := digits spaced false cs
      (c :: ds, rest)
    else if spaced && Text.isBlank c then digits spaced false cs
    else if spaced && c = '#' then digits spaced true cs
    else ([], c :: cs)

/-- Read a count of repetitions, with white space around it. There is none if there are
no digits, or if it needs more than 32 bits. -/
def count (f : Flags) (cs : List Char) : Option Nat × List Char :=
  let (ds, rest) := digits f.spaced false (Text.dropBlank cs)
  let n := Text.decimalValue ds
  (if ds.isEmpty || UInt32.size ≤ n then none else some n, f.gap (Text.dropBlank rest))

/-- Read the counts of a repetition, after the opening brace. -/
def counts? (f : Flags) (cs : List Char) : Option (Nat × Option Nat × List Char) := do
  let (least, rest) := count f (f.gap cs)
  match rest with
  | '\x7d' :: rest => let n ← least; pure (n, some n, rest)
  | ',' :: rest =>
    match f.gap rest with
    | '\x7d' :: rest => let n ← least; pure (n, none, rest)
    | rest =>
      let n ← least
      match count f rest with
      | (some m, '\x7d' :: rest) => if n ≤ m then pure (n, some m, rest) else none
      | _ => none
  | _ => none

/-- A text without the question mark that makes a repetition lazy. -/
def dropLazy : List Char → List Char
  | '?' :: cs => cs
  | cs => cs

/-- Repeat the last part. -/
def State.repeat? (s : State) (least : Nat) (most : Option Nat) : Option State :=
  match s.scope.parts with
  | .expr e :: parts =>
    some { s with scope := { s.scope with
      parts := .expr ⟨.rep e.regex least most, e.depth + 1⟩ :: parts } }
  | _ => none

/-- Whether a character may stand in the name of a group. -/
def isNameChar (first : Bool) (c : Char) : Bool :=
  c = '_' || alphabetic.contains c
    || (!first && (c = '.' || c = '[' || c = ']' || (Category.members "N").contains c))

/-- Read the name of a group, through the closing bracket. -/
def name? (first : Bool) : List Char → Option (List Char × List Char)
  | [] => none
  | c :: cs =>
    if c = '>' then if first then none else some ([], cs)
    else if isNameChar first c then (name? false cs).map fun r => (c :: r.1, r.2)
    else none

/-- Read flags up to the character that ends them. Each flag may occur once, and after
the dash, which may occur once too, at least one flag has to follow. -/
def flags? (seen : List Char) (on dash : Bool) (f : Flags) :
    List Char → Option (Flags × Bool × List Char)
  | [] => none
  | c :: cs =>
    if c = ':' then if dash then none else some (f, true, cs)
    else if c = ')' then if dash || seen.isEmpty then none else some (f, false, cs)
    else if c = '-' then if on then flags? ('-' :: seen) false true f cs else none
    else if seen.contains c then none
    else
      match f.set? c on with
      | none => none
      | some g => flags? (c :: seen) on false g cs

def State.open (s : State) (captures : Bool) (f : Flags) : State :=
  { s with scope := ⟨captures, f, [], []⟩, outer := s.scope :: s.outer }

/-- Open a group with a name that no group has yet. -/
def State.openNamed? (s : State) (cs : List Char) : Option (State × List Char) := do
  let (name, rest) ← name? true cs
  let name := String.ofList name
  if s.names.contains name then none
  else pure ({ s.open true s.scope.flags with names := name :: s.names }, rest)

/-- Open a group or change flags, after the opening parenthesis. -/
def State.group? (s : State) (cs : List Char) : Option (State × List Char) :=
  let f := s.scope.flags
  match f.gap cs with
  | '?' :: 'P' :: '<' :: cs => s.openNamed? cs
  | '?' :: '<' :: '=' :: _ | '?' :: '<' :: '!' :: _ => none
  | '?' :: '<' :: cs => s.openNamed? cs
  | '?' :: cs => do
    let (g, opens, rest) ← flags? [] true false f cs
    if opens then pure (s.open false g, rest)
    else pure ({ s with scope := { s.scope with flags := g }.push .flags }, rest)
  | cs => some (s.open true f, cs)

def State.close? (s : State) : Option State :=
  match s.outer with
  | [] => none
  | around :: outer =>
    let body := s.scope.body
    let r := if s.scope.captures then .group body.regex else body.regex
    some { s with scope := around.push (.expr ⟨r, body.depth + 1⟩), outer }

def State.bar (s : State) : State :=
  { s with scope := { s.scope with branches := s.scope.branch :: s.scope.branches, parts := [] } }

/-- Read one part of a pattern that goes on with the character `c`. -/
def step? (s : State) (c : Char) (cs : List Char) : Option (State × List Char) :=
  let f := s.scope.flags
  match c with
  | '(' => s.group? cs
  | ')' => s.close?.map fun s => (s, cs)
  | '|' => some (s.bar, cs)
  | '[' => (Brackets.read? f cs).map fun (set, depth, rest) =>
      (s.push (.expr ⟨.chars set, depth⟩), rest)
  | '?' => (s.repeat? 0 (some 1)).map fun s => (s, dropLazy cs)
  | '*' => (s.repeat? 0 none).map fun s => (s, dropLazy cs)
  | '+' => (s.repeat? 1 none).map fun s => (s, dropLazy cs)
  | '\x7b' => do
    let (least, most, rest) ← counts? f cs
    let s ← s.repeat? least most
    pure (s, dropLazy (f.gap rest))
  | '\\' => do
    let (e, rest) ← Escape.read? f cs
    let r ← match e with
      | .char c => some (charRegex f c)
      | .set set => (f.class? set).map .chars
      | .look l => some (.look l)
    pure (s.atom r, rest)
  | '.' => (dotRegex? f).map fun r => (s.atom r, cs)
  | '^' => some (s.atom (.look (caret f)), cs)
  | '$' => some (s.atom (.look (dollar f)), cs)
  | c => some (s.atom (charRegex f c), cs)

/-- Read parts until the end. Each step reads a character or more, so the length of the
text is enough fuel. -/
def run? : Nat → State → List Char → Option State
  | fuel, s, cs =>
    match s.scope.flags.gap cs, fuel with
    | [], _ => some s
    | _ :: _, 0 => none
    | c :: cs, fuel + 1 =>
      match step? s c cs with
      | none => none
      | some (s, rest) => run? fuel s rest

end Reader

open Reader in
/-- Read a pattern. -/
def Regex.read? (source : String) : Option Regex := do
  let cs := source.toList
  let s ← run? cs.length ⟨[], ⟨false, .start, [], []⟩, []⟩ cs
  let body := s.scope.body
  if s.outer.isEmpty && body.depth ≤ nestingLimit then pure body.regex else none

end TagRules.Pattern
