/-
# Reports

What is said about a check, about the classes of a catalog, and about the validity of
a catalog. Each is a value that can be written as JSON or as text for people. Text may
be painted: names in bold, good news green, bad news red, labels yellow.

Key definitions: `CheckResult`, `ClassList`, `Validation`.
-/
import TagRules.Batch
import TagRules.Codec.Definition
import TagRules.Data.JsonPrinter

namespace TagRules

open Data (Value)

/-- How a part of a text is painted. -/
inductive Paint
  | bold
  | red
  | green
  | yellow
deriving DecidableEq, Repr

/-- The control sequence that starts a paint. -/
def Paint.code : Paint → String
  | .bold => "\x1b[1m"
  | .red => "\x1b[31m"
  | .green => "\x1b[32m"
  | .yellow => "\x1b[33m"

def paintEnd : String := "\x1b[0m"

/-- Paint a text, if colours are on. An end of paint inside the text starts it anew. -/
def paint (colours : Bool) (p : Paint) (text : String) : String :=
  if colours then p.code ++ text.replace paintEnd (paintEnd ++ p.code) ++ paintEnd else text

/-- Lines, each with its line end. -/
def unlines (lines : List String) : String := String.join (lines.map (· ++ "\n"))

/-- The result of checking features. -/
structure CheckResult where
  /-- Whether there are no findings. -/
  passed : Bool
  featuresChecked : Nat
  /-- The number of rules in the catalog. -/
  rules : Nat
  /-- The number of findings. -/
  findings : Nat
  /-- The reports that have findings, in the order of the features. -/
  reports : List FeatureReport
deriving DecidableEq, Repr

namespace CheckResult

/-- The result of the given reports. -/
def ofReports (reports : List FeatureReport) (rules : Nat) : CheckResult :=
  let found := reports.filter fun r => !r.isClean
  let findings := (found.flatMap (·.findings)).length
  { passed := findings = 0, featuresChecked := reports.length, rules, findings, reports := found }

def summary (r : CheckResult) : String :=
  if r.passed then "No findings in " ++ toString r.featuresChecked ++ " feature(s)."
  else
    toString r.findings ++ " finding(s) in " ++ toString r.reports.length ++ " of " ++
      toString r.featuresChecked ++ " feature(s)."

def findingValue (f : Finding) : Value :=
  .table
    [("class", wordValue f.classId), ("subclass", wordValue f.subclass), ("text", .text f.text)]

def reportValue (r : FeatureReport) : Value :=
  .table
    [("id", .text r.id), ("kind", .text r.kind.name),
     ("findings", .list (r.findings.map findingValue))]

def toValue (r : CheckResult) : Value :=
  .table
    [("passed", .bool r.passed), ("features_checked", .nat r.featuresChecked),
     ("rules", .nat r.rules), ("findings", .nat r.findings),
     ("reports", .list (r.reports.map reportValue))]

/-- The lines on one feature, with a blank line at the end. -/
def reportLines (colours : Bool) (r : FeatureReport) : List String :=
  (paint colours .bold r.id ++ " (" ++ r.kind.name ++ ")") ::
    (r.findings.map fun f => "  " ++ paint colours .yellow f.label ++ " " ++ f.text) ++ [""]

def text (colours : Bool) (r : CheckResult) : String :=
  unlines <|
    ["Checking " ++ toString r.featuresChecked ++ " feature(s) against " ++ toString r.rules ++
      " rule(s)...", ""] ++
    r.reports.flatMap (reportLines colours) ++
    [paint colours (if r.passed then .green else .red) r.summary]

end CheckResult

/-- A class, and how many rules report under it. -/
structure ClassEntry where
  classification : Classification
  rules : Nat
deriving DecidableEq, Repr

/-- The classes of a catalog. -/
structure ClassList where
  /-- in ascending order of their ids -/
  entries : List ClassEntry
deriving DecidableEq, Repr

namespace ClassList

/-- The classes of a catalog. -/
def ofCatalog (c : Catalog) : ClassList :=
  ⟨c.classes.values.map fun classification => ⟨classification, c.ruleCount classification.id⟩⟩

def entryValue (e : ClassEntry) : Value :=
  match e.classification.toValue with
  | .table fields => .table (fields ++ [("rules", .nat e.rules)])
  | v => v

def toValue (l : ClassList) : Value := .table [("classes", .list (l.entries.map entryValue))]

def entryLines (colours : Bool) (e : ClassEntry) : List String :=
  let c := e.classification
  let head := "  " ++ paint colours .bold (toString c.id.toNat) ++ " item " ++
    toString c.item.toNat ++ " level " ++ toString c.level.toNat ++ " (" ++ toString e.rules ++
    " rule(s))"
  let title := (c.title.map ("    " ++ ·)).toList
  let tags :=
    if c.tags.isEmpty then [] else ["    tags: " ++ String.intercalate ", " c.tags.toList]
  head :: title ++ tags

def text (colours : Bool) (l : ClassList) : String :=
  if l.entries.isEmpty then unlines ["No classes defined."]
  else unlines (["Classes:", ""] ++ l.entries.flatMap (entryLines colours))

end ClassList

/-- The result of building a catalog. -/
structure Validation where
  valid : Bool
  /-- Where the catalog comes from. -/
  source : String
  rules : Nat
  clauses : Nat
  classes : Nat
  /-- Why the catalog could not be built. -/
  error : Option String
deriving DecidableEq, Repr

namespace Validation

/-- The catalog was built. -/
def ofCatalog (source : String) (c : Catalog) : Validation :=
  ⟨true, source, c.rules.length, c.clauseCount, c.classes.size, none⟩

/-- The catalog could not be built. -/
def ofError (source error : String) : Validation := ⟨false, source, 0, 0, 0, some error⟩

def toValue (v : Validation) : Value :=
  .record
    [("valid", some (.bool v.valid)), ("source", some (.text v.source)),
     ("rules", some (.nat v.rules)), ("clauses", some (.nat v.clauses)),
     ("classes", some (.nat v.classes)), ("error", v.error.map .text)]

def text (colours : Bool) (v : Validation) : String :=
  unlines <|
    match v.error with
    | none =>
      [paint colours .green "Valid" ++ " " ++ v.source ++ ": " ++ toString v.rules ++
        " rule(s), " ++ toString v.clauses ++ " clause(s), " ++ toString v.classes ++
        " class(es)"]
    | some error => [paint colours .red "Invalid" ++ " " ++ v.source ++ ": " ++ error]

end Validation

end TagRules
