/-
# Definitions as values

How definitions are written as values and read back. Options that are none are not
written; a rule that is read without kinds applies to nodes, and lists that are
missing are empty. The tags of a class are read in any order.

Key definitions: `CatalogDefinition.toValue`, `CatalogDefinition.ofValue?`.
-/
import TagRules.Data.Record
import TagRules.Definition

namespace TagRules

open Data (Value Format Fields)

/-- A word of 32 bits as a value. -/
def wordValue (n : UInt32) : Value := .nat n.toNat

/-- A word of 32 bits. -/
def readWord? (v : Value) : Option UInt32 := (v.below? UInt32.size).map (·.toUInt32)

def textsValue (l : List String) : Value := .list (l.map .text)

namespace Classification

def fieldNames : List String := ["id", "item", "level", "tags", "title"]

def toValue (c : Classification) : Value :=
  .record
    [("id", some (wordValue c.id)), ("item", some (wordValue c.item)),
     ("level", some (.nat c.level.toNat)), ("tags", some (textsValue c.tags.toList)),
     ("title", c.title.map .text)]

def ofValue? (format : Format) (v : Value) : Option Classification := do
  let fs ← Fields.open? format fieldNames v
  let id ← fs.required? "id" readWord?
  let item ← fs.required? "item" readWord?
  let level ← fs.required? "level" fun v => (v.below? UInt8.size).map (·.toUInt8)
  let tags ← fs.orElse? "tags" [] (Value.list? Value.text?)
  let title ← fs.optional? "title" Value.text?
  pure ⟨id, item, level, .ofList tags, title⟩

end Classification

namespace TestDefinition

def fieldNames : List String := ["key", "op", "value", "slot"]

def toValue (t : TestDefinition) : Value :=
  .record
    [("key", some (.text t.key)), ("op", some (.text t.op.name)), ("value", t.value.map .text),
     ("slot", t.slot.map fun n => .nat n.toNat)]

def ofValue? (format : Format) (v : Value) : Option TestDefinition := do
  let fs ← Fields.open? format fieldNames v
  let key ← fs.required? "key" Value.text?
  let op ← fs.required? "op" (Value.name? format Operator.ofName?)
  let value ← fs.optional? "value" Value.text?
  let slot ← fs.optional? "slot" fun v => (v.below? UInt64.size).map (·.toUInt64)
  pure ⟨key, op, value, slot⟩

end TestDefinition

namespace ClauseDefinition

def fieldNames : List String := ["selector", "subclass", "tests"]

def toValue (c : ClauseDefinition) : Value :=
  .record
    [("selector", c.selector.map .text), ("subclass", c.subclass.map wordValue),
     ("tests", some (.list (c.tests.map (·.toValue))))]

def ofValue? (format : Format) (v : Value) : Option ClauseDefinition := do
  let fs ← Fields.open? format fieldNames v
  let selector ← fs.optional? "selector" Value.text?
  let subclass ← fs.optional? "subclass" readWord?
  let tests ← fs.orElse? "tests" [] (Value.list? (TestDefinition.ofValue? format))
  pure ⟨selector, subclass, tests⟩

end ClauseDefinition

namespace RuleDefinition

def fieldNames : List String :=
  ["id", "class", "subclass", "kinds", "message", "guard", "clause"]

def toValue (r : RuleDefinition) : Value :=
  .record
    [("id", some (.text r.id)), ("class", some (wordValue r.classId)),
     ("subclass", r.subclass.map wordValue),
     ("kinds", some (textsValue (r.kinds.map (·.name)))), ("message", some (.text r.message)),
     ("guard", r.guard.map fun conjuncts => .list (conjuncts.map textsValue)),
     ("clause", some (.list (r.clauses.map (·.toValue))))]

def ofValue? (format : Format) (v : Value) : Option RuleDefinition := do
  let fs ← Fields.open? format fieldNames v
  let id ← fs.required? "id" Value.text?
  let classId ← fs.required? "class" readWord?
  let subclass ← fs.optional? "subclass" readWord?
  let kinds ← fs.orElse? "kinds" standardKinds
    (Value.list? (Value.name? format FeatureKind.ofName?))
  let message ← fs.required? "message" Value.text?
  let guard ← fs.optional? "guard" (Value.list? (Value.list? Value.text?))
  let clauses ← fs.orElse? "clause" [] (Value.list? (ClauseDefinition.ofValue? format))
  pure ⟨id, classId, subclass, kinds, message, guard, clauses⟩

end RuleDefinition

namespace CatalogDefinition

def fieldNames : List String := ["class", "rule"]

def toValue (d : CatalogDefinition) : Value :=
  .record
    [("class", some (.list (d.classes.map (·.toValue)))),
     ("rule", some (.list (d.rules.map (·.toValue))))]

def ofValue? (format : Format) (v : Value) : Option CatalogDefinition := do
  let fs ← Fields.open? format fieldNames v
  let classes ← fs.orElse? "class" [] (Value.list? (Classification.ofValue? format))
  let rules ← fs.orElse? "rule" [] (Value.list? (RuleDefinition.ofValue? format))
  pure ⟨classes, rules⟩

end CatalogDefinition

end TagRules
