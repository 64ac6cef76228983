/-
# Features as values

A feature is read from a record with an id, a kind and tags; the kind is a node
unless it is given, and the last value of a key counts. A file of features is a JSON
list of them.

Key definitions: `Feature.ofValue?`, `Feature.readAll?`.
-/
import TagRules.Data.JsonReader
import TagRules.Data.Record
import TagRules.Feature

namespace TagRules

open Data (Value Format Fields)

namespace TagSet

/-- One tag: a key, and a value that is a text. -/
def tag? (field : String × Value) : Option (String × String) :=
  field.2.text?.map fun text => (field.1, text)

def ofValue? : Value → Option TagSet
  | .table fields => (fields.mapM tag?).map SortedMap.ofList
  | _ => none

end TagSet

namespace Feature

def fieldNames : List String := ["id", "kind", "tags"]

def ofValue? (format : Format) (v : Value) : Option Feature := do
  let fs ← Fields.open? format fieldNames v
  let id ← fs.required? "id" Value.text?
  let kind ← fs.orElse? "kind" .node (Value.name? format FeatureKind.ofName?)
  let tags ← fs.orElse? "tags" .empty TagSet.ofValue?
  pure ⟨id, kind, tags⟩

/-- Read a list of features. -/
def allOfValue? (v : Value) : Option (List Feature) := v.list? (ofValue? .json)

/-- Read a file of features. -/
def readAll? (source : String) : Option (List Feature) :=
  (Data.Json.read? source).bind allOfValue?

end Feature

end TagRules
