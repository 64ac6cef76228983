/-
# Catalog files

A catalog file is a TOML text that says what a definition says. Reading one can fail
in two ways: the text is not such a file, or the definition has a defect.

Key definitions: `CatalogDefinition.read?`, `Catalog.read`.
-/
import TagRules.Build
import TagRules.Codec.Definition
import TagRules.Data.Toml.Reader

namespace TagRules

/-- Why a catalog cannot be had from a text. -/
inductive CatalogTextError
  /-- The text is no TOML, or does not say what a definition says. -/
  | notADefinition
  /-- The definition has a defect. -/
  | defect (e : CatalogError)
deriving DecidableEq, Repr

/-- Read a definition from the text of a catalog file. -/
def CatalogDefinition.read? (source : String) : Option CatalogDefinition :=
  (Data.Toml.read? source).bind (CatalogDefinition.ofValue? .toml)

/-- Read and build a catalog from the text of a catalog file. -/
def Catalog.read (library : PatternLibrary) (limits : PatternLimits) (source : String) :
    Except CatalogTextError Catalog :=
  match CatalogDefinition.read? source with
  | none => .error .notADefinition
  | some d => (d.build library limits).mapError .defect

end TagRules
