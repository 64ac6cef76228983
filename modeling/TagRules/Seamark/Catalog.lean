/-
# The seamark catalog

The catalog of nautical checks that is built in: ten classes of one item, and eleven
rules on points.

Key definitions: `Seamark.definition`, `Seamark.catalog`.
-/
import TagRules.Build
import TagRules.Seamark.Marks
import TagRules.Seamark.Notices

namespace TagRules.Seamark

/-- A class of the catalog. The title is that of its rule's message. -/
def seamarkClass (id : UInt32) (title : String) : Classification where
  id
  item := 9012
  level := 3
  tags := .ofList ["tag", "seamark"]
  title := some title

/-- The classes. -/
def classes : List Classification :=
  [seamarkClass 9012001 "Multi-colour \x7b0.value\x7d without \x7b2.key\x7d",
   seamarkClass 9012002 "Unrecognized \x7b0.key\x7d: \x7b0.value\x7d",
   seamarkClass 9012003 "\x7b0.value\x7d have no IALA or system defind (\x7b1.key\x7d)",
   seamarkClass 9012004
     ("Probably wrong category on \x7b0.value\x7d, " ++
      "\x7b2.value\x7d colour mean \x7b3.value\x7d in \x7b1.value\x7d"),
   seamarkClass 9012005
     ("Probably wrong category on \x7b0.value\x7d, " ++
      "the colour combination \x7b1.value\x7d usually mean \x7b2.value\x7d"),
   seamarkClass 9012006 "\x7b0.value\x7d have no \x7b1.key\x7d",
   seamarkClass 9012007 "\x7b0.key\x7d set without \x7b1.key\x7d=\x7b1.value\x7d",
   seamarkClass 9012008 "\x7b0.key\x7d without \x7b1.key\x7d",
   seamarkClass 9012009
     "In \x7b0.value\x7d \x7b2.key\x7d=\x7b2.value\x7d require \x7b1.key\x7d=\x7b1.value\x7d",
   seamarkClass 9012010 "\x7b0.value\x7d sign require \x7b1.key\x7d set to left or right"]

/-- The definition of the catalog. -/
def definition : CatalogDefinition := ⟨classes, markRules ++ noticeRules⟩

/-- The catalog, with patterns of the given library and bounded by the given limits. -/
def catalog (library : PatternLibrary) (limits : PatternLimits) : Except CatalogError Catalog :=
  definition.build library limits

end TagRules.Seamark
