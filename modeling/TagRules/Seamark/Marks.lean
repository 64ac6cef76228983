/-
# Rules on buoys, beacons and dangers

Colours, colour patterns and categories of buoys and beacons, and what wrecks and
rocks have to say.

Key definitions: `lateralCategoryColour`, `cardinalCategoryColour`, `markRules`.
-/
import TagRules.Seamark.Query

namespace TagRules.Seamark

/-- The colour patterns that are known. -/
def colourPatterns : List String :=
  ["horizontal", "vertical", "diagonal", "squared", "stripes", "border", "cross", "saltire"]

/-- Several colours, and no pattern of them. -/
def multicolour (mark : String) : ClauseDefinition :=
  clause [is "type" mark, includes (mark ++ ":color") ";", lacks (mark ++ ":colour_pattern")]

/-- A mark with several colours needs a colour pattern. -/
def multicolourWithoutPattern : RuleDefinition where
  id := "seamark-multicolour-without-pattern"
  classId := 9012001
  subclass := some 349882546
  kinds := [.node]
  message := "Multi-colour \x7b0.value\x7d without \x7b2.key\x7d"
  guard := some <|
    ["beacon_cardinal", "beacon_isolated_danger", "beacon_lateral", "beacon_special_purpose",
      "buoy_cardinal", "buoy_isolated_danger", "buoy_lateral", "buoy_safe_water"].map fun mark =>
        [key (mark ++ ":color"), key "type"]
  clauses :=
    ["buoy_lateral", "beacon_lateral", "buoy_cardinal", "beacon_cardinal",
      "buoy_isolated_danger", "beacon_isolated_danger", "buoy_safe_water",
      "beacon_special_purpose"].map multicolour

/-- A colour pattern without a known one in it. -/
def unrecognizedPattern (mark : String) : ClauseDefinition :=
  clause
    [has (mark ++ ":colour_pattern"), avoids (mark ++ ":colour_pattern") (anyOf colourPatterns)]

/-- A colour pattern has to be a known one. -/
def unrecognizedColourPattern : RuleDefinition where
  id := "seamark-unrecognized-colour-pattern"
  classId := 9012002
  subclass := some 2001970681
  kinds := [.node]
  message := "Unrecognized \x7b0.key\x7d: \x7b0.value\x7d"
  guard := some <|
    ["beacon_cardinal", "beacon_isolated_danger", "beacon_lateral", "beacon_safe_water",
      "beacon_special_purpose", "bridge", "building", "buoy_cardinal", "buoy_installation",
      "buoy_isolated_danger", "buoy_lateral", "buoy_safe_water", "buoy_special_purpose",
      "daymark", "landmark", "light_float", "light_vessel", "mooring", "notice", "pile",
      "platform", "topmark"].map fun mark => [key (mark ++ ":colour_pattern")]
  clauses :=
    ["buoy_lateral", "beacon_lateral", "buoy_cardinal", "beacon_cardinal",
      "buoy_isolated_danger", "beacon_isolated_danger", "buoy_installation",
      "buoy_safe_water", "beacon_safe_water", "buoy_special_purpose",
      "beacon_special_purpose", "topmark", "daymark", "bridge", "building", "landmark",
      "light_float", "light_vessel", "notice", "pile", "platform",
      "mooring"].map unrecognizedPattern

/-- A lateral mark belongs to a system. -/
def lateralWithoutSystem : RuleDefinition where
  id := "seamark-lateral-without-system"
  classId := 9012003
  subclass := some 1924932803
  kinds := [.node]
  message := "\x7b0.value\x7d have no IALA or system defind (\x7b1.key\x7d)"
  guard := some [[key "type"]]
  clauses :=
    ["buoy_lateral", "beacon_lateral"].map fun mark =>
      clause [is "type" mark, lacks (mark ++ ":system")]

/-- A lateral mark of a system, with one colour under a key and another category than the
colour means. -/
def lateral (mark system colourKey colour category : String) : ClauseDefinition :=
  clause [is "type" mark, is (mark ++ ":system") system, is colourKey colour,
    isNot (mark ++ ":category") category]

/-- A lateral buoy of the IALA systems. -/
def lateralBuoy (system colour category : String) : ClauseDefinition :=
  lateral "buoy_lateral" system "buoy_lateral:colour" colour category

/-- A lateral beacon of the IALA systems. -/
def lateralBeacon (system colour category : String) : ClauseDefinition :=
  lateral "beacon_lateral" system "beacon_lateral:colour" colour category

/-- The clauses of the two IALA systems. -/
def ialaClauses : List ClauseDefinition :=
  [lateralBuoy "iala-a" "red" "port",
   lateralBeacon "iala-a" "red" "port",
   lateralBuoy "iala-a" "green" "starboard",
   lateral "beacon_lateral" "iala-a" "buoy_lateral:colour" "green" "starboard",
   lateralBuoy "iala-a" "green;red;green" "preferred_channel_port",
   lateralBeacon "iala-a" "green;red;green" "preferred_channel_port",
   lateralBuoy "iala-b" "green;red;green" "preferred_channel_starboard",
   lateralBeacon "iala-b" "green;red;green" "preferred_channel_starbord",
   lateralBuoy "iala-b" "red;green;red" "preferred_channel_port",
   lateralBeacon "iala-b" "red;green;red" "preferred_channel_port",
   lateralBuoy "iala-a" "red;green;red" "preferred_channel_starboard",
   lateralBeacon "iala-a" "red;green;red" "preferred_channel_starboard",
   lateralBuoy "iala-b" "green" "port",
   lateralBeacon "iala-b" "green" "port",
   lateralBuoy "iala-b" "red" "starboard",
   lateral "beacon_lateral" "iala-b" "buoy_lateral:colour" "red" "starboard"]

/-- The start of the clauses of the system of inland waterways. -/
def cevniColour (mark colour : String) : List Query :=
  [is "type" mark, is (mark ++ ":system") "cevni", is (mark ++ ":colour") colour]

/-- A mark of inland waterways whose category has none of some words. -/
def cevniWithout (mark colour : String) (categories : List String) : ClauseDefinition :=
  clause (cevniColour mark colour ++ [avoids (mark ++ ":category") (anyOf categories)])

/-- A mark of inland waterways of another category than the colour means. -/
def cevni (mark colour category : String) : ClauseDefinition :=
  clause (cevniColour mark colour ++ [isNot (mark ++ ":category") category])

/-- A yellow mark of inland waterways, whose meaning depends on the topmark. -/
def cevniYellow (mark category : String) (topmark : Query) : ClauseDefinition :=
  clause (cevniColour mark "yellow" ++ [isNot (mark ++ ":category") category, topmark])

/-- The clauses of the system of inland waterways. -/
def cevniClauses (mark : String) : List ClauseDefinition :=
  [cevniWithout mark "green" ["starboard", "waterway_left", "channel_left"],
   cevniWithout mark "red" ["port", "waterway_right", "channel_right"],
   cevniWithout mark "red;green;red;green"
     ["preferred_channel_starboard", "preferred_channel_port", "waterway_separation",
      "channel_separation"],
   cevniWithout mark "red;green;red" ["preferred_channel_starboard", "turnoff_right"],
   cevniWithout mark "green;red;green" ["preferred_channel_port", "turnoff_left"],
   cevni mark "red;white;red;white" "danger_right",
   cevni mark "green;white;green;white" "danger_left",
   cevni mark "white;red" "turnoff_right",
   cevni mark "white;green" "turnoff_left",
   cevni mark "red;white;red" "junction_right",
   cevni mark "green;white;green" "junction_left",
   cevni mark "red;white" "harbour_right",
   cevni mark "green;white" "harbour_left",
   cevniYellow mark "harbour_right" (is "topmark:colour" "red"),
   cevniYellow mark "harbour_left" (is "topmark:colour" "green"),
   cevniYellow mark "bridge_pier" (lacks "topmark:colour")]

/-- The category of a lateral mark has to be what its colour means in its system. -/
def lateralCategoryColour : RuleDefinition where
  id := "seamark-lateral-category-colour"
  classId := 9012004
  subclass := some 1696218961
  kinds := [.node]
  message := "Probably wrong category on \x7b0.value\x7d, \x7b2.value\x7d colour mean " ++
    "\x7b3.value\x7d in \x7b1.value\x7d"
  guard := some <| List.map (·.map key)
    [["beacon_lateral:colour", "beacon_lateral:system", "topmark:colour", "type"],
     ["beacon_lateral:colour", "beacon_lateral:system", "type"],
     ["beacon_lateral:system", "buoy_lateral:colour", "type"],
     ["buoy_lateral:colour", "buoy_lateral:system", "topmark:colour", "type"],
     ["buoy_lateral:colour", "buoy_lateral:system", "type"]]
  clauses := ialaClauses ++ cevniClauses "buoy_lateral" ++ cevniClauses "beacon_lateral"

/-- The clauses on the colours of one quarter. -/
def cardinal (colour category : String) : List ClauseDefinition :=
  [clause [is "type" "buoy_cardinal", is "buoy_cardinal:colour" colour,
     isNot "buoy_cardinal:category" category],
   clause [is "type" "beacon_cardinal", is "beacon:cardinal:colour" colour,
     isNot "beacon_cardinal:category" category]]

/-- The category of a cardinal mark has to be the quarter that its colours mean. -/
def cardinalCategoryColour : RuleDefinition where
  id := "seamark-cardinal-category-colour"
  classId := 9012005
  subclass := some 1608037739
  kinds := [.node]
  message := "Probably wrong category on \x7b0.value\x7d, the colour combination " ++
    "\x7b1.value\x7d usually mean \x7b2.value\x7d"
  guard := some <| List.map (·.map key)
    [["beacon:cardinal:colour", "type"], ["buoy_cardinal:colour", "type"]]
  clauses :=
    cardinal "black;yellow" "north" ++ cardinal "black;yellow;black" "east" ++
      cardinal "yellow;black" "south" ++ cardinal "yellow;black;yellow" "west"

/-- A wreck has a category. -/
def wreckWithoutCategory : RuleDefinition where
  id := "seamark-wreck-without-category"
  classId := 9012006
  subclass := some 408021642
  kinds := [.node]
  message := "\x7b0.value\x7d have no \x7b1.key\x7d"
  guard := some [[key "type"]]
  clauses := [clause [is "type" "wreck", lacks "wreck:category"]]

/-- Only a wreck has the category of a wreck. -/
def wreckCategoryWithoutType : RuleDefinition where
  id := "seamark-wreck-category-without-type"
  classId := 9012007
  subclass := some 1137370881
  kinds := [.node]
  message := "\x7b0.key\x7d set without \x7b1.key\x7d=\x7b1.value\x7d"
  guard := some [[key "wreck:category"]]
  clauses := [clause [has "wreck:category", isNot "type" "wreck"]]

/-- A rock has a water level. -/
def rockWithoutWaterLevel : RuleDefinition where
  id := "seamark-rock-without-water-level"
  classId := 9012008
  subclass := some 806216043
  kinds := [.node]
  message := "\x7b0.value\x7d without \x7b1.key\x7d"
  guard := some [[key "type"]]
  clauses := [clause [is "type" "rock", lacks "rock:water_level"]]

/-- The rules on buoys, beacons and dangers. -/
def markRules : List RuleDefinition :=
  [multicolourWithoutPattern, unrecognizedColourPattern, lateralWithoutSystem,
   lateralCategoryColour, cardinalCategoryColour, wreckWithoutCategory,
   wreckCategoryWithoutType, rockWithoutWaterLevel]

end TagRules.Seamark
