/-
# Rules on notice marks

A mark may carry up to ten notices, whose keys have no number or one from 1 to 9. The
category of a notice decides its function, in a way that depends on the system.

Key definitions: `noticeFunctionCategory`, `noticeRules`.
-/
import TagRules.Seamark.Query

namespace TagRules.Seamark

/-- The notices that have a number. -/
def numberedNotices : List String :=
  ["notice:1", "notice:2", "notice:3", "notice:4", "notice:5", "notice:6", "notice:7",
   "notice:8", "notice:9"]

/-- All notices. -/
def notices : List String := "notice" :: numberedNotices

/-- The notices that the systems of Dutch and Belgian waterways are checked on. -/
def firstNotices : List String := ["notice", "notice:1", "notice:2"]

/-- A notice with a category belongs to a system. -/
def noticeCategoryWithoutSystem : RuleDefinition where
  id := "seamark-notice-category-without-system"
  classId := 9012008
  subclass := some 1495790025
  kinds := [.node]
  message := "\x7b0.key\x7d without \x7b1.key\x7d"
  guard := some <| (numberedNotices ++ ["notice"]).map fun notice => [key (notice ++ ":category")]
  clauses := notices.map fun notice =>
    clause [has (notice ++ ":category"), lacks (notice ++ ":system")]

def cevniProhibitions : List String :=
  ["no_entry", "closed_area", "no_overtaking", "no_convoy_overtaking", "no_passing",
   "no_convoy_passing", "no_berthing", "no_berthing_lateral_limit", "no_anchoring", "no_mooring",
   "no_turning", "no_wash", "no_passage_left", "no_passage_right", "no_motor_craft",
   "no_sport_craft", "no_waterskiing", "no_sailing_craft", "no_unpowered_craft", "no_sailboards",
   "no_high_speeds", "no_launching_beaching", "no_waterbikes"]

def cevniRegulations : List String :=
  ["move_to_left", "move_to_right", "move_to_port", "move_to_starboard", "keep_to_port",
   "keep_to_starboard", "cross_to_port", "cross_to_starboard", "stop", "speed_limit",
   "sound_horn", "keep_lookout", "give_way_junction", "give_way_crossing", "make_radio_contact"]

def cevniRestrictions : List String :=
  ["limited_depth", "limited_headroom", "limited_width", "navigation_restrictions",
   "channel_distance_left", "channel_distance_right"]

def cevniRecommendations : List String :=
  ["channel_two_way", "channel_one_way", "opening_to_right", "opening_to_left",
   "proceed_to_left", "proceed_to_right"]

def cevniInformations : List String :=
  ["entry_permitted", "overhead_cable", "weir", "ferry_non_independent", "ferry_independent",
   "berthing_permitted", "berthing_lateral_limits", "berthing_rafting_limit",
   "berthing_unmarked_pushing", "berthing_marked_pushing_1", "berthing_marked_pushing_2",
   "berthing_marked_pushing_3", "berthing_unmarked_non_pushing", "berthing_marked_non_pushing_1",
   "berthing_marked_non_pushing_2", "berthing_marked_non_pushing_3", "berthing_unmarked",
   "berthing_marked_1", "berthing_marked_2", "berthing_marked_3", "anchoring_permitted",
   "mooring_permitted", "vehicle_loading_berth", "turning_area", "secondary_waterway_crossing",
   "secondary_waterway_right", "secondary_waterway_left", "main_waterway_right_secondary_ahead",
   "main_waterway_left_secondary_ahead", "main_waterway_right_secondary_left",
   "main_waterway_left_secondary_right", "main_waterway_right_secondary_ahead_left",
   "main_waterway_left_secondary_ahead_right", "main_waterway_crossing",
   "main_waterway_junction", "main_waterway_ahead_right", "main_waterway_ahead_left",
   "main_waterway_ahead_right_secondary_left", "main_waterway_ahead_left_secondary_right",
   "prohibition_ends", "drinking_water", "telephone", "motor_craft_permitted",
   "sport_craft_permitted", "waterskiing_permitted", "sailing_craft_permitted",
   "unpowered_craft_permitted", "sailboards_permitted", "high_speeds_permitted",
   "launching_beaching_permitted", "radio_information", "waterbikes_permitted"]

def bniwrRegulations : List String :=
  ["keep_to_port_margin", "keep_to_starboard_margin", "keep_to_mid", "cross_river_to_port",
   "cross_river_to_starboard", "reduce_speed"]

def bniwrRecommendations : List String :=
  ["opening_to_right", "opening_to_left"]

def bniwrInformations : List String :=
  ["main_waterway_right_secondary_ahead_left", "main_waterway_left_secondary_ahead_right",
   "traffic_between_margins"]

/-- Regulations on waterways under the police rules of Belgium. -/
def ppwbcRegulations : List String :=
  ["keep_to_port_margin", "keep_to_starboard_margin", "keep_to_mid-river", "cross_river_to_port",
   "cross_river_to_starboard"]

/-- Informations on waterways under the police rules of Belgium. -/
def ppwbcInformations : List String :=
  ["main_waterway_right_secondary_ahead_left", "main_waterway_left_secondary_ahead_right"]

/-- Notices of inland waterways with some categories and another function than those have. -/
def cevniNotices (function : String) (categories : List String) : List ClauseDefinition :=
  notices.map fun notice =>
    clause [is (notice ++ ":system") "cevni", isNot (notice ++ ":function") function,
      finds (notice ++ ":category") (anyOf categories)]

/-- A notice of another system with some categories. The function is compared with the
system. -/
def systemNotice (system function : String) (categories : List String) (notice : String) :
    ClauseDefinition :=
  clause [is (notice ++ ":system") system, isNot (notice ++ ":system") function,
    finds (notice ++ ":category") (anyOf categories)]

/-- Notices of the two Dutch and Belgian systems. -/
def bniwrNotices (function : String) (categories : List String) : List ClauseDefinition :=
  firstNotices.flatMap fun notice =>
    ["bniwr", "bniwr2"].map fun system => systemNotice system function categories notice

/-- Notices under the police rules of Belgium. -/
def ppwbcNotices (function : String) (categories : List String) : List ClauseDefinition :=
  firstNotices.map (systemNotice "ppwbc" function categories)

/-- The function of a notice has to be what its category means in its system. -/
def noticeFunctionCategory : RuleDefinition where
  id := "seamark-notice-function-category"
  classId := 9012009
  subclass := some 592608142
  kinds := [.node]
  message := "In \x7b0.value\x7d \x7b2.key\x7d=\x7b2.value\x7d require " ++
    "\x7b1.key\x7d=\x7b1.value\x7d"
  guard := some <| (numberedNotices ++ ["notice"]).map fun notice =>
    [key (notice ++ ":category"), key (notice ++ ":system")]
  clauses :=
    cevniNotices "prohibition" cevniProhibitions ++
    cevniNotices "regulation" cevniRegulations ++
    cevniNotices "restriction" cevniRestrictions ++
    cevniNotices "recommendation" cevniRecommendations ++
    cevniNotices "information" cevniInformations ++
    (numberedNotices.map fun notice =>
      clause [is (notice ++ ":system") "cevni", isNot (notice ++ ":function") "information",
        isQuoted (notice ++ ":category") "berthing_lateral_limit"]) ++
    bniwrNotices "prohibition" ["no_anchoring"] ++
    bniwrNotices "regulation" bniwrRegulations ++
    bniwrNotices "restriction" ["limited_headroom"] ++
    bniwrNotices "recommendation" bniwrRecommendations ++
    bniwrNotices "information" bniwrInformations ++
    ppwbcNotices "regulation" ppwbcRegulations ++
    ppwbcNotices "information" ppwbcInformations

/-- A notice of some systems says on which bank it stands. -/
def noticeBank : RuleDefinition where
  id := "seamark-notice-bank"
  classId := 9012010
  subclass := some 1214402030
  kinds := [.node]
  message := "\x7b0.value\x7d sign require \x7b1.key\x7d set to left or right"
  guard := some <| ["notice:1", "notice:2", "notice"].map fun notice => [key (notice ++ ":system")]
  clauses := firstNotices.map fun notice =>
    clause [finds (notice ++ ":system") (anyOf ["bniwr2", "ppwbc"]),
      avoids (notice ++ ":bank") (anyOf ["right", "left"])]

/-- The rules on notice marks. -/
def noticeRules : List RuleDefinition :=
  [noticeCategoryWithoutSystem, noticeFunctionCategory, noticeBank]

end TagRules.Seamark
