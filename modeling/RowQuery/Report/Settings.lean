import RowQuery.Report.Layout
import RowQuery.Settings

/-!
# Report on the settings

The settings in force and the file they come from.
-/

namespace RowQuery.Report

/-- A truth value. -/
def flagText (b : Bool) : List Char :=
  if b then "true".toList else "false".toList

/-- A setting on its line. -/
def settingLine (name : String) (value : List Char) : List Char :=
  ' ' :: ' ' :: name.toList ++ ':' :: ' ' :: value

/-- The heading of the report. -/
def settingsHeading (colour : Bool) : List Char :=
  Style.bold.paint colour (Style.green.paint colour "Configuration".toList)

/-- The lines on page requests. -/
def pageSettingsLines (p : PageSettings) : List (List Char) :=
  [settingLine "default_offset" (Decimal.natText p.defaultOffset),
    settingLine "default_limit" (Decimal.intText p.defaultLimit),
    settingLine "max_offset" (match p.maxOffset? with
      | some n => Decimal.natText n
      | none => "(unbounded)".toList),
    settingLine "max_limit" (Decimal.intText p.maxLimit),
    settingLine "default_sort"
      (if p.defaultSort = "" then "(none)".toList else p.defaultSort.toList),
    settingLine "default_desc" (flagText p.defaultDescending)]

/-- The report on the settings of a file, which may not be there. -/
def settingsText (colour : Bool) (path : String) (isThere : Bool) (s : Settings) : List Char :=
  unlines ([settingsHeading colour, [], "File: ".toList ++ path.toList,
      "Exists: ".toList ++ flagText isThere, []] ++
    (if isThere then []
      else ["(No config file exists. Run 'qf config init' to create one.)".toList, []]) ++
    ["[filter]".toList, settingLine "strict" (flagText s.strict), [], "[pagination]".toList] ++
    pageSettingsLines s.page ++
    [[], "[output]".toList, settingLine "color" (flagText s.colour)])

/-- The report on the settings of a file as JSON. -/
def settingsJson (path : String) (isThere : Bool) (s : Settings) : Json :=
  .object [("config", s.toJson), ("exists", .bool isThere), ("path", .string path)]

end RowQuery.Report
