import Roomwatch.Settings
import Roomwatch.Tally
import Roomwatch.Text.Literal

/-! Showing a reporter in diagnostics.

A record is shown by its name and its fields, on one line or spread over several
with four spaces per level. The record of a reporter is not shown in full, which
two points at its end say. -/
namespace Roomwatch.Display

/-- A record on one line. -/
def compact (name : String) (fields : List (String × String)) (partly : Bool) : String :=
  let shown := fields.map fun field => field.1 ++ ": " ++ field.2
  name ++ " \x7b " ++ ", ".intercalate (shown ++ if partly then [".."] else []) ++ " \x7d"

/-- A record with a field per line, standing `indent` deep. -/
def spread (indent name : String) (fields : List (String × String)) (partly : Bool) : String :=
  let inner := indent ++ "    "
  let shown := fields.map fun field => inner ++ field.1 ++ ": " ++ field.2 ++ ",\n"
  name ++ " \x7b\n" ++ String.join shown ++ (if partly then inner ++ "..\n" else "") ++
    indent ++ "\x7d"

def settingsName : String := "TelemetryConfig"

def settingsFields (s : Settings) : List (String × String) :=
  [("node_id", Text.quoted s.node), ("node_type", s.role.title),
    ("env", Text.quoted s.environment), ("namespace", Text.quoted s.scope)]

def settings (s : Settings) : String := compact settingsName (settingsFields s) false

def tallyName : String := "MirrorSnapshot"

def tallyFields (t : Tally) : List (String × String) :=
  t.entries.map fun entry => (entry.1, toString entry.2.toInt)

def reporterName : String := "RoomTelemetry"

/-- A reporter on one line. -/
def reporter (s : Settings) (t : Tally) (exposed : Bool) : String :=
  compact reporterName
    [("config", settings s), ("mirrors", compact tallyName (tallyFields t) false),
      ("exposition", toString exposed)] true

/-- A reporter spread over lines. -/
def reporterSpread (s : Settings) (t : Tally) (exposed : Bool) : String :=
  spread "" reporterName
    [("config", spread "    " settingsName (settingsFields s) false),
      ("mirrors", spread "    " tallyName (tallyFields t) false),
      ("exposition", toString exposed)] true

end Roomwatch.Display
