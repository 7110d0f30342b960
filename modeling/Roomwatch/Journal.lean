import Roomwatch.Calendar
import Roomwatch.Settings

/-! The journal.

What happens is noted as an `Entry`. `Entry.record` gives each entry its level,
its target, its wording and its fields, in the order in which they are written. A
scrape leaves a span rather than an event: it has a name and a level only. -/
namespace Roomwatch

inductive Entry where
  | started (settings : Settings) (exposed : Bool)
  | startedAgain (node : String)
  /-- A room ended whose start, by the clock, is still to come. -/
  | startAhead (start : Instant)
  | subscribeFailed (error : String) (byUser : Bool)
  | scraped
deriving DecidableEq, Repr

inductive Level where
  | info | debug | warn
deriving DecidableEq, Repr

def Level.label : Level → String
  | .info => "INFO"
  | .debug => "DEBUG"
  | .warn => "WARN"

inductive FieldValue where
  | text (value : String)
  | flag (value : Bool)
deriving DecidableEq, Repr

inductive Record where
  | event (level : Level) (target message : String) (fields : List (String × FieldValue))
  | span (level : Level) (name : String)
deriving DecidableEq, Repr

def Entry.record : Entry → Record
  | .started settings exposed =>
    .event .info "room_telemetry.init" "Room telemetry initialized"
      [("node_id", .text settings.node), ("node_type", .text settings.role.label),
        ("env", .text settings.environment), ("namespace", .text settings.scope),
        ("exposition", .flag exposed)]
  | .startedAgain node =>
    .event .warn "room_telemetry.init" "Room telemetry already initialized, ignoring second init"
      [("node_id", .text node)]
  | .startAhead start =>
    .event .debug "room_telemetry.room" "Room start time is in the future, recording zero duration"
      [("started_at", .text start.text)]
  | .subscribeFailed error byUser =>
    .event .debug "room_telemetry.track" "Track subscribe failed"
      [("error", .text error), ("user_error", .flag byUser)]
  | .scraped => .span .info "room_telemetry.metrics.scrape"

end Roomwatch
