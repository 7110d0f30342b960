import Roomwatch.Exposition.Question
import Roomwatch.Exposition.Reader
import Roomwatch.Registry.Capture
import Roomwatch.Registry.Lookup
import Roomwatch.Session.State

/-! The steps of a session.

A step is one request of the host program, and `Session.step` answers it with a
reply, the entries noted meanwhile, and the session that it leaves. Reporters,
recorders, routes and held tallies go by names. A reporter that cannot be opened
leaves everything as it was, and the resident reporter is opened at most once.
`Session.run` makes a list of steps. -/
namespace Roomwatch

open Exposition (Question Answer Malformed Page)
open Number (Measure)

inductive Step (α : Type) where
  | clock (now : Instant)
  | build (draft : Draft) (name : String)
  | buildOver (draft : Draft) (name recorder : String)
  | drop (name : String)
  | residentBuild (draft : Draft)
  | residentRead
  | residentReport (events : List Event)
  | residentRender
  | residentRoute (route : String)
  | report (name : String) (events : List Event)
  | settings (name : String)
  | tally (name : String)
  | hold (name holder : String)
  | holdNew (holder : String)
  | heldTally (holder : String)
  | display (name : String)
  | render (name : String)
  | ask (name : String) (questions : List Question)
  | compareHandle (name : String)
  | upkeep (name : String)
  | route (name route : String)
  | request (route method address : String)
  | capture (recorder : String)
  | calls (recorder : String)
  | lookup (recorder : String) (lookups : List Lookup)
  | rawCount (recorder : String) (id : SeriesId) (amount : UInt64)
  | rawGauge (recorder : String) (id : SeriesId) (level : α)
  | rawObserve (recorder : String) (id : SeriesId) (value : α)

inductive Reply (α : Type) where
  | done
  /-- Nothing goes by this name. -/
  | unknown (name : String)
  | problem (problem : Problem)
  | fault (fault : Fault)
  | dropped (existed : Bool)
  | status (settings : Settings) (tally : Tally)
  | settings (settings : Settings)
  | tally (tally : Tally)
  | display (settings : Settings) (tally : Tally) (exposed : Bool)
  | page (page : Option Page)
  | answers (answers : List Answer)
  | malformed (malformed : Malformed)
  | nothing
  | sameText (same : Bool)
  | routed (exposed : Bool)
  | response (response : Response)
  | rows (rows : List (Row α))
  | calls (described registered : PerShape)
  | found (found : List (Found α))

/-- What a step leaves. -/
structure Outcome (α : Type) where
  session : Session α
  reply : Reply α
  journal : List Entry := []

namespace Session
variable {α : Type} [Measure α]

def quiet (s : Session α) (reply : Reply α) : Outcome α := { session := s, reply }

/-- Acts on the reporter of a name. -/
def withReporter (s : Session α) (name : String) (act : Reporter → Outcome α) : Outcome α :=
  match s.reporters.get? name with
  | some r => act r
  | none => s.quiet (.unknown name)

/-- Acts with the settings that a draft stands for. -/
def withSettings (s : Session α) (draft : Draft) (act : Settings → Outcome α) : Outcome α :=
  match draft.settings with
  | .ok settings => act settings
  | .error problem => s.quiet (.problem problem)

/-- Acts on the resident reporter. -/
def withResident (s : Session α) (act : Reporter → Outcome α) : Outcome α :=
  match s.resident with
  | some r => act r
  | none => s.quiet (.fault .notStarted)

/-- Names a reporter that could be opened. -/
def keep (s : Session α) (name : String)
    (opened : Except Fault (Session α × Reporter × List Entry)) : Outcome α :=
  match opened with
  | .ok (s, r, journal) => ⟨{ s with reporters := s.reporters.insert name r }, .done, journal⟩
  | .error fault => s.quiet (.fault fault)

/-- Starts the resident reporter, unless it runs already. -/
def residentBuild (s : Session α) (settings : Settings) : Outcome α :=
  match s.resident with
  | some _ => ⟨s, .fault .alreadyStarted, [.startedAgain settings.node]⟩
  | none =>
    match s.open? settings with
    | .ok (s, r, journal) =>
      ⟨{ s with resident := some r }, .status settings (s.tally r.tally), journal⟩
    | .error fault => s.quiet (.fault fault)

/-- Acts on a shared recorder. -/
def withRecorder (s : Session α) (name : String) (act : Recorder α → Reply α × Recorder α) :
    Outcome α :=
  let (s, number) := s.share name
  let (reply, r) := act (s.recorder number)
  (s.setRecorder number r).quiet reply

/-- Writes to a series of a shared recorder, registering it first; the recorder counts no call. -/
def rawWrite (s : Session α) (recorder : String) (shape : Shape) (id : SeriesId)
    (write : Registry α → Registry α) : Outcome α :=
  s.withRecorder recorder fun r => (.done, r.update fun g => write (g.register shape id))

/-- The answers to questions about a reporter's own page. -/
def ask (s : Session α) (r : Reporter) (questions : List Question) : Outcome α :=
  match s.render r with
  | (none, s) => s.quiet .nothing
  | (some page, s) =>
    match Exposition.read ("\n".intercalate page.lines) with
    | .ok samples => s.quiet (.answers (questions.map fun q => q.answer samples))
    | .error malformed => s.quiet (.malformed malformed)

/-- Renders a reporter twice, the second time through what its routes use. Lines that are merged
and do not say the same may come out differently each time, and then nobody can say that the
texts are the same. -/
def compareHandle (s : Session α) (r : Reporter) : Outcome α :=
  match s.render r with
  | (none, s) => s.quiet .nothing
  | (some first, s) =>
    let (second, s) := s.expose r.recorder
    s.quiet (.sameText (first.sameLines second))

/-- Makes a route to the recorder of a reporter, if it can be exposed. -/
def makeRoute (s : Session α) (r : Reporter) (route : String) : Outcome α :=
  { s with routes := if r.exposed then s.routes.insert route r.recorder else s.routes }.quiet
    (.routed r.exposed)

/-- One request to a route. -/
def request (s : Session α) (number : Nat) (method address : String) : Outcome α :=
  let route := Route.of method address
  let (page, served) := s.expose number
  let response : Reply α := .response (route.respond page)
  if route.serves then ⟨served, response, [.scraped]⟩ else s.quiet response

def step (s : Session α) : Step α → Outcome α
  | .clock now => { s with now }.quiet .done
  | .build draft name => s.withSettings draft fun settings => s.keep name (s.open? settings)
  | .buildOver draft name recorder =>
    s.withSettings draft fun settings => s.keep name (s.openOver? settings recorder)
  | .drop name =>
    { s with reporters := s.reporters.erase name }.quiet
      (.dropped (s.reporters.get? name).isSome)
  | .residentBuild draft => s.withSettings draft s.residentBuild
  | .residentRead => s.withResident fun r => s.quiet (.status r.settings (s.tally r.tally))
  | .residentReport events => s.withResident fun r =>
    let (s, r, journal) := s.report r events
    ⟨{ s with resident := some r }, .tally (s.tally r.tally), journal⟩
  | .residentRender => s.withResident fun r =>
    let (page, s) := s.render r
    s.quiet (.page page)
  | .residentRoute route => s.withResident fun r => s.makeRoute r route
  | .report name events => s.withReporter name fun r =>
    let (s, r, journal) := s.report r events
    ⟨{ s with reporters := s.reporters.insert name r }, .tally (s.tally r.tally), journal⟩
  | .settings name => s.withReporter name fun r => s.quiet (.settings r.settings)
  | .tally name => s.withReporter name fun r => s.quiet (.tally (s.tally r.tally))
  | .hold name holder => s.withReporter name fun r =>
    { s with held := s.held.insert holder r.tally }.quiet .done
  | .holdNew holder =>
    { s with
      tallies := s.tallies ++ [({} : Tally)]
      held := s.held.insert holder s.tallies.length }.quiet .done
  | .heldTally holder =>
    match s.held.get? holder with
    | some number => s.quiet (.tally (s.tally number))
    | none => s.quiet (.unknown holder)
  | .display name => s.withReporter name fun r =>
    s.quiet (.display r.settings (s.tally r.tally) r.exposed)
  | .render name => s.withReporter name fun r =>
    let (page, s) := s.render r
    s.quiet (.page page)
  | .ask name questions => s.withReporter name fun r => s.ask r questions
  | .compareHandle name => s.withReporter name s.compareHandle
  | .upkeep name => s.withReporter name fun r => (s.upkeep r).quiet .done
  | .route name route => s.withReporter name fun r => s.makeRoute r route
  | .request route method address =>
    match s.routes.get? route with
    | some number => s.request number method address
    | none => s.quiet (.unknown route)
  | .capture recorder => s.withRecorder recorder fun r => (.rows r.rows, r.capture.2)
  | .calls recorder => s.withRecorder recorder fun r => (.calls r.described r.registered, r)
  | .lookup recorder lookups => s.withRecorder recorder fun r =>
    let (taken, r) := r.capture
    (.found (lookups.map taken.find), r)
  | .rawCount recorder id amount => s.rawWrite recorder .counter id fun g => g.count id amount
  | .rawGauge recorder id level => s.rawWrite recorder .gauge id fun g => g.setGauge id level
  | .rawObserve recorder id value => s.rawWrite recorder .histogram id fun g => g.observe id value

/-- The outcomes of a list of steps, one after the other. -/
def run (s : Session α) : List (Step α) → List (Outcome α)
  | [] => []
  | step :: rest =>
    let outcome := s.step step
    outcome :: run outcome.session rest

end Session
end Roomwatch
