import Roomwatch.Problem
import Roomwatch.Registry.Series

/-! The settings of a node.

A node reports under an identity (its name, its role and the environment it runs
in) and under a scope, the first part of all its metric names. `Settings.check`
demands a node name and a scope that can start a metric name. `Settings.load`
reads settings from named variables, and asks for the node name before the role
and checks last, so of several faults the first in that order is told. -/
namespace Roomwatch

/-- The role of a node. -/
inductive Role where
  | server | controller | media | turn
deriving DecidableEq, Repr

namespace Role

def all : List Role := [.server, .controller, .media, .turn]

def label : Role → String
  | .server => "SERVER"
  | .controller => "CONTROLLER"
  | .media => "MEDIA"
  | .turn => "TURN"

/-- The name of a role in diagnostics. -/
def title : Role → String
  | .server => "Server"
  | .controller => "Controller"
  | .media => "Media"
  | .turn => "Turn"

def standard : Role := .server

/-- A role by its label, ASCII letters in either case. -/
def read (text : String) : Except Problem Role :=
  match all.find? fun role => role.label = text.map Char.toUpper with
  | some role => .ok role
  | none => .error (.unknownRole text)

theorem label_injective {a b : Role} (h : a.label = b.label) : a = b := by
  cases a <;> cases b <;> simp_all [label]

end Role

structure Settings where
  node : String
  role : Role
  environment : String
  scope : String
deriving DecidableEq, Repr

namespace Settings

def standardScope : String := "sfu"

def standardEnvironment : String := "development"

/-- The first character of a metric name. -/
def startsName (c : Char) : Bool := c.isAlpha || c == '_'

/-- Any further character of a metric name. -/
def continuesName (c : Char) : Bool := c.isAlphanum || c == '_'

/-- Whether a text can start a metric name: ASCII letters, digits and underscores, and no
digit first. -/
def isScope (text : String) : Bool :=
  match text.toList with
  | [] => false
  | c :: rest => startsName c && rest.all continuesName

def check (s : Settings) : Except Problem Unit :=
  if s.node = "" then .error .noNode
  else if isScope s.scope then .ok ()
  else .error (.badScope s.scope)

/-- Settings from named variables. -/
def load (var : String → Option String) : Except Problem Settings := do
  let node ← match var "TELEMETRY_NODE_ID" with
    | some node => .ok node
    | none => .error (.missing "TELEMETRY_NODE_ID")
  let role ← match var "TELEMETRY_NODE_TYPE" with
    | some text => Role.read text
    | none => .ok Role.standard
  let settings : Settings :=
    { node, role
      environment := (var "TELEMETRY_ENV").getD standardEnvironment
      scope := (var "TELEMETRY_NAMESPACE").getD standardScope }
  settings.check
  return settings

/-- The full name of a metric: scope, subsystem and own name. -/
def metricName (s : Settings) (subsystem name : String) : String :=
  s.scope ++ "_" ++ subsystem ++ "_" ++ name

/-- The labels that every series of a node carries, before its own. -/
def identity (s : Settings) : List Label :=
  [("node_id", s.node), ("node_type", s.role.label), ("env", s.environment)]

/-- The settings of a node in examples. -/
def specimen : Settings := ⟨"n1", .server, "test", standardScope⟩

/-- Labels after the identity of the example node. -/
def withIdentity (labels : List Label) : List Label := specimen.identity ++ labels

theorem check_eq_ok_iff (s : Settings) : s.check = .ok () ↔ s.node ≠ "" ∧ isScope s.scope := by
  unfold check
  split
  · simp_all
  · split <;> simp_all

end Settings

/-- Settings as a request states them: the role is still a text, and the scope may be left
to the standard one. -/
structure Draft where
  node : String
  role : String
  environment : String
  scope : Option String
deriving DecidableEq, Repr

def Draft.settings (d : Draft) : Except Problem Settings :=
  (Role.read d.role).map fun role =>
    { node := d.node, role, environment := d.environment
      scope := d.scope.getD Settings.standardScope }

end Roomwatch
