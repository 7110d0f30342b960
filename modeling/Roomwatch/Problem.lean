/-! What can be wrong.

A `Problem` is a fault of the settings, a `Fault` one of a call on a reporter.
Each constructor is a cause, and `message` gives every cause its one wording. -/
namespace Roomwatch

inductive Problem where
  /-- A variable that must be there is not. -/
  | missing (variableName : String)
  | unknownRole (text : String)
  | noNode
  | badScope (scope : String)
  /-- A value that is invalid for a stated reason. -/
  | invalid (reason : String)
deriving DecidableEq, Repr

/-- What is invalid, in words. -/
def Problem.detail : Problem → String
  | .missing name => name
  | .unknownRole text => "unknown node type: " ++ text
  | .noNode => "node_id must not be empty"
  | .badScope scope => "namespace '" ++ scope ++ "' is not a valid metric name prefix"
  | .invalid reason => reason

def Problem.message : Problem → String
  | .missing name => "Missing required environment variable: " ++ name
  | p => "Invalid configuration value: " ++ p.detail

inductive Fault where
  | alreadyStarted
  | notStarted
  | exporter (reason : String)
  | settings (problem : Problem)
deriving DecidableEq, Repr

def Fault.message : Fault → String
  | .alreadyStarted => "Room telemetry already initialized"
  | .notStarted => "Room telemetry not initialized"
  | .exporter reason => "Exporter error: " ++ reason
  | .settings problem => "Configuration error: " ++ problem.message

end Roomwatch
