import ChatServer.Double
import ChatServer.Table

/-!
Metrics: counters and gauges of what the service does. Only those that have been touched
appear when they are rendered.
-/

namespace ChatServer

inductive Outcome where
  | success | error
  deriving DecidableEq

/-- What admission control decided. -/
inductive Decision where
  | allowed | rejected
  deriving DecidableEq

/-- What happened to a session. -/
inductive SessionEvent where
  | started | closed | failed
  deriving DecidableEq

/-- All that is counted or measured. -/
inductive Metric where
  | tokensIssued (outcome : Outcome)
  | tokenVerifications (outcome : Outcome)
  | admissionDecisions (decision : Decision)
  | fanoutDeliveries
  | fanoutFailures
  | messagesPersisted
  | sessions (event : SessionEvent)
  | trackedKeys
  | activeConnections
  deriving DecidableEq

namespace Metric

/-- The name that a metric shares with those that differ from it in the label only. -/
def family : Metric → String
  | tokensIssued _ => "chat_token_issued_total"
  | tokenVerifications _ => "chat_token_verifications_total"
  | admissionDecisions _ => "chat_admission_decisions_total"
  | fanoutDeliveries => "chat_fanout_deliveries_total"
  | fanoutFailures => "chat_fanout_failures_total"
  | messagesPersisted => "chat_messages_persisted_total"
  | sessions _ => "chat_stream_sessions_total"
  | trackedKeys => "chat_admission_tracked_keys"
  | activeConnections => "chat_connections_active"

/-- Does the metric go up and down? -/
def isGauge : Metric → Bool
  | trackedKeys | activeConnections => true
  | _ => false

def outcomeLabel : Outcome → String
  | .success => "success"
  | .error => "error"

/-- The name and the value of the label, for a metric that has one. -/
def label? : Metric → Option (String × String)
  | tokensIssued outcome | tokenVerifications outcome => some ("outcome", outcomeLabel outcome)
  | admissionDecisions .allowed => some ("decision", "allowed")
  | admissionDecisions .rejected => some ("decision", "rejected")
  | sessions .started => some ("event", "started")
  | sessions .closed => some ("event", "closed")
  | sessions .failed => some ("event", "failed")
  | _ => none

def header (metric : Metric) : String :=
  "# TYPE " ++ metric.family ++ (if metric.isGauge then " gauge" else " counter")

/-- The text of a value. Counters have 64 bits and start anew behind the last number; gauges are
doubles. -/
def shown (metric : Metric) (value : Nat) : String :=
  if metric.isGauge then Double.text value else toString (value % UInt64.size)

/-- The line that gives the value. -/
def sample (metric : Metric) (value : Nat) : String :=
  let labels := match metric.label? with
    | some (name, text) => "\x7b" ++ name ++ "=\"" ++ text ++ "\"\x7d"
    | none => ""
  metric.family ++ labels ++ " " ++ metric.shown value

end Metric

/-- The values of the metrics that have been touched. -/
structure Metrics where
  readings : Table Metric Nat := {}
  deriving Inhabited

namespace Metrics

/-- The value of a metric, if it has been touched. -/
def get? (metrics : Metrics) (metric : Metric) : Option Nat :=
  metrics.readings.get? metric

/-- The value of a metric; one that has not been touched stands at zero. -/
def value (metrics : Metrics) (metric : Metric) : Nat :=
  (metrics.get? metric).getD 0

def set (metrics : Metrics) (metric : Metric) (value : Nat) : Metrics :=
  ⟨metrics.readings.set metric value⟩

/-- Adds to a metric; adding nothing touches it as well. -/
def add (metrics : Metrics) (metric : Metric) (n : Nat) : Metrics :=
  metrics.set metric (metrics.value metric + n)

def increment (metrics : Metrics) (metric : Metric) : Metrics :=
  metrics.add metric 1

/-- Counts the deliveries of one fan-out. Failures are touched only when there are some. -/
def recordFanout (metrics : Metrics) (delivered failed : Nat) : Metrics :=
  let counted := metrics.add .fanoutDeliveries delivered
  if failed > 0 then counted.add .fanoutFailures failed else counted

/-- All lines of the rendered metrics, in the order of their characters. -/
def lines (metrics : Metrics) : List String :=
  let headers := (metrics.readings.keys.map (·.header)).eraseDups
  let samples := metrics.readings.entries.map fun (metric, value) => metric.sample value
  (headers ++ samples).mergeSort fun first second => first ≤ second

/-- What is said when metrics are to be collected a second time. -/
def alreadyCollected : String :=
  "Failed to install Prometheus metrics recorder: failed to install exporter as global recorder: "
    ++ "attempted to set a recorder after the metrics system was already initialized"

/-- Setting a metric changes its own value and no other. -/
theorem get?_set (metrics : Metrics) (metric other : Metric) (value : Nat)
    : (metrics.set metric value).get? other
      = if other = metric then some value else metrics.get? other :=
  metrics.readings.get?_set metric other value

/-- Adding to a metric changes its own value and no other. -/
theorem value_add (metrics : Metrics) (metric other : Metric) (n : Nat)
    : (metrics.add metric n).value other
      = metrics.value other + if other = metric then n else 0 := by
  by_cases same : other = metric
  · subst same; simp [add, value, get?_set]
  · simp [add, value, get?_set, same]

end Metrics

end ChatServer
