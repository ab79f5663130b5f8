import ChatServer.Metrics
import ChatServer.Net.Path

/-!
The pages that operators look at: whether the process lives, whether it takes calls, and its
metrics. Each page answers requests to get it, and to get its head alone.
-/

namespace ChatServer.Operations

inductive Page where
  | liveness | readiness | metrics
  deriving DecidableEq

/-- The page at a path, which has to be exact. -/
def Page.ofPath? : String → Option Page
  | "/health" => some .liveness
  | "/ready" => some .readiness
  | "/metrics" => some .metrics
  | _ => none

/-- An answer: its number and the lines of its body. -/
structure Answer where
  status : Nat
  body : List String := []

/-- What a page shows. -/
def shown (ready : Bool) (metrics : Metrics) : Page → Answer
  | .liveness => ⟨200, []⟩
  | .readiness => ⟨if ready then 200 else 503, []⟩
  | .metrics => ⟨200, metrics.lines⟩

def answer (ready : Bool) (metrics : Metrics) (method address : String) : Answer :=
  match Page.ofPath? (Net.pathOf address) with
  | none => ⟨404, []⟩
  | some page =>
    if method = "GET" then shown ready metrics page
    else if method = "HEAD" then { shown ready metrics page with body := [] }
    else ⟨405, []⟩

end ChatServer.Operations
