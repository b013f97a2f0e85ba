import ProfileGateway.Operation.Basic
import ProfileGateway.Script.Run
/-!
# The gateway

Serving a call: its operation runs under the policy of its kind, everything it logs is recorded under the
operation's span, and a failure is logged last of all.
-/
namespace ProfileGateway

/-- An event and the span that it happened in. -/
structure LogRecord where
  span : Option Span
  event : Event
deriving DecidableEq

/-- What comes of a call: the result, the world after it, and the log. -/
structure Answer (σ α : Type) where
  result : Except Status α
  startedAt : Instant
  finishedAt : Instant
  store : σ
  calls : List CallRecord
  log : List LogRecord

/-- The time that the call took. -/
def Answer.elapsed {σ α : Type} (a : Answer σ α) : Duration := a.finishedAt.since a.startedAt

namespace Operation

def span (op : Operation) (call : Arrival) : Span := ⟨call.context.requestId, op.name, op.kind⟩

/-- What is logged of a result. -/
def closing {α : Type} (call : Arrival) : Except Status α → List Event
  | .ok _ => []
  | .error s => [call.context.event (.failed s)]

def serve {σ : Type} (op : Operation) (policy : TimeoutPolicy) (b : Backend σ) (call : Arrival) (now : Instant)
    (store : σ) : Answer σ op.Response :=
  let report := policy.run b call.context call.metadata op.kind (fun ctx => op.script ctx) (.start now store)
  let events := report.world.log ++ closing call report.result
  { result := report.result
    startedAt := now
    finishedAt := report.world.now
    store := report.world.store
    calls := report.world.calls
    log := events.map fun e => ⟨some (op.span call), e⟩ }

end Operation
end ProfileGateway
