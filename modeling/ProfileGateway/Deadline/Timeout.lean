import ProfileGateway.Outcome.Event
import ProfileGateway.Time
/-!
# Timeouts

How long the operations of each kind may take. A timeout of zero is no limit. What is not configured follows
from what is.
-/
namespace ProfileGateway

/-- A timeout for each kind of operation. -/
structure TimeoutPolicy where
  command : Duration
  query : Duration
  default : Duration
deriving DecidableEq, Repr

namespace TimeoutPolicy

/-- The default timeout when nothing is configured. -/
def fallbackDefault : Duration := .ofSeconds 5

/-- The query timeout when the default is explicitly unlimited. -/
def fallbackQuery : Duration := .ofSeconds 3

/-- The duration, if it is a limit at all. -/
def limit? (d : Duration) : Option Duration := if d.isZero then none else some d

/-- The default follows the command timeout, else the query timeout, if that is a limit. Commands follow the
default even if it is unlimited; queries are limited unless they are configured not to be. -/
def ofConfigured (command query default : Option Duration) : TimeoutPolicy :=
  let default := ((default.or (command.bind limit?)).or (query.bind limit?)).getD fallbackDefault
  { command := command.getD default
    query := (query.or (limit? default)).getD fallbackQuery
    default }

/-- The policy when nothing is configured. -/
def standard : TimeoutPolicy := ofConfigured none none none

def forKind (p : TimeoutPolicy) : OperationKind → Duration
  | .command => p.command
  | .query => p.query
  | .default => p.default

end TimeoutPolicy
end ProfileGateway
