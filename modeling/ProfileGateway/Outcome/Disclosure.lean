import ProfileGateway.Outcome.Event
/-!
# What clients learn of failures

Every failure of a collaborator becomes a status in one place. The messages of rejected writes and of internal
failures are logged and do not reach the client.
-/
namespace ProfileGateway.Failure

def status (f : Failure) : Status :=
  match f.kind with
  | .notFound => ⟨.notFound, f.message⟩
  | .versionConflict => .versionConflict
  | .unsupportedInput => ⟨.invalidArgument, f.message⟩
  | .internal => .internalError

/-- What is logged when the failure becomes a status. -/
def events (f : Failure) : List Event :=
  match f.kind with
  | .versionConflict => [.writeRejected f.message]
  | .internal => [.collaboratorFailed f.message]
  | _ => []

end ProfileGateway.Failure
