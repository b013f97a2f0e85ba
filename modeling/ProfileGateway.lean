import ProfileGateway.Collaborator.Store
import ProfileGateway.Deadline.Settings
import ProfileGateway.Operation.Serve
import ProfileGateway.Proofs.Deadline.Cut
import ProfileGateway.Proofs.Script.Course
import ProfileGateway.Proofs.Operation.Occasion
import ProfileGateway.Proofs.Listing.LastRow
import ProfileGateway.Proofs.Operation.Reads
import ProfileGateway.Proofs.Listing.FanOut
import ProfileGateway.Proofs.Listing.AllOrNothing
import ProfileGateway.Proofs.Decimal
import ProfileGateway.Proofs.Listing.Token
import ProfileGateway.Proofs.Listing.Window
import ProfileGateway.Proofs.Listing.Walk
import ProfileGateway.Proofs.Listing.WholeListing
import ProfileGateway.Proofs.Listing.Advance
import ProfileGateway.Proofs.Operation.Profiles
import ProfileGateway.Proofs.Text
import ProfileGateway.Proofs.Write.TagForms
import ProfileGateway.Proofs.Write.Etag
import ProfileGateway.Proofs.Collaborator.Versions
import ProfileGateway.Proofs.Write.Turns
import ProfileGateway.Proofs.Write.LostUpdate
import ProfileGateway.Proofs.Caller.Tokens
import ProfileGateway.Proofs.Operation.Calls
import ProfileGateway.Proofs.Operation.Validation
import ProfileGateway.Proofs.Collaborator.Frames
import ProfileGateway.Proofs.Write.Atomicity
import ProfileGateway.Proofs.Deadline.FreeTime
import ProfileGateway.Proofs.Deadline.Law
import ProfileGateway.Proofs.Deadline.Lineage
import ProfileGateway.Proofs.Script.Likeness
import ProfileGateway.Proofs.Operation.Likeness
import ProfileGateway.Proofs.Outcome.Secrecy
import ProfileGateway.Proofs.Caller.Influence
import ProfileGateway.Proofs.Caller.Headers
import ProfileGateway.Proofs.Write.Resolution
import ProfileGateway.Proofs.Listing.FavoriteReads
import ProfileGateway.Proofs.Write.MaskedUpdate
import ProfileGateway.Proofs.Uuid
import ProfileGateway.Proofs.Listing.Batch
import ProfileGateway.Proofs.Script.Recording
import ProfileGateway.Proofs.Outcome.LogAgreement
import ProfileGateway.Proofs.Json.Grammar
import ProfileGateway.Proofs.Json.Document
import ProfileGateway.Proofs.Json.RoundTrip
import ProfileGateway.Proofs.Operation.Wire
import ProfileGateway.Proofs.Script.Steps
import ProfileGateway.Proofs.Caller.IntegerSubject
import ProfileGateway.Proofs.Deadline.Enforcement
import ProfileGateway.Proofs.Listing.BulkLookup
import ProfileGateway.Proofs.Caller.Metadata
import ProfileGateway.Proofs.Deadline.Unlimited
import ProfileGateway.Proofs.Deadline.Sources
import ProfileGateway.Proofs.Caller.NumericSubject
