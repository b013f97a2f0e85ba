import ProfileGateway.Table
import ProfileGateway.Text.Ascii
import ProfileGateway.Text.Blank
/-!
# Headers

The headers of an inbound call. Names are compared without regard to the case of ASCII letters, and the last
value given for a name counts.
-/
namespace ProfileGateway

/-- Values by name in lower case. -/
structure Headers where
  table : Table String String

namespace Headers

def empty : Headers := ⟨.empty⟩

def insert (h : Headers) (name value : String) : Headers := ⟨h.table.insert (Text.lower name) value⟩

def ofList (entries : List (String × String)) : Headers := entries.foldl (fun h e => h.insert e.1 e.2) empty

def get? (h : Headers) (name : String) : Option String := h.table.get? (Text.lower name)

/-- The value without blanks at its ends, unless it is blank. -/
def getTrimmed? (h : Headers) (name : String) : Option String := (h.get? name).bind Text.trimmed?

def size (h : Headers) : Nat := h.table.size

def isEmpty (h : Headers) : Bool := h.table.isEmpty

theorem get?_insert (h : Headers) (name value name' : String) :
    (h.insert name value).get? name' = if Text.lower name = Text.lower name' then some value else h.get? name' :=
  Table.get?_insert ..

/-! ## Names -/

def identityName : String := "x-identity-claims"

def idempotencyKeyName : String := "idempotency-key"

def ifMatchName : String := "if-match"

def ifNoneMatchName : String := "if-none-match"

def requestIdName : String := "x-request-id"

/-- The request id that the client sent, if it is not blank. -/
def requestId? (h : Headers) : Option String := h.getTrimmed? requestIdName

end Headers
end ProfileGateway
