import ProfileGateway.Collaborator.Call
import ProfileGateway.Listing.Join
import ProfileGateway.Outcome.Disclosure
import ProfileGateway.Time
/-!
# Scripts

What an operation does, as a value: it logs, waits, calls collaborators one after the other, or makes two lookups
at the same time, and it ends with a result or a failure. Running a script is another matter, so that what an
operation may do can be told from the script alone.
-/
namespace ProfileGateway

/-- What the answer to a lookup means: a result, and what is logged of it. -/
structure Verdict (β : Type) where
  events : List Event
  result : Except Status β

/-- One of two lookups made at the same time: there is nothing to ask, or one call. -/
inductive Branch (β : Type)
  | ready (value : β)
  | ask (call : Call) (settle : Except Failure call.Reply → Verdict β)

/-- The branch with another value made of its own. -/
def Branch.map {β γ : Type} (f : β → γ) : Branch β → Branch γ
  | ready v => .ready (f v)
  | ask c settle => .ask c fun reply => ⟨(settle reply).events, (settle reply).result.map f⟩

inductive Script (α : Type) : Type 1
  | done (value : α)
  | fail (status : Status)
  | log (event : Event) (next : Script α)
  | wait (time : Duration) (next : Script α)
  | ask (call : Call) (next : Except Failure call.Reply → Script α)
  /-- Two lookups at the same time. The first that fails ends the script. -/
  | both {β γ : Type} (left : Branch β) (right : Branch γ) (next : β → γ → Script α)

namespace Script

variable {α β : Type}

def bind : Script α → (α → Script β) → Script β
  | done a, f => f a
  | fail s, _ => fail s
  | log e next, f => log e (next.bind f)
  | wait d next, f => wait d (next.bind f)
  | ask c next, f => ask c fun reply => (next reply).bind f
  | both l r next, f => both l r fun b c => (next b c).bind f

instance : Monad Script where
  pure := done
  bind := bind

/-- Logs events in turn and goes on. -/
def logging (events : List Event) (next : Script α) : Script α := events.foldr log next

/-- The value of an input, or the end of the script if it is refused. -/
def accept : Except Refusal α → Script α
  | .ok a => done a
  | .error r => fail r.status

/-- A call whose failure ends the script. -/
def call (c : Call) : Script c.Reply :=
  ask c fun
    | .ok reply => done reply
    | .error f => logging f.events (fail f.status)

/-- One lookup on its own. -/
def lookup : Branch α → Script α
  | .ready a => done a
  | .ask c settle => ask c fun reply =>
    let v := settle reply
    logging v.events (match v.result with
      | .ok a => done a
      | .error s => fail s)

/-- Two lookups made at the same time. -/
def joined (left : Branch α) (right : Branch β) : Script (α × β) := both left right fun a b => done (a, b)

end Script

/-! ## Lookups in secondary sources -/

/-- A call together with the reading of its reply. -/
structure Ask (ρ : Type) where
  call : Call
  read : call.Reply → ρ

/-- What a source's answer for a batch of ids means. That it has nothing is no failure; any other failure is one
of the gateway, whatever its kind. -/
def settleLookup {ρ : Type} [Row ρ] (source : String) (asked : IdSet) :
    Except Failure (List ρ) → Verdict (RowsById ρ)
  | .ok rows => ⟨[], .ok (.ofRows rows)⟩
  | .error f =>
    match f.kind with
    | .notFound => ⟨[.noSecondaryData source asked.size], .ok .empty⟩
    | kind => ⟨[.lookupFailed source kind f.message], .error (.lookupFailed source)⟩

/-- One lookup of all the ids, and none at all if there are no ids. -/
def batchLookup {ρ : Type} [Row ρ] (source : String) (asked : IdSet) (fetch : List Uuid → Ask (List ρ)) :
    Branch (RowsById ρ) :=
  if asked.isEmpty then .ready .empty
  else .ask (fetch asked.ids).call fun reply => settleLookup source asked (reply.map (fetch asked.ids).read)

end ProfileGateway
