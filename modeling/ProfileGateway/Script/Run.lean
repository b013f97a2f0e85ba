import ProfileGateway.Deadline.Context
import ProfileGateway.Script.Basic
/-!
# Running scripts

A script runs against collaborators, each of which takes its time and then answers from a store, under the
deadline of a context. Time passes only while a script waits. The deadline is a timer, which goes off on whole
milliseconds of the clock and no earlier than it is set; a wait that ends when it goes off still ends. A script that
never waits is never cut, not even after its deadline.
-/
namespace ProfileGateway

/-- Collaborators that share a store. The answer to a call is decided when its delay is over. -/
structure Backend (σ : Type) where
  delay : Call → Duration
  answer : (c : Call) → σ → Except Failure c.Reply × σ

/-- A call as a collaborator sees it. -/
structure CallRecord where
  call : Call
  requestId : String
  caller : Option String
  remaining : Option Duration
deriving DecidableEq

/-- The clock, the store, the calls made so far and what has been logged. -/
structure World (σ : Type) where
  now : Instant
  store : σ
  calls : List CallRecord
  log : List Event

namespace World

variable {σ : Type}

def start (now : Instant) (store : σ) : World σ := ⟨now, store, [], []⟩

def logged (w : World σ) (events : List Event) : World σ := { w with log := w.log ++ events }

def called (w : World σ) (ctx : Context) (c : Call) : World σ :=
  { w with calls := w.calls ++ [⟨c, ctx.requestId, ctx.metadata.bind Metadata.callerId, ctx.remaining w.now⟩] }

/-- The answer of a collaborator. -/
def answer (w : World σ) (b : Backend σ) (c : Call) : Except Failure c.Reply × World σ :=
  let (reply, store) := b.answer c w.store
  (reply, { w with store })

end World

/-- How a script ends: with a value, with a failure of its own, or cut by its deadline. -/
inductive Finish (α : Type)
  | returned (value : α)
  | failed (status : Status)
  | cut

/-- A step that changes a world and may end the script. -/
def Timed (σ α : Type) : Type := World σ → Finish α × World σ

namespace Timed

variable {σ α β : Type}

instance : Monad (Timed σ) where
  pure a := fun w => (.returned a, w)
  bind m f := fun w =>
    match m w with
    | (.returned a, w) => f a w
    | (.failed s, w) => (.failed s, w)
    | (.cut, w) => (.cut, w)

def fail (s : Status) : Timed σ α := fun w => (.failed s, w)

def ofExcept : Except Status α → Timed σ α
  | .ok a => pure a
  | .error s => fail s

def modify (f : World σ → World σ) : Timed σ Unit := fun w => (.returned (), f w)

/-- Lets time pass, until the timer of the deadline goes off at most. -/
def sleep (deadline : Option Instant) (d : Duration) : Timed σ Unit := fun w =>
  if d.isZero then (.returned (), w)
  else
    match deadline with
    | none => (.returned (), { w with now := w.now.add d })
    | some t =>
      if w.now.add d ≤ t.tick then (.returned (), { w with now := w.now.add d })
      else (.cut, { w with now := w.now.latest t.tick })

end Timed

namespace Branch

variable {σ β : Type}

/-- How long the branch waits for its answer. -/
def delay (b : Backend σ) : Branch β → Duration
  | ready _ => .zero
  | ask c _ => b.delay c

/-- The call of the branch reaches its collaborator. -/
def begin (ctx : Context) : Branch β → Timed σ Unit
  | ready _ => pure ()
  | ask c _ => .modify fun w => w.called ctx c

/-- The branch has its answer. -/
def settle (b : Backend σ) : Branch β → Timed σ β
  | ready v => pure v
  | ask c verdict => fun w =>
    let (reply, w) := w.answer b c
    Timed.ofExcept (verdict reply).result (w.logged (verdict reply).events)

/-- The branch has its answer after a time. -/
def settleAfter (b : Backend σ) (deadline : Option Instant) (d : Duration) (branch : Branch β) : Timed σ β := do
  Timed.sleep deadline d
  branch.settle b

end Branch

/-- Two lookups at the same time. The left one begins first, and if it does not wait it is settled before the
right one begins. After that they settle in the order in which their delays end. If they end together the right one
is first: whoever looks at both again begins with the other one. -/
def runBoth {σ β γ : Type} (b : Backend σ) (ctx : Context) (left : Branch β) (right : Branch γ) :
    Timed σ (β × γ) := do
  let l := left.delay b
  let r := right.delay b
  left.begin ctx
  if l.isZero then
    let x ← left.settle b
    right.begin ctx
    let y ← right.settleAfter b ctx.deadline r
    return (x, y)
  else
    right.begin ctx
    if l.nanos < r.nanos then
      let x ← left.settleAfter b ctx.deadline l
      let y ← right.settleAfter b ctx.deadline ⟨r.nanos - l.nanos⟩
      return (x, y)
    else
      let y ← right.settleAfter b ctx.deadline r
      let x ← left.settleAfter b ctx.deadline ⟨l.nanos - r.nanos⟩
      return (x, y)

/-- Runs a script under the deadline of its context. -/
def Script.run {σ α : Type} (b : Backend σ) (ctx : Context) : Script α → Timed σ α
  | .done a => pure a
  | .fail s => .fail s
  | .log e next => do
    Timed.modify fun w => w.logged [e]
    next.run b ctx
  | .wait d next => do
    Timed.sleep ctx.deadline d
    next.run b ctx
  | .ask c next => do
    Timed.modify fun w => w.called ctx c
    Timed.sleep ctx.deadline (b.delay c)
    fun w =>
      let (reply, w) := w.answer b c
      (next reply).run b ctx w
  | .both left right next => do
    let (x, y) ← runBoth b ctx left right
    (next x y).run b ctx

/-! ## Under a policy -/

/-- The end of a call: its result, the context that it ran with, and the world after it. -/
structure Report (σ α : Type) where
  result : Except Status α
  /-- The script ran to its end. -/
  finished : Bool
  context : Context
  world : World σ

/-- Runs a script in the context that the policy makes for its kind. A script cut by its deadline fails, and
that is logged. -/
def TimeoutPolicy.run {σ α : Type} (p : TimeoutPolicy) (b : Backend σ) (parent : Context) (metadata : Metadata)
    (kind : OperationKind) (op : Context → Script α) (w : World σ) : Report σ α :=
  let ctx := p.contextFor w.now parent metadata kind
  match (op ctx).run b ctx w with
  | (.returned a, w) => ⟨.ok a, true, ctx, w⟩
  | (.failed s, w) => ⟨.error s, true, ctx, w⟩
  | (.cut, w) => ⟨.error .deadlineExceeded, false, ctx, w.logged [ctx.event (.deadlineExceeded kind)]⟩

end ProfileGateway
