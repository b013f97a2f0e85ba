import ProfileGateway.Operation.Serve
import ProfileGateway.Proofs.Script.Course
/-!
# Occasions

When, under what policy and before which collaborators a call is served. What comes of a call is the course of its
operation, unless the deadline cuts it: then the answer says so and only a first part of the calls has been made
(`Occasion.serve_uncut`, `Occasion.serve_cut`).
-/
namespace ProfileGateway

instance decidableEqExcept {ε α : Type} [DecidableEq ε] [DecidableEq α] : DecidableEq (Except ε α)
  | .ok a, .ok b => decidable_of_iff (a = b) (by simp)
  | .error e, .error f => decidable_of_iff (e = f) (by simp)
  | .ok _, .error _ | .error _, .ok _ => isFalse (by simp)

/-- The id of a number. -/
def Uuid.ofNat (n : Nat) : Uuid := ⟨n % Nat.pow 2 128, Nat.mod_lt n (by decide)⟩

/-- The metadata that a call hands on. -/
def Arrival.carried (call : Arrival) : Option Metadata := (call.context.carrying call.metadata).metadata

/-- What the end of a run is answered with. -/
def Finish.result {α : Type} : Finish α → Except Status α
  | .returned a => .ok a
  | .failed s => .error s
  | .cut => .error .deadlineExceeded

/-- What ends with a result is answered with it. -/
theorem Finish.result_ofExcept {α : Type} (x : Except Status α) : (ofExcept x).result = x := by
  cases x <;> rfl

/-- The report of a run that ends as `r` says. -/
theorem TimeoutPolicy.run_of {σ α : Type} {p : TimeoutPolicy} {b : Backend σ} {parent : Context} {metadata : Metadata}
    {kind : OperationKind} {op : Context → Script α} {w : World σ} {r : Finish α × World σ}
    (h : (op (p.contextFor w.now parent metadata kind)).run b (p.contextFor w.now parent metadata kind) w = r) :
    let report := p.run b parent metadata kind op w
    report.result = r.1.result ∧ (report.finished = true ↔ r.1 ≠ .cut) ∧ report.world.now = r.2.now ∧
      report.world.store = r.2.store ∧ report.world.calls = r.2.calls := by
  unfold TimeoutPolicy.run
  dsimp only
  rcases r with ⟨_ | _ | _, u⟩ <;> simp [h, Finish.result, World.logged]

/-- What a call meets with. -/
structure Occasion (σ : Type) where
  backend : Backend σ
  policy : TimeoutPolicy
  call : Arrival
  now : Instant
  store : σ

/-- The calls to collaborators, without what each of them saw. -/
def Answer.asked {σ α : Type} (a : Answer σ α) : List Call := a.calls.map CallRecord.call

namespace Occasion

variable {σ : Type} (x : Occasion σ) (op : Operation)

/-- The context that an operation is run with. -/
def context : Context := x.policy.contextFor x.now x.call.context x.call.metadata op.kind

def serve : Answer σ op.Response := op.serve x.policy x.backend x.call x.now x.store

/-- What the operation comes to if nothing cuts it. -/
def course : Course σ op.Response := (op.script (x.context op)).course x.backend x.store

/-- The operation runs to its end. -/
def Uncut : Prop :=
  (x.policy.run x.backend x.call.context x.call.metadata op.kind (fun ctx => op.script ctx)
    (.start x.now x.store)).finished = true

instance : Decidable (x.Uncut op) := inferInstanceAs (Decidable (_ = true))

/-- Operations see the metadata that the call carries. -/
theorem metadata_context : (x.context op).metadata = x.call.carried := by
  unfold context TimeoutPolicy.contextFor Context.endingWithin Arrival.carried
  split
  · rfl
  · split <;> rfl

/-- How the run of the operation ends, and the world after it. -/
def run : Finish op.Response × World σ :=
  (op.script (x.context op)).run x.backend (x.context op) (.start x.now x.store)

/-- An operation is uncut if its run was not cut. -/
theorem uncut_iff_run : x.Uncut op ↔ (x.run op).1 ≠ .cut := (TimeoutPolicy.run_of rfl).2.1

/-- The answer is how the run finished. -/
theorem serve_result : (x.serve op).result = (x.run op).1.result := (TimeoutPolicy.run_of rfl).1

theorem serve_store : (x.serve op).store = (x.run op).2.store := (TimeoutPolicy.run_of rfl).2.2.2.1

theorem serve_finishedAt : (x.serve op).finishedAt = (x.run op).2.now := (TimeoutPolicy.run_of rfl).2.2.1

theorem serve_asked : (x.serve op).asked = (x.run op).2.calls.map CallRecord.call :=
  congrArg (List.map CallRecord.call) (TimeoutPolicy.run_of rfl).2.2.2.2

/-! ## The answer and the course -/

/-- The run of an operation comes to its course or is cut. -/
theorem runs : RunsTo (x.context op) (.start x.now x.store) (x.course op) (x.run op) :=
  (op.script (x.context op)).runs x.backend (x.context op) (.start x.now x.store)

/-- A call is cut exactly if its course takes longer than there is time. -/
theorem uncut_iff : x.Uncut op ↔
    InTime (x.context op).deadline x.now (x.now.add (x.course op).elapsed) :=
  (x.uncut_iff_run op).trans (x.runs op).uncut_iff

variable {x op}

/-- Nothing cuts a call without a deadline. -/
theorem uncut_of_unlimited (unlimited : (x.context op).deadline = none) : x.Uncut op := by
  rw [uncut_iff, unlimited]
  intro d h
  cases h

/-- A call that is not cut comes to the course of its operation. -/
theorem serve_uncut (h : x.Uncut op) : (x.serve op).result = (x.course op).result ∧
    (x.serve op).store = (x.course op).store ∧ (x.serve op).asked = (x.course op).calls ∧
    (x.serve op).finishedAt = x.now.add (x.course op).elapsed := by
  obtain ⟨finish, world⟩ := (x.runs op).inTime ((x.uncut_iff op).1 h)
  have calls := congrArg (fun w : World σ => w.calls.map CallRecord.call) world
  rw [World.calls_untimed, World.calls_after] at calls
  refine ⟨?_, ?_, ?_, ?_⟩
  · rw [serve_result, finish, Finish.result_ofExcept]
  · rw [serve_store]
    exact congrArg World.store world
  · rw [serve_asked]
    exact calls
  · rw [serve_finishedAt]
    exact congrArg World.now world

/-- A call that is cut fails, and has made a first part of its calls. -/
theorem serve_cut (h : ¬x.Uncut op) : (x.serve op).result = .error .deadlineExceeded ∧
    (x.serve op).asked <+: (x.course op).calls := by
  obtain ⟨cut, -, part⟩ := (x.runs op).late (mt (x.uncut_iff op).2 h)
  have calls := part.calls.map CallRecord.call
  rw [World.calls_untimed, World.calls_after] at calls
  refine ⟨?_, ?_⟩
  · rw [serve_result, cut]
    rfl
  · rw [serve_asked]
    exact calls

/-- A call that succeeds was not cut. -/
theorem course_of_ok {response : op.Response} (h : (x.serve op).result = .ok response) :
    (x.course op).result = .ok response := by
  by_cases uncut : x.Uncut op
  · rw [← (serve_uncut uncut).1]
    exact h
  · rw [(serve_cut uncut).1] at h
    cases h

/-- Also when it is cut, an operation asks what its course asks, in this order. -/
theorem asked_within : (x.serve op).asked <+: (x.course op).calls := by
  by_cases h : x.Uncut op
  · exact (serve_uncut h).2.2.1 ▸ List.prefix_rfl
  · exact (serve_cut h).2

end Occasion
end ProfileGateway
