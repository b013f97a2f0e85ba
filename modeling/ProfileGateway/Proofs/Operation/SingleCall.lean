import ProfileGateway.Proofs.Operation.Occasion
import ProfileGateway.Proofs.Script.Asks
/-!
# Operations that ask once

The operations on one profile or one engagement check their input, ask one collaborator and respond to what it
answers (`Script.single`). Such an operation is refused and asks nobody, or asks exactly once; it is then cut while
it waits, and its store is as it was, or it comes to what the collaborator answers (`Occasion.single_cases`).
-/
namespace ProfileGateway

open Operation

/-! ## The script -/

namespace Script

variable {σ ω α : Type}

/-- Checks an input, asks once and responds, with what is logged of it. -/
def single (accepted : Except Refusal ω) (call : ω → Call) (respond : (w : ω) → (call w).Reply → List Event × α) :
    Script α :=
  .accept accepted >>= fun w => .call (call w) >>= fun reply => .logging (respond w reply).1 (.done (respond w reply).2)

/-- A refused request fails before the call. -/
theorem single_of_refused {accepted : Except Refusal ω} {call : ω → Call}
    {respond : (w : ω) → (call w).Reply → List Event × α} {e : Refusal} (refused : accepted = .error e) :
    single accepted call respond = fail e.status := by
  subst refused
  rfl

/-- An input that is accepted is asked about first of all. -/
theorem single_of_accepted {accepted : Except Refusal ω} (call : ω → Call)
    (respond : (w : ω) → (call w).Reply → List Event × α) {w : ω} (valid : accepted = .ok w) :
    ∃ next, single accepted call respond = ask (call w) next := by
  subst valid
  exact ⟨_, rfl⟩

theorem bind_done (script : Script α) : script.bind done = script := by
  induction script with
  | done a | fail s => rfl
  | log e next ih | wait d next ih => rw [Script.bind, ih]
  | ask c next ih => rw [Script.bind, funext ih]
  | both left right next ih => rw [Script.bind, funext fun x => funext (ih x)]

section Course

variable (b : Backend σ) {accepted : Except Refusal ω} {call : ω → Call}
  (respond : (w : ω) → (call w).Reply → List Event × α) (s : σ)

/-- An accepted one makes the call, and the reply decides. -/
theorem course_single_of_accepted {w : ω} (valid : accepted = .ok w) :
    let answer := b.answer (call w) s
    let course := (single accepted call respond).course b s
    course.result = (answer.1.mapError Failure.status).map (fun reply => (respond w reply).2) ∧
      course.elapsed = b.delay (call w) ∧ course.store = answer.2 ∧ course.calls = [call w] := by
  subst valid
  rw [single, course_bind, course_accept, mapError_ok, Course.bind_still, course_bind, course_call]
  dsimp only
  cases (b.answer (call w) s).1 with
  | error f => exact ⟨rfl, rfl, rfl, rfl⟩
  | ok reply =>
    rw [mapError_ok, Course.bind_ok, course_logging]
    exact ⟨rfl, rfl, rfl, rfl⟩

end Course
end Script

/-! ## The operations -/

section Scripts

variable (ctx : Context)

theorem script_getProfile (r : GetProfileRequest) : (Operation.getProfile r).script ctx =
    .single (ActingUser.resolve r.userId ctx.metadata) .getProfile fun _ profile => ([], viewOf profile) := rfl

theorem script_updateProfile (r : UpdateProfileRequest) : (Operation.updateProfile r).script ctx =
    .single (profileChange ctx r) .updateProfile fun _ profile =>
      ([ctx.event (.profileUpdated profile.userId profile.version)], viewOf profile) := rfl

theorem script_addEngagement (r : EngagementRequest) : (Operation.addEngagement r).script ctx =
    .single (engagementChange ctx r) .addEngagement fun _ engagement => ([], ⟨engagement⟩) := rfl

theorem script_removeEngagement (r : EngagementRequest) : (Operation.removeEngagement r).script ctx =
    .single (engagementChange ctx r) .removeEngagement fun _ removed => ([], removed) := by
  have same : ∀ write, (Script.call (.removeEngagement write) >>= fun removed => Script.done removed) =
      Script.call (.removeEngagement write) := fun write => Script.bind_done _
  simp only [script, runRemoveEngagement, Script.single, Script.logging, List.foldr_nil, same]

end Scripts

/-! ## What comes of them -/

namespace Occasion

variable {σ ω : Type} {x : Occasion σ} {op : Operation} {accepted : Except Refusal ω} {call : ω → Call}
  {respond : (w : ω) → (call w).Reply → List Event × op.Response}

/-- The call of an operation that is cut has been made, and has not reached the store. -/
theorem single_of_cut {w : ω} (shape : op.script (x.context op) = .single accepted call respond)
    (valid : accepted = .ok w) (cut : ¬x.Uncut op) :
    (x.serve op).asked = [call w] ∧ (x.serve op).store = x.store := by
  obtain ⟨next, asks⟩ := Script.single_of_accepted call respond valid
  rw [uncut_iff, course, shape, (Script.course_single_of_accepted x.backend respond x.store valid).2.1] at cut
  rw [serve_asked, serve_store, run, shape, asks]
  obtain ⟨t, -, late⟩ := Script.run_of_late (w := .start x.now x.store) cut
  rw [late]
  exact ⟨rfl, rfl⟩

/-- **An operation that asks once** is refused, or cut, or comes to what it is answered. -/
theorem single_cases (shape : op.script (x.context op) = .single accepted call respond) :
    (∃ e, accepted = .error e ∧ (x.serve op).result = .error e.status ∧ (x.serve op).asked = [] ∧
      (x.serve op).store = x.store) ∨
    ∃ w, accepted = .ok w ∧ (x.serve op).asked = [call w] ∧
      ((¬x.Uncut op ∧ (x.serve op).result = .error .deadlineExceeded ∧ (x.serve op).store = x.store) ∨
        (x.serve op).result = ((x.backend.answer (call w) x.store).1.mapError Failure.status).map
            (fun reply => (respond w reply).2) ∧
          (x.serve op).store = (x.backend.answer (call w) x.store).2) := by
  cases valid : accepted with
  | error e =>
    have still : x.course op = .still (.error e.status) x.store := by
      rw [course, shape, Script.single_of_refused valid]
      rfl
    have uncut : x.Uncut op := by
      rw [uncut_iff, still]
      exact inTime_self _ _
    obtain ⟨result, store, asked, -⟩ := serve_uncut uncut
    rw [still] at result store asked
    exact .inl ⟨e, rfl, result, asked, store⟩
  | ok w =>
    refine .inr ⟨w, rfl, ?_⟩
    by_cases uncut : x.Uncut op
    · obtain ⟨result, store, asked, -⟩ := serve_uncut uncut
      have course := Script.course_single_of_accepted x.backend respond x.store valid
      rw [← shape] at course
      exact ⟨asked.trans course.2.2.2, .inr ⟨result.trans course.1, store.trans course.2.2.1⟩⟩
    · obtain ⟨asked, store⟩ := single_of_cut shape valid uncut
      exact ⟨asked, .inl ⟨uncut, (serve_cut uncut).1, store⟩⟩

end Occasion
end ProfileGateway
