import Mathlib.Logic.Relation
import ProfileGateway.Proofs.Deadline.Cut
/-!
# Runs in steps

All that a run does to the world it does in steps of four kinds, whether a deadline cuts it or not: something is
logged, a call reaches its collaborator, time passes, a collaborator answers (`Script.run_inSteps`). What every step
keeps a run keeps; so time, calls and log only grow (`Script.run_grows`).
-/
namespace ProfileGateway

/-- One step of a run. -/
inductive World.Step {σ : Type} (b : Backend σ) (ctx : Context) : World σ → World σ → Prop
  | logged (w : World σ) (events : List Event) : Step b ctx w (w.logged events)
  | called (w : World σ) (c : Call) : Step b ctx w (w.called ctx c)
  | passed (w : World σ) {t : Instant} (later : w.now ≤ t) : Step b ctx w { w with now := t }
  | answered (w : World σ) (c : Call) : Step b ctx w (w.answer b c).2

/-- **A step** only adds: time, calls and events. -/
theorem World.Step.grows {σ : Type} {b : Backend σ} {ctx : Context} {w w' : World σ} (step : Step b ctx w w') :
    w.Grows w' := by
  cases step with
  | logged events => exact w.grows_logged events
  | called c => exact w.grows_called ctx c
  | passed later => exact ⟨later, List.prefix_rfl, List.prefix_rfl⟩
  | answered c => exact w.grows_answer b c

section Steps

variable {σ α β γ : Type} {b : Backend σ} {ctx : Context}

/-- What is done is done in steps. -/
def Timed.InSteps (b : Backend σ) (ctx : Context) (m : Timed σ α) : Prop :=
  ∀ w, Relation.ReflTransGen (World.Step b ctx) w (m w).2

namespace Timed

/-- What is made of steps may be followed by what is made of steps. -/
theorem InSteps.bind {m : Timed σ α} {k : α → Timed σ β} (first : m.InSteps b ctx) (rest : ∀ a, (k a).InSteps b ctx) :
    (m >>= k).InSteps b ctx := by
  intro w
  rw [bind_apply]
  cases (m w).1 with
  | returned a => exact (first w).trans (rest a _)
  | failed s => exact first w
  | cut => exact first w

theorem inSteps_pure (a : α) : (pure a : Timed σ α).InSteps b ctx := fun _ => .refl

/-- A result is no step at all. -/
theorem inSteps_ofExcept (x : Except Status α) : (ofExcept x : Timed σ α).InSteps b ctx := by
  cases x with
  | ok a => exact inSteps_pure a
  | error s => exact fun _ => .refl

/-- Logging is a step. -/
theorem inSteps_log (events : List Event) : (modify fun w : World σ => w.logged events).InSteps b ctx :=
  fun w => .single (.logged w events)

/-- Asking is a step. -/
theorem inSteps_called (c : Call) : (modify fun w : World σ => w.called ctx c).InSteps b ctx :=
  fun w => .single (.called w c)

/-- An answer is a step. -/
theorem inSteps_answer (c : Call) : (answer b c).InSteps b ctx := fun w => .single (.answered w c)

/-- A wait is a step, whether it is cut or not. -/
theorem inSteps_sleep (deadline : Option Instant) (d : Duration) : (sleep (σ := σ) deadline d).InSteps b ctx := by
  intro w
  by_cases ends : InTime deadline w.now (w.now.add d)
  · rw [sleep_of_inTime ends]
    exact .single (.passed w (w.now.le_add d))
  · obtain ⟨t, -, slept, -⟩ := sleep_of_late ends
    have later : w.now ≤ w.now.latest t.tick := by
      rw [Instant.le_def, Instant.nanos_latest]
      omega
    rw [slept]
    exact .single (.passed w later)

end Timed

/-- A branch begins with one step at most. -/
theorem Branch.begin_inSteps (branch : Branch β) : (branch.begin (σ := σ) ctx).InSteps b ctx := by
  cases branch with
  | ready v => exact Timed.inSteps_pure ()
  | ask c verdict => exact Timed.inSteps_called c

/-- A branch is settled in steps. -/
theorem Branch.settle_inSteps (branch : Branch β) : (branch.settle b).InSteps b ctx := by
  cases branch with
  | ready v => exact Timed.inSteps_pure v
  | ask c verdict =>
    rw [settle_ask]
    apply (Timed.inSteps_answer c).bind
    intro reply
    apply (Timed.inSteps_log (verdict reply).events).bind
    intro _
    exact Timed.inSteps_ofExcept (verdict reply).result

theorem Branch.settleAfter_inSteps (branch : Branch β) (deadline : Option Instant) (d : Duration) :
    (branch.settleAfter b deadline d).InSteps b ctx :=
  (Timed.inSteps_sleep deadline d).bind fun _ => branch.settle_inSteps

/-- Two lookups are made of steps, in whatever order they are settled. -/
theorem runBoth_inSteps (left : Branch β) (right : Branch γ) : (runBoth b ctx left right).InSteps b ctx := by
  apply left.begin_inSteps.bind
  intro _
  split
  · apply left.settle_inSteps.bind
    intro x
    apply right.begin_inSteps.bind
    intro _
    exact (right.settleAfter_inSteps _ _).bind fun y => Timed.inSteps_pure (x, y)
  · apply right.begin_inSteps.bind
    intro _
    split
    · apply (left.settleAfter_inSteps _ _).bind
      intro x
      exact (right.settleAfter_inSteps _ _).bind fun y => Timed.inSteps_pure (x, y)
    · apply (right.settleAfter_inSteps _ _).bind
      intro y
      exact (left.settleAfter_inSteps _ _).bind fun x => Timed.inSteps_pure (x, y)

/-- **A run** goes in steps. -/
theorem Script.run_inSteps (script : Script α) : (script.run b ctx).InSteps b ctx := by
  induction script with
  | done a => exact Timed.inSteps_pure a
  | fail s => exact fun _ => .refl
  | log e next ih => exact (Timed.inSteps_log [e]).bind fun _ => ih
  | wait d next ih => exact (Timed.inSteps_sleep _ d).bind fun _ => ih
  | ask c next ih =>
    rw [run_ask]
    apply (Timed.inSteps_called c).bind
    intro _
    apply (Timed.inSteps_sleep _ (b.delay c)).bind
    intro _
    exact (Timed.inSteps_answer c).bind ih
  | both left right next ih => exact (runBoth_inSteps left right).bind fun (x, y) => ih x y

/-- What each step only adds to, all of them only add to. -/
theorem World.Grows.of_steps {w w' : World σ} (steps : Relation.ReflTransGen (World.Step b ctx) w w') :
    w.Grows w' := by
  induction steps with
  | refl => exact .refl w
  | tail _ step ih => exact ih.trans step.grows

/-- A run only adds to time, calls and log. -/
theorem Script.run_grows (b : Backend σ) (ctx : Context) (script : Script α) (w : World σ) :
    w.Grows (script.run b ctx w).2 := .of_steps (script.run_inSteps w)

end Steps
end ProfileGateway
