import ProfileGateway.Proofs.Deadline.Cut
/-!
# What collaborators answer in a run

Collaborators can keep more in their store than what their answers depend on, and no run can tell the difference
(`Script.run_viewed`). So the answers that a script gets can be recorded in the store (`Backend.recording`), and nothing
else changes.
-/
namespace ProfileGateway

/-! ## Stores that hold more -/

section Views

variable {σ τ α β γ : Type}

/-- The collaborators answer as others do whose store is a part of theirs. -/
structure Backend.Extends (view : τ → σ) (wide : Backend τ) (b : Backend σ) : Prop where
  delay : ∀ c, wide.delay c = b.delay c
  reply : ∀ c t, (wide.answer c t).1 = (b.answer c (view t)).1
  store : ∀ c t, view (wide.answer c t).2 = (b.answer c (view t)).2

/-- The world with a part of its store. -/
def World.viewed (view : τ → σ) (w : World τ) : World σ := ⟨w.now, view w.store, w.calls, w.log⟩

/-- Two steps of which one does more to the store. -/
def Timed.Views (view : τ → σ) (m : Timed τ α) (m' : Timed σ α) : Prop :=
  ∀ w : World τ, m' (w.viewed view) = ((m w).1, (m w).2.viewed view)

namespace Timed

variable {view : τ → σ}

/-- What is seen of two steps is what is seen of each. -/
theorem Views.bind {m : Timed τ α} {m' : Timed σ α} {k : α → Timed τ β} {k' : α → Timed σ β}
    (first : m.Views view m') (rest : ∀ a, (k a).Views view (k' a)) : (m >>= k).Views view (m' >>= k') := by
  intro w
  rw [bind_apply, bind_apply, first w]
  cases (m w).1 with
  | returned a => exact rest a _
  | failed s => rfl
  | cut => rfl

theorem views_pure (a : α) : (pure a : Timed τ α).Views view (pure a) := fun _ => rfl

theorem views_fail (s : Status) : (fail s : Timed τ α).Views view (fail s) := fun _ => rfl

/-- A result is seen as it is. -/
theorem views_ofExcept (x : Except Status α) : (ofExcept x : Timed τ α).Views view (ofExcept x) := by
  cases x with
  | ok a => exact views_pure a
  | error s => exact views_fail s

theorem views_log (events : List Event) :
    (modify fun w : World τ => w.logged events).Views view (modify fun w => w.logged events) := fun _ => rfl

/-- A call is seen as it is, for it has nothing of the store. -/
theorem views_called (ctx : Context) (c : Call) :
    (modify fun w : World τ => w.called ctx c).Views view (modify fun w => w.called ctx c) := fun _ => rfl

/-- A wait is seen as it is: the store has no part in whether it is cut. -/
theorem views_sleep (deadline : Option Instant) (d : Duration) :
    (sleep (σ := τ) deadline d).Views view (sleep deadline d) := by
  intro w
  by_cases ends : InTime deadline w.now (w.now.add d)
  · rw [sleep_of_inTime ends, sleep_of_inTime (w := w.viewed view) ends]
    rfl
  · obtain ⟨t, imposed, slept, -⟩ := sleep_of_late ends
    obtain ⟨t', imposed', slept', -⟩ := sleep_of_late (w := w.viewed view) ends
    cases imposed.symm.trans imposed'
    rw [slept, slept']
    rfl

/-- An answer of the wider source is seen as that of the narrower one. -/
theorem views_answer {wide : Backend τ} {b : Backend σ} (wider : wide.Extends view b) (c : Call) :
    (answer wide c).Views view (answer b c) := by
  intro w
  simp only [answer, World.answer, World.viewed, wider.reply, wider.store]

end Timed

variable {view : τ → σ} {wide : Backend τ} {b : Backend σ} {ctx : Context}

/-- A branch begins alike over either store. -/
theorem Branch.begin_viewed (branch : Branch β) :
    (branch.begin (σ := τ) ctx).Views view (branch.begin ctx) := by
  cases branch with
  | ready v => exact Timed.views_pure ()
  | ask c verdict => exact Timed.views_called ctx c

/-- A branch is settled alike over either store. -/
theorem Branch.settle_viewed (wider : wide.Extends view b) (branch : Branch β) :
    (branch.settle wide).Views view (branch.settle b) := by
  cases branch with
  | ready v => exact Timed.views_pure v
  | ask c verdict =>
    rw [settle_ask, settle_ask]
    refine (Timed.views_answer wider c).bind fun reply => ?_
    exact (Timed.views_log (verdict reply).events).bind fun _ => Timed.views_ofExcept (verdict reply).result

/-- A branch waits and is settled alike over either store. -/
theorem Branch.settleAfter_viewed (wider : wide.Extends view b) (branch : Branch β) (deadline : Option Instant)
    (d : Duration) : (branch.settleAfter wide deadline d).Views view (branch.settleAfter b deadline d) :=
  (Timed.views_sleep deadline d).bind fun _ => branch.settle_viewed wider

/-- Two lookups are settled alike, and in the same order, over either store. -/
theorem runBoth_viewed (wider : wide.Extends view b) (left : Branch β) (right : Branch γ) :
    (runBoth wide ctx left right).Views view (runBoth b ctx left right) := by
  have delays {δ : Type} (branch : Branch δ) : branch.delay wide = branch.delay b := by
    cases branch with
    | ready v => rfl
    | ask c verdict => exact wider.delay c
  simp only [runBoth, delays]
  refine left.begin_viewed.bind fun _ => ?_
  split
  · refine (left.settle_viewed wider).bind fun x => right.begin_viewed.bind fun _ => ?_
    exact (right.settleAfter_viewed wider _ _).bind fun y => Timed.views_pure (x, y)
  · refine right.begin_viewed.bind fun _ => ?_
    split
    · refine (left.settleAfter_viewed wider _ _).bind fun x => ?_
      exact (right.settleAfter_viewed wider _ _).bind fun y => Timed.views_pure (x, y)
    · refine (right.settleAfter_viewed wider _ _).bind fun y => ?_
      exact (left.settleAfter_viewed wider _ _).bind fun x => Timed.views_pure (x, y)

/-- **A run** does not depend on what a store holds besides what the answers depend on. -/
theorem Script.run_viewed (wider : wide.Extends view b) (script : Script α) :
    (script.run wide ctx).Views view (script.run b ctx) := by
  induction script with
  | done a => exact Timed.views_pure a
  | fail s => exact Timed.views_fail s
  | log e next ih => exact (Timed.views_log [e]).bind fun _ => ih
  | wait d next ih => exact (Timed.views_sleep _ d).bind fun _ => ih
  | ask c next ih =>
    rw [run_ask, run_ask, wider.delay c]
    refine (Timed.views_called ctx c).bind fun _ => (Timed.views_sleep _ (b.delay c)).bind fun _ => ?_
    exact (Timed.views_answer wider c).bind ih
  | both left right next ih => exact (runBoth_viewed wider left right).bind fun (x, y) => ih x y

end Views

/-! ## Recorded answers -/

/-- An answer to a call. -/
structure Answered where
  call : Call
  reply : Except Failure call.Reply

/-- The collaborators, and a record of all that they have answered. -/
def Backend.recording {σ : Type} (b : Backend σ) : Backend (σ × List Answered) where
  delay := b.delay
  answer c s := ((b.answer c s.1).1, (b.answer c s.1).2, s.2 ++ [⟨c, (b.answer c s.1).1⟩])

/-- Keeping a record of the answers changes none of them. -/
theorem Backend.recording_extends {σ : Type} (b : Backend σ) : b.recording.Extends Prod.fst b :=
  ⟨fun _ => rfl, fun _ _ => rfl, fun _ _ => rfl⟩

end ProfileGateway
