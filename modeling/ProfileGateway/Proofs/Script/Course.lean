import ProfileGateway.Proofs.Deadline.Cut
/-!
# Courses

The course of a script is all that a free run of it comes to: result, time, store, calls and events, each counted
from its beginning. Courses follow one another by `Course.bind`, and a free run adds the course of its script to the
world that it begins in (`Script.run_follows`). Under a deadline a run comes to the course, too, or is cut
(`Script.runs`).
-/
namespace ProfileGateway

instance : Add Duration := ⟨fun a b => ⟨a.nanos + b.nanos⟩⟩

@[simp] theorem Duration.nanos_add (a b : Duration) : (a + b).nanos = a.nanos + b.nanos := rfl

@[simp] theorem Duration.nanos_zero : Duration.zero.nanos = 0 := rfl

/-- Durations are the same if they are as long. -/
@[ext] theorem Duration.ext {a b : Duration} (h : a.nanos = b.nanos) : a = b := by
  cases a; cases b; cases h; rfl

/-- Two times one after the other are their sum. -/
theorem Instant.add_add (t : Instant) (a b : Duration) : (t.add a).add b = t.add (a + b) := by
  apply Instant.ext
  simp only [Instant.nanos_add, Duration.nanos_add]
  omega

@[simp] theorem Instant.add_zero (t : Instant) : t.add .zero = t := rfl

@[simp] theorem Duration.zero_add (d : Duration) : .zero + d = d := by
  apply Duration.ext
  simp

@[simp] theorem Duration.add_zero (d : Duration) : d + .zero = d := rfl

def Finish.ofExcept {α : Type} : Except Status α → Finish α
  | .ok a => .returned a
  | .error s => .failed s

/-- What ends with a result has not been cut. -/
theorem Finish.ofExcept_ne_cut {α : Type} (x : Except Status α) : ofExcept x ≠ .cut := by
  intro h
  cases x <;> cases h

/-- What a free run comes to. -/
structure Course (σ α : Type) where
  result : Except Status α
  elapsed : Duration
  store : σ
  calls : List Call
  log : List Event

namespace Course

variable {σ α β γ : Type}

/-- Nothing is done, and this is the result. -/
def still (result : Except Status α) (store : σ) : Course σ α := ⟨result, .zero, store, [], []⟩

/-- The course, and after it, unless it fails, the one that its value leads to. -/
def bind (c : Course σ α) (next : α → σ → Course σ β) : Course σ β :=
  match c.result with
  | .ok a =>
    let d := next a c.store
    ⟨d.result, c.elapsed + d.elapsed, d.store, c.calls ++ d.calls, c.log ++ d.log⟩
  | .error s => { c with result := .error s }

/-- A course with a value goes on, and what comes then is counted in addition. -/
theorem bind_of_ok {c : Course σ α} {next : α → σ → Course σ β} {a : α} (h : c.result = .ok a) :
    c.bind next = ⟨(next a c.store).result, c.elapsed + (next a c.store).elapsed, (next a c.store).store,
      c.calls ++ (next a c.store).calls, c.log ++ (next a c.store).log⟩ := by
  rw [bind, h]

/-- A course that has failed does not go on. -/
theorem bind_of_error {c : Course σ α} {next : α → σ → Course σ β} {s : Status} (h : c.result = .error s) :
    c.bind next = ⟨.error s, c.elapsed, c.store, c.calls, c.log⟩ := by
  rw [bind, h]

/-- The calls of a course and of what follows it, in order. -/
theorem calls_bind (c : Course σ α) (next : α → σ → Course σ β) : (c.bind next).calls = c.calls ++
    match c.result with
    | .ok a => (next a c.store).calls
    | .error _ => [] := by
  cases h : c.result with
  | ok a => rw [bind_of_ok h]
  | error s => rw [bind_of_error h, List.append_nil]

/-- What follows a course with a value, by its parts. -/
@[simp] theorem bind_ok (a : α) (d : Duration) (s : σ) (calls : List Call) (log : List Event)
    (next : α → σ → Course σ β) :
    bind ⟨.ok a, d, s, calls, log⟩ next = ⟨(next a s).result, d + (next a s).elapsed, (next a s).store,
      calls ++ (next a s).calls, log ++ (next a s).log⟩ := rfl

/-- After nothing has been done, the course is what follows. -/
theorem bind_still (a : α) (s : σ) (next : α → σ → Course σ β) : (still (.ok a) s).bind next = next a s := by
  rw [bind_of_ok rfl]
  simp only [still, List.nil_append]
  congr 1
  apply Duration.ext
  simp

/-- Nothing that is done afterwards changes a course. -/
theorem bind_pure (c : Course σ α) : (c.bind fun a s => still (.ok a) s) = c := by
  obtain ⟨result, elapsed, store, calls, log⟩ := c
  cases result with
  | ok a => simp [still]
  | error s => rfl

/-- Making another value of the result changes nothing else of a course. -/
theorem bind_map (c : Course σ α) (f : α → β) :
    (c.bind fun a s => still (.ok (f a)) s) = ⟨c.result.map f, c.elapsed, c.store, c.calls, c.log⟩ := by
  obtain ⟨result, elapsed, store, calls, log⟩ := c
  cases result with
  | ok a => simp [still, Except.map]
  | error s => rfl

/-- It does not matter which two of three courses are taken together. -/
theorem bind_assoc (c : Course σ α) (f : α → σ → Course σ β) (g : β → σ → Course σ γ) :
    (c.bind f).bind g = c.bind fun a s => (f a s).bind g := by
  cases h : c.result with
  | error s => rw [bind_of_error h, bind_of_error h, bind_of_error rfl]
  | ok a =>
    rw [bind_of_ok h, bind_of_ok h]
    cases hf : (f a c.store).result with
    | error s => rw [bind_of_error rfl, bind_of_error hf]
    | ok b =>
      rw [bind_of_ok rfl, bind_of_ok hf]
      simp only [List.append_assoc]
      congr 1
      apply Duration.ext
      simp only [Duration.nanos_add]
      omega

end Course

/-! ## Courses of branches and scripts -/

section Courses

variable {σ α β γ : Type}

/-- What a branch comes to once it has its answer. -/
def Branch.reply (b : Backend σ) : Branch β → σ → Verdict β × σ
  | ready v, s => (⟨[], .ok v⟩, s)
  | ask c verdict, s => (verdict (b.answer c s).1, (b.answer c s).2)

/-- The calls of a branch. -/
def Branch.calls : Branch β → List Call
  | ready _ => []
  | ask c _ => [c]

/-- The left one of two lookups is settled first: it does not wait, or not as long as the other one. -/
def leftFirst (left right : Duration) : Bool := left.isZero || decide (left.nanos < right.nanos)

/-- Who is settled first has not waited longer. -/
theorem le_of_leftFirst {left right : Duration} (first : leftFirst left right = true) : left.nanos ≤ right.nanos := by
  rw [leftFirst, Bool.or_eq_true, decide_eq_true_iff, Duration.isZero_iff] at first
  rcases first with rfl | less
  · exact Nat.zero_le _
  · exact Nat.le_of_lt less

/-- If the left one is not settled first, the right one has not waited longer. -/
theorem le_of_not_leftFirst {left right : Duration} (later : leftFirst left right = false) :
    right.nanos ≤ left.nanos := by
  rw [leftFirst, Bool.or_eq_false_iff, decide_eq_false_iff_not] at later
  exact Nat.le_of_not_lt later.2

/-- Two lookups at the same time. Who is settled first decides what the other one sees of the store, and a failure of
the first one ends both; if the left one fails without waiting the right one is not even asked. -/
def Course.both (b : Backend σ) (left : Branch β) (right : Branch γ) (s : σ) : Course σ (β × γ) :=
  let l := left.delay b
  let r := right.delay b
  if leftFirst l r then
    let (x, s) := left.reply b s
    match x.result with
    | .error e => ⟨.error e, l, s, left.calls ++ if l.isZero then [] else right.calls, x.events⟩
    | .ok a =>
      let (y, s) := right.reply b s
      ⟨y.result.map fun c => (a, c), r, s, left.calls ++ right.calls, x.events ++ y.events⟩
  else
    let (y, s) := right.reply b s
    match y.result with
    | .error e => ⟨.error e, r, s, left.calls ++ right.calls, y.events⟩
    | .ok c =>
      let (x, s) := left.reply b s
      ⟨x.result.map fun a => (a, c), l, s, left.calls ++ right.calls, y.events ++ x.events⟩

/-- What a script comes to when no deadline cuts it. -/
def Script.course (b : Backend σ) : Script α → σ → Course σ α
  | .done a, s => .still (.ok a) s
  | .fail e, s => .still (.error e) s
  | .log e next, s => Course.bind ⟨.ok (), .zero, s, [], [e]⟩ fun _ s => next.course b s
  | .wait d next, s => Course.bind ⟨.ok (), d, s, [], []⟩ fun _ s => next.course b s
  | .ask c next, s =>
    Course.bind ⟨.ok (b.answer c s).1, b.delay c, (b.answer c s).2, [c], []⟩ fun reply s => (next reply).course b s
  | .both left right next, s => (Course.both b left right s).bind fun v s => (next v.1 v.2).course b s

end Courses

/-! ## Free runs follow courses -/

section Follows

variable {σ α β γ : Type} (b : Backend σ) (ctx : Context)

/-- The record of a call that is made under a context, the time left aside. -/
def Context.record (c : Call) : CallRecord := ⟨c, ctx.requestId, ctx.metadata.bind Metadata.callerId, none⟩

/-- The world in which a course has been added. -/
def World.after (w : World σ) (c : Course σ α) : World σ :=
  ⟨w.now.add c.elapsed, c.store, w.calls ++ c.calls.map ctx.record, w.log ++ c.log⟩

/-- A step adds a course to any world. -/
def Timed.Follows (m : Timed σ α) (course : σ → Course σ α) : Prop :=
  ∀ w : World σ, m w = (.ofExcept (course w.store).result, w.after ctx (course w.store))

namespace Timed.Follows

variable {ctx} {m : Timed σ α} {course : σ → Course σ α}

/-- Steps that add courses, one after the other, add the course of both. -/
theorem bind {k : α → Timed σ β} {next : α → σ → Course σ β} (first : m.Follows ctx course)
    (rest : ∀ a, (k a).Follows ctx (next a)) :
    (m >>= k).Follows ctx fun s => (course s).bind next := by
  intro w
  refine (bind_apply m k w).trans ?_
  rw [first w]
  change _ = (Finish.ofExcept ((course w.store).bind next).result, w.after ctx ((course w.store).bind next))
  cases h : (course w.store).result with
  | error s =>
    rw [Course.bind_of_error h]
    rfl
  | ok a =>
    rw [Course.bind_of_ok h]
    refine (rest a _).trans ?_
    simp only [World.after, Instant.add_add, List.append_assoc, List.map_append]

/-- Which course a step adds is told by its values. -/
theorem congr {course' : σ → Course σ α} (follows : m.Follows ctx course) (h : ∀ s, course s = course' s) :
    m.Follows ctx course' :=
  (funext h : course = course') ▸ follows

end Timed.Follows

/-- A result adds nothing to a world. -/
theorem Timed.ofExcept_follows (x : Except Status α) :
    (Timed.ofExcept x : Timed σ α).Follows ctx fun s => .still x s := by
  intro w
  cases x <;> simp [Timed.ofExcept, Timed.fail, World.after, Course.still, Finish.ofExcept, pure]

/-- Logging adds the events. -/
theorem Timed.log_follows (events : List Event) :
    (Timed.modify fun w : World σ => w.logged events).Follows ctx fun s => ⟨.ok (), .zero, s, [], events⟩ := by
  intro w
  simp [Timed.modify, World.after, World.logged, Finish.ofExcept]

/-- A wait adds its time. -/
theorem Timed.sleep_follows (d : Duration) :
    (Timed.sleep none d : Timed σ Unit).Follows ctx fun s => ⟨.ok (), d, s, [], []⟩ := by
  intro w
  simp [Timed.sleep_none, World.after, Finish.ofExcept]

/-- Asking adds the call. -/
theorem Timed.called_follows (c : Call) :
    (Timed.modify fun w : World σ => w.called ctx.unbounded c).Follows ctx fun s => ⟨.ok (), .zero, s, [c], []⟩ := by
  intro w
  simp [Timed.modify, World.after, World.called, Finish.ofExcept, Context.record, Context.unbounded,
    Context.remaining]

/-- An answer changes the store as the source does. -/
theorem Timed.answer_follows (c : Call) :
    (Timed.answer b c).Follows ctx fun s => ⟨.ok (b.answer c s).1, .zero, (b.answer c s).2, [], []⟩ := by
  intro w
  simp [Timed.answer, World.answer, World.after, Finish.ofExcept]

/-- A branch that has its answer after a time. -/
def Branch.settled (branch : Branch β) (d : Duration) (s : σ) : Course σ β :=
  ⟨(branch.reply b s).1.result, d, (branch.reply b s).2, [], (branch.reply b s).1.events⟩

/-- A branch that begins adds its call, if it has one. -/
theorem Branch.begin_follows (branch : Branch β) :
    (branch.begin ctx.unbounded : Timed σ Unit).Follows ctx fun s => ⟨.ok (), .zero, s, branch.calls, []⟩ := by
  cases branch with
  | ready v => exact Timed.ofExcept_follows ctx (.ok ())
  | ask c verdict => exact Timed.called_follows ctx c

/-- A branch that has its answer adds what is logged of it. -/
theorem Branch.settle_follows (branch : Branch β) :
    (branch.settle b).Follows ctx (branch.settled b .zero) := by
  cases branch with
  | ready v => exact Timed.ofExcept_follows ctx (.ok v)
  | ask c verdict =>
    have steps := (Timed.answer_follows b ctx c).bind fun reply =>
      (Timed.log_follows ctx (verdict reply).events).bind fun _ => Timed.ofExcept_follows ctx (verdict reply).result
    rw [settle_ask]
    refine steps.congr fun s => ?_
    rw [Course.bind_of_ok rfl, Course.bind_of_ok rfl]
    simp only [Branch.settled, Branch.reply, Course.still, List.append_nil, List.nil_append]
    rfl

/-- A branch adds the time that it waits as well. -/
theorem Branch.settleAfter_follows (branch : Branch β) (d : Duration) :
    (branch.settleAfter b none d).Follows ctx (branch.settled b d) := by
  have steps := (Timed.sleep_follows ctx d).bind fun _ => branch.settle_follows b ctx
  refine steps.congr fun s => ?_
  rw [Course.bind_of_ok rfl]
  simp only [Branch.settled, List.nil_append]
  rfl

/-- Two lookups, whichever is settled first, add their common course. -/
theorem runBoth_follows (left : Branch β) (right : Branch γ) :
    (runBoth b ctx.unbounded left right).Follows ctx (Course.both b left right) := by
  by_cases zero : (left.delay b).isZero
  · have none : left.delay b = .zero := Duration.isZero_iff.1 zero
    have order : leftFirst (left.delay b) (right.delay b) = true := by
      rw [leftFirst, zero, Bool.true_or]
    have steps := (left.begin_follows ctx).bind fun _ => (left.settle_follows b ctx).bind fun x =>
      (right.begin_follows ctx).bind fun _ => (right.settleAfter_follows b ctx (right.delay b)).bind fun y =>
        Timed.ofExcept_follows ctx (.ok (x, y))
    simp only [runBoth, zero, if_true]
    refine steps.congr fun s => ?_
    simp only [Course.both, order, zero, if_true, Branch.settled, Course.bind_ok]
    cases (left.reply b s).1.result with
    | error e => simp [none, Course.bind]
    | ok x => cases hy : (right.reply b (left.reply b s).2).1.result <;> simp [hy, Except.map, Course.bind, Course.still]
  · have leftFirst_iff : leftFirst (left.delay b) (right.delay b) =
        decide ((left.delay b).nanos < (right.delay b).nanos) := by
      rw [leftFirst, Bool.eq_false_iff.2 zero, Bool.false_or]
    simp only [runBoth, zero, if_false, Bool.false_eq_true]
    split
    · next order =>
      have sum : left.delay b + ⟨(right.delay b).nanos - (left.delay b).nanos⟩ = right.delay b := by
        apply Duration.ext
        simp only [Duration.nanos_add]
        omega
      have steps := (left.begin_follows ctx).bind fun _ => (right.begin_follows ctx).bind fun _ =>
        (left.settleAfter_follows b ctx (left.delay b)).bind fun x =>
          (right.settleAfter_follows b ctx ⟨(right.delay b).nanos - (left.delay b).nanos⟩).bind fun y =>
            Timed.ofExcept_follows ctx (.ok (x, y))
      refine steps.congr fun s => ?_
      simp only [Course.both, leftFirst_iff, order, zero, decide_true, if_true, if_false, Bool.false_eq_true,
        Branch.settled, Course.bind_ok]
      cases (left.reply b s).1.result with
      | error e => simp [Course.bind]
      | ok x => cases hy : (right.reply b (left.reply b s).2).1.result <;> simp [hy, sum, Except.map, Course.bind, Course.still]
    · next order =>
      have sum : right.delay b + ⟨(left.delay b).nanos - (right.delay b).nanos⟩ = left.delay b := by
        apply Duration.ext
        simp only [Duration.nanos_add]
        omega
      have steps := (left.begin_follows ctx).bind fun _ => (right.begin_follows ctx).bind fun _ =>
        (right.settleAfter_follows b ctx (right.delay b)).bind fun y =>
          (left.settleAfter_follows b ctx ⟨(left.delay b).nanos - (right.delay b).nanos⟩).bind fun x =>
            Timed.ofExcept_follows ctx (.ok (x, y))
      refine steps.congr fun s => ?_
      simp only [Course.both, leftFirst_iff, order, decide_false, if_false, Bool.false_eq_true, Branch.settled,
        Course.bind_ok]
      cases (right.reply b s).1.result with
      | error e => simp [Course.bind]
      | ok y => cases hx : (left.reply b (right.reply b s).2).1.result <;> simp [hx, sum, Except.map, Course.bind, Course.still]

/-- **A free run** adds the course of its script to the world it begins in. -/
theorem Script.run_follows (script : Script α) : (script.run b ctx.unbounded).Follows ctx (script.course b) := by
  induction script with
  | done a => exact Timed.ofExcept_follows ctx (.ok a)
  | fail e => exact Timed.ofExcept_follows ctx (.error e)
  | log e next ih => exact (Timed.log_follows ctx [e]).bind fun _ => ih
  | wait d next ih => exact (Timed.sleep_follows ctx d).bind fun _ => ih
  | ask c next ih =>
    have steps := (Timed.called_follows ctx c).bind fun _ => (Timed.sleep_follows ctx (b.delay c)).bind fun _ =>
      (Timed.answer_follows b ctx c).bind ih
    rw [run_ask]
    refine steps.congr fun s => ?_
    simp only [Script.course, Course.bind_ok, Duration.zero_add, List.nil_append]
  | both left right next ih => exact (runBoth_follows b ctx left right).bind fun v => ih v.1 v.2

end Follows

/-! ## Runs under a deadline -/

section Runs

variable {σ α : Type}

/-- What the calls saw is left aside, be they timed or not. -/
theorem World.calls_untimed (w : World σ) : w.untimed.calls.map CallRecord.call = w.calls.map CallRecord.call := by
  simp [World.untimed, CallRecord.untimed, Function.comp_def]

/-- The calls after a course are those before it and those of the course. -/
theorem World.calls_after (w : World σ) (ctx : Context) (c : Course σ α) :
    (w.after ctx c).calls.map CallRecord.call = w.calls.map CallRecord.call ++ c.calls := by
  simp [World.after, Context.record, Function.comp_def]

/-- This is how what has a course may end in a world: with the course, if that ends in time, and cut when the timer of
the deadline goes off, if it does not. -/
structure RunsTo (ctx : Context) (w : World σ) (c : Course σ α) (r : Finish α × World σ) : Prop where
  inTime : InTime ctx.deadline w.now (w.now.add c.elapsed) →
    r.1 = .ofExcept c.result ∧ r.2.untimed = w.untimed.after ctx c
  late : ¬InTime ctx.deadline w.now (w.now.add c.elapsed) →
    r.1 = .cut ∧ (∃ d, ctx.deadline = some d ∧ r.2.now = w.now.latest d.tick) ∧
      r.2.untimed.Grows (w.untimed.after ctx c)

/-- A run is not cut exactly if its course ends in time. -/
theorem RunsTo.uncut_iff {ctx : Context} {w : World σ} {c : Course σ α} {r : Finish α × World σ}
    (runs : RunsTo ctx w c r) : r.1 ≠ .cut ↔ InTime ctx.deadline w.now (w.now.add c.elapsed) := by
  constructor
  · intro uncut
    exact Classical.byContradiction fun h => uncut (runs.late h).1
  · intro ends
    rw [(runs.inTime ends).1]
    exact Finish.ofExcept_ne_cut c.result

/-- **Any run of a script** comes to its course or is cut. -/
theorem Script.runs (b : Backend σ) (ctx : Context) (script : Script α) (w : World σ) :
    RunsTo ctx w (script.course b w.store) (script.run b ctx w) := by
  have cuts := script.run_cuts b ctx
  have inTime := cuts.inTime w
  have late := cuts.late w
  have free : script.run b ctx.unbounded w.untimed = (.ofExcept (script.course b w.store).result,
      w.untimed.after ctx (script.course b w.store)) := script.run_follows b ctx w.untimed
  rw [free] at inTime late
  exact ⟨inTime, late⟩

end Runs

/-! ## Courses of the ways to build scripts -/

namespace Script

variable {σ α β : Type} (b : Backend σ)

/-- The course of two scripts one after the other. -/
theorem course_bind (script : Script α) (next : α → Script β) (s : σ) :
    (script >>= next).course b s = (script.course b s).bind fun a s => (next a).course b s := by
  change (script.bind next).course b s = _
  induction script generalizing s with
  | done a => exact (Course.bind_still a s fun a s => (next a).course b s).symm
  | fail e => rfl
  | log e rest ih => simp only [Script.bind, course, Course.bind_assoc, ih]
  | wait d rest ih => simp only [Script.bind, course, Course.bind_assoc, ih]
  | ask c rest ih => simp only [Script.bind, course, Course.bind_assoc, ih]
  | both left right rest ih => simp only [Script.bind, course, Course.bind_assoc, ih]

/-- The course of a script that logs first. -/
theorem course_logging (events : List Event) (next : Script α) (s : σ) :
    (logging events next).course b s = Course.bind ⟨.ok (), .zero, s, [], events⟩ fun _ s => next.course b s := by
  induction events with
  | nil => simp [logging]
  | cons e es ih =>
    change (log e (logging es next)).course b s = _
    simp only [course, ih, Course.bind_ok, Duration.zero_add, List.nil_append, List.cons_append]

/-- An input that is refused ends a script before anything is done. -/
theorem course_accept (x : Except Refusal α) (s : σ) :
    (accept x).course b s = .still (x.mapError Refusal.status) s := by
  cases x <;> rfl

/-- A call takes its time, and its failure is logged and ends the script. -/
theorem course_call (c : Call) (s : σ) :
    (call c).course b s = ⟨(b.answer c s).1.mapError Failure.status, b.delay c, (b.answer c s).2, [c],
      match (b.answer c s).1 with
      | .ok _ => []
      | .error f => f.events⟩ := by
  simp only [call, course]
  cases (b.answer c s).1 with
  | ok reply => simp [course, Course.still]
  | error f => simp [course_logging, course, Course.still]

/-- A lookup on its own comes to what its branch comes to. -/
theorem course_lookup (branch : Branch α) (s : σ) :
    (lookup branch).course b s = ⟨(branch.reply b s).1.result, branch.delay b, (branch.reply b s).2, branch.calls,
      (branch.reply b s).1.events⟩ := by
  cases branch with
  | ready a => rfl
  | ask c verdict =>
    simp only [lookup, course, course_logging, Branch.reply]
    cases h : (verdict (b.answer c s).1).result <;> simp [h, course, Course.still, Branch.calls, Branch.delay]

/-- Two lookups that are joined come to what both come to. -/
theorem course_joined (left : Branch α) (right : Branch β) (s : σ) :
    (joined left right).course b s = Course.both b left right s := by
  exact Course.bind_pure _

end Script
end ProfileGateway
