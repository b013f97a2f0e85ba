import ProfileGateway.Script.Run
/-!
# Runs cut by their deadline

A run under a deadline is compared with the free run of the same script, which has no deadline. If the free run
ends in time the two are the same, the time that each call sees left aside; if it does not, the run under the
deadline is cut when its timer goes off, part of the way along the free run. The comparison is kept by sequencing, so it is
shown of each step once (`Timed.Cuts`) and holds of every script (`Script.run_cuts`).
-/
namespace ProfileGateway

/-- The context without its deadline. -/
def Context.unbounded (c : Context) : Context := { c with deadline := none }

/-- The record without the time that was left. -/
def CallRecord.untimed (c : CallRecord) : CallRecord := { c with remaining := none }

/-- What begins at `now` and ends at `finish` is in time: it ends before the timer of the deadline goes off, or just
then. That may be over before it begins; then it must end at once. -/
def InTime (deadline : Option Instant) (now finish : Instant) : Prop :=
  ∀ d, deadline = some d → finish ≤ now.latest d.tick

namespace Instant

theorem le_refl (t : Instant) : t ≤ t := Nat.le_refl t.nanos

theorem le_trans {a b c : Instant} (h : a ≤ b) (h' : b ≤ c) : a ≤ c := Nat.le_trans h h'

theorem le_add (t : Instant) (d : Duration) : t ≤ t.add d := Nat.le_add_right t.nanos d.nanos

@[simp] theorem nanos_add (t : Instant) (d : Duration) : (t.add d).nanos = t.nanos + d.nanos := rfl

/-- The later instant, as a number. -/
theorem nanos_latest (a b : Instant) : (a.latest b).nanos = max a.nanos b.nanos := by
  unfold latest
  split
  · next h => rw [le_def] at h; omega
  · next h => rw [le_def] at h; omega

end Instant

/-- What takes no time is in time, even after the deadline. -/
theorem inTime_self (deadline : Option Instant) (now : Instant) : InTime deadline now now := by
  intro d _
  rw [Instant.le_def, Instant.nanos_latest]
  omega

/-- What is in time was in time all along. -/
theorem InTime.mono {deadline : Option Instant} {now t t' : Instant} (late : InTime deadline now t')
    (order : t ≤ t') : InTime deadline now t :=
  fun d hd => Instant.le_trans order (late d hd)

/-- From any moment that is in time, the deadline is as far away as it was. -/
theorem latest_eq_of_le {now t d : Instant} (start : now ≤ t) (reached : t ≤ now.latest d) :
    t.latest d = now.latest d := by
  rw [Instant.le_def] at start
  rw [Instant.le_def, Instant.nanos_latest] at reached
  apply Instant.ext
  rw [Instant.nanos_latest, Instant.nanos_latest]
  omega

/-- A part that begins in time may end when the whole may end. -/
theorem inTime_iff_of_le {deadline : Option Instant} {now t t' : Instant} (start : now ≤ t)
    (reached : InTime deadline now t) : InTime deadline t t' ↔ InTime deadline now t' := by
  constructor
  · intro h d hd
    rw [← latest_eq_of_le start (reached d hd)]
    exact h d hd
  · intro h d hd
    rw [latest_eq_of_le start (reached d hd)]
    exact h d hd

/-- What takes a while is in time exactly if the timer is due no sooner. -/
theorem inTime_add {deadline : Option Instant} {now : Instant} {d : Duration} :
    InTime deadline now (now.add d) ↔
      ∀ left, deadline.map (fun t => t.dueIn now) = some left → d.nanos ≤ left.nanos := by
  cases deadline with
  | none => exact ⟨fun _ _ h => (nomatch h), fun _ _ h => (nomatch h)⟩
  | some t =>
    have ends : now.add d ≤ now.latest t.tick ↔ d.nanos ≤ (t.dueIn now).nanos := by
      rw [Instant.le_def, Instant.nanos_add, Instant.nanos_latest]
      change _ ↔ d.nanos ≤ t.tick.nanos - now.nanos
      omega
    constructor
    · rintro h left ⟨⟩
      exact ends.1 (h t rfl)
    · rintro h _ ⟨⟩
      exact ends.2 (h _ rfl)

namespace World

variable {σ : Type}

/-- The world without the times that its calls had left. -/
def untimed (w : World σ) : World σ := { w with calls := w.calls.map CallRecord.untimed }

/-- Time has passed, and calls and events have come in addition. -/
structure Grows (w w' : World σ) : Prop where
  now : w.now ≤ w'.now
  calls : w.calls <+: w'.calls
  log : w.log <+: w'.log

theorem Grows.refl (w : World σ) : w.Grows w := ⟨Instant.le_refl _, List.prefix_rfl, List.prefix_rfl⟩

/-- What grows twice has grown. -/
theorem Grows.trans {w v u : World σ} (h : w.Grows v) (h' : v.Grows u) : w.Grows u :=
  ⟨Instant.le_trans h.now h'.now, h.calls.trans h'.calls, h.log.trans h'.log⟩

/-- Logging adds to the log alone. -/
theorem grows_logged (w : World σ) (events : List Event) : w.Grows (w.logged events) :=
  ⟨Instant.le_refl _, List.prefix_rfl, List.prefix_append _ _⟩

/-- Asking adds to the calls alone. -/
theorem grows_called (w : World σ) (ctx : Context) (c : Call) : w.Grows (w.called ctx c) :=
  ⟨Instant.le_refl _, List.prefix_append _ _, List.prefix_rfl⟩

/-- An answer changes the store and nothing that grows. -/
theorem grows_answer (w : World σ) (b : Backend σ) (c : Call) : w.Grows (w.answer b c).2 :=
  ⟨Instant.le_refl _, List.prefix_rfl, List.prefix_rfl⟩

/-- A call that is made under a deadline is recorded as without one, the time left aside. -/
theorem untimed_called (w : World σ) (ctx : Context) (c : Call) :
    (w.called ctx c).untimed = w.untimed.called ctx.unbounded c := by
  simp [untimed, called, CallRecord.untimed, Context.unbounded, Context.remaining]

end World

namespace Timed

variable {σ α β : Type}

/-- `m` is `free` under a deadline. Where `free` ends in time both come to the same; where it does not, `m` is cut
when the timer of the deadline goes off, or at once if that is over, and has then done a part of what `free` does. -/
structure Cuts (deadline : Option Instant) (m free : Timed σ α) : Prop where
  endless : ∀ v : World σ, (free v).1 ≠ .cut
  onward : ∀ v : World σ, v.Grows (free v).2
  inTime : ∀ w : World σ, InTime deadline w.now (free w.untimed).2.now →
    (m w).1 = (free w.untimed).1 ∧ (m w).2.untimed = (free w.untimed).2
  late : ∀ w : World σ, ¬InTime deadline w.now (free w.untimed).2.now →
    (m w).1 = .cut ∧ (∃ d, deadline = some d ∧ (m w).2.now = w.now.latest d.tick) ∧
      (m w).2.untimed.Grows (free w.untimed).2

/-- The answer of a collaborator, as a step. -/
def answer (b : Backend σ) (c : Call) : Timed σ (Except Failure c.Reply) := fun w =>
  let (reply, w) := w.answer b c
  (.returned reply, w)

/-- A step that takes no time cannot be late. -/
theorem Cuts.of_instant {deadline : Option Instant} {m free : Timed σ α} (endless : ∀ v : World σ, (free v).1 ≠ .cut)
    (onward : ∀ v : World σ, v.Grows (free v).2) (now : ∀ v : World σ, (free v).2.now = v.now)
    (same : ∀ w : World σ, (m w).1 = (free w.untimed).1 ∧ (m w).2.untimed = (free w.untimed).2) :
    Cuts deadline m free where
  endless := endless
  onward := onward
  inTime w _ := same w
  late w h := by
    rw [now] at h
    exact absurd (inTime_self deadline w.now) h

/-- A value is there at once. -/
theorem cuts_pure (deadline : Option Instant) (a : α) : Cuts deadline (pure a : Timed σ α) (pure a) :=
  .of_instant (fun _ h => nomatch h) World.Grows.refl (fun _ => rfl) (fun _ => ⟨rfl, rfl⟩)

/-- A failure is there at once. -/
theorem cuts_fail (deadline : Option Instant) (s : Status) : Cuts deadline (fail s : Timed σ α) (fail s) :=
  .of_instant (fun _ h => nomatch h) World.Grows.refl (fun _ => rfl) (fun _ => ⟨rfl, rfl⟩)

/-- A result is there at once, be it a value or a failure. -/
theorem cuts_ofExcept (deadline : Option Instant) (x : Except Status α) :
    Cuts deadline (ofExcept x : Timed σ α) (ofExcept x) := by
  cases x with
  | ok a => exact cuts_pure deadline a
  | error s => exact cuts_fail deadline s

/-- Logging takes no time. -/
theorem cuts_log (deadline : Option Instant) (events : List Event) :
    Cuts deadline (modify fun w : World σ => w.logged events) (modify fun w => w.logged events) :=
  .of_instant (fun _ h => nomatch h) (fun v => v.grows_logged events) (fun _ => rfl) (fun _ => ⟨rfl, rfl⟩)

/-- Asking takes no time; only the answer does. -/
theorem cuts_called (deadline : Option Instant) (ctx : Context) (c : Call) :
    Cuts deadline (modify fun w : World σ => w.called ctx c) (modify fun w => w.called ctx.unbounded c) :=
  .of_instant (fun _ h => nomatch h) (fun v => v.grows_called _ c) (fun _ => rfl)
    (fun w => ⟨rfl, w.untimed_called ctx c⟩)

/-- An answer that is due is given at once. -/
theorem cuts_answer (deadline : Option Instant) (b : Backend σ) (c : Call) :
    Cuts deadline (answer b c) (answer b c) :=
  .of_instant (fun _ h => nomatch h) (fun v => v.grows_answer b c) (fun _ => rfl) (fun _ => ⟨rfl, rfl⟩)

/-! ## Sequencing -/

/-- What comes of two steps, by how the first one ends. -/
theorem bind_apply (m : Timed σ α) (k : α → Timed σ β) (w : World σ) :
    (m >>= k) w = match (m w).1 with
      | .returned a => k a (m w).2
      | .failed s => (.failed s, (m w).2)
      | .cut => (.cut, (m w).2) := by
  simp only [bind]
  rcases m w with ⟨_ | _ | _, u⟩ <;> rfl

/-- The comparison is kept by sequencing: a first part that ends in time leaves the deadline as far away as it
was, and a first part that is late makes the whole late. -/
theorem Cuts.bind {deadline : Option Instant} {m free : Timed σ α} {k next : α → Timed σ β}
    (first : Cuts deadline m free) (rest : ∀ a, Cuts deadline (k a) (next a)) :
    Cuts deadline (m >>= k) (free >>= next) := by
  have along : ∀ v : World σ, ((free >>= next) v).1 ≠ .cut ∧ (free v).2.Grows ((free >>= next) v).2 := by
    intro v
    rw [bind_apply]
    cases h : (free v).1 with
    | returned a => exact ⟨(rest a).endless _, (rest a).onward _⟩
    | failed s => exact ⟨(fun hs => nomatch hs), .refl _⟩
    | cut => exact absurd h (first.endless v)
  refine ⟨fun v => (along v).1, fun v => (first.onward v).trans (along v).2, ?_, ?_⟩
  · intro w ends
    have firstEnds := ends.mono (along w.untimed).2.now
    have start := (first.onward w.untimed).now
    obtain ⟨finish, world⟩ := first.inTime w firstEnds
    rw [bind_apply] at ends ⊢
    rw [bind_apply, finish]
    cases h : (free w.untimed).1 with
    | returned a =>
      rw [h, ← world] at ends
      rw [← world] at start firstEnds ⊢
      exact (rest a).inTime _ ((inTime_iff_of_le start firstEnds).2 ends)
    | failed s => exact ⟨rfl, world⟩
    | cut => exact absurd h (first.endless w.untimed)
  · intro w late
    have onward := (along w.untimed).2
    by_cases firstEnds : InTime deadline w.now (free w.untimed).2.now
    · have start := (first.onward w.untimed).now
      obtain ⟨finish, world⟩ := first.inTime w firstEnds
      rw [bind_apply] at late ⊢
      rw [bind_apply, finish]
      cases h : (free w.untimed).1 with
      | returned a =>
        rw [h, ← world] at late
        rw [← world] at start firstEnds ⊢
        have restLate := (rest a).late _ fun ends => late ((inTime_iff_of_le start firstEnds).1 ends)
        obtain ⟨cut, ⟨d, hd, now⟩, part⟩ := restLate
        exact ⟨cut, ⟨d, hd, now.trans (latest_eq_of_le start (firstEnds d hd))⟩, part⟩
      | failed s =>
        rw [h] at late
        exact absurd firstEnds late
      | cut => exact absurd h (first.endless w.untimed)
    · obtain ⟨cut, now, part⟩ := first.late w firstEnds
      rw [bind_apply m, cut]
      exact ⟨rfl, now, part.trans onward⟩

/-! ## Steps that take time -/

/-- A wait that ends in time is as long as it was meant to be. -/
theorem sleep_of_inTime {deadline : Option Instant} {d : Duration} {w : World σ}
    (ends : InTime deadline w.now (w.now.add d)) :
    sleep deadline d w = (.returned (), { w with now := w.now.add d }) := by
  unfold sleep
  split
  · next h =>
    rw [Duration.isZero_iff] at h
    subst h
    rfl
  · next h =>
    cases deadline with
    | none => rfl
    | some t =>
      have reached := ends t rfl
      have positive : d.nanos ≠ 0 := by simpa [Duration.isZero] using h
      rw [Instant.le_def, Instant.nanos_latest, Instant.nanos_add] at reached
      have inside : w.now.add d ≤ t.tick := by
        show w.now.nanos + d.nanos ≤ t.tick.nanos
        omega
      exact if_pos inside

/-- A wait that would end too late is cut when the timer goes off, or at once if that is over. -/
theorem sleep_of_late {deadline : Option Instant} {d : Duration} {w : World σ}
    (late : ¬InTime deadline w.now (w.now.add d)) :
    ∃ t, deadline = some t ∧ sleep deadline d w = (.cut, { w with now := w.now.latest t.tick }) ∧
      w.now.latest t.tick ≤ w.now.add d := by
  cases deadline with
  | none => exact absurd (fun _ h => nomatch h) late
  | some t =>
    have passed : ¬w.now.add d ≤ w.now.latest t.tick := fun h => late fun _ ht => Option.some.inj ht ▸ h
    rw [Instant.le_def, Instant.nanos_latest, Instant.nanos_add] at passed
    have positive : d.isZero = false := by
      simp only [Duration.isZero, beq_eq_false_iff_ne]
      omega
    have beyond : ¬w.now.add d ≤ t.tick := by
      rw [Instant.le_def, Instant.nanos_add]
      omega
    refine ⟨t, rfl, ?_, ?_⟩
    · simp only [sleep, positive, beyond, if_false, Bool.false_eq_true]
    · rw [Instant.le_def, Instant.nanos_latest, Instant.nanos_add]
      omega

/-- Nothing cuts a wait without a deadline. -/
theorem sleep_none (d : Duration) (w : World σ) : sleep none d w = (.returned (), { w with now := w.now.add d }) :=
  sleep_of_inTime fun _ h => nomatch h

/-- The one step that takes time: a wait is cut, or ends as it would without the deadline. -/
theorem cuts_sleep (deadline : Option Instant) (d : Duration) :
    Cuts (σ := σ) deadline (sleep deadline d) (sleep none d) where
  endless v := by rw [sleep_none]; exact fun h => nomatch h
  onward v := by rw [sleep_none]; exact ⟨v.now.le_add d, List.prefix_rfl, List.prefix_rfl⟩
  inTime w ends := by
    rw [sleep_none] at ends ⊢
    rw [sleep_of_inTime ends]
    exact ⟨rfl, rfl⟩
  late w late := by
    rw [sleep_none] at late ⊢
    obtain ⟨t, ht, run, order⟩ := sleep_of_late late
    rw [run]
    exact ⟨rfl, ⟨t, ht, rfl⟩, order, List.prefix_rfl, List.prefix_rfl⟩

end Timed

/-! ## Branches, two of them, and scripts -/

section Runs

variable {σ α β γ : Type} (b : Backend σ) (ctx : Context)

/-- The steps of a branch that has asked. -/
theorem Branch.settle_ask (c : Call) (verdict : Except Failure c.Reply → Verdict β) :
    (ask c verdict).settle b = (Timed.answer b c >>= fun reply =>
      (Timed.modify fun w => w.logged (verdict reply).events) >>= fun _ => Timed.ofExcept (verdict reply).result) := rfl

/-- The steps of a call. -/
theorem Script.run_ask (c : Call) (next : Except Failure c.Reply → Script α) :
    (ask c next).run b ctx = ((Timed.modify fun w => w.called ctx c) >>= fun _ =>
      Timed.sleep ctx.deadline (b.delay c) >>= fun _ => Timed.answer b c >>= fun reply => (next reply).run b ctx) := rfl

/-- A branch begins at once. -/
theorem Branch.begin_cuts (branch : Branch β) :
    Timed.Cuts ctx.deadline (branch.begin (σ := σ) ctx) (branch.begin ctx.unbounded) := by
  cases branch with
  | ready v => exact Timed.cuts_pure _ ()
  | ask c verdict => exact Timed.cuts_called _ ctx c

/-- A branch that has its answer is settled at once. -/
theorem Branch.settle_cuts (branch : Branch β) (deadline : Option Instant) :
    Timed.Cuts deadline (branch.settle b) (branch.settle b) := by
  cases branch with
  | ready v => exact Timed.cuts_pure _ v
  | ask c verdict =>
    rw [settle_ask]
    apply (Timed.cuts_answer deadline b c).bind
    intro reply
    apply (Timed.cuts_log deadline (verdict reply).events).bind
    intro _
    exact Timed.cuts_ofExcept deadline (verdict reply).result

/-- A branch is cut while it waits for its answer, if at all. -/
theorem Branch.settleAfter_cuts (branch : Branch β) (deadline : Option Instant) (d : Duration) :
    Timed.Cuts deadline (branch.settleAfter b deadline d) (branch.settleAfter b none d) :=
  (Timed.cuts_sleep deadline d).bind fun _ => branch.settle_cuts b deadline

/-- Two lookups are cut while they wait, whichever of them is waiting. -/
theorem runBoth_cuts (left : Branch β) (right : Branch γ) :
    Timed.Cuts ctx.deadline (runBoth b ctx left right) (runBoth b ctx.unbounded left right) := by
  apply (left.begin_cuts ctx).bind
  intro _
  split
  · apply (left.settle_cuts b _).bind
    intro x
    apply (right.begin_cuts ctx).bind
    intro _
    exact (right.settleAfter_cuts b _ _).bind fun y => Timed.cuts_pure _ (x, y)
  · apply (right.begin_cuts ctx).bind
    intro _
    split
    · apply (left.settleAfter_cuts b _ _).bind
      intro x
      exact (right.settleAfter_cuts b _ _).bind fun y => Timed.cuts_pure _ (x, y)
    · apply (right.settleAfter_cuts b _ _).bind
      intro y
      exact (left.settleAfter_cuts b _ _).bind fun x => Timed.cuts_pure _ (x, y)

/-- **A script under a deadline** is its free run, cut when the timer goes off if that is late. -/
theorem Script.run_cuts (script : Script α) :
    Timed.Cuts ctx.deadline (script.run b ctx) (script.run b ctx.unbounded) := by
  induction script with
  | done a => exact Timed.cuts_pure _ a
  | fail s => exact Timed.cuts_fail _ s
  | log e next ih => exact (Timed.cuts_log _ [e]).bind fun _ => ih
  | wait d next ih => exact (Timed.cuts_sleep _ d).bind fun _ => ih
  | ask c next ih =>
    rw [run_ask, run_ask]
    apply (Timed.cuts_called _ ctx c).bind
    intro _
    apply (Timed.cuts_sleep _ (b.delay c)).bind
    intro _
    exact (Timed.cuts_answer _ b c).bind ih
  | both left right next ih =>
    exact (runBoth_cuts b ctx left right).bind fun (x, y) => ih x y

end Runs
end ProfileGateway
