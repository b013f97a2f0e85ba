import ProfileGateway.Proofs.Script.Together
/-!
# What scripts ask

Which calls a script may make can be told from the script alone, and so can that it asks no source twice. A property
of the store that those calls keep is kept by every run of the script, also by one that is cut (`Script.run_keeps`).
-/
namespace ProfileGateway

/-! ## Steps that keep a property -/

section Keeps

variable {σ α β γ : Type} {P : σ → Prop}

/-- The step keeps a property of the store, however it ends. -/
def Timed.Keeps (P : σ → Prop) (m : Timed σ α) : Prop := ∀ w : World σ, P w.store → P (m w).2.store

namespace Timed

/-- What two steps keep, they keep together. -/
theorem Keeps.bind {m : Timed σ α} {k : α → Timed σ β} (first : m.Keeps P) (rest : ∀ a, (k a).Keeps P) :
    (m >>= k).Keeps P := by
  intro w h
  have kept := first w h
  rw [bind_apply]
  cases (m w).1 with
  | returned a => exact rest a _ kept
  | failed s => exact kept
  | cut => exact kept

theorem keeps_pure (a : α) : (pure a : Timed σ α).Keeps P := fun _ h => h

theorem keeps_fail (s : Status) : (fail s : Timed σ α).Keeps P := fun _ h => h

/-- A result leaves the store alone. -/
theorem keeps_ofExcept (x : Except Status α) : (ofExcept x : Timed σ α).Keeps P := by
  cases x with
  | ok a => exact keeps_pure a
  | error s => exact keeps_fail s

/-- Logging leaves the store alone. -/
theorem keeps_log (events : List Event) : (modify fun w : World σ => w.logged events).Keeps P := fun _ h => h

/-- Asking leaves the store alone; only the answer may change it. -/
theorem keeps_called (ctx : Context) (c : Call) : (modify fun w : World σ => w.called ctx c).Keeps P := fun _ h => h

/-- Time leaves the store alone. -/
theorem keeps_sleep (deadline : Option Instant) (d : Duration) : (sleep (σ := σ) deadline d).Keeps P := by
  intro w h
  by_cases ends : InTime deadline w.now (w.now.add d)
  · rw [sleep_of_inTime ends]
    exact h
  · obtain ⟨t, -, run, -⟩ := sleep_of_late ends
    rw [run]
    exact h

/-- An answer keeps what the source keeps. -/
theorem keeps_answer {b : Backend σ} {c : Call} (answers : ∀ s, P s → P (b.answer c s).2) : (answer b c).Keeps P :=
  fun w h => answers w.store h

end Timed

variable {b : Backend σ} {ctx : Context}

/-- A branch that begins leaves the store alone. -/
theorem Branch.begin_keeps (branch : Branch β) : (branch.begin (σ := σ) ctx).Keeps P := by
  cases branch with
  | ready v => exact Timed.keeps_pure ()
  | ask c verdict => exact Timed.keeps_called ctx c

/-- The calls of a branch keep a property of the store. -/
def Branch.Safe (b : Backend σ) (P : σ → Prop) (branch : Branch β) : Prop :=
  ∀ c ∈ branch.calls, ∀ s, P s → P (b.answer c s).2

/-- A branch keeps what its call keeps. -/
theorem Branch.settle_keeps {branch : Branch β} (safe : branch.Safe b P) : (branch.settle b).Keeps P := by
  cases branch with
  | ready v => exact Timed.keeps_pure v
  | ask c verdict =>
    rw [settle_ask]
    refine (Timed.keeps_answer (safe c (List.mem_singleton_self c))).bind fun reply => ?_
    refine (Timed.keeps_log (verdict reply).events).bind fun _ => ?_
    exact Timed.keeps_ofExcept (verdict reply).result

/-- A branch that waits first keeps what its call keeps. -/
theorem Branch.settleAfter_keeps {branch : Branch β} (safe : branch.Safe b P) (deadline : Option Instant)
    (d : Duration) : (branch.settleAfter b deadline d).Keeps P :=
  (Timed.keeps_sleep deadline d).bind fun _ => branch.settle_keeps safe

/-- Two lookups keep what both their calls keep, in whatever order they are settled. -/
theorem runBoth_keeps {left : Branch β} {right : Branch γ} (safe : left.Safe b P) (safe' : right.Safe b P) :
    (runBoth b ctx left right).Keeps P := by
  refine left.begin_keeps.bind fun _ => ?_
  split
  · refine (left.settle_keeps safe).bind fun x => ?_
    refine right.begin_keeps.bind fun _ => ?_
    exact (right.settleAfter_keeps safe' _ _).bind fun y => Timed.keeps_pure (x, y)
  · refine right.begin_keeps.bind fun _ => ?_
    split
    · refine (left.settleAfter_keeps safe _ _).bind fun x => ?_
      exact (right.settleAfter_keeps safe' _ _).bind fun y => Timed.keeps_pure (x, y)
    · refine (right.settleAfter_keeps safe' _ _).bind fun y => ?_
      exact (left.settleAfter_keeps safe _ _).bind fun x => Timed.keeps_pure (x, y)

end Keeps

/-! ## Scripts -/

namespace Script

variable {σ α β : Type} {allowed : Call → Prop}

/-- The script makes no other calls than these. -/
def Asks (allowed : Call → Prop) : Script α → Prop
  | done _ | fail _ => True
  | log _ next | wait _ next => next.Asks allowed
  | ask c next => allowed c ∧ ∀ reply, (next reply).Asks allowed
  | both left right next => (∀ c ∈ left.calls ++ right.calls, allowed c) ∧ ∀ x y, (next x y).Asks allowed

/-- **A run keeps** what the calls of its script keep. -/
theorem run_keeps {b : Backend σ} {ctx : Context} {P : σ → Prop} {script : Script α} (asks : script.Asks allowed)
    (answers : ∀ c, allowed c → ∀ s, P s → P (b.answer c s).2) : (script.run b ctx).Keeps P := by
  induction script with
  | done a => exact Timed.keeps_pure a
  | fail s => exact Timed.keeps_fail s
  | log e next ih => exact (Timed.keeps_log [e]).bind fun _ => ih asks
  | wait d next ih => exact (Timed.keeps_sleep _ d).bind fun _ => ih asks
  | ask c next ih =>
    rw [run_ask]
    refine (Timed.keeps_called ctx c).bind fun _ => ?_
    refine (Timed.keeps_sleep _ (b.delay c)).bind fun _ => ?_
    exact (Timed.keeps_answer (answers c asks.1)).bind fun reply => ih reply (asks.2 reply)
  | both left right next ih =>
    have safe : left.Safe b P := fun c hc => answers c (asks.1 c (List.mem_append_left _ hc))
    have safe' : right.Safe b P := fun c hc => answers c (asks.1 c (List.mem_append_right _ hc))
    exact (runBoth_keeps safe safe').bind fun (x, y) => ih x y (asks.2 x y)

/-- A call that is cut while it waits has been made, and nothing has come of it. -/
theorem run_of_late {b : Backend σ} {ctx : Context} {c : Call} {next : Except Failure c.Reply → Script α}
    {w : World σ} (late : ¬InTime ctx.deadline w.now (w.now.add (b.delay c))) :
    ∃ t, ctx.deadline = some t ∧
      (ask c next).run b ctx w = (.cut, { w.called ctx c with now := w.now.latest t.tick }) := by
  obtain ⟨t, imposed, slept, -⟩ := Timed.sleep_of_late (w := w.called ctx c) late
  have called : Timed.modify (fun w => w.called ctx c) w = (.returned (), w.called ctx c) := rfl
  refine ⟨t, imposed, ?_⟩
  rw [run_ask, Timed.bind_apply, called]
  dsimp only
  rw [Timed.bind_apply, slept]
  rfl

/-- Scripts one after the other make no calls but theirs. -/
theorem Asks.bind {script : Script α} {next : α → Script β} (asks : script.Asks allowed)
    (rest : ∀ a, (next a).Asks allowed) : (script >>= next).Asks allowed := by
  change (script.bind next).Asks allowed
  induction script with
  | done a => exact rest a
  | fail s => exact trivial
  | log e next' ih => exact ih asks
  | wait d next' ih => exact ih asks
  | ask c next' ih => exact ⟨asks.1, fun reply => ih reply (asks.2 reply)⟩
  | both left right next' ih => exact ⟨asks.1, fun x y => ih x y (asks.2 x y)⟩

/-- What follows on an input is asked only if the input is accepted. -/
theorem asks_accept_bind {x : Except Refusal α} {next : α → Script β} (rest : ∀ a, x = .ok a → (next a).Asks allowed) :
    (accept x >>= next).Asks allowed := by
  cases x with
  | ok a => exact rest a rfl
  | error r => exact trivial

/-- Logging makes no calls. -/
theorem asks_logging (events : List Event) {next : Script α} (asks : next.Asks allowed) :
    (logging events next).Asks allowed := by
  induction events with
  | nil => exact asks
  | cons e es ih => exact ih

/-- A call makes one call. -/
theorem asks_call {c : Call} (h : allowed c) : (call c).Asks allowed := by
  refine ⟨h, fun reply => ?_⟩
  cases reply with
  | ok a => exact trivial
  | error f => exact asks_logging f.events trivial

/-- A lookup makes the call of its branch. -/
theorem asks_lookup {branch : Branch α} (h : ∀ c ∈ branch.calls, allowed c) : (lookup branch).Asks allowed := by
  cases branch with
  | ready v => exact trivial
  | ask c verdict =>
    refine ⟨h c (List.mem_singleton_self c), fun reply => asks_logging _ ?_⟩
    cases (verdict reply).result <;> exact trivial

/-- The calls of a free run are those that the script may make. -/
theorem Asks.of_mem_calls {b : Backend σ} {script : Script α} {s : σ} {c : Call} (asks : script.Asks allowed)
    (h : c ∈ (script.course b s).calls) : allowed c := by
  induction script generalizing s with
  | done a | fail e => cases h
  | log e next ih | wait d next ih => exact ih asks h
  | ask c' next ih =>
    rcases List.mem_cons.1 h with rfl | h
    · exact asks.1
    · exact ih _ (asks.2 _) h
  | both left right next ih =>
    rw [course, Course.calls_bind] at h
    rcases List.mem_append.1 h with h | h
    · exact asks.1 c ((Course.both_calls b left right s).mem h)
    · cases joined : (Course.both b left right s).result with
      | error e => simp [joined] at h
      | ok v =>
        rw [joined] at h
        exact ih _ _ (asks.2 _ _) h

/-- Two lookups make the calls of their branches. -/
theorem asks_joined {left : Branch α} {right : Branch β} (h : ∀ c ∈ left.calls ++ right.calls, allowed c) :
    (joined left right).Asks allowed := ⟨h, fun _ _ => trivial⟩

end Script

/-! ## Sources in their turn -/

namespace Script

variable {σ α β : Type} {b : Backend σ} {sources sources' : List Source}

/-- Whatever is answered, the script asks no other sources than these, each of them in its turn and once at most. -/
def AsksInTurn (b : Backend σ) (sources : List Source) (script : Script α) : Prop :=
  ∀ s, ((script.course b s).calls.map Call.source).Sublist sources

/-- The sources of scripts one after the other are asked in that order. -/
theorem AsksInTurn.bind {script : Script α} {next : α → Script β} (first : script.AsksInTurn b sources)
    (rest : ∀ a, (next a).AsksInTurn b sources') : (script >>= next).AsksInTurn b (sources ++ sources') := by
  intro s
  rw [course_bind, Course.calls_bind, List.map_append]
  refine List.Sublist.append (first s) ?_
  cases (script.course b s).result with
  | ok a => exact rest a _
  | error e => exact List.nil_sublist _

/-- An input that is checked first has no part in which sources are asked. -/
theorem asksInTurn_accept_bind {x : Except Refusal α} {next : α → Script β}
    (rest : ∀ a, (next a).AsksInTurn b sources) : (accept x >>= next).AsksInTurn b sources := by
  cases x with
  | ok a => exact rest a
  | error r => exact fun s => List.nil_sublist _

theorem asksInTurn_done (a : α) : (done a).AsksInTurn b [] := fun _ => List.Sublist.refl []

/-- A call asks its source. -/
theorem asksInTurn_call (c : Call) : (call c).AsksInTurn b [c.source] := by
  intro s
  rw [course_call]
  exact List.Sublist.refl _

/-- A branch asks one source once, or none. -/
theorem sources_branch {branch : Branch α} {source : Source} (asks : ∀ c ∈ branch.calls, c.source = source) :
    (branch.calls.map Call.source).Sublist [source] := by
  cases branch with
  | ready v => exact List.nil_sublist _
  | ask c settle =>
    rw [← asks c (List.mem_singleton_self c)]
    exact List.Sublist.refl _

/-- A lookup asks the source of its branch once at most. -/
theorem asksInTurn_lookup {branch : Branch α} {source : Source} (asks : ∀ c ∈ branch.calls, c.source = source) :
    (lookup branch).AsksInTurn b [source] := by
  intro s
  rw [course_lookup]
  exact sources_branch asks

/-- Two lookups ask the source of either branch once at most. -/
theorem asksInTurn_joined {left : Branch α} {right : Branch β} {source source' : Source}
    (asks : ∀ c ∈ left.calls, c.source = source) (asks' : ∀ c ∈ right.calls, c.source = source') :
    (joined left right).AsksInTurn b [source, source'] := by
  intro s
  rw [course_joined]
  refine ((Course.both_calls b left right s).sublist.map Call.source).trans ?_
  rw [List.map_append]
  exact List.Sublist.append (sources_branch asks) (sources_branch asks')

end Script

/-- A batch is looked up in one call, if in any. -/
theorem batchLookup_calls {ρ : Type} [Row ρ] {source : String} {asked : IdSet} {fetch : List Uuid → Ask (List ρ)}
    {c : Call} (h : c ∈ (batchLookup source asked fetch).calls) : c = (fetch asked.ids).call := by
  unfold batchLookup at h
  split at h
  · cases h
  · exact List.mem_singleton.1 h

end ProfileGateway
