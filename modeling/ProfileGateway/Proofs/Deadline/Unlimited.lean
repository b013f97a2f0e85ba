import ProfileGateway.Deadline.Settings
import ProfileGateway.Proofs.Deadline.Lineage
/-!
# Calls without a deadline

Settings leave a call without a deadline only if they say so: by a zero for its kind, or by a zero for the default and
nothing for commands. Any other setting imposes a deadline, however large it is (`Settings.limits_of_settings`).
-/
namespace ProfileGateway

/-- What is before an instant that can be represented can be represented. -/
theorem Instant.Representable.of_le {a b : Instant} (le : a ≤ b) (representable : b.Representable) :
    a.Representable := Nat.lt_of_le_of_lt (Nat.div_le_div_right le) representable

namespace TimeoutPolicy

variable {command query default : Option Duration}

/-! ## Where timeouts come from -/

/-- A duration is a limit unless it is zero. -/
theorem limit?_eq_some {d limit : Duration} : limit? d = some limit ↔ d = limit ∧ limit ≠ .zero := by
  unfold limit?
  split
  · next unlimited =>
    rw [Duration.isZero_iff] at unlimited
    refine iff_of_false nofun ?_
    rintro ⟨rfl, limited⟩
    exact limited unlimited
  · next limited =>
    rw [Duration.isZero_iff] at limited
    rw [Option.some_inj]
    refine ⟨?_, And.left⟩
    rintro rfl
    exact ⟨rfl, limited⟩

/-- A configured duration is a limit unless it is zero. -/
theorem bind_limit?_eq_some {d : Option Duration} {limit : Duration} :
    d.bind limit? = some limit ↔ d = some limit ∧ limit ≠ .zero := by
  cases d with
  | none => simp
  | some d => rw [Option.bind_some, limit?_eq_some, Option.some_inj]

/-- What holds of all that is configured and of the fallbacks holds of every timeout. -/
theorem forKind_of_each (holds : Duration → Prop) (fallbackDefault : holds fallbackDefault)
    (fallbackQuery : holds fallbackQuery) (ofCommand : ∀ d, command = some d → holds d)
    (ofQuery : ∀ d, query = some d → holds d) (ofDefault : ∀ d, default = some d → holds d) (kind : OperationKind) :
    holds ((ofConfigured command query default).forKind kind) := by
  have either {a b : Option Duration} (left : ∀ d, a = some d → holds d) (right : ∀ d, b = some d → holds d) (d)
      (found : a.or b = some d) : holds d := by
    obtain found | ⟨-, found⟩ := Option.or_eq_some_iff.1 found
    · exact left d found
    · exact right d found
  have getD {a : Option Duration} {fallback : Duration} (own : ∀ d, a = some d → holds d)
      (other : holds fallback) : holds (a.getD fallback) := by
    cases a with
    | none => exact other
    | some d => exact own d rfl
  have default : holds (ofConfigured command query default).default :=
    getD (either (either ofDefault fun d found => ofCommand d (bind_limit?_eq_some.1 found).1)
      fun d found => ofQuery d (bind_limit?_eq_some.1 found).1) fallbackDefault
  cases kind with
  | command => exact getD ofCommand default
  | query => exact getD (either ofQuery fun d found => (limit?_eq_some.1 found).1 ▸ default) fallbackQuery
  | default => exact default

/-! ## Timeouts of zero -/

/-- With a fallback that is a limit, only a configured zero is zero. -/
theorem getD_eq_zero {d : Option Duration} {fallback : Duration} (limited : fallback ≠ .zero) :
    d.getD fallback = .zero ↔ d = some .zero := by
  cases d <;> simp [limited]

/-- With an alternative that is not zero, only a configured zero is zero. -/
theorem or_eq_zero {d other : Option Duration} (limited : other ≠ some .zero) :
    d.or other = some .zero ↔ d = some .zero := by
  cases d <;> simp [limited]

theorem limit?_ne_zero (d : Duration) : limit? d ≠ some .zero := fun zero => (limit?_eq_some.1 zero).2 rfl

theorem bind_limit?_ne_zero (d : Option Duration) : d.bind limit? ≠ some .zero := fun zero =>
  (bind_limit?_eq_some.1 zero).2 rfl

/-- The default timeout is zero exactly if it is configured so. -/
theorem default_eq_zero : (ofConfigured command query default).default = .zero ↔ default = some .zero := by
  rw [ofConfigured, getD_eq_zero (by decide), or_eq_zero (bind_limit?_ne_zero query),
    or_eq_zero (bind_limit?_ne_zero command)]

/-- The query timeout is zero exactly if it is configured so, for the default only stands in if it is a limit. -/
theorem query_eq_zero : (ofConfigured command query default).query = .zero ↔ query = some .zero := by
  rw [ofConfigured, getD_eq_zero (by decide), or_eq_zero (limit?_ne_zero _)]

/-- The command timeout is zero if it is configured so, or left to a default that is. -/
theorem command_eq_zero : (ofConfigured command query default).command = .zero ↔
    command = some .zero ∨ command = none ∧ default = some .zero := by
  cases command with
  | none =>
    have same : (ofConfigured none query default).default = .zero ↔ default = some .zero := default_eq_zero
    exact same.trans (by simp)
  | some d => simp [ofConfigured]

end TimeoutPolicy

namespace Settings

/-! ## What is configured -/

/-- The milliseconds that are configured for a kind. -/
def configured (c : Settings) : OperationKind → Option UInt64
  | .command => c.commandTimeout
  | .query => c.queryTimeout
  | .default => c.defaultTimeout

/-- The settings say that operations of the kind may take any time. -/
def Unlimited (c : Settings) : OperationKind → Prop
  | .command => c.commandTimeout = some 0 ∨ c.commandTimeout = none ∧ c.defaultTimeout = some 0
  | .query => c.queryTimeout = some 0
  | .default => c.defaultTimeout = some 0

/-- No setting is as long as this. -/
def beyondSettings : Duration := .ofMillis (Nat.pow 2 64)

variable {c : Settings} {kind : OperationKind} {n : UInt64}

/-- A timeout that is configured is the timeout of its kind. -/
theorem forKind_of_configured (given : c.configured kind = some n) :
    c.timeouts.forKind kind = .ofMillis n.toNat := by
  obtain ⟨command, query, default⟩ := c
  cases kind with
  | command =>
    obtain rfl : command = some n := given
    rfl
  | query =>
    obtain rfl : query = some n := given
    rfl
  | default =>
    obtain rfl : default = some n := given
    rfl

theorem ofMillis_eq_zero : Duration.ofMillis n.toNat = .zero ↔ n = 0 := by
  rw [← UInt64.toNat_inj, UInt64.toNat_zero, Duration.ofMillis, Duration.zero, Duration.mk.injEq]
  unfold Duration.nanosPerMilli
  omega

/-- The timeout of a kind is zero exactly if the settings leave it unlimited. -/
theorem forKind_eq_zero : c.timeouts.forKind kind = .zero ↔ c.Unlimited kind := by
  have millis (t : Option UInt64) : t.map (fun n => Duration.ofMillis n.toNat) = some .zero ↔ t = some 0 := by
    simp [Option.map_eq_some_iff, ofMillis_eq_zero]
  cases kind with
  | command => exact TimeoutPolicy.command_eq_zero.trans (by simp [millis, Unlimited])
  | query => exact TimeoutPolicy.query_eq_zero.trans (millis _)
  | default => exact TimeoutPolicy.default_eq_zero.trans (millis _)

/-- No timeout is as long as `beyondSettings`. -/
theorem nanos_forKind_le : (c.timeouts.forKind kind).nanos ≤ beyondSettings.nanos := by
  have millis (t : Option UInt64) (d : Duration) (given : t.map (fun n => Duration.ofMillis n.toNat) = some d) :
      d.nanos ≤ beyondSettings.nanos := by
    obtain ⟨n, -, rfl⟩ := Option.map_eq_some_iff.1 given
    exact Nat.mul_le_mul_right _ (Nat.le_of_lt n.toNat_lt)
  exact TimeoutPolicy.forKind_of_each (fun d => d.nanos ≤ beyondSettings.nanos) (by decide) (by decide) (millis _)
    (millis _) (millis _) kind

/-! ## Deadlines -/

variable {now : Instant}

/-- There is room for every timeout, so it has an end if it is a limit. -/
theorem timeoutEnd?_forKind (room : (now.add beyondSettings).Representable) : timeoutEnd? now (c.timeouts.forKind kind) =
    if c.timeouts.forKind kind = .zero then none else some (now.add (c.timeouts.forKind kind)) := by
  have within : (now.add (c.timeouts.forKind kind)).Representable :=
    room.of_le (Nat.add_le_add_left nanos_forKind_le now.nanos)
  rw [timeoutEnd?]
  split <;> simp_all

/-- What settings make of the deadlines of calls that begin at an instant. -/
structure Limits (c : Settings) (now : Instant) : Prop where
  /-- A timeout that is configured is the timeout of its kind. -/
  kept : ∀ kind n, c.configured kind = some n → c.timeouts.forKind kind = .ofMillis n.toNat
  zero : ∀ kind, c.timeouts.forKind kind = .zero ↔ c.Unlimited kind
  /-- A call has no deadline exactly if it brings none and the settings impose none. -/
  unlimited : ∀ kind (parent : Context) m,
    (c.timeouts.contextFor now parent m kind).deadline = none ↔ parent.deadline = none ∧ c.Unlimited kind
  /-- A timeout that is a limit imposes its end, besides the deadline that the call brings. -/
  limited : ∀ kind (parent : Context) m, ¬c.Unlimited kind → (c.timeouts.contextFor now parent m kind).deadline =
    Option.merge Instant.earliest parent.deadline (some (now.add (c.timeouts.forKind kind)))
  /-- No timeout that is configured is too long for that. -/
  imposed : ∀ kind (parent : Context) m n, c.configured kind = some n → n ≠ 0 →
    (c.timeouts.contextFor now parent m kind).deadline =
      Option.merge Instant.earliest parent.deadline (some (now.add (.ofMillis n.toNat)))

/-- **Calls without a deadline** are those whose kind has an explicit zero, and every other timeout is imposed as long
as the clock has room for the longest one. -/
theorem limits_of_settings (c : Settings) (room : (now.add beyondSettings).Representable) : c.Limits now := by
  have limited (kind) (parent : Context) (m) (limit : ¬c.Unlimited kind) :
      (c.timeouts.contextFor now parent m kind).deadline =
        Option.merge Instant.earliest parent.deadline (some (now.add (c.timeouts.forKind kind))) := by
    rw [TimeoutPolicy.deadline_contextFor, timeoutEnd?_forKind room, if_neg (mt forKind_eq_zero.1 limit)]
  refine ⟨fun _ _ => forKind_of_configured, fun _ => forKind_eq_zero, ?unlimited, limited, ?imposed⟩
  case unlimited =>
    intro kind parent m
    by_cases unlimited : c.Unlimited kind
    · rw [TimeoutPolicy.deadline_contextFor, timeoutEnd?_forKind room, if_pos (forKind_eq_zero.2 unlimited),
        Option.merge_none_right]
      simp [unlimited]
    · rw [limited kind parent m unlimited]
      cases parent.deadline <;> simp [unlimited]
  case imposed =>
    intro kind parent m n given pos
    have timeout := forKind_of_configured given
    rw [limited kind parent m fun unlimited => ?_, timeout]
    exact pos (ofMillis_eq_zero.1 (timeout.symm.trans (forKind_eq_zero.2 unlimited)))

/-- Queries have the longest timeout that there is, and commands have none because the default is zero. -/
theorem limits_of_settings_largest :
    let c : Settings := ⟨none, some 18446744073709551615, some 0⟩
    let parent := Context.root "largest"
    (Instant.start.add beyondSettings).Representable ∧
      (c.timeouts.contextFor .start parent .empty .command).deadline = none ∧
      (c.timeouts.contextFor .start parent .empty .query).deadline =
        some (Instant.start.add (.ofMillis 18446744073709551615)) ∧
      c.timeouts.forKind .query ≠ .zero := by
  intro c parent
  have room : (Instant.start.add beyondSettings).Representable := by decide +kernel
  have largest : (18446744073709551615 : UInt64).toNat = 18446744073709551615 := by decide
  have limits := limits_of_settings c room
  have imposed := limits.imposed .query parent .empty 18446744073709551615 rfl (by decide)
  rw [largest] at imposed
  refine ⟨room, (limits.unlimited .command parent .empty).2 ⟨rfl, .inr ⟨rfl, rfl⟩⟩, imposed, ?_⟩
  exact mt (limits.zero .query).1 (show some (18446744073709551615 : UInt64) ≠ some 0 by decide)

end Settings
end ProfileGateway
