import ProfileGateway.Proofs.Script.Course
/-!
# Two lookups at the same time

What two sources answer when they are asked together, and what comes of it: a pair if both answers are fit, and
else the failure that came first. Time decides between two failures and nothing else.
-/
namespace ProfileGateway

variable {σ β γ : Type}

/-- The answers to two calls made at the same time. Who is settled first answers first, and the other one answers
from the store as it is then. -/
def Backend.together (b : Backend σ) (c c' : Call) (s : σ) : Except Failure c.Reply × Except Failure c'.Reply :=
  if leftFirst (b.delay c) (b.delay c') then ((b.answer c s).1, (b.answer c' (b.answer c s).2).1)
  else ((b.answer c (b.answer c' s).2).1, (b.answer c' s).1)

/-- Both values, or the failure that comes first. -/
def joinResults (leftFirst : Bool) : Except Status β → Except Status γ → Except Status (β × γ)
  | .ok a, .ok c => .ok (a, c)
  | .error e, .ok _ => .error e
  | .ok _, .error f => .error f
  | .error e, .error f => .error (if leftFirst then e else f)

/-- A result that was made of another one has a value exactly if that has one. -/
theorem map_eq_ok {ε : Type} {x : Except ε β} {f : β → γ} {v : γ} :
    x.map f = .ok v ↔ ∃ a, x = .ok a ∧ f a = v := by
  cases x <;> simp [Except.map]

/-- Two results are joined exactly if both have values. -/
theorem joinResults_eq_ok {leftFirst : Bool} {x : Except Status β} {y : Except Status γ} {v : β × γ} :
    joinResults leftFirst x y = .ok v ↔ x = .ok v.1 ∧ y = .ok v.2 := by
  cases x <;> cases y <;> simp [joinResults, Prod.ext_iff]

/-- Two calls made at the same time come to the join of what their answers mean. -/
theorem Course.both_result (b : Backend σ) (c c' : Call) (v : Except Failure c.Reply → Verdict β)
    (v' : Except Failure c'.Reply → Verdict γ) (s : σ) :
    (Course.both b (.ask c v) (.ask c' v') s).result =
      joinResults (leftFirst (b.delay c) (b.delay c')) (v (b.together c c' s).1).result
        (v' (b.together c c' s).2).result := by
  unfold Course.both Backend.together
  simp only [Branch.delay, Branch.reply]
  by_cases order : leftFirst (b.delay c) (b.delay c') = true
  · simp only [order, if_true]
    cases (v (b.answer c s).1).result <;> cases (v' (b.answer c' (b.answer c s).2).1).result <;>
      simp [joinResults, Except.map]
  · simp only [order, if_false, Bool.false_eq_true]
    cases (v' (b.answer c' s).1).result <;> cases (v (b.answer c (b.answer c' s).2).1).result <;>
      simp [joinResults, Except.map]

/-- A lookup with nothing to ask for beside it. -/
theorem Course.both_ready_result (b : Backend σ) (left : Branch β) (value : γ) (s : σ) :
    (Course.both b left (.ready value) s).result = (left.reply b s).1.result.map fun a => (a, value) := by
  cases left with
  | ready v => rfl
  | ask c verdict =>
    unfold Course.both
    simp only [Branch.reply]
    split
    · cases (verdict (b.answer c s).1).result <;> rfl
    · rfl

/-- No calls are made but those of the two lookups, the left one first. -/
theorem Course.both_calls (b : Backend σ) (left : Branch β) (right : Branch γ) (s : σ) :
    (Course.both b left right s).calls <+: left.calls ++ right.calls := by
  unfold Course.both
  dsimp only
  split
  · split
    · dsimp only
      split
      · rw [List.append_nil]
        exact List.prefix_append _ _
      · exact List.prefix_rfl
    · exact List.prefix_rfl
  · split <;> exact List.prefix_rfl

end ProfileGateway
