import ProfileGateway.Proofs.Collaborator.Versions
import ProfileGateway.Proofs.Operation.Calls
import ProfileGateway.Proofs.Operation.Profiles
/-!
# Turns of clients

Clients take turns before one store, in any order. An operation takes its turn when the store answers it; an
operation that is still under way can have a single call of its own answered between the turns of others. The
version of a profile counts the updates of it that have succeeded (`Store.version?_after`).
-/
namespace ProfileGateway

open Operation

/-- What a call meets with, the store aside. -/
structure Setting where
  policy : TimeoutPolicy
  conditions : Conditions
  call : Arrival
  now : Instant

namespace Setting

/-- The call, and the store that it meets with. -/
def occasion (x : Setting) (s : Store) : Occasion Store := ⟨x.conditions.backend, x.policy, x.call, x.now, s⟩

/-- What comes of an update. -/
def update (x : Setting) (r : UpdateProfileRequest) (s : Store) : Answer Store ProfileView :=
  (x.occasion s).serve (.updateProfile r)

/-- The update is of the profile of this user. -/
def Concerns (x : Setting) (r : UpdateProfileRequest) (u : Uuid) : Prop :=
  ActingUser.resolve r.userId x.call.carried = .ok u

instance (x : Setting) (r : UpdateProfileRequest) (u : Uuid) : Decidable (x.Concerns r u) :=
  inferInstanceAs (Decidable (_ = _))

/-- The update expects this version, be it in its request or in a header. -/
def Expects (x : Setting) (r : UpdateProfileRequest) (n : Int64) : Prop :=
  Precondition.ofRequest r.expectedVersion x.call.carried = .ok (.exactly n)

instance (x : Setting) (r : UpdateProfileRequest) (n : Int64) : Decidable (x.Expects r n) :=
  inferInstanceAs (Decidable (_ = _))

def Succeeds (x : Setting) (r : UpdateProfileRequest) (s : Store) : Prop := (x.update r s).result.isOk = true

instance (x : Setting) (r : UpdateProfileRequest) (s : Store) : Decidable (x.Succeeds r s) :=
  inferInstanceAs (Decidable (_ = true))

/-- The failures of an update that have nothing to do with versions. -/
inductive FailsOtherwise (x : Setting) (r : UpdateProfileRequest) (s : Store) : Status → Prop
  | refused (e : Refusal) : (x.occasion s).change r = .error e → FailsOtherwise x r s e.status
  | cut : ¬(x.occasion s).Uncut (.updateProfile r) → FailsOtherwise x r s .deadlineExceeded
  | injected (f : Failure) : x.conditions.failure .updateProfile = some f → FailsOtherwise x r s f.status
  | missing (u : Uuid) : x.Concerns r u → s.version? u = none → FailsOtherwise x r s (Store.profileNotFound u).status

/-- **An update before the in-memory store** is refused, or cut, or made to fail, or comes to what the store answers. -/
theorem update_cases (x : Setting) (r : UpdateProfileRequest) (s : Store) :
    (∃ e, (x.occasion s).change r = .error e ∧ (x.update r s).result = .error e.status ∧ (x.update r s).store = s) ∨
    (¬(x.occasion s).Uncut (.updateProfile r) ∧ (x.update r s).result = .error .deadlineExceeded ∧
      (x.update r s).store = s) ∨
    ∃ change, (x.occasion s).change r = .ok change ∧
      ((∃ f, x.conditions.failure .updateProfile = some f ∧ (x.update r s).result = .error f.status ∧
        (x.update r s).store = s) ∨
      x.conditions.failure .updateProfile = none ∧
        (x.update r s).result = ((s.updateProfile change).1.mapError Failure.status).map viewOf ∧
        (x.update r s).store = (s.updateProfile change).2) := by
  rcases (x.occasion s).update_cases r with refused | cut | ⟨change, accepted, result, store⟩
  · exact .inl refused
  · exact .inr (.inl cut)
  · refine .inr (.inr ⟨change, accepted, ?_⟩)
    change (x.update r s).result =
      ((x.conditions.backend.answer (.updateProfile change) s).1.mapError Failure.status).map viewOf at result
    change (x.update r s).store = (x.conditions.backend.answer (.updateProfile change) s).2 at store
    rw [x.conditions.answer_update] at result store
    cases failure : x.conditions.failure .updateProfile with
    | some f =>
      rw [failure] at result store
      exact .inl ⟨f, rfl, result, store⟩
    | none =>
      rw [failure] at result store
      exact .inr ⟨rfl, result, store⟩

/-- **An update in the in-memory store** moves the version by one, unless it fails, and leaves the store as it is. -/
theorem update_spec (x : Setting) (r : UpdateProfileRequest) (s : Store) :
    (∃ e, (x.update r s).result = .error e ∧ (x.update r s).store = s ∧ (x.FailsOtherwise r s e ∨
      e = .versionConflict ∧ ∃ u n v, x.Concerns r u ∧ x.Expects r n ∧ s.version? u = some v ∧ n ≠ v)) ∨
    ∃ u v p, (x.update r s).result = .ok (viewOf p) ∧ (x.update r s).store = s.withProfile u p ∧ x.Concerns r u ∧
      s.version? u = some v ∧ p.version = v + 1 ∧ ∀ n, x.Expects r n → n = v := by
  rcases x.update_cases r s with ⟨e, refused, result, store⟩ | ⟨cut, result, store⟩ |
    ⟨write, accepted, ⟨f, failure, result, store⟩ | ⟨-, result, store⟩⟩
  · exact .inl ⟨_, result, store, .inl (.refused e refused)⟩
  · exact .inl ⟨_, result, store, .inl (.cut cut)⟩
  · exact .inl ⟨_, result, store, .inl (.injected f failure)⟩
  · obtain ⟨concerns, precondition⟩ := Occasion.change_spec accepted
    rcases s.updateProfile_cases write with ⟨missing, answer⟩ | ⟨v, stored, ⟨n, expects, other, answer⟩ |
      ⟨p, expects, version, answer⟩⟩ <;> rw [answer] at result store
    · exact .inl ⟨_, result, store, .inl (.missing write.userId concerns missing)⟩
    · rw [expects] at precondition
      exact .inl ⟨_, result, store, .inr ⟨rfl, _, n, v, concerns, precondition, stored, other⟩⟩
    · refine .inr ⟨_, v, p, result, store, concerns, stored, version, fun n h => expects n ?_⟩
      exact Except.ok.inj (precondition.symm.trans h)

variable {x : Setting} {r : UpdateProfileRequest} {s : Store} {u : Uuid}

/-- An update concerns one profile. -/
theorem Concerns.unique {u' : Uuid} (h : x.Concerns r u) (h' : x.Concerns r u') : u = u' :=
  Except.ok.inj (h.symm.trans h')

/-- A call expects one version at most. -/
theorem Expects.unique {n m : Int64} (h : x.Expects r n) (h' : x.Expects r m) : n = m :=
  Option.some.inj (congrArg Precondition.expectedVersion (Except.ok.inj (h.symm.trans h')))

/-- An update that succeeds found the version it expects, and shows the next one. -/
theorem Succeeds.spec (success : x.Succeeds r s) (concerns : x.Concerns r u) :
    ∃ v p, (x.update r s).result = .ok (viewOf p) ∧ (x.update r s).store = s.withProfile u p ∧
      s.version? u = some v ∧ p.version = v + 1 ∧ ∀ n, x.Expects r n → n = v := by
  rcases x.update_spec r s with ⟨e, failed, -⟩ | ⟨u', v, p, result, store, concerns', rest⟩
  · rw [Succeeds, failed] at success
    cases success
  · cases concerns.unique concerns'
    exact ⟨v, p, result, store, rest⟩

/-- An update that fails leaves the store as it is. If the profile is there it failed otherwise, or it expects
another version. -/
theorem spec_of_failed {v : Int64} (failed : ¬x.Succeeds r s) (concerns : x.Concerns r u)
    (stored : s.version? u = some v) : ∃ e, (x.update r s).result = .error e ∧
      (x.FailsOtherwise r s e ∨ e = .versionConflict ∧ ∃ n, x.Expects r n ∧ n ≠ v) := by
  rcases x.update_spec r s with ⟨e, result, -, why⟩ | ⟨u', v', p, result, -⟩
  · refine ⟨e, result, why.imp_right ?_⟩
    rintro ⟨conflict, u', n, v', concerns', expects, stored', other⟩
    cases concerns.unique concerns'
    cases stored.symm.trans stored'
    exact ⟨conflict, n, expects, other⟩
  · exact absurd (by rw [Succeeds, result]; rfl) failed

/-- An update that fails leaves the store as it is. -/
theorem store_of_failed (failed : ¬x.Succeeds r s) : (x.update r s).store = s := by
  rcases x.update_spec r s with ⟨e, -, store, -⟩ | ⟨u, v, p, result, -⟩
  · exact store
  · exact absurd (by rw [Succeeds, result]; rfl) failed

end Setting

/-! ## Turns -/

/-- An operation of a client is served, or a call of an operation that is under way is answered. -/
inductive Turn
  | serve (op : Operation) (x : Setting)
  | answer (conditions : Conditions) (c : Call) (other : c.source ≠ .updateProfile)

namespace Turn

/-- The store after a turn. -/
def next (s : Store) : Turn → Store
  | serve op x => ((x.occasion s).serve op).store
  | answer conditions c _ => (conditions.backend.answer c s).2

/-- The turn is an update of this user's profile, and it succeeds. -/
def updates (u : Uuid) (s : Store) : Turn → Bool
  | serve (.updateProfile r) x => x.Concerns r u ∧ x.Succeeds r s
  | _ => false

/-- The turn is a read or an update of this user's profile, and its response has this tag. -/
def Shows (u : Uuid) (s : Store) (etag : String) : Turn → Prop
  | serve (.getProfile r) x => ActingUser.resolve r.userId x.call.carried = .ok u ∧
      ∃ view, ((x.occasion s).serve (.getProfile r)).result = .ok view ∧ view.etag = etag
  | serve (.updateProfile r) x => x.Concerns r u ∧ ∃ view, (x.update r s).result = .ok view ∧ view.etag = etag
  | _ => False

variable {u : Uuid} {s : Store}

/-- No turn but an update changes a version. -/
theorem version?_serve {op : Operation} (other : ∀ r, op ≠ .updateProfile r) (x : Setting) (s : Store) (u : Uuid) :
    (next s (serve op x)).version? u = s.version? u := by
  refine Occasion.serve_keeps (x := x.occasion s) (P := fun s' => s'.version? u = s.version? u) ?_ rfl
  intro c asks s' same
  rw [← same]
  exact x.conditions.version?_answer (asks.source_ne other) s' u

/-- **A turn** moves a version by one if it is an update that succeeds, and not at all otherwise. -/
theorem version?_next (t : Turn) (s : Store) (u : Uuid) :
    (t.updates u s = true ∧ ∃ v, s.version? u = some v ∧ (t.next s).version? u = some (v + 1)) ∨
      t.updates u s = false ∧ (t.next s).version? u = s.version? u := by
  cases t with
  | answer conditions c other => exact .inr ⟨rfl, conditions.version?_answer other s u⟩
  | serve op x =>
    cases op with
    | updateProfile r =>
      change _ ∨ _ ∧ (x.update r s).store.version? u = s.version? u
      by_cases succeeds : x.Succeeds r s
      · by_cases concerns : x.Concerns r u
        · obtain ⟨v, p, -, store, stored, version, -⟩ := succeeds.spec concerns
          refine .inl ⟨decide_eq_true ⟨concerns, succeeds⟩, v, stored, ?_⟩
          change (x.update r s).store.version? u = some (v + 1)
          rw [store, Store.version?_withProfile, if_pos rfl, version]
        · refine .inr ⟨decide_eq_false fun h => concerns h.1, ?_⟩
          rcases x.update_spec r s with ⟨e, -, store, -⟩ | ⟨u', v, p, -, store, concerns', -⟩
          · rw [store]
          · have other : u' ≠ u := fun h => concerns (h ▸ concerns')
            rw [store, Store.version?_withProfile, if_neg other]
      · exact .inr ⟨decide_eq_false fun h => succeeds h.2, by rw [Setting.store_of_failed succeeds]⟩
    | _ => exact .inr ⟨rfl, version?_serve (by simp) x s u⟩

/-- A response shows the tag of the version that the store has after it. -/
theorem version?_of_shows {t : Turn} {etag : String} (shows : t.Shows u s etag) :
    ∃ v, (t.next s).version? u = some v ∧ etag = Etag.ofVersion v := by
  cases t with
  | answer conditions c other => cases shows
  | serve op x =>
    cases op with
    | getProfile r =>
      obtain ⟨acting, view, success, rfl⟩ := shows
      obtain ⟨user, p, acting', answered, rfl⟩ := Occasion.get_of_ok success
      cases acting.symm.trans acting'
      refine ⟨p.version, ?_, rfl⟩
      rw [version?_serve (by simp)]
      exact x.conditions.version?_of_get answered
    | updateProfile r =>
      obtain ⟨concerns, view, success, rfl⟩ := shows
      have succeeds : x.Succeeds r s := by rw [Setting.Succeeds, success]; rfl
      obtain ⟨v, p, result, store, -, version, -⟩ := succeeds.spec concerns
      cases success.symm.trans result
      refine ⟨p.version, ?_, rfl⟩
      change (x.update r s).store.version? u = some p.version
      rw [store, Store.version?_withProfile, if_pos rfl]
    | _ => cases shows

end Turn

/-! ## Runs -/

/-- The store after some turns. -/
def Store.after (s : Store) (run : List Turn) : Store := run.foldl Turn.next s

/-- How many of the turns are updates of this user's profile that succeed. -/
def successes (u : Uuid) : Store → List Turn → Nat
  | _, [] => 0
  | s, t :: run => (if t.updates u s then 1 else 0) + successes u (t.next s) run

theorem Store.after_append (s : Store) (run more : List Turn) : s.after (run ++ more) = (s.after run).after more :=
  List.foldl_append

/-- The successes of a run are those of its first part and those of the rest, counted from where the first part ends. -/
theorem successes_append (u : Uuid) (s : Store) (run more : List Turn) :
    successes u s (run ++ more) = successes u s run + successes u (s.after run) more := by
  induction run generalizing s with
  | nil => exact (Nat.zero_add _).symm
  | cons t run ih =>
    rw [List.cons_append, successes, ih, successes, Nat.add_assoc]
    rfl

/-- **A run** moves a version by the number of updates that succeed, as long as there are versions left. -/
theorem Store.version?_after {s : Store} {u : Uuid} {v : Int64} {run : List Turn} (stored : s.version? u = some v)
    (nonneg : 0 ≤ v.toInt) (few : v.toInt + successes u s run ≤ Int64.maxValue.toInt) :
    ∃ w, (s.after run).version? u = some w ∧ w.toInt = v.toInt + successes u s run := by
  induction run generalizing s v with
  | nil => exact ⟨v, stored, by simp [successes]⟩
  | cons t run ih =>
    rw [successes] at few ⊢
    rcases t.version?_next s u with ⟨updates, v', stored', moved⟩ | ⟨updates, same⟩
    · cases stored.symm.trans stored'
      rw [if_pos updates] at few ⊢
      have next : (v + 1).toInt = v.toInt + 1 := by
        have most : Int64.maxValue.toInt = 0x7fffffffffffffff := by decide
        rw [Int64.toInt_add, Int64.toInt_one]
        apply Int.bmod_eq_of_le <;> omega
      obtain ⟨w, after, version⟩ := ih moved (by omega) (by omega)
      exact ⟨w, after, by omega⟩
    · rw [updates] at few ⊢
      obtain ⟨w, after, version⟩ := ih (same.trans stored) nonneg (by simpa using few)
      exact ⟨w, after, by simpa using version⟩

end ProfileGateway
