import ProfileGateway.Deadline.Settings
import ProfileGateway.Proofs.Write.Etag
import ProfileGateway.Proofs.Write.Turns
/-!
# No lost update

Whoever updates a profile on condition of a version that it was shown succeeds exactly if nobody else has updated the
profile since (`no_lost_update`). The version of a profile counts its updates, and its tag says which version it is.
-/
namespace ProfileGateway

open Operation

/-- The update sends this tag in `If-Match`, and no version of its own. Nothing but a version can make it fail. -/
structure Setting.Resends (x : Setting) (r : UpdateProfileRequest) (u : Uuid) (etag : String) (s : Store) : Prop where
  plain : r.expectedVersion = none
  sent : ∃ h, x.call.metadata = .ofHeaders h ∧ h.get? Headers.ifMatchName = some etag
  concerns : x.Concerns r u
  mask : ∃ mask, UpdateMask.ofPaths maskPaths r.updateMask = .ok mask
  working : x.conditions.failure .updateProfile = none
  uncut : (x.occasion s).Uncut (.updateProfile r)

/-- What holds of this user's profile in all runs that begin here, while there are versions left. -/
structure NoLostUpdate (u : Uuid) (s : Store) (v : Int64) : Prop where
  /-- The version counts the updates that have succeeded. -/
  counts : ∀ run, v.toInt + successes u s run ≤ Int64.maxValue.toInt →
    ∃ w, (s.after run).version? u = some w ∧ w.toInt = v.toInt + successes u s run
  /-- An update that expects a version succeeds on that version only. -/
  guarded : ∀ run (x : Setting) r n, x.Concerns r u → x.Expects r n → x.Succeeds r (s.after run) →
    (s.after run).version? u = some n
  /-- One that does not succeed is told so, unless it fails for another reason. -/
  aborted : ∀ run (x : Setting) r n, v.toInt + successes u s run ≤ Int64.maxValue.toInt →
    x.Concerns r u → x.Expects r n → ¬x.Succeeds r (s.after run) →
    (x.update r (s.after run)).result = .error .versionConflict ∨
      ∃ e, (x.update r (s.after run)).result = .error e ∧ x.FailsOtherwise r (s.after run) e
  /-- Of the updates that expect one version, one succeeds at most. -/
  once : ∀ run (x : Setting) r between (x' : Setting) r' n,
    let later := run ++ .serve (.updateProfile r) x :: between
    v.toInt + successes u s later ≤ Int64.maxValue.toInt →
    x.Concerns r u → x.Expects r n → x'.Concerns r' u → x'.Expects r' n →
    x.Succeeds r (s.after run) → ¬x'.Succeeds r' (s.after later)
  /-- An update that sends the tag of an earlier response succeeds exactly if none has succeeded in between. -/
  fresh : ∀ run (t : Turn) between etag (x : Setting) r,
    let later := run ++ t :: between
    v.toInt + successes u s later ≤ Int64.maxValue.toInt →
    t.Shows u (s.after run) etag → x.Resends r u etag (s.after later) →
    (x.Succeeds r (s.after later) ↔ successes u (s.after (run ++ [t])) between = 0)

section Law

variable {u : Uuid} {s : Store} {v : Int64}

/-- An update that sends the tag of a version succeeds exactly on that version. -/
theorem Setting.Resends.succeeds_iff {x : Setting} {r : UpdateProfileRequest} {w : Int64} (nonneg : 0 ≤ v)
    (resends : x.Resends r u (Etag.ofVersion v) s) (stored : s.version? u = some w) : x.Succeeds r s ↔ v = w := by
  obtain ⟨h, metadata, sent⟩ := resends.sent
  have expects : x.Expects r v := by
    unfold Expects
    rw [resends.plain]
    exact Etag.ofRequest_shown nonneg metadata sent
  constructor
  · intro success
    obtain ⟨w', p, -, -, stored', -, guarded⟩ := success.spec resends.concerns
    cases stored.symm.trans stored'
    exact guarded v expects
  · intro same
    refine Classical.byContradiction fun failed => ?_
    obtain ⟨e, -, otherwise | ⟨-, n, expects', other⟩⟩ := spec_of_failed failed resends.concerns stored
    · cases otherwise with
      | refused e refused =>
        obtain ⟨mask, names⟩ := resends.mask
        obtain ⟨write, accepted, -⟩ := Occasion.change_of_valid (x := x.occasion s) resends.concerns names expects
        cases refused.symm.trans accepted
      | cut cut => exact cut resends.uncut
      | injected f failure => cases resends.working.symm.trans failure
      | missing u' concerns missing =>
        cases resends.concerns.unique concerns
        cases stored.symm.trans missing
    · exact other ((expects'.unique expects).trans same)

variable (stored : s.version? u = some v) (nonneg : 0 ≤ v.toInt)
include stored nonneg

/-- The version does not fall between two moments of a run, and it rises with every update that succeeds. -/
theorem versions_of_run {run more : List Turn} (few : v.toInt + successes u s (run ++ more) ≤ Int64.maxValue.toInt) :
    ∃ w w', (s.after run).version? u = some w ∧ (s.after (run ++ more)).version? u = some w' ∧ 0 ≤ w.toInt ∧
      w'.toInt = w.toInt + successes u (s.after run) more := by
  rw [successes_append] at few
  have early : v.toInt + successes u s run ≤ Int64.maxValue.toInt := by omega
  obtain ⟨w, before, version⟩ := Store.version?_after stored nonneg early
  have late : w.toInt + successes u (s.after run) more ≤ Int64.maxValue.toInt := by omega
  obtain ⟨w', after, version'⟩ := Store.version?_after before (by omega) late
  rw [← Store.after_append] at after
  exact ⟨w, w', before, after, by omega, version'⟩

/-- Two updates that both succeed find different versions. -/
theorem not_succeeds_again {run between : List Turn} {x x' : Setting} {r r' : UpdateProfileRequest} {n : Int64}
    (few : v.toInt + successes u s (run ++ .serve (.updateProfile r) x :: between) ≤ Int64.maxValue.toInt)
    (concerns : x.Concerns r u) (expects : x.Expects r n) (concerns' : x'.Concerns r' u) (expects' : x'.Expects r' n)
    (first : x.Succeeds r (s.after run)) :
    ¬x'.Succeeds r' (s.after (run ++ .serve (.updateProfile r) x :: between)) := by
  intro again
  obtain ⟨w, w', before, after, -, version⟩ := versions_of_run stored nonneg few
  obtain ⟨_, _, -, -, found, -, guarded⟩ := first.spec concerns
  obtain ⟨_, _, -, -, found', -, guarded'⟩ := again.spec concerns'
  cases found.symm.trans before
  cases found'.symm.trans after
  have counted : Turn.updates u (s.after run) (.serve (.updateProfile r) x) = true :=
    decide_eq_true ⟨concerns, first⟩
  rw [successes, if_pos counted, ← guarded n expects, ← guarded' n expects'] at version
  omega

/-- The tag of a response is fresh until the next update that succeeds. -/
theorem succeeds_iff_fresh {run between : List Turn} {t : Turn} {etag : String} {x : Setting}
    {r : UpdateProfileRequest} (few : v.toInt + successes u s (run ++ t :: between) ≤ Int64.maxValue.toInt)
    (shows : t.Shows u (s.after run) etag) (resends : x.Resends r u etag (s.after (run ++ t :: between))) :
    x.Succeeds r (s.after (run ++ t :: between)) ↔ successes u (s.after (run ++ [t])) between = 0 := by
  rw [List.append_cons] at few resends ⊢
  obtain ⟨w, w', before, after, sign, version⟩ := versions_of_run stored nonneg few
  obtain ⟨shown, held, rfl⟩ := Turn.version?_of_shows shows
  have same : (s.after (run ++ [t])).version? u = some shown := by
    rw [Store.after_append]
    exact held
  cases same.symm.trans before
  rw [resends.succeeds_iff (Etag.nonneg_iff.2 sign) after, ← Int64.toInt_inj]
  omega

end Law

/-- **No update is lost**, whatever the clients do and in whatever order. -/
theorem no_lost_update {u : Uuid} {s : Store} {v : Int64} (stored : s.version? u = some v) (nonneg : 0 ≤ v) :
    NoLostUpdate u s v := by
  have sign := Etag.nonneg_iff.1 nonneg
  constructor
  case counts =>
    intro run few
    exact Store.version?_after stored sign few
  case guarded =>
    intro run x r n concerns expects success
    obtain ⟨w, p, -, -, found, -, guarded⟩ := success.spec concerns
    rw [found, guarded n expects]
  case aborted =>
    intro run x r n few concerns expects failed
    obtain ⟨w, found, -⟩ := Store.version?_after stored sign few
    obtain ⟨e, result, otherwise | ⟨rfl, -⟩⟩ := Setting.spec_of_failed failed concerns found
    · exact .inr ⟨e, result, otherwise⟩
    · exact .inl result
  case once =>
    intro run x r between x' r' n
    exact not_succeeds_again stored sign
  case fresh =>
    intro run t between etag x r
    exact succeeds_iff_fresh stored sign

/-! ## One tag sent twice -/

/-- A store with one profile, of the version `7`. -/
def seventhVersion : Store where
  profiles := .insert .empty (.ofNat 1) ⟨.ofNat 1, "old", "", "", 7⟩
  engagements := []
  watchLog := []
  projections := .empty
  stats := .empty
  clockMs := 0

/-- A client that sends these headers. -/
def client (headers : List (String × String)) : Setting :=
  ⟨.standard, .normal, .ofHeaders (.ofList headers) "client", .start⟩

/-- An update that resends the tag of version seven succeeds once and fails the second time. -/
theorem no_lost_update_twice :
    let read : Turn := .serve (.getProfile ⟨some (Uuid.ofNat 1).print⟩) (client [])
    let rename : UpdateProfileRequest := ⟨some (Uuid.ofNat 1).print, some "new", none, none, [], none⟩
    let writer := client [("If-Match", "\"7\"")]
    let write : Turn := .serve (.updateProfile rename) writer
    seventhVersion.version? (.ofNat 1) = some 7 ∧ writer.Succeeds rename (seventhVersion.after [read]) ∧
      ¬writer.Succeeds rename (seventhVersion.after [read, write]) := by
  intro read rename writer write
  have stored : seventhVersion.version? (.ofNat 1) = some 7 := rfl
  have law := no_lost_update stored (by decide)
  have shows : read.Shows (.ofNat 1) seventhVersion "\"7\"" :=
    ⟨by decide +kernel, ⟨⟨.ofNat 1, "old", "", "", 7⟩, "\"7\""⟩, by decide +kernel, rfl⟩
  have concerns : writer.Concerns rename (.ofNat 1) := by decide +kernel
  have expects : writer.Expects rename 7 := by decide +kernel
  have resends : writer.Resends rename (.ofNat 1) "\"7\"" (seventhVersion.after [read]) :=
    ⟨rfl, ⟨_, rfl, by decide +kernel⟩, concerns, ⟨⟨[]⟩, rfl⟩, rfl, by decide +kernel⟩
  have first : writer.Succeeds rename (seventhVersion.after [read]) :=
    (law.fresh [] read [] _ writer rename (by decide +kernel) shows resends).2 rfl
  have second := law.once [read] writer rename [] writer rename 7 (by decide +kernel) concerns expects concerns expects
    first
  exact ⟨stored, first, second⟩

end ProfileGateway
