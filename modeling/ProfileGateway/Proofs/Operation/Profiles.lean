import ProfileGateway.Proofs.Operation.SingleCall
/-!
# Reads and updates of profiles

Each of them asks the profile store once. An update that is refused or cut leaves the store as it is, and any other
update comes to what the store answers (`Occasion.update_cases`).
-/
namespace ProfileGateway

open Operation

/-! ## The write of an update -/

section Change

variable {ctx : Context} {r : UpdateProfileRequest}

/-- An accepted update is about the acting user, and expects the version that was resolved. -/
theorem profileChange_spec {change : ProfileChange} (h : profileChange ctx r = .ok change) :
    ActingUser.resolve r.userId ctx.metadata = .ok change.userId ∧
      Precondition.ofRequest r.expectedVersion ctx.metadata = .ok change.precondition := by
  unfold profileChange at h
  cases acting : ActingUser.resolve r.userId ctx.metadata with
  | error e => simp [acting, bind, Except.bind] at h
  | ok user =>
    cases mask : UpdateMask.ofPaths maskPaths r.updateMask with
    | error e => simp [acting, mask, bind, Except.bind] at h
    | ok m =>
      cases expects : Precondition.ofRequest r.expectedVersion ctx.metadata with
      | error e => simp [acting, mask, expects, bind, Except.bind] at h
      | ok p =>
        rw [acting, mask, expects] at h
        cases h
        exact ⟨rfl, rfl⟩

/-- A valid update is accepted. -/
theorem profileChange_of_valid {user : Uuid} {mask : UpdateMask} {p : Precondition}
    (acting : ActingUser.resolve r.userId ctx.metadata = .ok user)
    (names : UpdateMask.ofPaths maskPaths r.updateMask = .ok mask)
    (expects : Precondition.ofRequest r.expectedVersion ctx.metadata = .ok p) :
    ∃ change, profileChange ctx r = .ok change ∧ change.userId = user ∧ change.precondition = p := by
  unfold profileChange
  rw [acting, names, expects]
  exact ⟨_, rfl, rfl, rfl⟩

end Change

namespace Occasion

variable {σ : Type} (x : Occasion σ) (r : UpdateProfileRequest)

/-- The write that an update is accepted with. -/
def change : Except Refusal ProfileChange := profileChange (x.context (.updateProfile r)) r

variable {x r}

theorem change_spec {change : ProfileChange} (h : x.change r = .ok change) :
    ActingUser.resolve r.userId x.call.carried = .ok change.userId ∧
      Precondition.ofRequest r.expectedVersion x.call.carried = .ok change.precondition := by
  have spec := profileChange_spec h
  rwa [metadata_context] at spec

theorem change_of_valid {user : Uuid} {mask : UpdateMask} {p : Precondition}
    (acting : ActingUser.resolve r.userId x.call.carried = .ok user)
    (names : UpdateMask.ofPaths maskPaths r.updateMask = .ok mask)
    (expects : Precondition.ofRequest r.expectedVersion x.call.carried = .ok p) :
    ∃ change, x.change r = .ok change ∧ change.userId = user ∧ change.precondition = p := by
  rw [← x.metadata_context (.updateProfile r)] at acting expects
  exact profileChange_of_valid acting names expects

/-! ## What comes of an update -/

/-- **An update** is refused, or cut, or comes to what the store answers. -/
theorem update_cases (x : Occasion σ) (r : UpdateProfileRequest) :
    (∃ e, x.change r = .error e ∧ (x.serve (.updateProfile r)).result = .error e.status ∧
      (x.serve (.updateProfile r)).store = x.store) ∨
    (¬x.Uncut (.updateProfile r) ∧ (x.serve (.updateProfile r)).result = .error .deadlineExceeded ∧
      (x.serve (.updateProfile r)).store = x.store) ∨
    ∃ change, x.change r = .ok change ∧
      (x.serve (.updateProfile r)).result =
        ((x.backend.answer (.updateProfile change) x.store).1.mapError Failure.status).map viewOf ∧
      (x.serve (.updateProfile r)).store = (x.backend.answer (.updateProfile change) x.store).2 := by
  rcases single_cases (script_updateProfile (x.context (.updateProfile r)) r) with
    ⟨e, refused, result, -, store⟩ | ⟨change, accepted, -, cut | ⟨result, store⟩⟩
  · exact .inl ⟨e, refused, result, store⟩
  · exact .inr (.inl cut)
  · exact .inr (.inr ⟨change, accepted, result, store⟩)

/-! ## What comes of a read -/

/-- A read that succeeds shows the profile that the store answers. -/
theorem get_of_ok {r : GetProfileRequest} {view : ProfileView}
    (success : (x.serve (.getProfile r)).result = .ok view) :
    ∃ user p, ActingUser.resolve r.userId x.call.carried = .ok user ∧
      (x.backend.answer (.getProfile user) x.store).1 = .ok p ∧ view = viewOf p := by
  rcases single_cases (script_getProfile (x.context (.getProfile r)) r) with
    ⟨e, -, result, -⟩ | ⟨user, acting, -, ⟨-, result, -⟩ | ⟨result, -⟩⟩
  · cases success.symm.trans result
  · cases success.symm.trans result
  · rw [metadata_context] at acting
    rw [success] at result
    cases answered : (x.backend.answer (.getProfile user) x.store).1 with
    | error f => simp [answered, Except.map] at result
    | ok p =>
      rw [answered] at result
      exact ⟨user, p, acting, answered, Except.ok.inj result⟩

end Occasion
end ProfileGateway
