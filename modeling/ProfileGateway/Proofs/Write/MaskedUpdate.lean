import ProfileGateway.Proofs.Operation.Inputs
import ProfileGateway.Proofs.Write.LostUpdate
/-!
# Updates with a mask

A mask says which of the given fields an update stores: the fields that its paths name, or all of them if no path names
anything. What a mask comes to is therefore said of the names of its paths alone, and a mask that is written otherwise
with the same names leads to the same answer (`masked_update`).
-/
namespace ProfileGateway

open Operation

/-! ## Masks as they are sent -/

/-- The path names something, and nothing that a mask may name. -/
def ForeignPath (path : String) : Prop := Text.trim path ≠ "" ∧ Text.trim path ∉ maskPaths

instance (path : String) : Decidable (ForeignPath path) := inferInstanceAs (Decidable (_ ∧ _))

/-- One of the paths names this field. -/
def NamesField (mask : List String) (field : String) : Prop := ∃ path ∈ mask, Text.trim path = field

instance (mask : List String) (field : String) : Decidable (NamesField mask field) :=
  inferInstanceAs (Decidable (∃ path ∈ mask, _))

/-- The mask lets an update store this field. -/
def MaskCovers (mask : List String) (field : String) : Prop :=
  (∀ path ∈ mask, Text.trim path = "") ∨ NamesField mask field

instance (mask : List String) (field : String) : Decidable (MaskCovers mask field) :=
  inferInstanceAs (Decidable (_ ∨ _))

/-- The value of a field after an update: the one that is given, if the mask lets it be stored. -/
def written (mask : List String) (field : String) (given : Option String) (stored : String) : String :=
  match given with
  | some value => if MaskCovers mask field then value else stored
  | none => stored

/-- The profile that an update leaves in place of another one. -/
def UpdateProfileRequest.onto (r : UpdateProfileRequest) (p : Profile) : Profile where
  userId := p.userId
  displayName := written r.updateMask "display_name" r.displayName p.displayName
  avatarUrl := written r.updateMask "avatar_url" r.avatarUrl p.avatarUrl
  bio := written r.updateMask "bio" r.bio p.bio
  version := p.version + 1

/-- Ways to write a mask that are not to matter. -/
inductive Rearranges : List String → List String → Prop
  | permuted {mask mask'} (order : mask.Perm mask') : Rearranges mask mask'
  | repeated {mask path} (there : path ∈ mask) : Rearranges mask (path :: mask)
  | padded {mask path before after} (left : Text.blank before = true) (right : Text.blank after = true) :
    Rearranges (path :: mask) ((before ++ path ++ after) :: mask)
  | blank {mask path} (nothing : Text.blank path = true) : Rearranges mask (path :: mask)
  | trans {mask mask' mask''} (first : Rearranges mask mask') (second : Rearranges mask' mask'') :
    Rearranges mask mask''

/-- The fields a mask names do not depend on how it is written. -/
theorem Rearranges.namesField_iff {mask mask' : List String} (rearranges : Rearranges mask mask') {field : String}
    (named : field ≠ "") : NamesField mask' field ↔ NamesField mask field := by
  unfold NamesField
  induction rearranges with
  | permuted order => simp only [order.mem_iff]
  | @repeated mask path there =>
    simp only [List.mem_cons, exists_eq_or_imp, or_iff_right_iff_imp]
    exact fun trimmed => ⟨path, there, trimmed⟩
  | padded left right => simp only [List.mem_cons, exists_eq_or_imp, Text.trim_padded left right]
  | blank nothing =>
    simp only [List.mem_cons, exists_eq_or_imp, Text.blank_iff.1 nothing, named.symm, false_or]
  | trans _ _ first second => exact second.trans first

theorem Rearranges.covers_iff {mask mask' : List String} (rearranges : Rearranges mask mask') {field : String}
    (named : field ≠ "") : MaskCovers mask' field ↔ MaskCovers mask field := by
  have nothing (mask : List String) :
      (∀ path ∈ mask, Text.trim path = "") ↔ ∀ name, name ≠ "" → ¬NamesField mask name := by
    constructor
    · rintro blank name shown ⟨path, there, rfl⟩
      exact shown (blank path there)
    · intro unnamed path there
      exact Classical.byContradiction fun shown => unnamed _ shown ⟨path, there, rfl⟩
  have same : ∀ name, (name ≠ "" → ¬NamesField mask' name) ↔ (name ≠ "" → ¬NamesField mask name) :=
    fun name => forall_congr' fun shown => not_congr (rearranges.namesField_iff shown)
  unfold MaskCovers
  rw [nothing, nothing, forall_congr' same, rearranges.namesField_iff named]

/-! ## Masks as they are read -/

namespace UpdateMask

/-- A mask without a foreign path is read as its trimmed paths. -/
theorem ofPaths_of_allowed {mask : List String} (allowed : ∀ path ∈ mask, ¬ForeignPath path) :
    ofPaths maskPaths mask = .ok ⟨mask.filterMap Text.trimmed?⟩ := by
  induction mask with
  | nil => rfl
  | cons path mask ih =>
    obtain ⟨first, rest⟩ := List.forall_mem_cons.1 allowed
    rw [ofPaths, ih rest, List.filterMap_cons]
    cases trimmed : Text.trimmed? path with
    | none => rfl
    | some name =>
      obtain ⟨rfl, shown⟩ := Text.trimmed?_eq_some.1 trimmed
      have known : Text.trim path ∈ maskPaths := Classical.byContradiction fun foreign => first ⟨shown, foreign⟩
      simp only [known, if_true]
      rfl

/-- A mask with foreign paths is refused for the first of them. -/
theorem ofPaths_of_foreign {mask : List String} {path : String} (first : mask.find? ForeignPath = some path) :
    ofPaths maskPaths mask = .error (.unknownMaskPath (Text.trim path)) := by
  induction mask with
  | nil => cases first
  | cons head mask ih =>
    rw [List.find?_cons] at first
    rw [ofPaths]
    cases trimmed : Text.trimmed? head with
    | none =>
      have nothing : ¬ForeignPath head := fun foreign =>
        nomatch trimmed.symm.trans (Text.trimmed?_eq_some.2 ⟨rfl, foreign.1⟩)
      simp only [nothing, decide_false] at first
      exact ih first
    | some name =>
      obtain ⟨rfl, shown⟩ := Text.trimmed?_eq_some.1 trimmed
      by_cases fits : Text.trim head ∈ maskPaths
      · have known : ¬ForeignPath head := fun foreign => foreign.2 fits
        simp only [known, decide_false] at first
        simp only [fits, if_true, ih first]
        rfl
      · have foreign : ForeignPath head := ⟨shown, fits⟩
        simp only [foreign, decide_true, Option.some.injEq] at first
        subst first
        simp only [fits, if_false]

/-- A mask that is accepted has no foreign path. -/
theorem ofPaths_eq_ok {mask : List String} {m : UpdateMask} (accepted : ofPaths maskPaths mask = .ok m) :
    m = ⟨mask.filterMap Text.trimmed?⟩ := by
  cases foreign : mask.find? ForeignPath with
  | some path => cases accepted.symm.trans (ofPaths_of_foreign foreign)
  | none =>
    have allowed : ∀ path ∈ mask, ¬ForeignPath path := by simpa using foreign
    exact Except.ok.inj (accepted.symm.trans (ofPaths_of_allowed allowed))

/-- A mask that was read applies to the fields that the sent one covers. -/
theorem applies_iff {mask : List String} {field : String} (named : field ≠ "") :
    applies ⟨mask.filterMap Text.trimmed?⟩ field = true ↔ MaskCovers mask field := by
  have nothing : isEmpty ⟨mask.filterMap Text.trimmed?⟩ = true ↔ ∀ path ∈ mask, Text.trim path = "" := by
    simp only [isEmpty, List.isEmpty_iff, List.filterMap_eq_nil_iff, Text.trimmed?, ← Text.blank_iff,
      ite_eq_left_iff, reduceCtorEq, imp_false, Bool.not_eq_true, Bool.not_eq_false]
  have among : (mask.filterMap Text.trimmed?).contains field = true ↔ NamesField mask field := by
    simp only [List.contains_iff_mem, List.mem_filterMap, Text.trimmed?_eq_some, ne_eq, named, not_false_eq_true, and_true,
      NamesField]
  rw [applies, Bool.or_eq_true, nothing, among, MaskCovers]

/-- What an update stores in a field, seen from the store and from the request. -/
theorem select_getD {mask : List String} {field : String} (named : field ≠ "") (given : Option String)
    (stored : String) :
    (select ⟨mask.filterMap Text.trimmed?⟩ field given).getD stored = written mask field given stored := by
  rw [select]
  simp only [applies_iff named]
  cases given with
  | none => split <;> rfl
  | some value => rw [written, apply_ite fun v : Option String => v.getD stored]; rfl

end UpdateMask

/-- A mask that is written otherwise is read as one that touches the same fields. -/
theorem Rearranges.select_eq {mask mask' : List String} (rearranges : Rearranges mask mask')
    {field : String} (named : field ≠ "") (given : Option String) :
    UpdateMask.select ⟨mask'.filterMap Text.trimmed?⟩ field given =
      UpdateMask.select ⟨mask.filterMap Text.trimmed?⟩ field given := by
  rw [UpdateMask.select, UpdateMask.select]
  simp only [UpdateMask.applies_iff named, rearranges.covers_iff named]

/-- What an update writes depends on the names in its mask alone. -/
theorem Rearranges.profileChange_eq {r : UpdateProfileRequest} {mask' : List String}
    (rearranges : Rearranges r.updateMask mask') (allowed : ∀ path ∈ r.updateMask, ¬ForeignPath path)
    (ctx : Context) : profileChange ctx { r with updateMask := mask' } = profileChange ctx r := by
  have allowed' : ∀ path ∈ mask', ¬ForeignPath path := by
    rintro path there ⟨shown, foreign⟩
    obtain ⟨path', there', same⟩ := (rearranges.namesField_iff shown).1 ⟨path, there, rfl⟩
    exact allowed path' there' ⟨same ▸ shown, same ▸ foreign⟩
  unfold profileChange
  rw [UpdateMask.ofPaths_of_allowed allowed,
    UpdateMask.ofPaths_of_allowed allowed']
  cases ActingUser.resolve r.userId ctx.metadata with
  | error e => rfl
  | ok user =>
    cases Precondition.ofRequest r.expectedVersion ctx.metadata with
    | error e => rfl
    | ok expects =>
      change Except.ok _ = Except.ok _
      rw [rearranges.select_eq (by decide), rearranges.select_eq (by decide), rearranges.select_eq (by decide)]

/-! ## What is stored -/

/-- The profile that an accepted write leaves in the store. -/
theorem applyUpdate_of_accepted {ctx : Context} {r : UpdateProfileRequest} {change : ProfileChange}
    (accepted : profileChange ctx r = .ok change) (p : Profile) : Store.applyUpdate change p = r.onto p := by
  unfold profileChange at accepted
  cases acting : ActingUser.resolve r.userId ctx.metadata with
  | error e => simp [acting, bind, Except.bind] at accepted
  | ok user =>
    cases names : UpdateMask.ofPaths maskPaths r.updateMask with
    | error e => simp [acting, names, bind, Except.bind] at accepted
    | ok mask =>
      cases expects : Precondition.ofRequest r.expectedVersion ctx.metadata with
      | error e => simp [acting, names, expects, bind, Except.bind] at accepted
      | ok precondition =>
        rw [acting, names, expects] at accepted
        cases accepted
        have read : mask = ⟨r.updateMask.filterMap Text.trimmed?⟩ := UpdateMask.ofPaths_eq_ok names
        subst read
        dsimp only [Store.applyUpdate, UpdateProfileRequest.onto]
        rw [UpdateMask.select_getD (by decide), UpdateMask.select_getD (by decide),
          UpdateMask.select_getD (by decide)]

/-- An update that the store accepts replaces the stored profile by the updated one. -/
theorem Store.updateProfile_of_ok {s : Store} {change : ProfileChange} {p' : Profile}
    (updated : (s.updateProfile change).1 = .ok p') :
    ∃ p, s.profiles.get? change.userId = some p ∧ p' = applyUpdate change p ∧
      (s.updateProfile change).2 = s.withProfile change.userId p' := by
  unfold updateProfile profile at updated ⊢
  cases stored : s.profiles.get? change.userId with
  | none => simp [stored] at updated
  | some p =>
    cases checked : change.precondition.check p.version with
    | error f => simp [stored, checked] at updated
    | ok _ =>
      simp only [stored, checked, Except.ok.injEq] at updated ⊢
      exact ⟨p, rfl, updated.symm, updated ▸ rfl⟩

/-! ## Updates in the in-memory store -/

namespace Occasion

variable {σ : Type} {x : Occasion σ} {r : UpdateProfileRequest}

/-- An update that is refused asks nobody. -/
theorem update_of_refused {e : Refusal} (refused : x.change r = .error e) :
    (x.serve (.updateProfile r)).result = .error e.status ∧ (x.serve (.updateProfile r)).asked = [] ∧
      (x.serve (.updateProfile r)).store = x.store := by
  rcases single_cases (script_updateProfile (x.context (.updateProfile r)) r) with
    ⟨e', refused', still⟩ | ⟨change, accepted, -⟩
  · cases refused.symm.trans refused'
    exact still
  · cases refused.symm.trans accepted

/-- Nothing of an update matters but what it writes. -/
theorem update_congr {r' : UpdateProfileRequest} (same : ∀ ctx, profileChange ctx r' = profileChange ctx r) :
    x.serve (.updateProfile r') = x.serve (.updateProfile r) := by
  have scripts : (fun ctx => runUpdateProfile ctx r') = fun ctx => runUpdateProfile ctx r := by
    funext ctx
    rw [runUpdateProfile, runUpdateProfile, same ctx]
  dsimp only [serve, Operation.serve, Operation.script, Operation.kind, span, Operation.name]
  rw [scripts]

end Occasion

namespace Setting

variable {x : Setting} {r : UpdateProfileRequest} {s : Store} {u : Uuid}

/-- Nothing but its mask can make the update of this profile fail. -/
structure Clear (x : Setting) (r : UpdateProfileRequest) (s : Store) (u : Uuid) (p : Profile) : Prop where
  stored : s.profiles.get? u = some p
  expects : ∃ precondition, Precondition.ofRequest r.expectedVersion x.call.carried = .ok precondition ∧
    precondition.check p.version = .ok ()
  working : x.conditions.failure .updateProfile = none
  uncut : (x.occasion s).Uncut (.updateProfile r)

/-- What a mask decides of an update of this user's profile. -/
structure MaskedUpdate (x : Setting) (r : UpdateProfileRequest) (s : Store) (u : Uuid) : Prop where
  /-- The first foreign path is what the update is refused for, and nothing is written. -/
  refused : ∀ path, r.updateMask.find? ForeignPath = some path →
    (x.update r s).result = .error ⟨.invalidArgument, "unsupported update_mask path: " ++ Text.trim path⟩ ∧
      (x.update r s).asked = [] ∧ (x.update r s).store = s
  /-- A mask without foreign paths is no reason to refuse. -/
  succeeds : ∀ p, (∀ path ∈ r.updateMask, ¬ForeignPath path) → x.Clear r s u p → x.Succeeds r s
  /-- An update that succeeds stores the fields that its mask covers, keeps the others, and shows what it stored. -/
  stored : x.Succeeds r s → ∃ p, s.profiles.get? u = some p ∧
    (x.update r s).result = .ok (viewOf (r.onto p)) ∧ (x.update r s).store = s.withProfile u (r.onto p)
  /-- Nothing changes if the mask is written otherwise. -/
  rearranged : ∀ mask', (∀ path ∈ r.updateMask, ¬ForeignPath path) → Rearranges r.updateMask mask' →
    x.update { r with updateMask := mask' } s = x.update r s

/-- A foreign path ends an update before any collaborator is called. -/
theorem update_of_foreign {path : String} (concerns : x.Concerns r u)
    (first : r.updateMask.find? ForeignPath = some path) :
    (x.update r s).result = .error (Refusal.unknownMaskPath (Text.trim path)).status ∧
      (x.update r s).asked = [] ∧ (x.update r s).store = s := by
  have refused : (x.occasion s).change r = .error (.unknownMaskPath (Text.trim path)) := by
    have acting : ActingUser.resolve r.userId ((x.occasion s).context (.updateProfile r)).metadata = .ok u := by
      rw [Occasion.metadata_context]
      exact concerns
    rw [Occasion.change, profileChange, acting, UpdateMask.ofPaths_of_foreign first]
    rfl
  exact Occasion.update_of_refused refused

/-- With a mask that is allowed, nothing else stands in the way of a clear update. -/
theorem Clear.succeeds {p : Profile} (allowed : ∀ path ∈ r.updateMask, ¬ForeignPath path)
    (concerns : x.Concerns r u) (clear : x.Clear r s u p) : x.Succeeds r s := by
  obtain ⟨precondition, expects, met⟩ := clear.expects
  obtain ⟨change, accepted, user, guard⟩ :=
    Occasion.change_of_valid (x := x.occasion s) concerns (UpdateMask.ofPaths_of_allowed allowed) expects
  have updated : s.updateProfile change =
      (.ok (Store.applyUpdate change p), s.withProfile u (Store.applyUpdate change p)) := by
    simp only [Store.updateProfile, Store.profile, user, clear.stored, guard, met]
    rfl
  rcases x.update_cases r s with ⟨e, refused, -⟩ | ⟨cut, -⟩ | ⟨change', accepted', ⟨f, failure, -⟩ | ⟨-, result, -⟩⟩
  · cases refused.symm.trans accepted
  · exact absurd clear.uncut cut
  · cases clear.working.symm.trans failure
  · cases accepted.symm.trans accepted'
    rw [Succeeds, result, updated]
    rfl

/-- An update that succeeds answers with the profile it leaves in the store. -/
theorem Succeeds.stored (success : x.Succeeds r s) (concerns : x.Concerns r u) :
    ∃ p, s.profiles.get? u = some p ∧ (x.update r s).result = .ok (viewOf (r.onto p)) ∧
      (x.update r s).store = s.withProfile u (r.onto p) := by
  obtain ⟨view, shown⟩ : ∃ view, (x.update r s).result = .ok view := by
    cases result : (x.update r s).result with
    | ok view => exact ⟨view, rfl⟩
    | error e => rw [Succeeds, result] at success; cases success
  rcases x.update_cases r s with ⟨e, -, result, -⟩ | ⟨-, result, -⟩ |
    ⟨change, accepted, ⟨f, -, result, -⟩ | ⟨-, result, store⟩⟩
  · cases shown.symm.trans result
  · cases shown.symm.trans result
  · cases shown.symm.trans result
  · cases updated : (s.updateProfile change).1 with
    | error f =>
      rw [updated] at result
      cases shown.symm.trans result
    | ok p' =>
      rw [updated] at result
      obtain ⟨p, found, rfl, after⟩ := Store.updateProfile_of_ok updated
      cases concerns.unique (Occasion.change_spec accepted).1
      rw [applyUpdate_of_accepted accepted] at result after
      exact ⟨p, found, result, store.trans after⟩

/-- **What a mask does** to an update, from the request to the store. -/
theorem masked_update (concerns : x.Concerns r u) (s : Store) : x.MaskedUpdate r s u := by
  constructor
  case refused => exact fun path first => update_of_foreign concerns first
  case succeeds => exact fun p allowed clear => clear.succeeds allowed concerns
  case stored => exact fun success => success.stored concerns
  case rearranged => exact fun mask' allowed rearranges => Occasion.update_congr (rearranges.profileChange_eq allowed)

theorem masked_update_padded :
    let change : UpdateProfileRequest :=
      ⟨some (Uuid.ofNat 1).print, some "new", some "picture", none, ["", " display_name\t"], none⟩
    let writer := client []
    writer.Concerns change (.ofNat 1) ∧
      (writer.update change seventhVersion).result = .ok (viewOf ⟨.ofNat 1, "new", "", "", 8⟩) ∧
      (writer.update { change with updateMask := ["bio", "titel "] } seventhVersion).result =
        .error ⟨.invalidArgument, "unsupported update_mask path: titel"⟩ := by
  intro change writer
  have concerns : writer.Concerns change (.ofNat 1) := by decide +kernel
  have law := masked_update concerns seventhVersion
  have clear : writer.Clear change seventhVersion (.ofNat 1) ⟨.ofNat 1, "old", "", "", 7⟩ :=
    ⟨rfl, ⟨.any, rfl, rfl⟩, rfl, by decide +kernel⟩
  obtain ⟨p, found, shown, -⟩ := law.stored (law.succeeds _ (by decide +kernel) clear)
  cases clear.stored.symm.trans found
  have foreign := masked_update (r := { change with updateMask := ["bio", "titel "] }) concerns seventhVersion
  exact ⟨concerns, shown.trans (by decide +kernel), (foreign.refused "titel " (by decide +kernel)).1⟩

end Setting
end ProfileGateway
