import ProfileGateway.Proofs.Deadline.Cut
/-!
# Trees of contexts

Contexts are derived from one another while time passes, and what a context carries is told by the path that leads to
it from the root: the request id of the root, the last metadata on the path that were not empty, and the earliest of
the deadlines that were imposed on it (`ContextTree.contexts_inherit`).
-/
namespace ProfileGateway

/-- There is such an instant: its seconds can be counted. -/
def Instant.Representable (t : Instant) : Prop := t.nanos / Duration.nanosPerSecond < secondsLimit

instance (t : Instant) : Decidable t.Representable := inferInstanceAs (Decidable (_ < _))

/-! ## Derivations -/

/-- A way to derive a context from another one. -/
inductive Derivation
  | carrying (m : Metadata)
  | endingBy (d : Instant)
  | endingWithin (timeout : Duration)
  | underPolicy (p : TimeoutPolicy) (m : Metadata) (kind : OperationKind)

/-- The end of a timeout from `now` on, unless it is zero or ends beyond all instants. -/
def timeoutEnd? (now : Instant) (timeout : Duration) : Option Instant :=
  if timeout ≠ .zero ∧ (now.add timeout).Representable then some (now.add timeout) else none

namespace Derivation

/-- The context that is derived at `now`. -/
def apply (now : Instant) (c : Context) : Derivation → Context
  | carrying m => c.carrying m
  | endingBy d => c.endingBy d
  | endingWithin timeout => c.endingWithin now timeout
  | underPolicy p m kind => p.contextFor now c m kind

/-- The metadata that are attached; empty ones are not. -/
def attached? : Derivation → Option Metadata
  | carrying m | underPolicy _ m _ => if m = .empty then none else some m
  | endingBy _ | endingWithin _ => none

/-- The deadline that is imposed at `now`. -/
def deadline? (now : Instant) : Derivation → Option Instant
  | carrying _ => none
  | endingBy d => some d
  | endingWithin timeout => timeoutEnd? now timeout
  | underPolicy p _ kind => timeoutEnd? now (p.forKind kind)

end Derivation

section Apply

variable (now : Instant) (c : Context)

theorem Instant.add?_eq (timeout : Duration) :
    now.add? timeout = if (now.add timeout).Representable then some (now.add timeout) else none := rfl

/-- A timeout imposes its end, if it has one. -/
theorem Context.endingWithin_eq (timeout : Duration) : c.endingWithin now timeout =
    match timeoutEnd? now timeout with
    | some d => c.endingBy d
    | none => c := by
  unfold endingWithin timeoutEnd?
  by_cases zero : timeout = .zero
  · simp [zero, Duration.isZero, Duration.zero]
  · have limited : timeout.isZero = false := Bool.eq_false_iff.2 (mt Duration.isZero_iff.1 zero)
    rw [limited, Instant.add?_eq]
    by_cases representable : (now.add timeout).Representable <;> simp [zero, representable]

/-- Metadata are attached in place of those before, unless they are empty. -/
theorem Context.metadata_carrying (m : Metadata) :
    (c.carrying m).metadata = (if m = .empty then none else some m).or c.metadata := by
  unfold carrying
  by_cases blank : m = .empty
  · rw [if_pos (Metadata.isEmpty_iff.2 blank), if_pos blank, Option.none_or]
  · rw [if_neg (mt Metadata.isEmpty_iff.1 blank), if_neg blank, Option.some_or]

/-- Attaching metadata moves no deadline. -/
theorem Context.deadline_carrying (m : Metadata) : (c.carrying m).deadline = c.deadline := by
  unfold carrying
  split <;> rfl

theorem Context.requestId_carrying (m : Metadata) : (c.carrying m).requestId = c.requestId := by
  unfold carrying
  split <;> rfl

namespace Derivation

variable (how : Derivation)

/-- No derivation changes the request id. -/
theorem requestId_apply : (how.apply now c).requestId = c.requestId := by
  cases how with
  | carrying m => exact c.requestId_carrying m
  | endingBy d => rfl
  | endingWithin timeout =>
    rw [apply, Context.endingWithin_eq]
    split <;> rfl
  | underPolicy p m kind =>
    rw [apply, TimeoutPolicy.contextFor, Context.endingWithin_eq, ← c.requestId_carrying m]
    split <;> rfl

/-- Metadata that are attached take the place of those that are there. -/
theorem metadata_apply : (how.apply now c).metadata = how.attached?.or c.metadata := by
  cases how with
  | carrying m => exact c.metadata_carrying m
  | endingBy d => rfl
  | endingWithin timeout =>
    rw [apply, Context.endingWithin_eq]
    split <;> rfl
  | underPolicy p m kind =>
    rw [apply, TimeoutPolicy.contextFor, Context.endingWithin_eq, attached?, ← c.metadata_carrying m]
    split <;> rfl

/-- A deadline that is imposed is imposed on top of the one that is there. -/
theorem deadline_apply : (how.apply now c).deadline =
    match how.deadline? now with
    | some d => (c.endingBy d).deadline
    | none => c.deadline := by
  cases how with
  | carrying m => exact c.deadline_carrying m
  | endingBy d => rfl
  | endingWithin timeout =>
    rw [apply, Context.endingWithin_eq, deadline?]
    split <;> rfl
  | underPolicy p m kind =>
    rw [apply, TimeoutPolicy.contextFor, Context.endingWithin_eq, deadline?]
    split
    · simp only [Context.endingBy, c.deadline_carrying m]
    · exact c.deadline_carrying m

end Derivation

/-- The deadline of a context under a policy is the earlier of the one that was there and the end of the timeout. -/
theorem TimeoutPolicy.deadline_contextFor (p : TimeoutPolicy) (m : Metadata) (kind : OperationKind) :
    (p.contextFor now c m kind).deadline =
      Option.merge Instant.earliest c.deadline (timeoutEnd? now (p.forKind kind)) := by
  refine Eq.trans ((Derivation.underPolicy p m kind).deadline_apply now c) ?_
  dsimp only [Derivation.deadline?]
  cases timeoutEnd? now (p.forKind kind) with
  | none => cases c.deadline <;> rfl
  | some own =>
    unfold Context.endingBy
    cases c.deadline <;> rfl

end Apply

/-! ## Paths -/

/-- One derivation on a path: the position of the context that it was made from, when and how. -/
structure Edge where
  parent : Nat
  moment : Instant
  how : Derivation

/-- The metadata that are attached on a path. -/
def attachedMetadata (path : List Edge) : List Metadata := path.filterMap fun e => e.how.attached?

/-- The deadlines that are imposed on a path, each at its moment. -/
def imposedDeadlines (path : List Edge) : List Instant := path.filterMap fun e => e.how.deadline? e.moment

/-- The earliest of some deadlines, and none if there are none. -/
structure Earliest (imposed : List Instant) (deadline : Option Instant) : Prop where
  one : ∀ d, deadline = some d → d ∈ imposed
  first : ∀ e ∈ imposed, ∃ d, deadline = some d ∧ d ≤ e

/-- The last metadata on a path are those of its last step, if that attached any. -/
theorem getLast?_attachedMetadata_concat (path : List Edge) (e : Edge) :
    (attachedMetadata (path ++ [e])).getLast? = e.how.attached?.or (attachedMetadata path).getLast? := by
  unfold attachedMetadata
  rw [List.filterMap_append, List.getLast?_append]
  cases h : e.how.attached? <;> simp [h]

/-- The deadlines on a path are those of its steps, one after the other. -/
theorem imposedDeadlines_concat (path : List Edge) (e : Edge) :
    imposedDeadlines (path ++ [e]) = imposedDeadlines path ++ (e.how.deadline? e.moment).toList := by
  unfold imposedDeadlines
  rw [List.filterMap_append]
  cases h : e.how.deadline? e.moment <;> simp [h]

/-- There is no earliest deadline exactly if none was imposed. -/
theorem Earliest.none_iff {imposed : List Instant} {deadline : Option Instant} (earliest : Earliest imposed deadline) :
    deadline = none ↔ imposed = [] := by
  constructor
  · intro unlimited
    refine List.eq_nil_iff_forall_not_mem.2 fun e mem => ?_
    obtain ⟨d, limited, -⟩ := earliest.first e mem
    cases unlimited.symm.trans limited
  · intro empty
    cases h : deadline with
    | none => rfl
    | some d =>
      have mem := earliest.one d h
      rw [empty] at mem
      cases mem

/-- One more deadline. -/
theorem Earliest.endingBy {imposed : List Instant} {c : Context} (earliest : Earliest imposed c.deadline)
    (d : Instant) : Earliest (imposed ++ [d]) (c.endingBy d).deadline := by
  unfold Context.endingBy
  cases h : c.deadline with
  | none =>
    have empty : imposed = [] := earliest.none_iff.1 h
    subst empty
    refine ⟨?_, ?_⟩
    · rintro _ ⟨⟩
      exact List.mem_singleton_self d
    · intro e mem
      exact ⟨d, rfl, List.mem_singleton.1 mem ▸ Instant.le_refl d⟩
  | some existing =>
    have there := earliest.one existing h
    have least : ∀ e ∈ imposed, existing ≤ e := by
      intro e mem
      obtain ⟨_, same, le⟩ := earliest.first e mem
      cases h.symm.trans same
      exact le
    simp only [Instant.earliest]
    split
    · next before =>
      refine ⟨?_, ?_⟩
      · rintro _ ⟨⟩
        exact List.mem_append_left _ there
      · intro e mem
        refine ⟨existing, rfl, ?_⟩
        rcases List.mem_append.1 mem with mem | mem
        · exact least e mem
        · exact List.mem_singleton.1 mem ▸ before
    · next after =>
      have sooner : d ≤ existing := Nat.le_of_not_le after
      refine ⟨?_, ?_⟩
      · rintro _ ⟨⟩
        exact List.mem_append_right _ (List.mem_singleton_self d)
      · intro e mem
        refine ⟨d, rfl, ?_⟩
        rcases List.mem_append.1 mem with mem | mem
        · exact Instant.le_trans sooner (least e mem)
        · exact List.mem_singleton.1 mem ▸ Instant.le_refl d

/-- Of more deadlines the earliest is no later. -/
theorem Earliest.le_of_subset {imposed more : List Instant} {deadline deadline' : Option Instant}
    (earliest : Earliest imposed deadline) (earliest' : Earliest more deadline') (among : ∀ d ∈ imposed, d ∈ more)
    {d : Instant} (limited : deadline = some d) : ∃ d', deadline' = some d' ∧ d' ≤ d :=
  earliest'.first d (among d (earliest.one d limited))

/-! ## Trees -/

/-- A context and the path that leads to it from the root. -/
structure Node where
  path : List Edge
  context : Context

/-- The context carries what its path says. -/
structure Node.Inherits (requestId : String) (node : Node) : Prop where
  requestId : node.context.requestId = requestId
  metadata : node.context.metadata = (attachedMetadata node.path).getLast?
  deadline : Earliest (imposedDeadlines node.path) node.context.deadline

/-- What happens to a tree: a context is derived from the one at a position, or time passes. -/
inductive Growth
  | derive (parent : Nat) (how : Derivation)
  | advance (time : Duration)

/-- The contexts that have been derived from a root, which is the first of them, and the clock. -/
structure ContextTree where
  now : Instant
  nodes : List Node

namespace ContextTree

def root (requestId : String) (now : Instant) : ContextTree := ⟨now, [⟨[], .root requestId⟩]⟩

/-- The node that is derived from one at a position. -/
def derived (t : ContextTree) (parent : Nat) (how : Derivation) (p : Node) : Node :=
  ⟨p.path ++ [⟨parent, t.now, how⟩], how.apply t.now p.context⟩

def next (t : ContextTree) : Growth → ContextTree
  | .derive parent how =>
    match t.nodes[parent]? with
    | some p => { t with nodes := t.nodes ++ [t.derived parent how p] }
    | none => t
  | .advance time => { t with now := t.now.add time }

def after (t : ContextTree) (growth : List Growth) : ContextTree := growth.foldl next t

variable {t : ContextTree} {requestId : String}

/-- What is derived from a context carries what its path says, if that one does. -/
theorem inherits_derived {p : Node} (inherits : p.Inherits requestId) (parent : Nat) (how : Derivation) :
    (t.derived parent how p).Inherits requestId where
  requestId := by rw [derived, how.requestId_apply, inherits.requestId]
  metadata := by rw [derived, how.metadata_apply, inherits.metadata, getLast?_attachedMetadata_concat]
  deadline := by
    rw [derived, how.deadline_apply, imposedDeadlines_concat]
    dsimp only
    cases how.deadline? t.now with
    | none => simpa using inherits.deadline
    | some d => exact inherits.deadline.endingBy d

/-- What holds of a tree throughout its growth. -/
structure Grown (requestId : String) (t : ContextTree) : Prop where
  inherits : ∀ node ∈ t.nodes, node.Inherits requestId
  /-- A path leads through the context that each of its derivations was made from. -/
  through : ∀ node ∈ t.nodes, ∀ before e later, node.path = before ++ e :: later →
    ∃ p, t.nodes[e.parent]? = some p ∧ p.path = before

/-- A tree that is a root alone has grown. -/
theorem grown_root (requestId : String) (now : Instant) : (root requestId now).Grown requestId where
  inherits node mem := by
    cases List.mem_singleton.1 mem
    refine ⟨rfl, rfl, ⟨fun d h => ?_, fun e h => ?_⟩⟩
    · cases h
    · cases h
  through node mem before e later split := by
    cases List.mem_singleton.1 mem
    simp at split

/-- No context changes when another one is derived. -/
theorem nodes_next (t : ContextTree) (g : Growth) : t.nodes <+: (t.next g).nodes := by
  cases g with
  | derive parent how =>
    rw [next]
    split
    · exact List.prefix_append _ _
    · exact List.prefix_rfl
  | advance time => exact List.prefix_rfl

/-- Growth changes none of the contexts that were there. -/
theorem nodes_after (t : ContextTree) (growth : List Growth) : t.nodes <+: (t.after growth).nodes := by
  induction growth generalizing t with
  | nil => exact List.prefix_rfl
  | cons g growth ih => exact (t.nodes_next g).trans (ih (t.next g))

/-- **One derivation** keeps what holds of a tree that has grown. -/
theorem Grown.next (grown : t.Grown requestId) (g : Growth) : (t.next g).Grown requestId := by
  cases g with
  | advance time => exact ⟨grown.inherits, grown.through⟩
  | derive parent how =>
    rw [ContextTree.next]
    cases there : t.nodes[parent]? with
    | none => exact grown
    | some p =>
      have mem : p ∈ t.nodes := List.mem_of_getElem? there
      have kept : ∀ {i : Nat} {q}, t.nodes[i]? = some q → (t.nodes ++ [t.derived parent how p])[i]? = some q := by
        intro i q h
        rw [List.getElem?_append_left (List.getElem?_eq_some_iff.1 h).1, h]
      constructor
      case inherits =>
        intro node h
        rcases List.mem_append.1 h with h | h
        · exact grown.inherits node h
        · cases List.mem_singleton.1 h
          exact inherits_derived (grown.inherits p mem) parent how
      case through =>
        intro node h before e later split
        rcases List.mem_append.1 h with h | h
        · obtain ⟨q, found, path⟩ := grown.through node h before e later split
          exact ⟨q, kept found, path⟩
        · cases List.mem_singleton.1 h
          -- The last derivation was made from `p`, any other one is on the path of `p`.
          rcases List.eq_nil_or_concat later with rfl | ⟨later, last, rfl⟩
          · obtain ⟨path, same⟩ := List.append_inj' split rfl
            cases same
            exact ⟨p, kept there, path⟩
          · have whole : p.path ++ [⟨parent, t.now, how⟩] = (before ++ e :: later) ++ [last] := by
              simpa [derived] using split
            have path := (List.append_inj' whole rfl).1
            obtain ⟨q, found, path⟩ := grown.through p mem before e later path
            exact ⟨q, kept found, path⟩

/-- Any number of derivations do. -/
theorem Grown.after (grown : t.Grown requestId) (growth : List Growth) : (t.after growth).Grown requestId := by
  induction growth generalizing t with
  | nil => exact grown
  | cons g growth ih => exact ih (grown.next g)

/-! ## The law -/

/-- What holds of the contexts of a tree. -/
structure DerivationLaw (requestId : String) (t : ContextTree) : Prop where
  /-- Every context has the request id of the root. -/
  requestId : ∀ node ∈ t.nodes, node.context.requestId = requestId
  /-- Its metadata are the last that were attached on its path, and none if none were. -/
  metadata : ∀ node ∈ t.nodes, node.context.metadata = (attachedMetadata node.path).getLast?
  /-- Its deadline is the earliest that was imposed on its path, and none if none was. -/
  deadline : ∀ node ∈ t.nodes, Earliest (imposedDeadlines node.path) node.context.deadline ∧
    (node.context.deadline = none ↔ imposedDeadlines node.path = [])
  /-- A path leads through the context that each of its derivations was made from. -/
  through : ∀ node ∈ t.nodes, ∀ before e later, node.path = before ++ e :: later →
    ∃ p, t.nodes[e.parent]? = some p ∧ p.path = before
  /-- The deadline is no later than that of any context which the path leads through. -/
  noLater : ∀ node ∈ t.nodes, ∀ e ∈ node.path, ∀ ancestor d, t.nodes[e.parent]? = some ancestor →
    ancestor.context.deadline = some d → ∃ d', node.context.deadline = some d' ∧ d' ≤ d
  /-- What is left at any time is what there is up to the deadline, and nothing after it. -/
  remaining : ∀ node ∈ t.nodes, ∀ now,
    (node.context.deadline = none → node.context.remaining now = none) ∧
    ∀ d, node.context.deadline = some d → ∃ left, node.context.remaining now = some left ∧
      (left.nanos : Int) = max 0 ((d.nanos : Int) - now.nanos)
  /-- The contexts that are there stay as they are, whatever is derived from them. -/
  kept : ∀ more, t.nodes <+: (t.after more).nodes

/-- No context ends later than one that it was derived from. -/
theorem Grown.noLater (grown : t.Grown requestId) {node : Node} (mem : node ∈ t.nodes) {e : Edge} (on : e ∈ node.path)
    {ancestor : Node} (there : t.nodes[e.parent]? = some ancestor) {d : Instant}
    (limited : ancestor.context.deadline = some d) : ∃ d', node.context.deadline = some d' ∧ d' ≤ d := by
  obtain ⟨before, later, split⟩ := List.append_of_mem on
  obtain ⟨p, found, path⟩ := grown.through node mem before e later split
  cases there.symm.trans found
  have mem' : ancestor ∈ t.nodes := List.mem_of_getElem? there
  refine (grown.inherits ancestor mem').deadline.le_of_subset (grown.inherits node mem).deadline ?_ limited
  intro d' imposed
  rw [split, ← path]
  unfold imposedDeadlines at imposed ⊢
  rw [List.filterMap_append]
  exact List.mem_append_left _ imposed

/-- **The contexts of a tree** carry what was given to them on their paths, however the tree has grown. -/
theorem contexts_inherit (requestId : String) (now : Instant) (growth : List Growth) :
    DerivationLaw requestId ((root requestId now).after growth) := by
  have grown := (grown_root requestId now).after growth
  constructor
  case requestId =>
    intro node mem
    exact (grown.inherits node mem).requestId
  case metadata =>
    intro node mem
    exact (grown.inherits node mem).metadata
  case deadline =>
    intro node mem
    have earliest := (grown.inherits node mem).deadline
    exact ⟨earliest, earliest.none_iff⟩
  case through => exact grown.through
  case noLater =>
    intro node mem e on ancestor d there limited
    exact grown.noLater mem on there limited
  case remaining =>
    intro node mem now
    unfold Context.remaining
    constructor
    · intro unlimited
      rw [unlimited, Option.map_none]
    · intro d limited
      refine ⟨d.since now, by rw [limited, Option.map_some], ?_⟩
      change ((d.nanos - now.nanos : Nat) : Int) = _
      omega
  case kept =>
    intro more
    exact nodes_after _ more

/-! ## A branch of four contexts -/

/-- Metadata with an idempotency key. -/
def keyed : Metadata := { Metadata.empty with idempotencyKey := some "key" }

/-- A context with a key is derived from the root, from that one, two seconds later, a context of a query with three
seconds, and from that one a context with empty metadata and a later deadline. Then a context is derived from the root
with a timeout beyond all instants. -/
def branching : List Growth :=
  [.derive 0 (.carrying keyed), .advance (.ofSeconds 2),
    .derive 1 (.underPolicy ⟨.zero, .ofSeconds 3, .zero⟩ .empty .query), .derive 2 (.carrying .empty),
    .derive 3 (.endingBy ⟨9000000000⟩), .derive 0 (.endingWithin (.ofSeconds 0x7fffffffffffffff))]

theorem contexts_inherit_branching : ∃ leaf free : Node,
    ((root "r" .start).after branching).nodes[4]? = some leaf ∧
      ((root "r" .start).after branching).nodes[5]? = some free ∧ leaf.context.requestId = "r" ∧
      leaf.context.metadata = some keyed ∧ leaf.context.deadline = some ⟨5000000000⟩ ∧
      (∃ left, leaf.context.remaining ⟨4000000000⟩ = some left ∧ (left.nanos : Int) = 1000000000) ∧
      free.context.deadline = none := by
  have law := contexts_inherit "r" .start branching
  refine ⟨_, _, rfl, rfl, ?_⟩
  have leaf := List.mem_of_getElem? (l := ((root "r" .start).after branching).nodes) (i := 4) rfl
  have free := List.mem_of_getElem? (l := ((root "r" .start).after branching).nodes) (i := 5) rfl
  have unlimited := (law.deadline _ free).2.2 (by decide +kernel)
  obtain ⟨left, some, time⟩ := (law.remaining _ leaf ⟨4000000000⟩).2 ⟨5000000000⟩ (by decide +kernel)
  exact ⟨law.requestId _ leaf, law.metadata _ leaf, by decide +kernel, ⟨left, some, time⟩, unlimited⟩

end ContextTree
end ProfileGateway
