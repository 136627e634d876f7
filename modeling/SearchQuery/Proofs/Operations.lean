import Mathlib.Data.List.Basic
import SearchQuery.Store

/-!
# What the operations do

`build`, `set` and `unset` are sequences of tests, and a change after them. For each it is said here
when it succeeds and what it leaves (`Builder.build_eq_ok_iff`, `Store.set_eq_ok_iff`,
`Store.unset_eq_ok_iff`), that the node it leaves is well formed, and that it can only fail with an
error of construction. `Store.perform_cases` puts the three together: it is all that an action does.
-/

namespace SearchQuery

/-! ## 1. Tests in a row -/

section Tests

variable {α β : Type}

theorem bind_eq_ok_iff {x : Except QueryError Unit} {f : Unit → Except QueryError β} {b : β} :
    x >>= f = .ok b ↔ x = .ok () ∧ f () = .ok b := by
  cases x <;> simp [bind, Except.bind]

/-- Whatever goes wrong is an error of construction. -/
def FailsInConstruction (x : Except QueryError α) : Prop := ∀ e, x = .error e → e.isConstruction

theorem failsInConstruction_ok (a : α) : FailsInConstruction (.ok a) := by
  intro e h
  cases h

theorem failsInConstruction_error {e : QueryError} (he : e.isConstruction) :
    FailsInConstruction (.error e : Except QueryError α) := by
  intro e' h
  cases h
  exact he

theorem FailsInConstruction.bind {x : Except QueryError α} {f : α → Except QueryError β}
    (hx : FailsInConstruction x) (hf : ∀ a, FailsInConstruction (f a)) :
    FailsInConstruction (x >>= f) := by
  cases x with
  | error e => exact failsInConstruction_error (hx e rfl)
  | ok a => exact hf a

theorem failsInConstruction_primaryField (kind : Kind) (field : Option String) :
    FailsInConstruction (requirePrimaryField kind field) := by
  unfold requirePrimaryField
  split
  · exact failsInConstruction_error rfl
  · exact failsInConstruction_ok ()

theorem failsInConstruction_declared (kind : Kind) (names : List String) :
    FailsInConstruction (requireDeclared kind names) := by
  unfold requireDeclared
  split
  · exact failsInConstruction_error rfl
  · exact failsInConstruction_ok ()

theorem failsInConstruction_held (kind : Kind) (values : Dict Value) :
    FailsInConstruction (requireHeld kind values) := by
  unfold requireHeld
  split
  · exact failsInConstruction_error rfl
  · exact failsInConstruction_ok ()

theorem failsInConstruction_alternative (kind : Kind) (values : Dict Value) :
    FailsInConstruction (requireAlternative kind values) := by
  unfold requireAlternative
  split
  · exact failsInConstruction_ok ()
  · split
    · exact failsInConstruction_ok ()
    · exact failsInConstruction_error rfl

theorem failsInConstruction_optional (kind : Kind) (name : String) :
    FailsInConstruction (Store.requireOptional kind name) := by
  unfold Store.requireOptional
  split
  · exact failsInConstruction_error rfl
  · exact failsInConstruction_ok ()

theorem requireOptional_eq_ok_iff {kind : Kind} {name : String} :
    Store.requireOptional kind name = .ok () ↔ name ∉ kind.required := by
  unfold Store.requireOptional
  by_cases h : name ∈ kind.required <;> simp [h]

theorem requireDeclared_singleton_iff {kind : Kind} {name : String} :
    requireDeclared kind [name] = .ok () ↔ kind.declares name := by
  simp [requireDeclared_eq_ok_iff]

end Tests

/-! ## 2. Building -/

namespace Builder

/-- The values a node is built with: those collected, and over them those forced. -/
def allValues (b : Builder) : Dict Value := b.values.insertAll (forcedValues b.kind)

/-- **When a builder builds, and what.** -/
theorem build_eq_ok_iff {b : Builder} {n : Node} :
    b.build = .ok n ↔
      requirePrimaryField b.kind b.field = .ok () ∧
      requireDeclared b.kind b.values.keys = .ok () ∧
      requireHeld b.kind b.allValues = .ok () ∧
      requireAlternative b.kind b.allValues = .ok () ∧
      n = ⟨b.kind, b.field, b.allValues⟩ := by
  unfold build allValues
  simp only [bind_eq_ok_iff, pure, Except.pure, Except.ok.injEq, eq_comm (a := n)]

theorem failsInConstruction_build (b : Builder) : FailsInConstruction b.build :=
  .bind (failsInConstruction_primaryField _ _) fun _ =>
    .bind (failsInConstruction_declared _ _) fun _ =>
      .bind (failsInConstruction_held _ _) fun _ =>
        .bind (failsInConstruction_alternative _ _) fun _ => failsInConstruction_ok _

/-- **What is built is well formed.** The forced values need a look: their names are declared. -/
theorem wellFormed_of_build {b : Builder} {n : Node} (h : b.build = .ok n) : n.WellFormed := by
  obtain ⟨hfield, hdeclared, hheld, halternative, rfl⟩ := build_eq_ok_iff.1 h
  refine ⟨hfield, requireDeclared_eq_ok_iff.2 fun name hname => ?_, hheld, halternative⟩
  obtain ⟨v, hv⟩ := Option.isSome_iff_exists.1 (Dict.mem_keys.1 hname)
  rcases Dict.get?_insertAll_cases _ _ hv with hforced | hcollected
  · obtain ⟨e, he, heq⟩ := List.mem_map.1 hforced
    cases heq
    exact Kind.declares_of_mem_forced he
  · have hmem : name ∈ b.values.keys := Dict.mem_keys.2 (by simp [hcollected])
    exact requireDeclared_eq_ok_iff.1 hdeclared name hmem

/-- What a built node holds was collected, or it is one of the forced texts. -/
theorem get?_of_build {b : Builder} {n : Node} (h : b.build = .ok n) {name : String} {v : Value}
    (hv : n.values.get? name = some v) :
    b.values.get? name = some v ∨ ∃ text, v = .text text := by
  obtain ⟨-, -, -, -, rfl⟩ := build_eq_ok_iff.1 h
  rcases Dict.get?_insertAll_cases _ _ hv with hforced | hcollected
  · obtain ⟨e, -, heq⟩ := List.mem_map.1 hforced
    cases heq
    exact .inr ⟨_, rfl⟩
  · exact .inl hcollected

end Builder

/-! ## 3. Changing -/

namespace Node

/-- A value under a declared name leaves a well-formed node well formed. -/
theorem WellFormed.insert {n : Node} (hn : n.WellFormed) {name : String} {v : Value}
    (hd : n.kind.declares name) :
    (⟨n.kind, n.field, n.values.insert name v⟩ : Node).WellFormed := by
  have hkeep : ∀ j, n.values.contains j → (n.values.insert name v).contains j := by
    intro j hj
    rw [Dict.contains_insert, hj, Bool.or_true]
  refine ⟨hn.primaryField, requireDeclared_eq_ok_iff.2 fun j hj => ?_,
    requireHeld_eq_ok_iff.2 fun j hj => hkeep j (requireHeld_eq_ok_iff.1 hn.held j hj),
    requireAlternative_eq_ok_iff.2 fun first second h => ?_⟩
  · rcases Dict.mem_keys_insert.1 hj with rfl | hj
    · exact hd
    · exact requireDeclared_eq_ok_iff.1 hn.declared j hj
  · exact (requireAlternative_eq_ok_iff.1 hn.alternative first second h).imp (hkeep _) (hkeep _)

theorem WellFormed.declared_erase {n : Node} (hn : n.WellFormed) (name : String) :
    requireDeclared n.kind (n.values.erase name).keys = .ok () := by
  refine requireDeclared_eq_ok_iff.2 fun j hj => ?_
  rw [Dict.mem_keys, Dict.get?_erase] at hj
  split at hj
  · cases hj
  · exact requireDeclared_eq_ok_iff.1 hn.declared j (Dict.mem_keys.2 hj)

theorem WellFormed.contains_erase {n : Node} (hn : n.WellFormed) {name j : String}
    (hopt : name ∉ n.kind.required) (hj : j ∈ n.kind.required) :
    (n.values.erase name).contains j := by
  have hne : j ≠ name := fun e => hopt (e ▸ hj)
  have := requireHeld_eq_ok_iff.1 hn.held j hj
  simpa [Dict.contains, Dict.get?_erase, hne] using this

/-- A value may go from a well-formed node if it is not required and an alternative is left. -/
theorem WellFormed.erase {n : Node} (hn : n.WellFormed) {name : String}
    (hopt : name ∉ n.kind.required)
    (halt : requireAlternative n.kind (n.values.erase name) = .ok ()) :
    (⟨n.kind, n.field, n.values.erase name⟩ : Node).WellFormed :=
  ⟨hn.primaryField, hn.declared_erase name,
    requireHeld_eq_ok_iff.2 fun _ hj => hn.contains_erase hopt hj, halt⟩

end Node

namespace Store

variable {s s' : Store} {id : NodeId} {name : String}

/-- **When `set` succeeds, and what it leaves.** -/
theorem set_eq_ok_iff {v : Value} :
    s.set id name v = .ok s' ↔
      (s.node id).kind.declares name ∧
      s' = s.replace id
        ⟨(s.node id).kind, (s.node id).field, (s.node id).values.insert name v⟩ := by
  unfold set
  simp only [bind_eq_ok_iff, requireDeclared_singleton_iff, pure, Except.pure, Except.ok.injEq,
    eq_comm (a := s')]

/-- **When `unset` succeeds, and what it leaves.** -/
theorem unset_eq_ok_iff {previous : Option Value} :
    s.unset id name = .ok (s', previous) ↔
      (s.node id).kind.declares name ∧
      name ∉ (s.node id).kind.required ∧
      requireAlternative (s.node id).kind ((s.node id).values.erase name) = .ok () ∧
      s' = s.replace id
        ⟨(s.node id).kind, (s.node id).field, (s.node id).values.erase name⟩ ∧
      previous = (s.node id).values.get? name := by
  unfold unset
  simp only [bind_eq_ok_iff, requireDeclared_singleton_iff, requireOptional_eq_ok_iff, pure,
    Except.pure, Except.ok.injEq, Prod.mk.injEq, eq_comm (a := s'), eq_comm (a := previous)]

/-- **When `build` succeeds, and what it leaves.** -/
theorem build_eq_ok_iff {b : Builder} :
    s.build b = .ok (s', id) ↔ ∃ n, b.build = .ok n ∧ s' = s.add n ∧ id = s.next := by
  unfold build
  cases b.build <;> simp [bind, Except.bind, pure, Except.pure, eq_comm]

theorem failsInConstruction_set (s : Store) (id : NodeId) (name : String) (v : Value) :
    FailsInConstruction (s.set id name v) :=
  .bind (failsInConstruction_declared _ _) fun _ => failsInConstruction_ok _

theorem failsInConstruction_unset (s : Store) (id : NodeId) (name : String) :
    FailsInConstruction (s.unset id name) :=
  .bind (failsInConstruction_declared _ _) fun _ =>
    .bind (failsInConstruction_optional _ _) fun _ =>
      .bind (failsInConstruction_alternative _ _) fun _ => failsInConstruction_ok _

theorem failsInConstruction_build (s : Store) (b : Builder) :
    FailsInConstruction (s.build b) :=
  .bind b.failsInConstruction_build fun _ => failsInConstruction_ok _

/-! ## 4. Actions -/

/-- **All that an action does**: it fails with an error of construction and changes nothing, or it
    adds a built node, or puts a changed node in the place of one. -/
theorem perform_cases (s : Store) (a : Action) :
    (∃ e, s.perform a = (s, .error e) ∧ e.isConstruction) ∨
    (∃ b n, a = .build b ∧ b.build = .ok n ∧ s.perform a = (s.add n, .ok (.built s.next))) ∨
    (∃ id name v, a = .set id name v ∧ (s.node id).kind.declares name ∧
      s.perform a = (s.replace id
        ⟨(s.node id).kind, (s.node id).field, (s.node id).values.insert name v⟩, .ok .changed)) ∨
    (∃ id name, a = .unset id name ∧ name ∉ (s.node id).kind.required ∧
      requireAlternative (s.node id).kind ((s.node id).values.erase name) = .ok () ∧
      s.perform a = (s.replace id
        ⟨(s.node id).kind, (s.node id).field, (s.node id).values.erase name⟩,
        .ok (.previous ((s.node id).values.get? name)))) := by
  cases a with
  | build b =>
      cases h : s.build b with
      | error e => exact .inl ⟨e, by simp [perform, h], failsInConstruction_build s b e h⟩
      | ok r =>
          obtain ⟨n, hn, hr, hid⟩ := build_eq_ok_iff.1 h
          exact .inr (.inl ⟨b, n, rfl, hn, by simp [perform, h, hr, hid]⟩)
  | set id name v =>
      cases h : s.set id name v with
      | error e => exact .inl ⟨e, by simp [perform, h], failsInConstruction_set s id name v e h⟩
      | ok r =>
          obtain ⟨hd, hr⟩ := set_eq_ok_iff.1 h
          exact .inr (.inr (.inl ⟨id, name, v, rfl, hd, by simp [perform, h, hr]⟩))
  | unset id name =>
      cases h : s.unset id name with
      | error e => exact .inl ⟨e, by simp [perform, h], failsInConstruction_unset s id name e h⟩
      | ok r =>
          obtain ⟨-, hopt, halt, hr, hprevious⟩ := unset_eq_ok_iff.1 h
          exact .inr (.inr (.inr ⟨id, name, rfl, hopt, halt, by simp [perform, h, hr, hprevious]⟩))

end Store

end SearchQuery
