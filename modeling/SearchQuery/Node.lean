import SearchQuery.Dict
import SearchQuery.Error
import SearchQuery.Value

/-!
# Query nodes

A query node has a kind, the document field its clause is keyed by (if it is), and the values it
holds. This file says which values a node may hold:

* only under names that its kind declares (`requireDeclared`);
* under every name that its kind requires (`requireHeld`);
* under one of two names where the kind needs one of them (`requireAlternative`);
* and its primary field is not empty if its clauses are keyed by one (`requirePrimaryField`).

Each is a test with the error that says what is wrong. `Node.WellFormed` is that all four pass.
-/

namespace SearchQuery

structure Node where
  kind : Kind
  /-- The document field that the clause is keyed by. It is no declared field and holds no value. -/
  field : Option String
  /-- The values, under the names of declared fields. -/
  values : Dict Value

instance : Inhabited Node := ⟨⟨.bool, none, ∅⟩⟩

/-! ## 1. The tests -/

/-- A kind whose clauses are keyed by a document field is given one that is not empty. -/
def requirePrimaryField (kind : Kind) (field : Option String) : Except QueryError Unit :=
  if kind.shape.hasPrimaryField && (field.getD "").isEmpty then
    .error (.missingField kind "field")
  else .ok ()

/-- All names are declared; the first that is not is reported. -/
def requireDeclared (kind : Kind) (names : List String) : Except QueryError Unit :=
  match names.find? (!kind.declares ·) with
  | some name => .error (.unknownField kind name)
  | none => .ok ()

/-- Every required field holds a value; the first that does not is reported. -/
def requireHeld (kind : Kind) (values : Dict Value) : Except QueryError Unit :=
  match kind.required.find? (!values.contains ·) with
  | some name => .error (.missingField kind name)
  | none => .ok ()

/-- One of two fields holds a value where the kind needs one of them. -/
def requireAlternative (kind : Kind) (values : Dict Value) : Except QueryError Unit :=
  match kind.alternatives with
  | none => .ok ()
  | some (first, second) =>
    if values.contains first || values.contains second then .ok ()
    else .error (.invalidQuery (.noAlternative kind first second))

theorem requirePrimaryField_eq_ok_iff {kind : Kind} {field : Option String} :
    requirePrimaryField kind field = .ok () ↔
      (kind.shape.hasPrimaryField → ∃ f, field = some f ∧ f ≠ "") := by
  unfold requirePrimaryField
  cases field with
  | none => cases kind.shape.hasPrimaryField <;> simp
  | some f =>
    cases kind.shape.hasPrimaryField <;> by_cases hf : f = "" <;> simp [hf]

theorem requireDeclared_eq_ok_iff {kind : Kind} {names : List String} :
    requireDeclared kind names = .ok () ↔ ∀ name ∈ names, kind.declares name := by
  unfold requireDeclared
  split
  · rename_i name h
    have := List.find?_some h
    have hm := List.mem_of_find?_eq_some h
    simp only [reduceCtorEq, false_iff]
    intro hall
    simp [hall name hm] at this
  · rename_i h
    simpa using h

theorem requireHeld_eq_ok_iff {kind : Kind} {values : Dict Value} :
    requireHeld kind values = .ok () ↔ ∀ name ∈ kind.required, values.contains name := by
  unfold requireHeld
  split
  · rename_i name h
    have := List.find?_some h
    have hm := List.mem_of_find?_eq_some h
    simp only [reduceCtorEq, false_iff]
    intro hall
    simp [hall name hm] at this
  · rename_i h
    simpa using h

theorem requireAlternative_eq_ok_iff {kind : Kind} {values : Dict Value} :
    requireAlternative kind values = .ok () ↔
      ∀ first second, kind.alternatives = some (first, second) →
        values.contains first ∨ values.contains second := by
  unfold requireAlternative
  split
  · rename_i h; simp [h]
  · rename_i first second h
    simp only [h, Option.some.injEq, Prod.mk.injEq]
    split
    · rename_i hc
      simp only [true_iff]
      rintro _ _ ⟨rfl, rfl⟩
      simpa using hc
    · rename_i hc
      simp only [reduceCtorEq, false_iff]
      intro hall
      exact hc (by simpa using hall first second ⟨rfl, rfl⟩)

/-! ## 2. Well-formed nodes -/

/-- The values of a node are those its kind allows and needs. -/
structure Node.WellFormed (n : Node) : Prop where
  primaryField : requirePrimaryField n.kind n.field = .ok ()
  declared : requireDeclared n.kind n.values.keys = .ok ()
  held : requireHeld n.kind n.values = .ok ()
  alternative : requireAlternative n.kind n.values = .ok ()

/-- The names a node holds values under, ascending. -/
def Node.setFields (n : Node) : List String := n.values.keys

end SearchQuery
