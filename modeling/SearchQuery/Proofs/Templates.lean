import SearchQuery.Proofs.Building
import SearchQuery.Template

/-!
# Templates supply what is required

A template is asked for what its kind requires, but the names that it writes, the names that the
kind declares and those that it requires stand in three tables. They agree: **whatever is begun
with a template is never short of a required value** (`Template.supplies`), as calls add names and
take none away.

What is left to go wrong is therefore what the client does: an empty primary field, a name that is
not declared, and the two kinds that need one of two fields (`template_builds_iff`).
-/

namespace SearchQuery.Template

open Builder

variable {t : Template} {calls : List Call} {name : String}

/-! ## 1. The tables -/

/-- A template is a new builder and a few calls. -/
theorem builder_eq_run (t : Template) :
    t.builder = run ⟨t.kind, t.field, ∅⟩ (t.values.map fun e => .set e.1 e.2) := by
  have hrun : ∀ (es : List (String × Value)) (d : Dict Value),
      run ⟨t.kind, t.field, d⟩ (es.map fun e => .set e.1 e.2) =
        ⟨t.kind, t.field, d.insertAll es⟩ := by
    intro es
    induction es with
    | nil => exact fun _ => rfl
    | cons e es ih => exact fun d => ih (d.insert e.1 e.2)
  exact (hrun t.values ∅).symm

/-- A template writes declared names. -/
theorem declares_of_mem_values (t : Template) : ∀ e ∈ t.values, t.kind.declares e.1 := by
  cases t <;> simp [values, kind, Kind.declares, Kind.fields, Kind.matchFields,
    Kind.moreLikeThisFields]

/-- What is required is written by the template, or else it is forced. -/
theorem mem_values_of_required (t : Template) : ∀ name ∈ t.kind.required,
    name ∈ t.values.map (·.1) ∨ name ∈ t.kind.forced.map (·.1) := by
  cases t <;> simp [values, kind, Kind.required, Kind.forced]

/-- Where one of two fields is needed, the template writes neither. -/
theorem not_mem_values_of_alternatives (t : Template) :
    (t.kind = .indices → ∀ e ∈ t.values, e.1 ≠ "index" ∧ e.1 ≠ "indices") ∧
    (t.kind = .constantScore → ∀ e ∈ t.values, e.1 ≠ "filter" ∧ e.1 ≠ "query") := by
  cases t <;> simp [values, kind]

/-! ## 2. What is begun with a template -/

/-- What is bound after calls: what the template wrote, and what the calls write. -/
theorem contains_run_builder :
    (t.builder.run calls).values.contains name ↔
      name ∈ t.values.map (·.1) ∨ Writes calls name := by
  have hwrites : Writes (t.values.map fun e => .set e.1 e.2) name ↔ name ∈ t.values.map (·.1) := by
    unfold Writes
    simp [Call.name?, Call.write?]
  have hempty : ¬ (∅ : Dict Value).contains name := by simp [Dict.contains]
  rw [contains_run, builder_eq_run, contains_run, hwrites]
  simp [hempty]

/-- A template lacks its primary field if it is given one without a name. -/
theorem lacksField_iff : (t.builder.run calls).LacksField ↔ t.field = some "" := by
  have hprimary := isSome_field t
  rw [LacksField, run_kind, run_field]
  show t.kind.shape.hasPrimaryField ∧ (t.field = none ∨ t.field = some "") ↔ _
  rw [← hprimary]
  cases t.field <;> simp

/-- What is stray was written by a call. -/
theorem stray_iff :
    (t.builder.run calls).Stray name ↔ Writes calls name ∧ ¬ t.kind.declares name := by
  rw [Stray, contains_run_builder, run_kind]
  show (_ ∧ ¬ t.kind.declares name) ↔ _
  constructor
  · intro h
    obtain ⟨hname | hname, hnot⟩ := h
    · obtain ⟨e, he, rfl⟩ := List.mem_map.1 hname
      exact absurd (declares_of_mem_values t e he) hnot
    · exact ⟨hname, hnot⟩
  · intro h
    exact ⟨.inr h.1, h.2⟩

/-- **What is required is supplied**, whatever calls are made. -/
theorem supplies (h : name ∈ t.kind.required) : (t.builder.run calls).Supplies name := by
  rw [Supplies, contains_run_builder, run_kind]
  exact (mem_values_of_required t name h).imp_left .inl

/-- A name that the template does not write is bound if a call writes it. -/
theorem contains_iff_writes (h : ∀ e ∈ t.values, e.1 ≠ name) :
    (t.builder.run calls).values.contains name ↔ Writes calls name := by
  have hname : name ∉ t.values.map (·.1) := by
    intro hmem
    obtain ⟨e, he, hename⟩ := List.mem_map.1 hmem
    exact h e he hename
  rw [contains_run_builder, or_iff_right hname]

theorem contains_or_iff_writes {first second : String}
    (h : ∀ e ∈ t.values, e.1 ≠ first ∧ e.1 ≠ second) :
    ((t.builder.run calls).values.contains first ∨ (t.builder.run calls).values.contains second) ↔
      Writes calls first ∨ Writes calls second := by
  rw [contains_iff_writes fun e he => (h e he).1, contains_iff_writes fun e he => (h e he).2]

/-- **When something begun with a template is built**, and that no required value is ever missed:
    what may be missing is the name of the primary field. -/
theorem template_builds_iff (s : Store) (t : Template) (calls : List Call) :
    ((∃ s' q, s.build (t.builder.run calls) = .ok (s', q)) ↔
      t.field ≠ some "" ∧ (∀ name, Writes calls name → t.kind.declares name) ∧
      (t.kind = .indices → Writes calls "index" ∨ Writes calls "indices") ∧
      (t.kind = .constantScore → Writes calls "filter" ∨ Writes calls "query")) ∧
    (∀ kind name, s.build (t.builder.run calls) = .error (.missingField kind name) ↔
      t.field = some "" ∧ kind = t.kind ∧ name = "field") := by
  have hkind : (t.builder.run calls).kind = t.kind := run_kind _ calls
  constructor
  · rw [Store.exists_build_iff, Builder.exists_build_iff, lacksField_iff, hkind]
    have hsupplies : ∀ name ∈ t.kind.required, (t.builder.run calls).Supplies name :=
      fun name => supplies
    have hdeclared : (∀ name, ¬ (t.builder.run calls).Stray name) ↔
        ∀ name, Writes calls name → t.kind.declares name := by
      simp only [stray_iff, not_and, not_not]
    obtain ⟨hindices, hconstantScore⟩ := not_mem_values_of_alternatives t
    rw [hdeclared, and_iff_right hsupplies,
      imp_congr_right fun hk => contains_or_iff_writes (hindices hk),
      imp_congr_right fun hk => contains_or_iff_writes (hconstantScore hk)]
  · intro kind name
    rw [Store.build_eq_error_iff, Builder.build_eq_error_iff]
    constructor
    · intro h
      generalize he : QueryError.missingField kind name = e at h
      cases h with
      | field h =>
          cases he
          exact ⟨lacksField_iff.1 h, hkind, rfl⟩
      | @missing before after missed hfield hstray hrequired hbefore h =>
          -- what is required is supplied, so that this is no case
          refine absurd (supplies ?_) h
          rw [← hkind, hrequired]
          simp
      | stray | index | filter => cases he
    · intro h
      obtain ⟨hfield, rfl, rfl⟩ := h
      rw [← hkind]
      exact .field (lacksField_iff.2 hfield)

/-- A query on indices is built if one is named, and a match query not if its field has no name. -/
theorem template_builds_iff_indices :
    (∃ s' q, Store.diamond.build
      ((indices ⟨0⟩).builder.run [.set "index" (.text "posts")]) = .ok (s', q)) ∧
    (¬ ∃ s' q, Store.diamond.build ((indices ⟨0⟩).builder.run []) = .ok (s', q)) ∧
    Store.diamond.build ((matchText "" (.text "rust")).builder.run [.analyzer "standard"]) =
      .error (.missingField .matchText "field") ∧
    ∀ calls kind name, Store.diamond.build ((randomScore (.int 42)).builder.run calls) ≠
      .error (.missingField kind name) := by
  have hnamed := (template_builds_iff .diamond (indices ⟨0⟩) [.set "index" (.text "posts")]).1
  have hbare := (template_builds_iff .diamond (indices ⟨0⟩) []).1
  have hmatch :=
    (template_builds_iff .diamond (matchText "" (.text "rust")) [.analyzer "standard"]).2
  have hseed := fun calls => (template_builds_iff .diamond (randomScore (.int 42)) calls).2
  refine ⟨hnamed.2 ⟨by decide, ?_, ?_, ?_⟩, ?_, (hmatch _ _).2 ⟨rfl, rfl, rfl⟩, ?_⟩
  · intro name h
    obtain ⟨c, hc, hname⟩ := h
    cases List.mem_singleton.1 hc
    cases hname
    decide +kernel
  · intro _
    exact .inl ⟨_, List.mem_singleton_self _, rfl⟩
  · intro h
    cases h
  · intro h
    obtain ⟨c, hc, -⟩ | ⟨c, hc, -⟩ := (hbare.1 h).2.2.1 rfl <;> cases hc
  · intro calls kind name h
    cases ((hseed calls kind name).1 h).1

end SearchQuery.Template
