import SearchQuery.Proofs.Faults
import SearchQuery.Proofs.Session

/-!
# Queries are valid at every moment

What a builder is tested for when a query is built holds of the query ever after: `set` and `unset`
refuse what would break it. **Every query of every session is valid**
(`sessions_keep_queries_valid`), with the kind and the primary field it was built with.

The errors therefore do not mix. Building and changing fail with errors of construction only; and as
no query lacks what its kind needs, generation never fails with one.
-/

namespace SearchQuery

/-- A query holds values under declared names only, one under every required name and under one of
    two alternatives, and its primary field is not empty if its clause is keyed by one. -/
structure Node.Valid (n : Node) : Prop where
  declared : ∀ name, n.values.contains name → n.kind.declares name
  required : ∀ name ∈ n.kind.required, n.values.contains name
  index : n.kind = .indices → n.values.contains "index" ∨ n.values.contains "indices"
  filter : n.kind = .constantScore → n.values.contains "filter" ∨ n.values.contains "query"
  primaryField : n.kind.shape.hasPrimaryField → ∃ field, n.field = some field ∧ field ≠ ""

theorem Node.WellFormed.valid {n : Node} (hn : n.WellFormed) : n.Valid where
  declared name h := requireDeclared_eq_ok_iff.1 hn.declared name (Dict.mem_keys.2 h)
  required := requireHeld_eq_ok_iff.1 hn.held
  index h := requireAlternative_eq_ok_iff.1 hn.alternative _ _ (by rw [h]; rfl)
  filter h := requireAlternative_eq_ok_iff.1 hn.alternative _ _ (by rw [h]; rfl)
  primaryField := requirePrimaryField_eq_ok_iff.1 hn.primaryField

/-- No fault of a walk is an error of construction. -/
theorem Store.isConstruction_of_mem_faults {s : Store} {limit room : Nat} {chain : List NodeId}
    {id : NodeId} {e : QueryError} (h : e ∈ s.faults limit room chain id) :
    e.isConstruction = false := by
  obtain ⟨q, -, hat⟩ := mem_faults h
  cases hat <;> rfl

namespace Session

/-- **Every query was built** at some moment of the session. -/
theorem Reachable.exists_build {x : Session} (hx : x.Reachable) {id : NodeId}
    (hid : x.store.Has id) :
    ∃ (w : Session) (b : Builder) (s : Store), w.Reachable ∧ b ∈ w.builders ∧
      w.store.build b = .ok (s, id) ∧ Run ⟨s, w.builders⟩ x := by
  induction hx with
  | refl => cases hid
  | @tail y z hy hstep ih =>
      by_cases hold : y.store.Has id
      · obtain ⟨w, b, s, hw, hb, hbuild, hrun⟩ := ih hold
        exact ⟨w, b, s, hw, hb, hbuild, hrun.tail hstep⟩
      · -- the last step is the one that added the query
        cases hstep with
        | @perform a ha =>
            rcases y.store.perform_cases a with ⟨e, h, -⟩ | ⟨b, n, rfl, hn, h⟩ |
              ⟨j, name, v, -, -, h⟩ | ⟨j, name, -, -, -, h⟩ <;> simp only [h] at hid ⊢
            · exact absurd hid hold
            · have hnew : id = y.store.next := (y.store.has_add.1 hid).resolve_left hold
              exact ⟨y, b, _, hy, ha, Store.build_eq_ok_iff.2 ⟨n, hn, rfl, hnew⟩, .refl⟩
            · exact absurd (y.store.has_replace.1 hid) hold
            · exact absurd (y.store.has_replace.1 hid) hold
        | _ => exact absurd hid hold

/-- A query is of the kind and has the primary field that it was built with, by whatever run the
    session has come from there. -/
theorem Run.keeps_built {x w : Session} {b : Builder} {s : Store} {id : NodeId}
    (hrun : Run ⟨s, w.builders⟩ x) (hbuild : w.store.build b = .ok (s, id)) :
    (x.store.node id).kind = b.kind ∧ (x.store.node id).field = b.field := by
  obtain ⟨hid, hkind, hfield⟩ := Store.has_of_build hbuild
  obtain ⟨-, hkind', hfield'⟩ := hrun.keeps hid
  exact ⟨hkind'.trans hkind, hfield'.trans hfield⟩

/-- **Queries are valid at every moment of every session**, and errors of construction come from
    construction alone. -/
theorem sessions_keep_queries_valid {x : Session} (hx : x.Reachable) :
    (∀ id, x.store.Has id → (x.store.node id).Valid ∧
      ∃ (w : Session) (b : Builder) (s : Store), w.Reachable ∧ b ∈ w.builders ∧
        w.store.build b = .ok (s, id) ∧ Run ⟨s, w.builders⟩ x ∧
        (x.store.node id).kind = b.kind ∧ (x.store.node id).field = b.field) ∧
    (∀ (settings : Settings) (id : NodeId) (e : QueryError),
      x.store.clause settings id = .error e ∨ x.store.generate settings id = .error e →
        e.isConstruction = false) ∧
    (∀ (a : Store.Action) (e : QueryError), (x.store.perform a).2 = .error e →
      e.isConstruction = true) := by
  have hwf := hx.sound.wellFormed
  refine ⟨fun id hid => ⟨(hwf id).valid, ?_⟩, ?_, ?_⟩
  · obtain ⟨w, b, s, hw, hb, hbuild, hrun⟩ := hx.exists_build hid
    exact ⟨w, b, s, hw, hb, hbuild, hrun, hrun.keeps_built hbuild⟩
  · intro settings id e h
    rw [Store.generate_eq_error_iff, or_self] at h
    exact Store.isConstruction_of_mem_faults (Store.mem_faults_of_clause hwf h)
  · intro a e h
    rcases x.store.perform_cases a with ⟨e', h', he'⟩ | ⟨_, _, -, -, h'⟩ | ⟨_, _, _, -, -, h'⟩ |
      ⟨_, _, -, -, -, h'⟩ <;> rw [h'] at h <;> cases h
    exact he'

/-- In the session of the loop the outermost query is valid, and was built by a builder of its kind.
    Generation fails for it with the cycle, which is no error of construction. To unset the value of
    the term query fails with one that is. -/
theorem sessions_keep_queries_valid_loop :
    ∃ builders, Reachable ⟨Store.loop, builders⟩ ∧ Store.loop.Has ⟨2⟩ ∧
      (Store.loop.node ⟨2⟩).Valid ∧
      (∃ (w : Session) (b : Builder) (s : Store), w.Reachable ∧ b ∈ w.builders ∧
        w.store.build b = .ok (s, ⟨2⟩) ∧ Run ⟨s, w.builders⟩ ⟨Store.loop, builders⟩ ∧
        b.kind = .constantScore) ∧
      Store.loop.clause {} ⟨2⟩ = .error (.cyclic .constantScore) ∧
      (QueryError.cyclic .constantScore).isConstruction = false ∧
      (Store.loop.perform (.unset ⟨0⟩ "value")).2 =
        .error (.invalidQuery (.unsetRequired .term "value")) ∧
      (QueryError.invalidQuery (.unsetRequired .term "value")).isConstruction = true := by
  have hid : Store.loop.Has ⟨2⟩ := by decide +kernel
  have hcyclic : Store.loop.clause {} ⟨2⟩ = .error (.cyclic .constantScore) := rfl
  have hunset : (Store.loop.perform (.unset ⟨0⟩ "value")).2 =
      .error (.invalidQuery (.unsetRequired .term "value")) := rfl
  obtain ⟨builders, h⟩ := Store.reachable_loop
  obtain ⟨hqueries, hgenerate, hperform⟩ := sessions_keep_queries_valid h
  obtain ⟨hvalid, w, b, s, hw, hb, hbuild, hrun, hkind, -⟩ := hqueries ⟨2⟩ hid
  exact ⟨builders, h, hid, hvalid, ⟨w, b, s, hw, hb, hbuild, hrun, hkind.symm⟩, hcyclic,
    hgenerate {} ⟨2⟩ _ (.inl hcyclic), hunset, hperform _ _ hunset⟩

end Session

end SearchQuery
