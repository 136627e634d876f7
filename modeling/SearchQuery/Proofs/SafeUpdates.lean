import SearchQuery.Proofs.Composition
import SearchQuery.Proofs.Footprint
import SearchQuery.Proofs.Layout

/-!
# Updates that are safe

What is generated can be spoilt by a change: a value may have no form, or lead to queries that are
too deep or lead back. **Nothing is spoilt by taking values away, nor by setting plain ones**
(`safe_updates_keep_requests`): each makes the graph of queries smaller, wherever the query that is
changed may stand, and what every kind needs is still there, as `unset` sees to it. So it is after
any run of such changes, with other queries built in between.

For the query itself it is said exactly what comes of `unset`: its clause loses the entry of that
name, and nothing else. Where the value did not show in the clause, which is so for a pinned text
and for the fields that a more-like-this clause on one field leaves out, the clause is the same.
-/

namespace SearchQuery

/-- The action only builds, takes a value away, or sets one that carries no query and has no
    fault. -/
def Store.Action.Safe : Store.Action → Prop
  | .build _ | .unset _ _ => True
  | .set _ _ v => v.hasNodes = false ∧ ∀ fault, ¬ v.HasFault fault

theorem Value.plain_of_hasNodes_eq_false {v : Value} (hnodes : v.hasNodes = false)
    (hfault : ∀ fault, ¬ v.HasFault fault) : v.Plain := by
  refine ⟨fun id hid => ?_, hfault⟩
  rw [hid.hasNodes] at hnodes
  cases hnodes

/-- Kinds and names whose values do not show in a clause: a pinned text, and what is left out. Of
    the names that can be unset these are the ones. -/
def Kind.Hides (k : Kind) (name : String) : Prop :=
  (k = .matchAll ∧ name = "zero_terms_query") ∨ (k = .moreLikeThisField ∧ name = "fields")

instance (k : Kind) (name : String) : Decidable (k.Hides name) :=
  inferInstanceAs (Decidable (_ ∨ _))

namespace Store

variable {s s' : Store} {p q c : NodeId} {name : String} {previous : Option Value}

/-! ## 1. Taking a value away -/

section Unset

variable (hunset : s.unset p name = .ok (s', previous))

include hunset

theorem node_unset_self (hp : s.Has p) :
    s'.node p = ⟨(s.node p).kind, (s.node p).field, (s.node p).values.erase name⟩ := by
  obtain ⟨-, -, -, rfl, -⟩ := unset_eq_ok_iff.1 hunset
  exact node_replace_self _ hp

theorem node_unset_ne (hq : q ≠ p) : s'.node q = s.node q := by
  obtain ⟨-, -, -, rfl, -⟩ := unset_eq_ok_iff.1 hunset
  exact s.node_replace_ne _ hq

theorem child_unset (h : s'.Child q c) : s.Child q c := by
  obtain ⟨-, -, -, rfl, -⟩ := unset_eq_ok_iff.1 hunset
  exact child_replace_erase h

theorem faulty_unset (h : (s'.node q).Faulty) : (s.node q).Faulty := by
  obtain ⟨-, -, -, rfl, -⟩ := unset_eq_ok_iff.1 hunset
  obtain ⟨j, w, fault, hw, hf⟩ := h
  exact ⟨j, w, fault, walks_replace_erase hw, hf⟩

omit hunset in
theorem WellFormed.unset (hs : s.WellFormed) (hunset : s.unset p name = .ok (s', previous)) :
    s'.WellFormed := by
  intro q
  obtain ⟨-, hopt, halt, rfl, -⟩ := unset_eq_ok_iff.1 hunset
  rcases s.node_replace_cases p _ q with h | ⟨rfl, h⟩ <;> rw [h]
  · exact hs q
  · exact (hs q).erase hopt halt

/-- **What was generated before a value is taken away still is.** -/
theorem exists_clause_unset (hs : s.WellFormed) {settings : Settings} {r : NodeId}
    (h : ∃ j, s.clause settings r = .ok j) : ∃ j, s'.clause settings r = .ok j :=
  exists_clause_of_fewer hs (hs.unset hunset) (fun _ _ => child_unset hunset)
    (fun _ => faulty_unset hunset) h

/-- **The clause of the query itself is written as before, without the value**: its children are
    what they were, as they do not lead back to it. -/
theorem clause_unset_self (hs : s.WellFormed) (hp : s.Has p) {settings : Settings} {j : Json}
    (h : s.clause settings p = .ok j) :
    ∃ f, j = (s.node p).frame (.ofDict ((s.node p).body f)) ∧
      s'.clause settings p = .ok ((s.node p).frame (.ofDict
        ((⟨(s.node p).kind, (s.node p).field, (s.node p).values.erase name⟩ : Node).body f))) := by
  obtain ⟨j', hj'⟩ := exists_clause_unset hunset hs ⟨j, h⟩
  obtain ⟨f, hj, hwritten⟩ := exists_toJson_of_changed hs (hs.unset hunset)
    (fun _ hm => node_unset_ne hunset hm) (fun _ hc => child_unset hunset hc) h hj'
  refine ⟨f, hj, ?_⟩
  rw [hj', hwritten, node_unset_self hunset hp]
  rfl

end Unset

/-! ## 2. What shows of a value -/

/-- A value that does not show can be taken away without a trace in the body. -/
theorem body_erase_of_hides {n : Node} (h : n.values.get? name = none ∨ n.kind.Hides name)
    (f : NodeId → Json) :
    (⟨n.kind, n.field, n.values.erase name⟩ : Node).body f = n.body f := by
  refine Node.body_erase_of_hidden fun hfree hwalked => ?_
  rcases h with hnone | ⟨hk, hname⟩ | ⟨hk, hname⟩
  · exact hnone
  · exact absurd hname (hfree hk).2
  · exact absurd hwalked (not_mem_walked_of_leftOut hk (.inr hname))

/-- Any other value that is not required shows: its entry is there, and goes with it. -/
theorem body_erase_of_shows {n : Node} (hn : n.WellFormed) (hopt : name ∉ n.kind.required)
    (hheld : n.values.get? name ≠ none) (hshows : ¬ n.kind.Hides name) (f : NodeId → Json) :
    name ∈ (n.body f).keys ∧
      (⟨n.kind, n.field, n.values.erase name⟩ : Node).body f = (n.body f).erase name := by
  constructor
  · refine (Node.mem_keys_body hn f).2 (.inl ⟨Dict.mem_keys.2 ?_, fun hk => ⟨?_, ?_⟩⟩)
    · exact Option.isSome_iff_ne_none.2 hheld
    · rintro rfl
      exact hopt (by rw [hk]; decide)
    · exact fun hname => hshows (.inr ⟨hk, hname⟩)
  · refine Node.body_erase (fun hk => ⟨?_, ?_⟩) f
    · rintro rfl
      exact hopt (by rw [hk]; decide)
    · exact fun hname => hshows (.inl ⟨hk, hname⟩)

end Store

namespace Session

variable {x y : Session} {r : NodeId} {settings : Settings}

/-! ## 3. Actions and runs -/

/-- **A safe action spoils nothing.** -/
theorem exists_clause_perform (hx : x.Sound) (hr : x.store.Has r) {a : Store.Action}
    (ha : x.Allows a) (hsafe : a.Safe) (h : ∃ j, x.store.clause settings r = .ok j) :
    ∃ j, (x.store.perform a).1.clause settings r = .ok j := by
  cases a with
  | build b =>
      have hagrees : ∀ m, x.store.Reaches r m →
          (x.store.node m).Agrees ((x.store.perform (.build b)).1.node m) := fun m hm =>
        (Store.OutOfSight.build (s := x.store) (r := r) b).agrees hm
          (hx.closed.has_of_reaches hr hm)
      rwa [← Store.clause_congr hx.wellFormed (hx.perform ha).wellFormed hagrees]
  | set p name v =>
      cases hset : x.store.set p name v with
      | error e => simpa [Store.perform, hset] using h
      | ok s' =>
          have hplain := Value.plain_of_hasNodes_eq_false hsafe.1 hsafe.2
          simpa [Store.perform, hset] using
            Store.exists_clause_set_plain hx.wellFormed hset ha.1 hplain h
  | unset p name =>
      cases hunset : x.store.unset p name with
      | error e => simpa [Store.perform, hunset] using h
      | ok result =>
          obtain ⟨s', previous⟩ := result
          simpa [Store.perform, hunset] using Store.exists_clause_unset hunset hx.wellFormed h

/-- **A run of safe actions spoils nothing.** -/
theorem exists_clause_of_safe (hx : x.Reachable) (hr : x.store.Has r)
    (hrun : RunBy (fun _ a => a.Safe) x y) (h : ∃ j, x.store.clause settings r = .ok j) :
    ∃ j, y.store.clause settings r = .ok j := by
  refine (hrun.keeps (I := fun t => t.Has r ∧ ∃ j, t.clause settings r = .ok j) hx ⟨hr, h⟩ ?_).2
  intro z hz hI a ha hsafe
  exact ⟨(Store.perform_keeps a hI.1).1, exists_clause_perform hz.sound hI.1 ha hsafe hI.2⟩

/-- **Safe updates keep every request.** What was generated still is after any value was taken away,
    after a plain value was set, and after any run of these, whatever was built in between. After
    `unset` the clause of the query itself has lost the entry of that name, which it had, and
    nothing else; it is the same if nothing was held there, or the value did not show. -/
theorem safe_updates_keep_requests (hx : x.Reachable) :
    (∀ (settings : Settings) (r : NodeId), x.store.Has r →
      (∃ j, x.store.generate settings r = .ok j) →
      (∀ p name s' previous, x.store.unset p name = .ok (s', previous) →
        ∃ j, s'.generate settings r = .ok j) ∧
      (∀ p name v s', x.store.Has p → x.store.set p name v = .ok s' →
        v.hasNodes = false → (∀ fault, ¬ v.HasFault fault) → ∃ j, s'.generate settings r = .ok j) ∧
      ∀ y, RunBy (fun _ a => a.Safe) x y → ∃ j, y.store.generate settings r = .ok j) ∧
    ∀ p name s' previous, x.store.Has p → x.store.unset p name = .ok (s', previous) →
      ∀ (settings : Settings) (j : Json), x.store.clause settings p = .ok j →
        let n := x.store.node p
        (n.values.get? name = none ∨ n.kind.Hides name → s'.clause settings p = .ok j) ∧
        (n.values.get? name ≠ none → ¬ n.kind.Hides name →
          ∃ body, j = n.frame (.ofDict body) ∧ name ∈ body.keys ∧
            s'.clause settings p = .ok (n.frame (.ofDict (body.erase name)))) := by
  have hwf := hx.sound.wellFormed
  constructor
  · intro settings r hr h
    simp only [Store.exists_generate_iff] at h ⊢
    refine ⟨fun p name s' previous hunset => Store.exists_clause_unset hunset hwf h, ?_,
      fun y hrun => exists_clause_of_safe hx hr hrun h⟩
    intro p name v s' hp hset hnodes hfault
    exact Store.exists_clause_set_plain hwf hset hp
      (Value.plain_of_hasNodes_eq_false hnodes hfault) h
  · intro p name s' previous hp hunset settings j hj n
    obtain ⟨f, hjson, hclause⟩ := Store.clause_unset_self hunset hwf hp hj
    obtain ⟨-, hopt, -⟩ := Store.unset_eq_ok_iff.1 hunset
    constructor
    · intro hhidden
      rw [hclause, Store.body_erase_of_hides hhidden, hjson]
    · intro hheld hshows
      obtain ⟨hmem, herase⟩ := Store.body_erase_of_shows (hwf p) hopt hheld hshows f
      exact ⟨n.body f, hjson, hmem, by rw [hclause, herase]⟩

/-- The Boolean query in the layouts is generated after the match-all query in it has lost its
    operator, and it has itself lost that query and been given a boost. The more-like-this query
    loses the entry of its analyzer, and nothing with its fields. -/
theorem safe_updates_keep_requests_layouts :
    ∃ x y : Session, x.Reachable ∧ x.store = Store.layouts ∧ x.store.Has ⟨2⟩ ∧
      (∃ j, x.store.generate {} ⟨2⟩ = .ok j) ∧ RunBy (fun _ a => a.Safe) x y ∧
      (y.store.node ⟨0⟩).setFields = ["query"] ∧ (y.store.node ⟨2⟩).setFields = ["boost"] ∧
      (∃ j, y.store.generate {} ⟨2⟩ = .ok j) ∧
      (∃ s' previous j, x.store.unset ⟨1⟩ "fields" = .ok (s', some previous) ∧
        x.store.clause {} ⟨1⟩ = .ok j ∧ s'.clause {} ⟨1⟩ = .ok j) ∧
      (∃ s' previous body, x.store.unset ⟨1⟩ "analyzer" = .ok (s', some previous) ∧
        x.store.clause {} ⟨1⟩ = .ok ((x.store.node ⟨1⟩).frame (.ofDict body)) ∧
        "analyzer" ∈ body.keys ∧
        s'.clause {} ⟨1⟩ = .ok ((x.store.node ⟨1⟩).frame (.ofDict (body.erase "analyzer")))) := by
  obtain ⟨bs, hx⟩ := Store.reachable_layouts
  have hr : Store.layouts.Has ⟨2⟩ := by decide +kernel
  have hp : Store.layouts.Has ⟨1⟩ := by decide +kernel
  have hj : ∃ j, Store.layouts.generate {} ⟨2⟩ = .ok j := ⟨_, rfl⟩
  have hlike : ∃ j, Store.layouts.clause {} ⟨1⟩ = .ok j := ⟨_, rfl⟩
  have hstart : RunBy (fun _ a => a.Safe) ⟨Store.layouts, bs⟩ ⟨Store.layouts, bs⟩ := .refl
  have hoperator := hstart.unset (show Store.Has _ ⟨0⟩ by decide +kernel) "operator" trivial
  have hmust := hoperator.unset (show Store.Has _ ⟨2⟩ by decide +kernel) "must" trivial
  have hboost := hmust.set (show Store.Has _ ⟨2⟩ by decide +kernel) "boost" (v := .float 2.0)
    (by decide +kernel) ⟨rfl, by rintro fault ⟨⟩; contradiction⟩
  obtain ⟨hkeep, hself⟩ := safe_updates_keep_requests hx
  obtain ⟨-, -, hrun⟩ := hkeep {} ⟨2⟩ hr hj
  obtain ⟨clause, hclause⟩ := hlike
  obtain ⟨hfields, -⟩ := hself ⟨1⟩ "fields" _ _ hp rfl {} clause hclause
  obtain ⟨-, hanalyzer⟩ := hself ⟨1⟩ "analyzer" _ _ hp rfl {} clause hclause
  have hhides : (Store.layouts.node ⟨1⟩).kind.Hides "fields" := by decide +kernel
  have hshows : ¬ (Store.layouts.node ⟨1⟩).kind.Hides "analyzer" := by decide +kernel
  have hheld : (Store.layouts.node ⟨1⟩).values.get? "analyzer" ≠ none := by decide +kernel
  obtain ⟨body, hbody, hmem, herase⟩ := hanalyzer hheld hshows
  refine ⟨_, _, hx, rfl, hr, hj, hboost, rfl, rfl, hrun _ hboost,
    ⟨_, _, clause, rfl, hclause, hfields (.inr hhides)⟩, ⟨_, _, body, rfl, ?_, hmem, herase⟩⟩
  rw [← hbody]
  exact hclause

end Session

end SearchQuery
