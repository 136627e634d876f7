import SearchQuery.Proofs.Updates

/-!
# Where cycles come from

A query can only be built around queries that are there, and none of those is around it yet. So no
cycle is closed by building, and none by taking a value away: **a cycle comes of `set` alone, and
only if a walked field is given a query that leads back to the one that is set**
(`cycles_come_from_set`).

A client that sets no values with queries in them therefore never sees a cycle reported, in whatever
way it has put its queries together by building.
-/

namespace SearchQuery

/-- The action puts no query into one that is there. -/
def Store.Action.SetsNoQuery : Store.Action → Prop
  | .set _ _ v => v.hasNodes = false
  | .build _ | .unset _ _ => True

namespace Store

/-- No query stands below itself. -/
def Acyclic (s : Store) : Prop := ∀ m, ¬ Relation.TransGen s.Child m m

variable {s s' : Store}

theorem Acyclic.not_cycleBelow (h : s.Acyclic) (r : NodeId) : ¬ s.CycleBelow r := by
  rintro ⟨m, -, hcycle⟩
  exact h m hcycle

theorem acyclic_empty : (∅ : Store).Acyclic := by
  intro m hcycle
  obtain ⟨c, ⟨name, v, hw, -⟩, -⟩ := Relation.TransGen.head'_iff.1 hcycle
  cases hw.2

theorem Acyclic.of_fewer (h : s.Acyclic) (hchild : ∀ p c, s'.Child p c → s.Child p c) :
    s'.Acyclic :=
  fun m hcycle => h m (Relation.TransGen.mono hchild _ _ hcycle)

/-! ## 1. Building -/

/-- A step down from a query that was there before a node was added is one from before. -/
theorem child_add_of_has {n : Node} {p c : NodeId} (hp : s.Has p) (h : (s.add n).Child p c) :
    s.Child p c := by
  unfold Child at h ⊢
  rwa [node_add n hp] at h

/-- Whatever stands in a query after a node was added was there before. -/
theorem has_of_child_add (hs : s.Closed) {n : Node} (hn : s.KnowsAll n.values) {p c : NodeId}
    (h : (s.add n).Child p c) : s.Has c := by
  obtain ⟨name, v, hw, hc⟩ := h
  rcases s.node_add_cases n p with hp | hp <;> rw [hp] at hw
  · exact hn name v hw.2 c hc.mem_handles
  · exact hs p c ⟨name, v, hw, hc⟩

/-- **A new node closes no cycle**: it stands in no query, and the steps below the queries it holds
    are those of before. -/
theorem Acyclic.add (h : s.Acyclic) (hs : s.Closed) {n : Node} (hn : s.KnowsAll n.values) :
    (s.add n).Acyclic := by
  have hbefore : ∀ a b, s.Has a → Relation.TransGen (s.add n).Child a b →
      Relation.TransGen s.Child a b := by
    intro a b ha hab
    induction hab using Relation.TransGen.head_induction_on with
    | single hab => exact .single (child_add_of_has ha hab)
    | head hac _ ih => exact .head (child_add_of_has ha hac) (ih (has_of_child_add hs hn hac))
  intro m hcycle
  obtain ⟨a, -, ham⟩ := Relation.TransGen.tail'_iff.1 hcycle
  exact h m (hbefore m m (has_of_child_add hs hn ham) hcycle)

/-! ## 2. Setting -/

/-- **When `set` closes a cycle**: when the field is walked, and the new value holds a query that
    led to the one that is set. -/
theorem Acyclic.set_iff (h : s.Acyclic) {p : NodeId} (hp : s.Has p) {name : String} {v : Value}
    (hset : s.set p name v = .ok s') :
    ¬ s'.Acyclic ↔ name ∈ (s.node p).kind.walked ∧ ∃ c, v.Holds c ∧ s.Reaches c p := by
  constructor
  · intro hcyclic
    simp only [Acyclic, not_forall, not_not] at hcyclic
    obtain ⟨m, hcycle⟩ := hcyclic
    rcases transGen_set hset hp hcycle with hbefore | ⟨hmp, hname, c, hc, hcm⟩
    · exact absurd hbefore (h m)
    · exact ⟨hname, c, hc, hcm.trans hmp⟩
  · rintro ⟨hname, c, hc, hcp⟩ hacyclic
    exact hacyclic p (.head' (child_set_new hset hp hname hc) (hcp.set hset))

/-! ## 3. Actions -/

/-- **No cycle comes of an action that puts no query into one that is there.** -/
theorem Acyclic.perform {x : Session} (h : x.store.Acyclic) (hx : x.Sound) {a : Action}
    (ha : x.Allows a) (hsets : a.SetsNoQuery) : (x.store.perform a).1.Acyclic := by
  rcases x.store.perform_cases a with ⟨e, hp, -⟩ | ⟨b, n, rfl, hn, hp⟩ |
    ⟨p, name, v, rfl, hd, hp⟩ | ⟨p, name, rfl, -, -, hp⟩ <;> simp only [hp]
  · exact h
  · exact h.add hx.closed (Builder.knowsAll_of_build (hx.builders b ha) hn)
  · by_contra hcyclic
    obtain ⟨-, c, hc, -⟩ := (h.set_iff ha.1 (set_eq_ok_iff.2 ⟨hd, rfl⟩)).1 hcyclic
    rw [Action.SetsNoQuery, hc.hasNodes] at hsets
    cases hsets
  · exact h.of_fewer fun _ _ => child_replace_erase

/-- A cycle is reported only where one is. -/
theorem cycleBelow_of_cyclic (hs : s.WellFormed) {settings : Settings} {r : NodeId} {kind : Kind}
    (h : s.clause settings r = .error (.cyclic kind)) : s.CycleBelow r := by
  by_contra hacyclic
  obtain ⟨q, hq, hat⟩ := mem_faults (mem_faults_of_clause hs h)
  cases hat with
  | cyclic hmem _ =>
      have hnodup := (isChain_of_descends hq).2.nodup hacyclic
      exact (List.nodup_append.1 hnodup).2.2 q.id (List.mem_reverse.2 hmem) q.id (by simp) rfl

end Store

namespace Session

/-- **A run that sets no queries leads to no cycle.** -/
theorem RunBy.acyclic {y : Session} (hy : RunBy (fun _ a => a.SetsNoQuery) start y) :
    y.store.Acyclic :=
  hy.keeps .refl Store.acyclic_empty fun _ hz h _ ha hsets => h.perform hz.sound ha hsets

/-- **Cycles come from `set`.** As long as there is none, building, unsetting, copying handles and
    setting values without queries bring none about; `set` does exactly if a walked field is given a
    query that led to the one that is set. In a run that sets no queries, none is ever reported. -/
theorem cycles_come_from_set :
    (∀ x : Session, x.Reachable → x.store.Acyclic →
      (∀ b ∈ x.builders, (x.store.perform (.build b)).1.Acyclic) ∧
      (∀ p name, x.store.Has p → (x.store.perform (.unset p name)).1.Acyclic) ∧
      (∀ y, StepBy (fun _ a => a.SetsNoQuery) x y → y.store.Acyclic) ∧
      (∀ p name v s', x.store.Has p → x.store.set p name v = .ok s' →
        (¬ s'.Acyclic ↔ name ∈ (x.store.node p).kind.walked ∧
          ∃ c, v.Holds c ∧ x.store.Reaches c p))) ∧
    (∀ y, RunBy (fun _ a => a.SetsNoQuery) start y → ∀ settings r kind,
      y.store.clause settings r ≠ .error (.cyclic kind) ∧
      y.store.generate settings r ≠ .error (.cyclic kind)) := by
  refine ⟨fun x hx hacyclic => ⟨?_, ?_, ?_, ?_⟩, fun y hy settings r kind => ?_⟩
  · exact fun b hb => hacyclic.perform hx.sound (a := .build b) hb trivial
  · exact fun p name hp => hacyclic.perform hx.sound (a := .unset p name) hp trivial
  · intro y hstep
    cases hstep with
    | aside _ hstore => rwa [hstore]
    | perform ha hsets => exact hacyclic.perform hx.sound ha hsets
  · exact fun p name v s' hp hset => hacyclic.set_iff hp hset
  · have hacyclic := hy.acyclic
    have hreach : y.Reachable := RunBy.run hy
    have hclause : y.store.clause settings r ≠ .error (.cyclic kind) := fun h =>
      hacyclic.not_cycleBelow r (Store.cycleBelow_of_cyclic hreach.sound.wellFormed h)
    exact ⟨hclause, fun h => hclause (Store.generate_eq_error_iff.1 h)⟩

/-- The diamond is built without a `set`, and no cycle is in it. One is after its outermost query
    is put into the one in the middle, and none after its term query is put into the outermost. -/
theorem cycles_come_from_set_diamond :
    ∃ x : Session, x.store = Store.diamond ∧ RunBy (fun _ a => a.SetsNoQuery) start x ∧
      (∀ settings kind, Store.diamond.generate settings ⟨2⟩ ≠ .error (.cyclic kind)) ∧
      (∃ s, Store.diamond.set ⟨1⟩ "must_not" (.list [.node ⟨2⟩]) = .ok s ∧ ¬ s.Acyclic) ∧
      (∃ s, Store.diamond.set ⟨2⟩ "query" (.node ⟨0⟩) = .ok s ∧ s.Acyclic) := by
  obtain ⟨bs, hrun⟩ := Store.exists_runBy_diamond (P := fun _ a => a.SetsNoQuery)
    fun _ _ => trivial
  have hset : ∀ p name v s', Store.diamond.Has p → Store.diamond.set p name v = .ok s' →
      (¬ s'.Acyclic ↔ name ∈ (Store.diamond.node p).kind.walked ∧
        ∃ c, v.Holds c ∧ Store.diamond.Reaches c p) :=
    (cycles_come_from_set.1 _ hrun.run hrun.acyclic).2.2.2
  have hdown : Store.diamond.Child ⟨2⟩ ⟨1⟩ :=
    ⟨"filter", .node ⟨1⟩, ⟨by decide, rfl⟩, .node _⟩
  have hleaf : ∀ c, ¬ Store.diamond.Child ⟨0⟩ c := by
    rintro c ⟨name, v, ⟨hname, hv⟩, hc⟩
    have hwalked : (Store.diamond.node ⟨0⟩).kind.walked = ["value", "boost"] := rfl
    rw [hwalked, List.mem_pair] at hname
    rcases hname with rfl | rfl
    · cases hv
      cases hc
    · cases hv
  refine ⟨⟨Store.diamond, bs⟩, rfl, hrun, fun settings kind => ?_, ⟨_, rfl, ?_⟩, ⟨_, rfl, ?_⟩⟩
  · exact (cycles_come_from_set.2 _ hrun settings ⟨2⟩ kind).2
  · refine (hset ⟨1⟩ "must_not" (.list [.node ⟨2⟩]) _ (by decide +kernel) rfl).2 ⟨by decide, ?_⟩
    exact ⟨⟨2⟩, .item List.mem_cons_self, .single hdown⟩
  · by_contra hcyclic
    obtain ⟨-, c, hc, hreach⟩ :=
      (hset ⟨2⟩ "query" (.node ⟨0⟩) _ (by decide +kernel) rfl).1 hcyclic
    cases hc
    rcases hreach.cases_head with h | ⟨c, hc, -⟩
    · cases h
    · exact hleaf c hc

end Session

end SearchQuery
