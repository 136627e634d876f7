import SearchQuery.Proofs.Faults
import SearchQuery.Proofs.Session

/-!
# What changes do to the graph

`set` and `unset` change one query, and the graph only where that query is. Said here once, for all
that follows from it:

* `set` gives one walked field another value (`Store.walks_set`): what the field held is gone, and
  the query has what the new value holds, as children and as faults;
* `unset` takes a value away and brings none (`Store.walks_replace_erase`);
* **a path to the query that is set is a path afterwards** (`Store.Reaches.set`), as it need not go
  beyond that query; and **a path afterwards is one from before, or else goes by way of the query
  and of something in the new value** (`Store.transGen_set`);
* where there are fewer children and fewer faults, what was generated still is
  (`Store.exists_clause_of_fewer`). So it is after a field was set to a value in which the walk
  comes upon nothing (`Value.Plain`);
* a request that is still generated after `set`, and for which the same is written, is the same
  (`Store.generate_set_of_toJson_eq`).
-/

namespace SearchQuery

/-! ## 1. Walked fields of a changed node -/

namespace Node

variable {n : Node} {name j : String} {v w : Value}

theorem walks_insert :
    (⟨n.kind, n.field, n.values.insert name v⟩ : Node).Walks j w ↔
      (j = name ∧ name ∈ n.kind.walked ∧ w = v) ∨ (j ≠ name ∧ n.Walks j w) := by
  unfold Walks
  rw [Dict.get?_insert]
  by_cases hj : j = name
  · subst hj
    simp [eq_comm]
  · simp [hj]

theorem walks_erase :
    (⟨n.kind, n.field, n.values.erase name⟩ : Node).Walks j w ↔ j ≠ name ∧ n.Walks j w := by
  unfold Walks
  rw [Dict.get?_erase]
  by_cases hj : j = name <;> simp [hj]

end Node

namespace Value

/-- A value that holds a query carries one. -/
theorem Holds.hasNodes {v : Value} {id : NodeId} (h : v.Holds id) : v.hasNodes = true := by
  cases h with
  | node => rfl
  | item hm =>
      rw [hasNodes_list, List.any_eq_true]
      exact ⟨_, hm, rfl⟩

/-- A value is plain if the walk comes upon nothing in it: it holds no query, and has no fault. -/
structure Plain (v : Value) : Prop where
  not_holds : ∀ id, ¬ v.Holds id
  not_hasFault : ∀ fault, ¬ v.HasFault fault

theorem plain_json (j : Json) : (Value.json j).Plain := ⟨nofun, nofun⟩

theorem plain_text (text : String) : (Value.text text).Plain := ⟨nofun, nofun⟩

theorem Plain.encounters_eq_nil {v : Value} (h : v.Plain) (field : String) :
    v.encounters field = [] := by
  refine List.eq_nil_iff_forall_not_mem.2 fun e he => ?_
  cases e with
  | query id => exact h.not_holds id (query_mem_encounters.1 he)
  | fault name fault => exact h.not_hasFault fault (fault_mem_encounters.1 he).2

end Value

namespace Store

variable {s s' : Store} {p q c : NodeId} {name : String} {v : Value}

/-! ## 2. Setting -/

section Set

variable (hset : s.set p name v = .ok s')

include hset

theorem node_set_self (hp : s.Has p) :
    s'.node p = ⟨(s.node p).kind, (s.node p).field, (s.node p).values.insert name v⟩ := by
  obtain ⟨-, rfl⟩ := set_eq_ok_iff.1 hset
  exact node_replace_self _ hp

theorem node_set_ne (hq : q ≠ p) : s'.node q = s.node q := by
  obtain ⟨-, rfl⟩ := set_eq_ok_iff.1 hset
  exact s.node_replace_ne _ hq

theorem kind_set (q : NodeId) : (s'.node q).kind = (s.node q).kind := by
  obtain ⟨-, rfl⟩ := set_eq_ok_iff.1 hset
  rcases s.node_replace_cases p _ q with h | ⟨rfl, h⟩ <;> rw [h]

omit hset in
theorem WellFormed.set (hs : s.WellFormed) (hset : s.set p name v = .ok s') : s'.WellFormed := by
  intro q
  obtain ⟨hd, rfl⟩ := set_eq_ok_iff.1 hset
  rcases s.node_replace_cases p _ q with h | ⟨rfl, h⟩ <;> rw [h]
  · exact hs q
  · exact (hs q).insert hd

/-- **The walked fields after a change**: those of before, but for the one that is set. -/
theorem walks_set (hp : s.Has p) {j : String} {w : Value} :
    (s'.node q).Walks j w ↔
      (q = p ∧ j = name ∧ name ∈ (s.node p).kind.walked ∧ w = v) ∨
        ((q = p → j ≠ name) ∧ (s.node q).Walks j w) := by
  by_cases hq : q = p
  · subst hq
    rw [node_set_self hset hp, Node.walks_insert]
    simp
  · rw [node_set_ne hset hq]
    simp [hq]

/-- What stands in a query after a change stood there before, or is in the new value. -/
theorem child_set_cases (hp : s.Has p) (h : s'.Child q c) :
    s.Child q c ∨ q = p ∧ name ∈ (s.node p).kind.walked ∧ v.Holds c := by
  obtain ⟨j, w, hw, hc⟩ := h
  rcases (walks_set hset hp).1 hw with ⟨hq, -, hname, rfl⟩ | ⟨-, hold⟩
  · exact .inr ⟨hq, hname, hc⟩
  · exact .inl ⟨j, w, hold, hc⟩

theorem child_set_plain (hp : s.Has p) (hv : v.Plain) (h : s'.Child q c) : s.Child q c := by
  rcases child_set_cases hset hp h with hold | ⟨-, -, hc⟩
  · exact hold
  · exact absurd hc (hv.not_holds c)

theorem child_set_new (hp : s.Has p) (hname : name ∈ (s.node p).kind.walked) (hc : v.Holds c) :
    s'.Child p c :=
  ⟨name, v, (walks_set hset hp).2 (.inl ⟨rfl, rfl, hname, rfl⟩), hc⟩

theorem child_set_ne (hq : q ≠ p) : s'.Child q c ↔ s.Child q c := by
  unfold Child
  rw [node_set_ne hset hq]

theorem faulty_set_cases (hp : s.Has p) (h : (s'.node q).Faulty) :
    (s.node q).Faulty ∨ q = p ∧ name ∈ (s.node p).kind.walked ∧ ∃ fault, v.HasFault fault := by
  obtain ⟨j, w, fault, hw, hf⟩ := h
  rcases (walks_set hset hp).1 hw with ⟨hq, -, hname, rfl⟩ | ⟨-, hold⟩
  · exact .inr ⟨hq, hname, fault, hf⟩
  · exact .inl ⟨j, w, fault, hold, hf⟩

/-- **A path to the query that is set is a path afterwards**: it may end where it first comes to
    that query, and up to there nothing is changed. -/
theorem Reaches.set (h : s.Reaches q p) : s'.Reaches q p := by
  induction h using Relation.ReflTransGen.head_induction_on with
  | refl => exact .refl
  | @head a b hab _ ih =>
      by_cases ha : a = p
      · subst ha
        exact .refl
      · exact .head ((child_set_ne hset ha).2 hab) ih

/-- **A path after a change** is one from before, or it goes by way of the query that is set, and
    then from something in the new value. -/
theorem transGen_set (hp : s.Has p) (h : Relation.TransGen s'.Child q c) :
    Relation.TransGen s.Child q c ∨
      s.Reaches q p ∧ name ∈ (s.node p).kind.walked ∧ ∃ b, v.Holds b ∧ s.Reaches b c := by
  induction h with
  | single hqb =>
      rcases child_set_cases hset hp hqb with hold | ⟨rfl, hname, hb⟩
      · exact .inl (.single hold)
      · exact .inr ⟨.refl, hname, _, hb, .refl⟩
  | @tail a b _ hab ih =>
      rcases child_set_cases hset hp hab with hold | ⟨rfl, hname, hb⟩
      · rcases ih with hbefore | ⟨hreach, hname, d, hd, hda⟩
        · exact .inl (hbefore.tail hold)
        · exact .inr ⟨hreach, hname, d, hd, hda.tail hold⟩
      · -- the last step is a new one: what comes before it leads to the query that is set
        refine .inr ⟨?_, hname, b, hb, .refl⟩
        rcases ih with hbefore | ⟨hreach, -⟩
        · exact hbefore.to_reflTransGen
        · exact hreach

end Set

/-! ## 3. Unsetting -/

/-- **No walked field comes to hold anything when a value is taken away.** -/
theorem walks_replace_erase {j : String} {w : Value}
    (h : ((s.replace p ⟨(s.node p).kind, (s.node p).field,
      (s.node p).values.erase name⟩).node q).Walks j w) : (s.node q).Walks j w := by
  rcases s.node_replace_cases p ⟨(s.node p).kind, (s.node p).field,
    (s.node p).values.erase name⟩ q with hq | ⟨rfl, hq⟩ <;> rw [hq] at h
  · exact h
  · exact (Node.walks_erase.1 h).2

theorem child_replace_erase
    (h : (s.replace p ⟨(s.node p).kind, (s.node p).field,
      (s.node p).values.erase name⟩).Child q c) : s.Child q c := by
  obtain ⟨j, w, hw, hc⟩ := h
  exact ⟨j, w, walks_replace_erase hw, hc⟩

/-! ## 4. Less to generate -/

theorem IsChain.mono (hchild : ∀ q c, s'.Child q c → s.Child q c) {ids : List NodeId}
    (h : s'.IsChain q ids) : s.IsChain q ids := by
  induction h with
  | single q => exact .single q
  | cons hc _ ih => exact .cons (hchild _ _ hc) ih

/-- **Where there are fewer children and fewer faults, what was generated still is.** -/
theorem exists_clause_of_fewer (hs : s.WellFormed) (hs' : s'.WellFormed)
    (hchild : ∀ q c, s'.Child q c → s.Child q c)
    (hfaulty : ∀ q, (s'.node q).Faulty → (s.node q).Faulty) {settings : Settings} {r : NodeId}
    (h : ∃ j, s.clause settings r = .ok j) : ∃ j, s'.clause settings r = .ok j := by
  rw [exists_clause_iff hs] at h
  rw [exists_clause_iff hs']
  obtain ⟨hchains, hsupported⟩ := h
  refine ⟨fun ids hids => hchains ids (hids.mono hchild), fun m hm hfault => ?_⟩
  exact hsupported m (Relation.ReflTransGen.mono hchild _ _ hm) (hfaulty m hfault)

/-- **A plain value spoils nothing**: what was generated before a field is set to one still is. -/
theorem exists_clause_set_plain (hs : s.WellFormed) (hset : s.set p name v = .ok s') (hp : s.Has p)
    (hv : v.Plain) {settings : Settings} {r : NodeId} (h : ∃ j, s.clause settings r = .ok j) :
    ∃ j, s'.clause settings r = .ok j := by
  refine exists_clause_of_fewer hs (hs.set hset) (fun q c hc => child_set_plain hset hp hv hc)
    (fun q hq => ?_) h
  rcases faulty_set_cases hset hp hq with hold | ⟨-, -, fault, hf⟩
  · exact hold
  · exact absurd hf (hv.not_hasFault fault)

/-- What is still generated after `set`, and written alike, is the same request. -/
theorem generate_set_of_toJson_eq (hs : s.WellFormed) (hset : s.set p name v = .ok s')
    {settings : Settings} {r : NodeId} {j : Json} (hj : s.generate settings r = .ok j)
    (h : ∃ c, s'.clause settings r = .ok c)
    (hsame : s'.toJson settings.maxDepth r = s.toJson settings.maxDepth r) :
    s'.generate settings r = .ok j := by
  obtain ⟨c, hc⟩ := exists_generate_iff.1 ⟨j, hj⟩
  obtain ⟨c', hc'⟩ := h
  have hclause : c' = c := by
    rw [eq_toJson_of_clause hs hc, eq_toJson_of_clause (hs.set hset) hc', hsame]
  rw [generate_eq, hc] at hj
  rw [generate_eq, hc', hclause, kind_set hset]
  exact hj

end Store

end SearchQuery
