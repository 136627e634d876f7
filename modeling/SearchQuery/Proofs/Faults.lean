import SearchQuery.Proofs.Rendering

/-!
# The faults of a query

A walk stops at the first fault. Here is one that does not: `Store.faults` goes through everything
below a query and lists what is wrong, in the order of the walk. With it goes `Store.toJson`, the
clause that would be written if nothing were wrong.

**The walk agrees with the list** (`Store.outcome_expand`): its outcome is the first fault, and the
clause if there is none. What is said of outcomes is therefore said of the list:

* it is empty exactly if no chain below is too long or comes back to a query above, and no value has
  a fault (`Store.faults_eq_nil_iff`);
* each fault belongs to a `Place` of the walk, and says what is wrong there (`Store.mem_faults`).
-/

namespace SearchQuery

/-! ## 1. Outcomes from lists of faults -/

/-- The first fault, or the result if there is none. -/
def settle {α : Type} (faults : List QueryError) (a : α) : Except QueryError α :=
  match faults with
  | [] => .ok a
  | e :: _ => .error e

theorem settle_eq_ok_iff {α : Type} {faults : List QueryError} {a b : α} :
    settle faults a = .ok b ↔ faults = [] ∧ a = b := by
  cases faults <;> simp [settle]

theorem settle_eq_error_iff {α : Type} {faults : List QueryError} {a : α} {e : QueryError} :
    settle faults a = .error e ↔ faults.head? = some e := by
  cases faults <;> simp [settle]

/-- The faults of an encounter, given those of the queries. -/
def Encounter.faults (below : NodeId → List QueryError) : Encounter → List QueryError
  | .query id => below id
  | .fault field what => [.unsupportedValue field what]

/-- If the outcome of every query is settled by its faults, that of the encounters is by theirs. -/
theorem outcome_meet {child : NodeId → Expansion Json} {below : NodeId → List QueryError}
    {json : NodeId → Json} (h : ∀ id, (child id).outcome = settle (below id) (json id)) :
    ∀ es : List Encounter, (meet child es).outcome = settle (es.flatMap (Encounter.faults below)) ()
  | [] => rfl
  | .fault _ _ :: _ => rfl
  | .query id :: es => by
      have ih := outcome_meet h es
      rw [meet, Expansion.outcome_bind, h id, ih, List.flatMap_cons, Encounter.faults]
      cases below id <;> rfl

namespace Store

variable (s : Store)

/-! ## 2. The walk that does not stop -/

/-- Everything that is wrong below a query, in the order of the walk. A query that is being expanded
    is not entered again, nor is one for which no room is left. -/
def faults (limit : Nat) : (room : Nat) → (chain : List NodeId) → NodeId → List QueryError
  | room, chain, id =>
    if id ∈ chain then [.cyclic (s.node id).kind]
    else
      match room with
      | 0 => [.depthLimitExceeded limit]
      | room + 1 =>
        (s.node id).encounters.flatMap (Encounter.faults (faults limit room (id :: chain)))

/-- The clause of a query, written to a certain depth without a look at what is wrong. -/
def toJson : (room : Nat) → NodeId → Json
  | 0, _ => .null
  | room + 1, id => (s.node id).toJson (toJson room)

variable {s : Store}

theorem faults_of_mem {chain : List NodeId} {id : NodeId} (h : id ∈ chain) (limit room : Nat) :
    s.faults limit room chain id = [.cyclic (s.node id).kind] := by
  unfold faults
  exact if_pos h

theorem faults_zero {chain : List NodeId} {id : NodeId} (h : id ∉ chain) (limit : Nat) :
    s.faults limit 0 chain id = [.depthLimitExceeded limit] := by
  unfold faults
  exact if_neg h

theorem faults_succ {chain : List NodeId} {id : NodeId} (h : id ∉ chain) (limit room : Nat) :
    s.faults limit (room + 1) chain id =
      (s.node id).encounters.flatMap (Encounter.faults (s.faults limit room (id :: chain))) := by
  unfold faults
  exact if_neg h

/-- **The walk agrees with the walk that does not stop**: its outcome is the first fault, or else
    the clause. -/
theorem outcome_expand (hs : s.WellFormed) (limit room : Nat) (chain : List NodeId) (id : NodeId) :
    (s.expand limit room chain id).outcome =
      settle (s.faults limit room chain id) (s.toJson room id) := by
  induction room generalizing chain id with
  | zero =>
      rw [expand, faults]
      by_cases h : id ∈ chain <;> simp [h, settle]
  | succ room ih =>
      by_cases h : id ∈ chain
      · rw [expand, faults_of_mem h]
        simp [h, settle]
      · rw [expand, faults_succ h, if_neg h, Expansion.outcome_enter,
          Node.clause_eq _ (hs id), Expansion.outcome_map, outcome_meet (ih (id :: chain))]
        generalize hf : List.flatMap _ _ = fs
        cases fs with
        | cons e rest => rfl
        | nil =>
            -- no fault below, so every child has answered with its clause
            refine congrArg Except.ok (toJson_node_congr fun c hc => ?_)
            have hnil : s.faults limit room (id :: chain) c = [] :=
              List.flatMap_eq_nil_iff.1 hf _ (query_mem_encounters.2 hc)
            simp [Expansion.answer, ih, hnil, settle, Except.toOption]

theorem clause_eq (hs : s.WellFormed) (settings : Settings) (id : NodeId) :
    s.clause settings id =
      settle (s.faults settings.maxDepth settings.maxDepth [] id) (s.toJson settings.maxDepth id) :=
  outcome_expand hs _ _ _ _

/-- Where no query may be entered, nothing is generated. -/
theorem clause_zero (wrap : Bool) (id : NodeId) :
    s.clause ⟨0, wrap⟩ id = .error (.depthLimitExceeded 0) := rfl

/-- A clause that is generated is the one that is written without a look at what is wrong. -/
theorem eq_toJson_of_clause (hs : s.WellFormed) {settings : Settings} {id : NodeId} {j : Json}
    (h : s.clause settings id = .ok j) : j = s.toJson settings.maxDepth id := by
  rw [clause_eq hs, settle_eq_ok_iff] at h
  exact h.2.symm

/-- An error that is reported is one of the faults. -/
theorem mem_faults_of_clause (hs : s.WellFormed) {settings : Settings} {id : NodeId}
    {e : QueryError} (h : s.clause settings id = .error e) :
    e ∈ s.faults settings.maxDepth settings.maxDepth [] id := by
  rw [clause_eq hs, settle_eq_error_iff] at h
  exact List.mem_of_head? h

/-- A request is its clause, wrapped or not; it fails where the clause does. -/
theorem generate_eq (settings : Settings) (id : NodeId) :
    s.generate settings id = (s.clause settings id).map (wrap settings (s.node id).kind) := by
  unfold generate
  cases s.clause settings id <;> rfl

theorem exists_generate_iff {settings : Settings} {id : NodeId} :
    (∃ j, s.generate settings id = .ok j) ↔ ∃ j, s.clause settings id = .ok j := by
  rw [generate_eq]
  cases s.clause settings id <;> simp [Except.map]

theorem generate_eq_error_iff {settings : Settings} {id : NodeId} {e : QueryError} :
    s.generate settings id = .error e ↔ s.clause settings id = .error e := by
  rw [generate_eq]
  cases s.clause settings id <;> simp [Except.map]

/-! ## 3. Where there is no fault -/

/-- No fault in a query that may be entered: none in its values, and none in its children. -/
theorem faults_succ_eq_nil_iff {chain : List NodeId} {id : NodeId} (h : id ∉ chain)
    (limit room : Nat) :
    s.faults limit (room + 1) chain id = [] ↔
      ¬ (s.node id).Faulty ∧ ∀ c, s.Child id c → s.faults limit room (id :: chain) c = [] := by
  rw [faults_succ h, List.flatMap_eq_nil_iff]
  constructor
  · intro hall
    refine ⟨fun ⟨name, v, fault, hv, hf⟩ => ?_, fun c hc => hall _ (query_mem_encounters.2 hc)⟩
    have := hall _ (Node.fault_mem_encounters.2 ⟨v, hv, hf⟩)
    simp [Encounter.faults] at this
  · intro h encounter he
    obtain ⟨hsound, hall⟩ := h
    cases encounter with
    | query c => exact hall c (query_mem_encounters.1 he)
    | fault name fault =>
        obtain ⟨v, hv, hf⟩ := Node.fault_mem_encounters.1 he
        exact absurd ⟨name, v, fault, hv, hf⟩ hsound

/-- **Where there is no fault**: no chain below has more queries than there is room for, none comes
    back to a query of the chain above, and no value has a fault. -/
theorem faults_eq_nil_iff {limit room : Nat} {chain : List NodeId} {id : NodeId} :
    s.faults limit room chain id = [] ↔
      (∀ ids, s.IsChain id ids → ids.length ≤ room ∧ ∀ a ∈ ids, a ∉ chain) ∧ s.Supported id := by
  induction room generalizing chain id with
  | zero =>
      constructor
      · intro h
        by_cases hmem : id ∈ chain
        · simp [faults_of_mem hmem] at h
        · simp [faults_zero hmem] at h
      · intro h
        have hlen : [id].length ≤ 0 := (h.1 [id] (.single id)).1
        cases hlen
  | succ room ih =>
      constructor
      · intro h
        have hmem : id ∉ chain := fun hmem => by simp [faults_of_mem hmem] at h
        obtain ⟨hsound, hbelow⟩ := (faults_succ_eq_nil_iff hmem limit room).1 h
        refine ⟨fun ids hids => ?_, fun m hm => ?_⟩
        · cases hids with
          | single => simpa using hmem
          | cons hc hrest =>
              obtain ⟨hlen, hout⟩ := (ih.1 (hbelow _ hc)).1 _ hrest
              refine ⟨by simpa using hlen, fun a ha => ?_⟩
              rcases List.mem_cons.1 ha with rfl | ha
              · exact hmem
              · exact fun h' => hout a ha (List.mem_cons_of_mem _ h')
        · rcases hm.cases_head with rfl | ⟨c, hc, hcm⟩
          · exact hsound
          · exact (ih.1 (hbelow c hc)).2 m hcm
      · intro h
        obtain ⟨hchain, hsupp⟩ := h
        have hmem : id ∉ chain := (hchain [id] (.single id)).2 id (List.mem_singleton_self id)
        refine (faults_succ_eq_nil_iff hmem limit room).2 ⟨hsupp id .refl, fun c hc => ?_⟩
        refine ih.2 ⟨fun ids hids => ?_, hsupp.child hc⟩
        obtain ⟨hlen, hout⟩ := hchain _ (.cons hc hids)
        refine ⟨by simpa using hlen, fun a ha hin => ?_⟩
        rcases List.mem_cons.1 hin with rfl | hin
        · -- the chain comes back to `a`, so that there is one that is too long
          have hcycle : s.CycleBelow a := ⟨a, .refl, .head' hc (hids.reaches ha)⟩
          obtain ⟨long, hlong, hn⟩ := hcycle.exists_isChain (room + 1)
          have := (hchain long hlong).1
          omega
        · exact hout a (List.mem_cons_of_mem _ ha) hin

/-- **A clause is generated** where the chains below fit and no value below has a fault. -/
theorem exists_clause_iff (hs : s.WellFormed) (settings : Settings) (r : NodeId) :
    (∃ j, s.clause settings r = .ok j) ↔
      (∀ ids, s.IsChain r ids → ids.length ≤ settings.maxDepth) ∧ s.Supported r := by
  have hfits : (∃ j, s.clause settings r = .ok j) ↔
      s.faults settings.maxDepth settings.maxDepth [] r = [] := by
    rw [clause_eq hs]
    simp [settle_eq_ok_iff]
  rw [hfits, faults_eq_nil_iff]
  simp

/-- Below what is generated there is no cycle. -/
theorem not_cycleBelow_of_clause (hs : s.WellFormed) {settings : Settings} {r : NodeId}
    (h : ∃ j, s.clause settings r = .ok j) : ¬ s.CycleBelow r := by
  intro hcycle
  obtain ⟨ids, hids, hlen⟩ := hcycle.exists_isChain settings.maxDepth
  have := ((exists_clause_iff hs settings r).1 h).1 ids hids
  omega

/-! ## 4. Where a fault is -/

/-- Where a walk stands: before a query, with the queries that are being expanded, the innermost
    first. -/
structure Place where
  above : List NodeId
  id : NodeId

variable (s) in
/-- A step down: a query that is not being expanded yet is entered, and the walk stands before one
    of its children. -/
def Descends (p q : Place) : Prop :=
  p.id ∉ p.above ∧ s.Child p.id q.id ∧ q.above = p.id :: p.above

variable (s) in
/-- What is wrong at a place, where so many queries may stand in one another. -/
inductive FaultAt (limit deepest : Nat) (q : Place) : QueryError → Prop where
  /-- The query is being expanded. -/
  | cyclic (hmem : q.id ∈ q.above) (hle : q.above.length ≤ deepest) :
      FaultAt limit deepest q (.cyclic (s.node q.id).kind)
  /-- The query stands too deep. -/
  | depth (hmem : q.id ∉ q.above) (heq : q.above.length = deepest) :
      FaultAt limit deepest q (.depthLimitExceeded limit)
  /-- The query holds a value with a fault. -/
  | value {name : String} {v : Value} {fault : ValueFault} (hmem : q.id ∉ q.above)
      (hlt : q.above.length < deepest) (hv : (s.node q.id).Walks name v) (hf : v.HasFault fault) :
      FaultAt limit deepest q (.unsupportedValue name fault)

/-- **Every fault is wrong at a place of the walk.** -/
theorem mem_faults {limit room : Nat} {chain : List NodeId} {id : NodeId} {e : QueryError}
    (h : e ∈ s.faults limit room chain id) :
    ∃ q, Relation.ReflTransGen s.Descends ⟨chain, id⟩ q ∧
      s.FaultAt limit (chain.length + room) q e := by
  induction room generalizing chain id with
  | zero =>
      by_cases hmem : id ∈ chain
      · rw [faults_of_mem hmem, List.mem_singleton] at h
        exact ⟨_, .refl, h ▸ .cyclic hmem (Nat.le_add_right _ _)⟩
      · rw [faults_zero hmem, List.mem_singleton] at h
        exact ⟨_, .refl, h ▸ .depth hmem rfl⟩
  | succ room ih =>
      by_cases hmem : id ∈ chain
      · rw [faults_of_mem hmem, List.mem_singleton] at h
        exact ⟨_, .refl, h ▸ .cyclic hmem (Nat.le_add_right _ _)⟩
      · rw [faults_succ hmem] at h
        obtain ⟨encounter, hm, he⟩ := List.mem_flatMap.1 h
        cases encounter with
        | query c =>
            obtain ⟨q, hq, hat⟩ := ih he
            refine ⟨q, .head ⟨hmem, query_mem_encounters.1 hm, rfl⟩ hq, ?_⟩
            rwa [List.length_cons, Nat.add_right_comm] at hat
        | fault name fault =>
            obtain ⟨v, hv, hf⟩ := Node.fault_mem_encounters.1 hm
            cases List.mem_singleton.1 he
            exact ⟨_, .refl, .value hmem (Nat.lt_add_of_pos_right (Nat.succ_pos room)) hv hf⟩

/-- **What a walk from a query has above it**: a chain from that query, with no query twice. -/
theorem isChain_of_descends {r : NodeId} {q : Place}
    (h : Relation.ReflTransGen s.Descends ⟨[], r⟩ q) :
    q.above.Nodup ∧ s.IsChain r (q.above.reverse ++ [q.id]) := by
  induction h with
  | refl => exact ⟨List.nodup_nil, .single r⟩
  | @tail p q _ hstep ih =>
      obtain ⟨hmem, hc, habove⟩ := hstep
      rw [habove, List.reverse_cons]
      exact ⟨List.nodup_cons.2 ⟨hmem, ih.1⟩, ih.2.snoc (by simp) hc⟩

/-- Before the first query nothing is above; before any other, the chain above ends in one that it
    is a child of. -/
theorem isChain_above {r : NodeId} {q : Place}
    (h : Relation.ReflTransGen s.Descends ⟨[], r⟩ q) :
    q = ⟨[], r⟩ ∨ ∃ last, s.IsChain r q.above.reverse ∧ q.above.reverse.getLast? = some last ∧
      s.Child last q.id := by
  rcases h.cases_tail with e | ⟨p, hp, -, hc, habove⟩
  · exact .inl e
  · refine .inr ⟨p.id, ?_, ?_, hc⟩
    · rw [habove, List.reverse_cons]
      exact (isChain_of_descends hp).2
    · rw [habove, List.reverse_cons]
      simp

end Store

end SearchQuery
