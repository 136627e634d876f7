import SearchQuery.Proofs.Faults
import SearchQuery.Proofs.Session

/-!
# The trace of a request

What is recorded of a request are the queries that were entered, each with how many were being
expanded around it. That number is the length of a list that grows and shrinks as the walk goes on,
and the walk may break off anywhere. Here it is shown what the record says all the same:

* **a query is entered, and then what is entered in the first so many of the queries in it**
  (`Store.entered_expand`); every fact about the record is an induction over this one;
* **what is above a visit can be read off the visits before it** (`Store.map_lineage`), by going
  from the last visit that is one less deep to the last one before it that is one less deep again;
* **if nothing fails, the visits are the whole tree below the query** (`Store.entered_eq_preorder`),
  a query that is shared as often as it stands there;
* `Store.trace_depth_first` says so of the trace.
-/

namespace SearchQuery

/-! ## 1. The queries in a query -/

/-- An item of a list, or a value that is no list, if it is a query. -/
def Value.itemQueries : Value → List NodeId
  | .node id => [id]
  | _ => []

/-- The queries in a value, from left to right. -/
def Value.queries : Value → List NodeId
  | .list items => items.flatMap itemQueries
  | v => v.itemQueries

/-- The queries in a node, in the order of the walk, each as often as it stands there. -/
def Node.queries (n : Node) : List NodeId :=
  n.kind.walkOrder.flatMap fun name => ((n.values.get? name).map Value.queries).getD []

def Encounter.query? : Encounter → Option NodeId
  | .query id => some id
  | .fault _ _ => none

theorem Value.filterMap_itemEncounters (field : String) (v : Value) :
    (v.itemEncounters field).filterMap Encounter.query? = v.itemQueries := by
  cases v with
  | float x => by_cases hx : x.isFinite <;> simp [itemEncounters, hx, itemQueries, Encounter.query?]
  | _ => rfl

theorem Value.filterMap_encounters (field : String) (v : Value) :
    (v.encounters field).filterMap Encounter.query? = v.queries := by
  cases v with
  | list items =>
      rw [encounters, queries, List.filterMap_flatMap]
      exact List.flatMap_congr fun item _ => item.filterMap_itemEncounters field
  | float x => exact filterMap_itemEncounters field (.float x)
  | _ => rfl

/-- The queries in a node are those that are come upon. -/
theorem Node.filterMap_encounters (n : Node) :
    n.encounters.filterMap Encounter.query? = n.queries := by
  rw [encounters, encountersIn, queries, List.filterMap_flatMap]
  refine List.flatMap_congr fun name _ => ?_
  cases n.values.get? name with
  | none => rfl
  | some v => exact Value.filterMap_encounters name v

theorem Store.mem_queries {s : Store} {p c : NodeId} :
    c ∈ (s.node p).queries ↔ s.Child p c := by
  rw [← Node.filterMap_encounters, List.mem_filterMap, ← query_mem_encounters]
  constructor
  · intro h
    obtain ⟨e, he, hc⟩ := h
    cases e with
    | query id =>
        cases hc
        exact he
    | fault => cases hc
  · exact fun h => ⟨_, h, rfl⟩

/-! ## 2. What is entered -/

/-- **What is entered when encounters are met**: what is entered in the first so many of the
    queries. If nothing fails, these are all, and each has an answer. -/
theorem exists_entered_meet (child : NodeId → Expansion Json) (es : List Encounter) :
    ∃ ids, ids <+: es.filterMap Encounter.query? ∧
      (meet child es).entered = ids.flatMap (fun id => (child id).entered) ∧
      ((meet child es).outcome = .ok () → ids = es.filterMap Encounter.query? ∧
        ∀ id ∈ ids, ∃ j, (child id).outcome = .ok j) := by
  induction es with
  | nil => exact ⟨[], List.prefix_rfl, rfl, fun _ => ⟨rfl, by simp⟩⟩
  | cons e es ih =>
      cases e with
      | fault field fault => exact ⟨[], List.nil_prefix, rfl, by simp [meet]⟩
      | query id =>
          cases hid : (child id).outcome with
          | error e =>
              refine ⟨[id], by simp [Encounter.query?], ?_, fun h => ?_⟩
              · rw [meet, Expansion.entered_bind_of_error hid]
                simp
              · rw [meet, Expansion.outcome_bind, hid] at h
                cases h
          | ok j =>
              obtain ⟨ids, hpre, hentered, hok⟩ := ih
              refine ⟨id :: ids, ?_, ?_, fun h => ?_⟩
              · simpa [Encounter.query?] using hpre
              · rw [meet, Expansion.entered_bind_of_ok hid, hentered, List.flatMap_cons]
              · rw [meet, Expansion.outcome_bind, hid] at h
                obtain ⟨rfl, hall⟩ := hok h
                refine ⟨by simp [Encounter.query?], fun c hc => ?_⟩
                rcases List.mem_cons.1 hc with rfl | hc
                · exact ⟨j, hid⟩
                · exact hall c hc

namespace Store

variable {s : Store} {limit room : Nat} {chain : List NodeId} {id : NodeId}

/-- **What is entered when a query is expanded**: nothing, if it is refused; or the query itself and
    what is entered in the first so many of the queries in it. If nothing fails, these are all, and
    each has an answer. -/
theorem entered_expand (hs : s.WellFormed) (limit room : Nat) (chain : List NodeId) (id : NodeId) :
    ((id ∈ chain ∨ room = 0) ∧ (s.expand limit room chain id).entered = [] ∧
        ∃ e, (s.expand limit room chain id).outcome = .error e) ∨
      ∃ below ids, room = below + 1 ∧ id ∉ chain ∧ ids <+: (s.node id).queries ∧
        (s.expand limit room chain id).entered = ⟨id, (s.node id).kind, chain⟩ ::
          ids.flatMap (fun c => (s.expand limit below (id :: chain) c).entered) ∧
        ((∃ j, (s.expand limit room chain id).outcome = .ok j) → ids = (s.node id).queries ∧
          ∀ c ∈ ids, ∃ j, (s.expand limit below (id :: chain) c).outcome = .ok j) := by
  by_cases hmem : id ∈ chain
  · left
    unfold expand
    rw [if_pos hmem]
    exact ⟨.inl hmem, rfl, _, rfl⟩
  cases room with
  | zero =>
      left
      rw [expand, if_neg hmem]
      exact ⟨.inr rfl, rfl, _, rfl⟩
  | succ below =>
      obtain ⟨ids, hpre, hentered, hok⟩ :=
        exists_entered_meet (s.expand limit below (id :: chain)) (s.node id).encounters
      rw [Node.filterMap_encounters] at hpre hok
      refine .inr ⟨below, ids, rfl, hmem, hpre, ?_⟩
      rw [expand, if_neg hmem, Node.clause_eq _ (hs id), Expansion.entered_enter,
        Expansion.entered_map, hentered, Expansion.outcome_enter, Expansion.outcome_map]
      refine ⟨rfl, fun h => hok ?_⟩
      obtain ⟨j, hj⟩ := h
      cases hm : (meet (s.expand limit below (id :: chain)) (s.node id).encounters).outcome with
      | ok u => rfl
      | error e =>
          rw [hm] at hj
          cases hj

/-- **A visit is at a place of the walk**: no query is among those above it, and there is room. -/
theorem mem_entered (hs : s.WellFormed) {v : Visit}
    (h : v ∈ (s.expand limit room chain id).entered) :
    v.kind = (s.node v.id).kind ∧ v.id ∉ v.above ∧ chain.length ≤ v.above.length ∧
      v.above.length < chain.length + room ∧
      Relation.ReflTransGen s.Descends ⟨chain, id⟩ ⟨v.above, v.id⟩ := by
  induction room using Nat.strong_induction_on generalizing chain id with
  | _ room ih =>
      rcases entered_expand hs limit room chain id with
        ⟨-, hnil, -⟩ | ⟨below, ids, rfl, hmem, hpre, hentered, -⟩
      · rw [hnil] at h
        cases h
      · rw [hentered] at h
        rcases List.mem_cons.1 h with rfl | h
        · exact ⟨rfl, hmem, Nat.le_refl _, Nat.lt_add_of_pos_right (Nat.succ_pos below), .refl⟩
        · obtain ⟨c, hc, hv⟩ := List.mem_flatMap.1 h
          obtain ⟨hkind, hfree, hle, hlt, hpath⟩ := ih below (Nat.lt_succ_self below) hv
          rw [List.length_cons] at hle hlt
          have hstep : s.Descends ⟨chain, id⟩ ⟨id :: chain, c⟩ :=
            ⟨hmem, mem_queries.1 (hpre.subset hc), rfl⟩
          exact ⟨hkind, hfree, by omega, by omega, .head hstep hpath⟩

/-- The query at the root is the only one with nothing above it. -/
theorem entered_expandRoot (hs : s.WellFormed) (settings : Settings) (r : NodeId) :
    (settings.maxDepth = 0 ∧ (s.expandRoot settings r).entered = []) ∨
      ∃ rest, 1 ≤ settings.maxDepth ∧
        (s.expandRoot settings r).entered = ⟨r, (s.node r).kind, []⟩ :: rest ∧
        ∀ v ∈ rest, v.above ≠ [] := by
  rcases entered_expand hs settings.maxDepth settings.maxDepth [] r with
    ⟨hrefused, hnil, -⟩ | ⟨below, ids, hroom, -, -, hentered, -⟩
  · exact .inl ⟨hrefused.resolve_left List.not_mem_nil, hnil⟩
  · refine .inr ⟨_, by omega, hentered, fun v hv => ?_⟩
    obtain ⟨c, -, hc⟩ := List.mem_flatMap.1 hv
    obtain ⟨-, -, hle, -⟩ := mem_entered hs hc
    exact List.ne_nil_of_length_pos hle

end Store

/-! ## 3. What is above, read off the record -/

/-- The last visit that is one less deep than this, then the last one before it that is one less
    deep again, and so on. The visits are listed from the last one backwards. -/
def lineage (depth : Nat) : List Visit → List Visit
  | [] => []
  | v :: earlier =>
    if v.depth + 1 = depth then v :: lineage v.depth earlier else lineage depth earlier

/-- Of every visit the queries above it can be read off the visits before it. The visits are listed
    from the last one backwards. -/
def Legible : List Visit → Prop
  | [] => True
  | v :: earlier => (lineage v.depth earlier).map Visit.id = v.above ∧ Legible earlier

theorem head?_lineage (depth : Nat) (earlier : List Visit) :
    (lineage depth earlier).head? = earlier.find? fun v => v.depth + 1 = depth := by
  induction earlier with
  | nil => rfl
  | cons v earlier ih =>
      by_cases hv : v.depth + 1 = depth
      · simp [lineage, hv]
      · simp [lineage, hv, ih]

/-- Visits that are at least as deep do not matter. -/
theorem lineage_append {depth : Nat} {visits : List Visit} (h : ∀ v ∈ visits, depth ≤ v.depth)
    (earlier : List Visit) : lineage depth (visits ++ earlier) = lineage depth earlier := by
  induction visits with
  | nil => rfl
  | cons v visits ih =>
      have hv := h v List.mem_cons_self
      rw [List.cons_append, lineage, if_neg (by omega), ih fun w hw => h w (.tail _ hw)]

theorem Legible.of_append {later earlier : List Visit} (h : Legible (later ++ earlier)) :
    Legible earlier := by
  induction later with
  | nil => exact h
  | cons v later ih => exact ih h.2

namespace Store

variable {s : Store}

/-- **The record stays legible**: if the queries that are being expanded can be read off it before
    a query is expanded, then those above every visit can be read off it afterwards. -/
theorem legible_expand (hs : s.WellFormed) (limit room : Nat) {chain : List NodeId} {id : NodeId}
    {earlier : List Visit} (hearlier : Legible earlier)
    (hchain : (lineage (chain.length + 1) earlier).map Visit.id = chain) :
    Legible ((s.expand limit room chain id).entered.reverse ++ earlier) := by
  induction room using Nat.strong_induction_on generalizing chain id earlier with
  | _ room ih =>
      rcases entered_expand hs limit room chain id with
        ⟨-, hnil, -⟩ | ⟨below, ids, rfl, -, -, hentered, -⟩
      · rwa [hnil]
      have hfirst : Legible (⟨id, (s.node id).kind, chain⟩ :: earlier) := ⟨hchain, hearlier⟩
      have hbelow : (lineage ((id :: chain).length + 1)
          (⟨id, (s.node id).kind, chain⟩ :: earlier)).map Visit.id = id :: chain := by
        rw [lineage, if_pos (by simp [Visit.depth]), List.map_cons]
        exact congrArg _ hchain
      rw [hentered, List.reverse_cons, List.append_assoc, List.singleton_append]
      -- the queries above those in `id` are read off alike before each of them
      generalize (⟨id, (s.node id).kind, chain⟩ : Visit) :: earlier = log at hfirst hbelow
      clear hentered
      induction ids generalizing log with
      | nil => exact hfirst
      | cons c ids ihids =>
          rw [List.flatMap_cons, List.reverse_append, List.append_assoc]
          refine ihids _ (ih below (Nat.lt_succ_self below) hfirst hbelow) ?_
          rw [lineage_append, hbelow]
          intro v hv
          obtain ⟨-, -, hle, -⟩ := mem_entered hs (List.mem_reverse.1 hv)
          exact Nat.succ_le_succ hle

/-- **What is above a visit is what is read off the visits before it.** -/
theorem map_lineage (hs : s.WellFormed) {settings : Settings} {r : NodeId}
    {before after : List Visit} {v : Visit}
    (hsplit : (s.expandRoot settings r).entered = before ++ v :: after) :
    (lineage v.depth before.reverse).map Visit.id = v.above := by
  have hall : Legible ((s.expandRoot settings r).entered.reverse ++ []) :=
    legible_expand hs settings.maxDepth settings.maxDepth trivial rfl
  rw [hsplit, List.append_nil, List.reverse_append, List.reverse_cons, List.append_assoc] at hall
  exact hall.of_append.1

end Store

/-! ## 4. The whole tree -/

/-- A tree of queries. -/
inductive QueryTree where
  | node (id : NodeId) (below : List QueryTree)

namespace QueryTree

def root : QueryTree → NodeId
  | .node id _ => id

/-- The tree is the whole of what is below its root: under every query there are the queries in it,
    in the order of the walk, each as often as it stands there. -/
inductive Unfolds (s : Store) : QueryTree → Prop where
  | node {id : NodeId} {below : List QueryTree} (hroots : below.map root = (s.node id).queries)
      (hbelow : ∀ t ∈ below, Unfolds s t) : Unfolds s (.node id below)

mutual

/-- The queries of a tree with the depth of each, a query before what is below it. -/
def preorder (depth : Nat) : QueryTree → List (NodeId × Nat)
  | .node id below => (id, depth) :: preorderAll (depth + 1) below

def preorderAll (depth : Nat) : List QueryTree → List (NodeId × Nat)
  | [] => []
  | t :: ts => t.preorder depth ++ preorderAll depth ts

end

theorem preorderAll_eq (depth : Nat) (ts : List QueryTree) :
    preorderAll depth ts = ts.flatMap (preorder depth) := by
  induction ts with
  | nil => rfl
  | cons t ts ih => rw [preorderAll, ih, List.flatMap_cons]

end QueryTree

namespace Store

variable {s : Store} {limit room : Nat} {chain : List NodeId}

/-- **If nothing fails, what is entered is the whole tree**, listed with every query before what is
    below it. -/
theorem entered_eq_preorder (hs : s.WellFormed) {t : QueryTree} (ht : t.Unfolds s)
    (h : ∃ j, (s.expand limit room chain t.root).outcome = .ok j) :
    (s.expand limit room chain t.root).entered.map (fun v => (v.id, v.depth)) =
      t.preorder (chain.length + 1) := by
  induction ht generalizing room chain with
  | @node id below hroots _ ih =>
      rcases entered_expand hs limit room chain id with
        ⟨-, -, e, he⟩ | ⟨left, ids, rfl, -, -, hentered, hok⟩
      · obtain ⟨j, hj⟩ := h
        cases he.symm.trans hj
      obtain ⟨rfl, hall⟩ := hok h
      rw [QueryTree.root, hentered, List.map_cons, QueryTree.preorder, QueryTree.preorderAll_eq,
        ← hroots, List.flatMap_map, List.map_flatMap]
      refine congrArg (_ :: ·) (List.flatMap_congr fun t ht => ih t ht (hall t.root ?_))
      rw [← hroots]
      exact List.mem_map_of_mem ht

variable (s) in
/-- What is below a query, down to a certain depth. -/
def unfold : (room : Nat) → NodeId → QueryTree
  | 0, id => .node id []
  | room + 1, id => .node id ((s.node id).queries.map (unfold room))

theorem root_unfold (room : Nat) (id : NodeId) : (s.unfold room id).root = id := by
  cases room <;> rfl

/-- If nothing fails, there is nothing below that depth. -/
theorem unfolds_unfold (hs : s.WellFormed) {id : NodeId}
    (h : ∃ j, (s.expand limit room chain id).outcome = .ok j) : (s.unfold room id).Unfolds s := by
  induction room using Nat.strong_induction_on generalizing chain id with
  | _ room ih =>
      rcases entered_expand hs limit room chain id with
        ⟨-, -, e, he⟩ | ⟨below, ids, rfl, -, -, -, hok⟩
      · obtain ⟨j, hj⟩ := h
        cases he.symm.trans hj
      obtain ⟨rfl, hall⟩ := hok h
      refine .node ?_ fun t ht => ?_
      · rw [List.map_map]
        exact (List.map_congr_left fun c _ => root_unfold below c).trans (List.map_id _)
      · obtain ⟨c, hc, rfl⟩ := List.mem_map.1 ht
        exact ih below (Nat.lt_succ_self below) (hall c hc)

/-! ## 5. The trace -/

variable (s) in
/-- Visits that are made depth first from a query, all of them or the first so many. -/
structure DepthFirst (r : NodeId) (visits : List Visit) : Prop where
  /-- The first is that of the query, at depth one. -/
  first : ∀ v ∈ visits.head?, v.id = r ∧ v.depth = 1
  /-- For any other, the last visit before it that is one less deep is that of a query that this
      one stands in. -/
  parent : ∀ before v after, visits = before ++ v :: after → before ≠ [] →
    ∃ p, before.reverse.find? (fun u => u.depth + 1 = v.depth) = some p ∧ s.Child p.id v.id
  /-- Up from a visit to the one it stands in, and so on, no query comes twice. -/
  nodup : ∀ before v after, visits = before ++ v :: after →
    ((v :: lineage v.depth before.reverse).map Visit.id).Nodup

/-- **The walk is depth first.** -/
theorem depthFirst_expandRoot (hs : s.WellFormed) (settings : Settings) (r : NodeId) :
    s.DepthFirst r (s.expandRoot settings r).entered := by
  have hplace : ∀ before v after, (s.expandRoot settings r).entered = before ++ v :: after →
      v.id ∉ v.above ∧ Relation.ReflTransGen s.Descends ⟨[], r⟩ ⟨v.above, v.id⟩ := by
    intro before v after hsplit
    have hmem : v ∈ (s.expandRoot settings r).entered := by
      rw [hsplit]
      exact List.mem_append_right _ List.mem_cons_self
    obtain ⟨-, hfree, -, -, hpath⟩ := mem_entered hs hmem
    exact ⟨hfree, hpath⟩
  constructor
  · intro v hv
    rcases entered_expandRoot hs settings r with ⟨-, hnil⟩ | ⟨rest, -, hentered, -⟩
    · rw [hnil] at hv
      cases hv
    · rw [hentered] at hv
      cases hv
      exact ⟨rfl, rfl⟩
  · intro before v after hsplit hbefore
    have habove : v.above ≠ [] := by
      rcases entered_expandRoot hs settings r with ⟨-, hnil⟩ | ⟨rest, -, hentered, hrest⟩
      · rw [hnil] at hsplit
        simp at hsplit
      · rw [hentered] at hsplit
        obtain ⟨u, before, rfl⟩ := List.exists_cons_of_ne_nil hbefore
        obtain ⟨-, rfl⟩ := List.cons.inj hsplit
        exact hrest v (List.mem_append_right _ List.mem_cons_self)
    have hread := map_lineage hs hsplit
    rw [← head?_lineage]
    rcases (hplace before v after hsplit).2.cases_tail with hroot | ⟨q, -, -, hchild, hq⟩
    · exact absurd (congrArg Place.above hroot) habove
    · obtain ⟨p, rest, hlineage, hid, -⟩ := List.map_eq_cons_iff.1 (hread.trans hq)
      refine ⟨p, by rw [hlineage, List.head?_cons], ?_⟩
      rwa [hid]
  · intro before v after hsplit
    obtain ⟨hfree, hpath⟩ := hplace before v after hsplit
    rw [List.map_cons, map_lineage hs hsplit]
    exact List.nodup_cons.2 ⟨hfree, (isChain_of_descends hpath).1⟩

/-- How deep visits are: no deeper than the settings allow, nor than there are queries. -/
theorem depth_le_of_mem_entered (hs : s.Reachable) {r : NodeId} (hr : s.Has r) {settings : Settings}
    {v : Visit} (h : v ∈ (s.expandRoot settings r).entered) :
    v.depth ≤ settings.maxDepth ∧ v.depth ≤ s.size := by
  obtain ⟨-, hfree, -, hlt, hpath⟩ := mem_entered hs.wellFormed h
  obtain ⟨hnodup, hchain⟩ := isChain_of_descends hpath
  have hhas : ∀ id ∈ v.id :: v.above, s.Has id := fun id hid =>
    hs.closed.has_of_reaches hr (hchain.reaches (by simpa [or_comm] using hid))
  have hsize := length_le_size (List.nodup_cons.2 ⟨hfree, hnodup⟩) hhas
  rw [List.length_nil, Nat.zero_add] at hlt
  exact ⟨hlt, by simpa [Visit.depth] using hsize⟩

/-- **The trace is the depth-first expansion.** It begins with the kind of the query, goes on with
    the visits, and ends with the message of the error if there is one. The visits are made depth
    first, and no deeper than the settings allow or than there are queries. If nothing fails they
    are the whole tree below the query, listed with every query before what is below it. -/
theorem trace_depth_first (hs : s.Reachable) {r : NodeId} (hr : s.Has r) (settings : Settings) :
    let visits := (s.expandRoot settings r).entered
    let lines : List LogLine := ⟨"DEBUG", "generating query", [("kind", (s.node r).kind.name)]⟩ ::
      visits.map fun v =>
        ⟨"TRACE", "expanding node", [("kind", v.kind.name), ("depth", toString v.depth)]⟩
    ((∃ j, (s.trace settings r).2 = .ok j ∧ (s.trace settings r).1.map Event.line = lines) ∨
      ∃ e, (s.trace settings r).2 = .error e ∧ (s.trace settings r).1.map Event.line =
        lines ++ [⟨"DEBUG", "query generation failed", [("error", e.message)]⟩]) ∧
    (visits ≠ [] ↔ 1 ≤ settings.maxDepth) ∧ s.DepthFirst r visits ∧
    (∀ v ∈ visits, v.kind = (s.node v.id).kind ∧ 1 ≤ v.depth ∧
      v.depth ≤ min settings.maxDepth s.size) ∧
    ∀ j, (s.trace settings r).2 = .ok j → (∃ t : QueryTree, t.root = r ∧ t.Unfolds s) ∧
      ∀ t : QueryTree, t.root = r → t.Unfolds s → visits.map (fun v => (v.kind, v.depth)) =
        (t.preorder 1).map fun q => ((s.node q.1).kind, q.2) := by
  intro visits lines
  have hwf := hs.wellFormed
  have hkind : ∀ v ∈ visits, v.kind = (s.node v.id).kind := fun v hv => (mem_entered hwf hv).1
  refine ⟨?_, ?_, depthFirst_expandRoot hwf settings r, fun v hv => ?_, fun j hj => ?_⟩
  · cases hout : (s.expandRoot settings r).outcome with
    | ok j =>
        obtain ⟨request, hrequest⟩ := exists_generate_iff.2 ⟨j, hout⟩
        refine .inl ⟨request, hrequest, ?_⟩
        simp [trace, events, hout, Event.line, lines, visits]
    | error e =>
        refine .inr ⟨e, generate_eq_error_iff.2 hout, ?_⟩
        simp [trace, events, hout, Event.line, lines, visits]
  · rcases entered_expandRoot hwf settings r with ⟨hzero, hnil⟩ | ⟨rest, hpos, hentered, -⟩
    · simp [visits, hzero, hnil]
    · simp [visits, hpos, hentered]
  · obtain ⟨hmax, hsize⟩ := depth_le_of_mem_entered hs hr hv
    exact ⟨hkind v hv, Nat.succ_pos _, Nat.le_min.2 ⟨hmax, hsize⟩⟩
  · have hok : ∃ j, (s.expandRoot settings r).outcome = .ok j := exists_generate_iff.1 ⟨j, hj⟩
    refine ⟨⟨s.unfold settings.maxDepth r, root_unfold _ _, unfolds_unfold hwf hok⟩, ?_⟩
    intro t hroot ht
    subst hroot
    have hlisted : visits.map (fun v => (v.id, v.depth)) = t.preorder 1 :=
      entered_eq_preorder hwf ht hok
    rw [← hlisted, List.map_map]
    exact List.map_congr_left fun v hv => by rw [hkind v hv, Function.comp_apply]

/-- The term query of the diamond is listed twice. The loop is walked as far, and then fails. -/
theorem trace_depth_first_diamond :
    diamond.Reachable ∧ diamond.Has ⟨2⟩ ∧ (∃ j, (diamond.trace {} ⟨2⟩).2 = .ok j) ∧
    (diamond.expandRoot {} ⟨2⟩).entered.map (fun v => (v.kind, v.depth)) =
      [(.constantScore, 1), (.bool, 2), (.term, 3), (.term, 3)] ∧
    loop.Reachable ∧ loop.Has ⟨2⟩ ∧ loop.DepthFirst ⟨2⟩ (loop.expandRoot {} ⟨2⟩).entered ∧
    ∃ e, (loop.trace {} ⟨2⟩).2 = .error e ∧ ((loop.trace {} ⟨2⟩).1.map Event.line).getLast? =
      some ⟨"DEBUG", "query generation failed", [("error", e.message)]⟩ := by
  have hdiamond : diamond.Has ⟨2⟩ := by decide +kernel
  have hloop : loop.Has ⟨2⟩ := by decide +kernel
  have hok : ∃ j, (diamond.trace {} ⟨2⟩).2 = .ok j := ⟨_, rfl⟩
  have hterm : QueryTree.Unfolds diamond (.node ⟨0⟩ []) := .node rfl (by simp)
  have hbool : QueryTree.Unfolds diamond (.node ⟨1⟩ [.node ⟨0⟩ [], .node ⟨0⟩ []]) :=
    .node rfl (by simp [hterm])
  have htree : QueryTree.Unfolds diamond
      (.node ⟨2⟩ [.node ⟨1⟩ [.node ⟨0⟩ [], .node ⟨0⟩ []]]) := .node rfl (by simp [hbool])
  obtain ⟨-, -, -, -, hlisted⟩ := trace_depth_first reachable_diamond hdiamond {}
  obtain ⟨j, hj⟩ := hok
  obtain ⟨hends, -, hfirst, -⟩ := trace_depth_first reachable_loop hloop {}
  refine ⟨reachable_diamond, hdiamond, ⟨j, hj⟩, (hlisted j hj).2 _ rfl htree, reachable_loop, hloop,
    hfirst, ?_⟩
  rcases hends with ⟨request, hrequest, -⟩ | ⟨e, he, hlines⟩
  · cases hrequest
  · refine ⟨e, he, ?_⟩
    rw [hlines]
    exact List.getLast?_concat

end Store

end SearchQuery
