import SearchQuery.Proofs.Faults
import SearchQuery.Proofs.Session

/-!
# What an error of generation says

The walk tests two things before it enters a query, one after the other, and stops at the first
fault it comes upon. Whichever that is, **the graph explains it** (`clause_error_explained`): the
queries that were being expanded when it arose are a path to what is wrong.

Two things follow. A query that is merely met twice is never reported as a cycle; and where as many
queries may stand in one another as the store has, none is ever reported as too deep.
-/

namespace SearchQuery.Store

variable {s : Store}

/-- A chain of queries from one to another, with no query twice. -/
structure Path (s : Store) (r last : NodeId) (ids : List NodeId) : Prop where
  isChain : s.IsChain r ids
  getLast? : ids.getLast? = some last
  nodup : ids.Nodup

/-- A path that goes on to a query on it goes round a cycle. -/
theorem Path.cycleBelow {r last c : NodeId} {ids : List NodeId} (h : s.Path r last ids)
    (hc : s.Child last c) (hmem : c ∈ ids) : s.CycleBelow r := by
  by_contra hacyclic
  have hn := (h.isChain.snoc h.getLast? hc).nodup hacyclic
  exact (List.nodup_append.1 hn).2.2 c hmem c (by simp) rfl

/-- A path that goes on to another query is shorter than the store. -/
theorem Path.length_lt_size {r last c : NodeId} {ids : List NodeId} (h : s.Path r last ids)
    (hs : s.Closed) (hr : s.Has r) (hc : s.Child last c) (hmem : c ∉ ids) :
    ids.length < s.size := by
  have hn : (ids ++ [c]).Nodup := by
    rw [List.nodup_append]
    refine ⟨h.nodup, by simp, fun a ha b hb e => hmem ?_⟩
    rw [List.mem_singleton] at hb
    rwa [← hb, ← e]
  have hall : ∀ id ∈ ids ++ [c], s.Has id := fun id hid =>
    hs.has_of_reaches hr ((h.isChain.snoc h.getLast? hc).reaches hid)
  have := length_le_size hn hall
  rw [List.length_append, List.length_singleton] at this
  omega

/-- What an error says of the queries below `r`, where `limit` of them may stand in one another. -/
inductive Explains (s : Store) (r : NodeId) (limit : Nat) : QueryError → Prop where
  /-- A query that a path has led to has a child on that path, of the kind that is reported. -/
  | cyclic {ids : List NodeId} {last c : NodeId} (hp : s.Path r last ids)
      (hle : ids.length ≤ limit) (hc : s.Child last c) (hmem : c ∈ ids) :
      Explains s r limit (.cyclic (s.node c).kind)
  /-- A path is as long as it may be and goes on. -/
  | depth {ids : List NodeId} {last c : NodeId} (hp : s.Path r last ids)
      (heq : ids.length = limit) (hc : s.Child last c) (hmem : c ∉ ids) :
      Explains s r limit (.depthLimitExceeded limit)
  /-- Not even the first query may be entered. -/
  | noDepth (hzero : limit = 0) : Explains s r limit (.depthLimitExceeded limit)
  /-- A query that a path has led to holds a value with the fault, in the field that is reported. -/
  | value {ids : List NodeId} {last : NodeId} {field : String} {v : Value} {fault : ValueFault}
      (hp : s.Path r last ids) (hle : ids.length ≤ limit) (hv : (s.node last).Walks field v)
      (hf : v.HasFault fault) : Explains s r limit (.unsupportedValue field fault)

/-- **Every fault is explained** by the queries above the place it belongs to. -/
theorem explains_of_mem_faults {r : NodeId} {limit : Nat} {e : QueryError}
    (h : e ∈ s.faults limit limit [] r) : s.Explains r limit e := by
  obtain ⟨q, hq, hat⟩ := mem_faults h
  obtain ⟨hnodup, hchain⟩ := isChain_of_descends hq
  have habove := isChain_above hq
  have hnodup' := List.nodup_reverse.2 hnodup
  rw [List.length_nil, Nat.zero_add] at hat
  cases hat with
  | cyclic hmem hle =>
      rcases habove with rfl | ⟨last, hids, hlast, hc⟩
      · cases hmem
      · exact .cyclic ⟨hids, hlast, hnodup'⟩ (by rwa [List.length_reverse]) hc
          (List.mem_reverse.2 hmem)
  | depth hmem heq =>
      rcases habove with rfl | ⟨last, hids, hlast, hc⟩
      · exact .noDepth heq.symm
      · refine .depth ⟨hids, hlast, hnodup'⟩ (by rwa [List.length_reverse]) hc ?_
        rwa [List.mem_reverse]
  | value hmem hlt hv hf =>
      have hn : (q.above.reverse ++ [q.id]).Nodup := by
        rw [← List.reverse_cons, List.nodup_reverse, List.nodup_cons]
        exact ⟨hmem, hnodup⟩
      refine .value ⟨hchain, by simp, hn⟩ ?_ hv hf
      rw [List.length_append, List.length_reverse, List.length_singleton]
      omega

/-- **Every error of generation is true.** It is explained by the queries below; a cycle is there if
    one is reported; and a query is reported as too deep only if the store has more queries than may
    stand in one another. -/
theorem clause_error_explained (hs : s.Reachable) {r : NodeId} {settings : Settings}
    {e : QueryError} (h : s.clause settings r = .error e) :
    s.Explains r settings.maxDepth e ∧
    (∀ kind, e = .cyclic kind → s.CycleBelow r) ∧
    (∀ limit, e = .depthLimitExceeded limit → s.Has r → settings.maxDepth < s.size) := by
  have hexplains := explains_of_mem_faults (mem_faults_of_clause hs.wellFormed h)
  refine ⟨hexplains, ?_, ?_⟩
  · intro kind he
    cases hexplains with
    | cyclic hp _ hc hmem => exact hp.cycleBelow hc hmem
    | depth => cases he
    | noDepth => cases he
    | value => cases he
  · intro limit he hr
    cases hexplains with
    | cyclic => cases he
    | depth hp heq hc hmem =>
        have := hp.length_lt_size hs.closed hr hc hmem
        omega
    | noDepth hzero =>
        have hpos : r.index < s.size := hr
        omega
    | value => cases he

/-- The loop fails with a cycle, and where only two queries may stand in one another with a depth:
    the term query stands before the way back. -/
theorem clause_error_explained_loop :
    (loop.Reachable ∧ loop.clause {} ⟨2⟩ = .error (.cyclic .constantScore) ∧
      loop.Explains ⟨2⟩ 64 (.cyclic .constantScore) ∧ loop.CycleBelow ⟨2⟩) ∧
    (loop.clause ⟨2, true⟩ ⟨2⟩ = .error (.depthLimitExceeded 2) ∧
      loop.Explains ⟨2⟩ 2 (.depthLimitExceeded 2) ∧ 2 < loop.size) := by
  have hcyclic : loop.clause {} ⟨2⟩ = .error (.cyclic .constantScore) := rfl
  have hdepth : loop.clause ⟨2, true⟩ ⟨2⟩ = .error (.depthLimitExceeded 2) := rfl
  obtain ⟨hexplains, hcycle, -⟩ := clause_error_explained reachable_loop hcyclic
  obtain ⟨hexplains', -, hsize⟩ := clause_error_explained reachable_loop hdepth
  exact ⟨⟨reachable_loop, hcyclic, hexplains, hcycle _ rfl⟩, hdepth, hexplains',
    hsize 2 rfl (by decide +kernel)⟩

end SearchQuery.Store
