import SearchQuery.Proofs.Faults
import SearchQuery.Proofs.Session

/-!
# The first fault

Where several things are wrong below a query, one of them is reported. Which one is a matter of the
order in which the walk goes: `Store.faultList` collects all that is wrong in that order, with the
queries above counted as the walk counts them, and **the walk reports the first**
(`clause_reports_first_fault`).

A smaller limit cuts the list short in places, and puts a depth that is exceeded where it cuts. What
comes before the first cut stays, so that **a limit changes no answer but cuts it off**
(`generate_of_larger_depth`): what is generated, or reported of cycles and values, at one depth is
the same at every larger one.
-/

namespace SearchQuery

namespace Store

variable {s : Store}

/-! ## 1. A list of all faults -/

/-- All that is wrong below a query, where so many queries may stand in one another. The chain is
    the queries above it, which are being gone through. A query on the chain is a cycle, and a query
    that the chain leaves no room for is too deep: neither is entered. In any other the fields are
    gone through in the order of the walk, and lists from left to right. -/
def faultList (s : Store) (limit : Nat) (chain : List NodeId) (id : NodeId) : List QueryError :=
  if id ∈ chain then [.cyclic (s.node id).kind]
  else if limit ≤ chain.length then [.depthLimitExceeded limit]
  else (s.node id).encounters.flatMap (Encounter.faults fun c => faultList s limit (id :: chain) c)
termination_by limit - chain.length

/-- To count the queries above is to count down the room that is left. -/
theorem faultList_eq_faults {limit room : Nat} {chain : List NodeId}
    (hroom : chain.length + room = limit) (id : NodeId) :
    s.faultList limit chain id = s.faults limit room chain id := by
  induction room generalizing chain id with
  | zero =>
      rw [faultList, faults]
      have hfull : limit ≤ chain.length := by omega
      simp [hfull]
  | succ room ih =>
      rw [faultList]
      by_cases hmem : id ∈ chain
      · rw [if_pos hmem, faults_of_mem hmem]
      · have hleft : ¬ limit ≤ chain.length := by omega
        rw [if_neg hmem, if_neg hleft, faults_succ hmem]
        have hbelow : (fun c => s.faultList limit (id :: chain) c) =
            s.faults limit room (id :: chain) := by
          funext c
          refine ih ?_ c
          rw [List.length_cons]
          omega
        rw [hbelow]

/-- **The walk reports the first fault**, and there is a clause if there is none. -/
theorem clause_reports_first_fault (hs : s.Reachable) (settings : Settings) (r : NodeId) :
    match s.faultList settings.maxDepth [] r with
    | [] => ∃ j, s.clause settings r = .ok j
    | e :: _ => s.clause settings r = .error e := by
  rw [clause_eq hs.wellFormed, faultList_eq_faults (Nat.zero_add _)]
  cases s.faults settings.maxDepth settings.maxDepth [] r with
  | nil => exact ⟨_, rfl⟩
  | cons e rest => rfl

/-- A Boolean query that stands in itself, after a fuzzy query with a fault in two fields. -/
def tangle : Store :=
  let fuzzy : Builder := .run ⟨.fuzzy, some "user", ∅⟩
    [.set "value" (.list [.list []]), .boost (0.0 / 0.0)]
  let bool : Builder := .run ⟨.bool, none, ∅⟩ [.must ⟨0⟩]
  (((perform ∅ (.build fuzzy)).1.perform (.build bool)).1.perform
    (.set ⟨1⟩ "should" (.list [.node ⟨1⟩]))).1

theorem reachable_tangle : tangle.Reachable :=
  ((Reachable.empty.build .fuzzy (some "user") (by decide +kernel)).build .bool none
    (by decide +kernel)).set "should" (by decide +kernel) (by decide +kernel)

/-- Three things are wrong in the tangle, and the boost is reported: in a fuzzy clause the value
    comes last. Where one query alone may be entered the fuzzy query is too deep, and that comes
    before the cycle. -/
theorem clause_reports_first_fault_tangle :
    tangle.Reachable ∧
    (tangle.faultList 64 [] ⟨1⟩ = [.unsupportedValue "boost" (.nonFinite (0.0 / 0.0)),
        .unsupportedValue "value" .nestedList, .cyclic .bool] ∧
      tangle.clause {} ⟨1⟩ = .error (.unsupportedValue "boost" (.nonFinite (0.0 / 0.0)))) ∧
    (tangle.faultList 1 [] ⟨1⟩ = [.depthLimitExceeded 1, .cyclic .bool] ∧
      tangle.clause ⟨1, true⟩ ⟨1⟩ = .error (.depthLimitExceeded 1)) := by
  have hlist : tangle.faultList 64 [] ⟨1⟩ = [.unsupportedValue "boost" (.nonFinite (0.0 / 0.0)),
      .unsupportedValue "value" .nestedList, .cyclic .bool] := by
    rw [faultList_eq_faults (Nat.zero_add _)]
    decide +kernel
  have hshort : tangle.faultList 1 [] ⟨1⟩ = [.depthLimitExceeded 1, .cyclic .bool] := by
    rw [faultList_eq_faults (Nat.zero_add _)]
    decide +kernel
  have hfirst := clause_reports_first_fault reachable_tangle ⟨64, true⟩ ⟨1⟩
  have hcut := clause_reports_first_fault reachable_tangle ⟨1, true⟩ ⟨1⟩
  rw [hlist] at hfirst
  rw [hshort] at hcut
  exact ⟨reachable_tangle, ⟨hlist, hfirst⟩, hshort, hcut⟩

end Store

/-! ## 2. Two limits -/

/-- Of two lists of faults, the first begins as the second does, unless it begins with a depth that
    is exceeded. -/
def BeginsUnlessCut (limit : Nat) (fs gs : List QueryError) : Prop :=
  fs.head? = some (.depthLimitExceeded limit) ∨ fs.head? = gs.head?

theorem BeginsUnlessCut.append {limit : Nat} {fs gs fs' gs' : List QueryError}
    (h : BeginsUnlessCut limit fs gs) (h' : BeginsUnlessCut limit fs' gs') :
    BeginsUnlessCut limit (fs ++ fs') (gs ++ gs') := by
  rcases h with hcut | hsame
  · exact .inl (by rw [List.head?_append, hcut, Option.some_or])
  · cases fs with
    | nil =>
        -- nothing in front on either side
        cases gs with
        | nil => exact h'
        | cons g gs => cases hsame
    | cons f fs =>
        cases gs with
        | nil => cases hsame
        | cons g gs => exact .inr hsame

theorem BeginsUnlessCut.flatMap {α : Type} {limit : Nat} {f g : α → List QueryError}
    (h : ∀ a, BeginsUnlessCut limit (f a) (g a)) (as : List α) :
    BeginsUnlessCut limit (as.flatMap f) (as.flatMap g) := by
  induction as with
  | nil => exact .inr rfl
  | cons a as ih =>
      rw [List.flatMap_cons, List.flatMap_cons]
      exact (h a).append ih

namespace Store

variable {s : Store}

/-- **With less room the faults begin alike**, unless the room runs out first. -/
theorem beginsUnlessCut_faults (limit limit' : Nat) {room room' : Nat} (hroom : room ≤ room')
    (chain : List NodeId) (id : NodeId) :
    BeginsUnlessCut limit (s.faults limit room chain id) (s.faults limit' room' chain id) := by
  induction room generalizing room' chain id with
  | zero =>
      by_cases hmem : id ∈ chain
      · rw [faults_of_mem hmem, faults_of_mem hmem]
        exact .inr rfl
      · rw [faults_zero hmem]
        exact .inl rfl
  | succ room ih =>
      cases room' with
      | zero => cases hroom
      | succ room' =>
          have hless : room ≤ room' := Nat.le_of_succ_le_succ hroom
          by_cases hmem : id ∈ chain
          · rw [faults_of_mem hmem, faults_of_mem hmem]
            exact .inr rfl
          · rw [faults_succ hmem, faults_succ hmem]
            refine .flatMap (fun encounter => ?_) _
            cases encounter with
            | query c => exact ih hless (id :: chain) c
            | fault field what => exact .inr rfl

/-- What can be written without a fault is written alike with more room. -/
theorem toJson_eq_of_faults_eq_nil {limit room room' : Nat} {chain : List NodeId} {id : NodeId}
    (h : s.faults limit room chain id = []) (hroom : room ≤ room') :
    s.toJson room id = s.toJson room' id := by
  induction room generalizing room' chain id with
  | zero =>
      by_cases hmem : id ∈ chain
      · simp [faults_of_mem hmem] at h
      · simp [faults_zero hmem] at h
  | succ room ih =>
      cases room' with
      | zero => cases hroom
      | succ room' =>
          have hless : room ≤ room' := Nat.le_of_succ_le_succ hroom
          have hmem : id ∉ chain := fun hmem => by simp [faults_of_mem hmem] at h
          have hbelow := ((faults_succ_eq_nil_iff hmem limit room).1 h).2
          exact toJson_node_congr fun c hc => ih (hbelow c hc) hless

/-- The depth that a walk reports as exceeded is its limit. -/
theorem eq_of_depth_mem_faults {limit limit' room : Nat} {chain : List NodeId} {id : NodeId}
    (h : .depthLimitExceeded limit' ∈ s.faults limit room chain id) : limit' = limit := by
  obtain ⟨q, -, hat⟩ := mem_faults h
  cases hat with
  | depth => rfl

/-- **What is generated or reported at one depth is so at every larger one**, unless it is the depth
    that is exceeded. -/
theorem clause_of_larger_depth (hs : s.WellFormed) (wrap : Bool) {depth depth' : Nat}
    (hle : depth ≤ depth') (r : NodeId) :
    s.clause ⟨depth, wrap⟩ r = .error (.depthLimitExceeded depth) ∨
      s.clause ⟨depth', wrap⟩ r = s.clause ⟨depth, wrap⟩ r := by
  rw [clause_eq hs, clause_eq hs]
  have hbegins := beginsUnlessCut_faults (s := s) depth depth' hle [] r
  rcases hbegins with hcut | hsame
  · exact .inl (settle_eq_error_iff.2 hcut)
  · right
    cases hfaults : s.faults depth depth [] r with
    | nil =>
        rw [hfaults] at hsame
        rw [List.head?_eq_none_iff.1 hsame.symm, toJson_eq_of_faults_eq_nil hfaults hle]
    | cons e rest =>
        rw [hfaults] at hsame
        exact settle_eq_error_iff.2 hsame.symm

/-- **A limit changes no answer but cuts it off.** Any outcome of a request but an exceeded depth is
    its outcome at every larger depth; and where a larger depth is exceeded, so is the smaller,
    which is then reported. -/
theorem generate_of_larger_depth (hs : s.Reachable) (r : NodeId) (wrap : Bool)
    {depth depth' : Nat} (hle : depth ≤ depth') :
    ((∀ limit, s.generate ⟨depth, wrap⟩ r ≠ .error (.depthLimitExceeded limit)) →
      s.generate ⟨depth', wrap⟩ r = s.generate ⟨depth, wrap⟩ r) ∧
    (∀ limit, s.generate ⟨depth', wrap⟩ r = .error (.depthLimitExceeded limit) →
      limit = depth' ∧ s.generate ⟨depth, wrap⟩ r = .error (.depthLimitExceeded depth)) := by
  have hclause := clause_of_larger_depth hs.wellFormed wrap hle r
  constructor
  · intro hne
    rcases hclause with hcut | hsame
    · exact absurd (generate_eq_error_iff.2 hcut) (hne depth)
    · rw [generate_eq, generate_eq, hsame]
      rfl
  · intro limit h
    rw [generate_eq_error_iff] at h ⊢
    have hlimit := eq_of_depth_mem_faults (mem_faults_of_clause hs.wellFormed h)
    refine ⟨hlimit, ?_⟩
    rcases hclause with hcut | hsame
    · exact hcut
    · rw [hsame] at h
      rw [h, eq_of_depth_mem_faults (mem_faults_of_clause hs.wellFormed h)]

/-- The loop is a cycle at depth three and at every larger one; at depth two it is too deep, and so
    it is at depth one. -/
theorem generate_of_larger_depth_loop :
    loop.Reachable ∧
    (3 ≤ 64 ∧ loop.generate ⟨3, true⟩ ⟨2⟩ = .error (.cyclic .constantScore) ∧
      loop.generate ⟨64, true⟩ ⟨2⟩ = .error (.cyclic .constantScore)) ∧
    (1 ≤ 2 ∧ loop.generate ⟨2, true⟩ ⟨2⟩ = .error (.depthLimitExceeded 2) ∧
      loop.generate ⟨1, true⟩ ⟨2⟩ = .error (.depthLimitExceeded 1)) := by
  have hthree : loop.generate ⟨3, true⟩ ⟨2⟩ = .error (.cyclic .constantScore) := rfl
  have htwo : loop.generate ⟨2, true⟩ ⟨2⟩ = .error (.depthLimitExceeded 2) := rfl
  have hmore : loop.generate ⟨64, true⟩ ⟨2⟩ = loop.generate ⟨3, true⟩ ⟨2⟩ := by
    refine (generate_of_larger_depth reachable_loop ⟨2⟩ true (by decide)).1 fun limit h => ?_
    rw [hthree] at h
    cases h
  have hless := (generate_of_larger_depth reachable_loop ⟨2⟩ true (by decide : 1 ≤ 2)).2 2 htwo
  exact ⟨reachable_loop, ⟨by decide, hthree, hmore.trans hthree⟩, by decide, htwo, hless.2⟩

end Store

end SearchQuery
