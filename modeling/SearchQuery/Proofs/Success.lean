import Mathlib.Order.Lattice.Nat
import SearchQuery.Proofs.Faults
import SearchQuery.Proofs.Session

/-!
# When generation succeeds

The walk refuses a query in two ways, by looking at the queries above it and by counting them. What
the two refuse together is read off the graph alone: **a clause is generated exactly if every chain
below the query fits into the depth and every value below it has a form in JSON**
(`clause_and_generate_succeed_iff`).

A query that stands in several places is no obstacle, since chains do not branch. A cycle always is
one, since a chain can go round it as often as it likes. Without a cycle there is a longest chain,
and its length is the least depth that serves.
-/

namespace SearchQuery.Store

variable {s : Store}

/-- The lengths of the chains below a query. -/
def chainLengths (s : Store) (r : NodeId) : Set Nat := {n | ∃ ids, s.IsChain r ids ∧ ids.length = n}

/-- Where no cycle is below, one of the chains is the longest. -/
theorem exists_isGreatest_chainLengths (hs : s.Closed) {r : NodeId} (hacyclic : ¬ s.CycleBelow r) :
    ∃ height, IsGreatest (s.chainLengths r) height := by
  have hne : (s.chainLengths r).Nonempty := ⟨1, [r], .single r, rfl⟩
  have hbdd : BddAbove (s.chainLengths r) := by
    refine ⟨s.size + 1, ?_⟩
    intro n hn
    obtain ⟨ids, hids, hlen⟩ := hn
    rw [← hlen]
    exact hs.length_le_of_isChain hids hacyclic
  exact ⟨sSup (s.chainLengths r), Nat.sSup_mem hne hbdd, fun n hn => le_csSup hbdd hn⟩

/-- **When a clause, or a request, is generated.** -/
theorem clause_and_generate_succeed_iff (hs : s.Reachable) (r : NodeId) :
    (∀ settings : Settings,
      ((∃ j, s.clause settings r = .ok j) ↔
        (∀ ids, s.IsChain r ids → ids.length ≤ settings.maxDepth) ∧ s.Supported r) ∧
      ((∃ j, s.generate settings r = .ok j) ↔
        (∀ ids, s.IsChain r ids → ids.length ≤ settings.maxDepth) ∧ s.Supported r)) ∧
    (s.CycleBelow r → ∀ (settings : Settings) (j : Json),
      s.clause settings r ≠ .ok j ∧ s.generate settings r ≠ .ok j) ∧
    (¬ s.CycleBelow r → s.Supported r →
      ∃ height, IsGreatest (s.chainLengths r) height ∧ ∀ settings : Settings,
        ((∃ j, s.clause settings r = .ok j) ↔ height ≤ settings.maxDepth) ∧
        ((∃ j, s.generate settings r = .ok j) ↔ height ≤ settings.maxDepth)) := by
  have hiff := exists_clause_iff hs.wellFormed (r := r)
  refine ⟨fun settings => ⟨hiff settings, exists_generate_iff.trans (hiff settings)⟩, ?_, ?_⟩
  · intro hcycle settings j
    have hno : ¬ ∃ j, s.clause settings r = .ok j := by
      intro h
      obtain ⟨ids, hids, hlen⟩ := hcycle.exists_isChain settings.maxDepth
      have := ((hiff settings).1 h).1 ids hids
      omega
    exact ⟨fun h => hno ⟨j, h⟩, fun h => hno (exists_generate_iff.1 ⟨j, h⟩)⟩
  · intro hacyclic hsupported
    obtain ⟨height, hheight⟩ := exists_isGreatest_chainLengths hs.closed hacyclic
    have hclause : ∀ settings : Settings,
        (∃ j, s.clause settings r = .ok j) ↔ height ≤ settings.maxDepth := by
      intro settings
      rw [hiff settings]
      constructor
      · intro h
        obtain ⟨ids, hids, hlen⟩ := hheight.1
        rw [← hlen]
        exact h.1 ids hids
      · intro h
        exact ⟨fun ids hids => (hheight.2 ⟨ids, hids, rfl⟩).trans h, hsupported⟩
    exact ⟨height, hheight, fun settings =>
      ⟨hclause settings, exists_generate_iff.trans (hclause settings)⟩⟩

/-- The diamond fits into a depth of three and into no less, and three is the length of its longest
    chain; the loop fits into no depth. -/
theorem clause_and_generate_succeed_iff_diamond_loop :
    (diamond.Reachable ∧ (∀ ids, diamond.IsChain ⟨2⟩ ids → ids.length ≤ 3) ∧
      diamond.Supported ⟨2⟩ ∧ ¬ diamond.CycleBelow ⟨2⟩ ∧
      IsGreatest (diamond.chainLengths ⟨2⟩) 3) ∧
    (loop.Reachable ∧ loop.CycleBelow ⟨2⟩ ∧ ∀ settings j, loop.clause settings ⟨2⟩ ≠ .ok j) := by
  have hdiamond := clause_and_generate_succeed_iff reachable_diamond ⟨2⟩
  have hloop := clause_and_generate_succeed_iff reachable_loop ⟨2⟩
  have hclause : ∃ j, diamond.clause ⟨3, true⟩ ⟨2⟩ = .ok j := ⟨_, rfl⟩
  have hfits := (hdiamond.1 ⟨3, true⟩).1.1 hclause
  have hacyclic : ¬ diamond.CycleBelow ⟨2⟩ := by
    intro hcycle
    obtain ⟨j, hj⟩ := hclause
    exact (hdiamond.2.1 hcycle ⟨3, true⟩ j).1 hj
  have hgreatest : IsGreatest (diamond.chainLengths ⟨2⟩) 3 := by
    obtain ⟨height, hheight, hiff⟩ := hdiamond.2.2 hacyclic hfits.2
    have hle : height ≤ 3 := (hiff ⟨3, true⟩).1.1 hclause
    have hlt : ¬ height ≤ 2 := by
      intro h
      obtain ⟨j, hj⟩ := (hiff ⟨2, true⟩).1.2 h
      have herror : diamond.clause ⟨2, true⟩ ⟨2⟩ = .error (.depthLimitExceeded 2) := rfl
      rw [herror] at hj
      cases hj
    have h3 : height = 3 := by omega
    rwa [h3] at hheight
  have hdown : loop.Child ⟨2⟩ ⟨1⟩ := ⟨"filter", .node ⟨1⟩, ⟨by decide, rfl⟩, .node _⟩
  have hup : loop.Child ⟨1⟩ ⟨2⟩ :=
    ⟨"must_not", .list [.node ⟨2⟩], ⟨by decide, rfl⟩, .item (by simp)⟩
  have hcycle : loop.CycleBelow ⟨2⟩ := ⟨⟨2⟩, .refl, .head hdown (.single hup)⟩
  exact ⟨⟨reachable_diamond, hfits.1, hfits.2, hacyclic, hgreatest⟩, reachable_loop, hcycle,
    fun settings j => (hloop.2.1 hcycle settings j).1⟩

end SearchQuery.Store
