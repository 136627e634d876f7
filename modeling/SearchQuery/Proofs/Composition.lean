import SearchQuery.Proofs.Faults
import SearchQuery.Proofs.Session

/-!
# Clauses are made of clauses

A query is expanded below others with less room, and with their handles in the chain, so it is not
plain that its clause is the one that it has on its own. It is: what succeeds below a chain cannot
reach the chain, so that the cycle test never tells the two apart (`expand_eq_ok_iff`).

**A clause is therefore made of the clauses of its children**, each generated on its own with one
level less (`clause_of_children`).
-/

namespace SearchQuery.Store

variable {s : Store}

/-- **The chain above does not show.** A query below a chain is expanded to its own clause, and it
    is expanded unless it reaches the chain. -/
theorem expand_eq_ok_iff (hs : s.WellFormed) (limit room : Nat) (wrap : Bool) (chain : List NodeId)
    (id : NodeId) (j : Json) :
    (s.expand limit room chain id).outcome = .ok j ↔
      s.clause ⟨room, wrap⟩ id = .ok j ∧ ∀ a ∈ chain, ¬ s.Reaches id a := by
  rw [outcome_expand hs, clause_eq hs, settle_eq_ok_iff, settle_eq_ok_iff, faults_eq_nil_iff,
    faults_eq_nil_iff]
  constructor
  · intro h
    obtain ⟨⟨hchain, hsupported⟩, hj⟩ := h
    have hown : ∀ ids, s.IsChain id ids → ids.length ≤ room ∧ ∀ a ∈ ids, a ∉ [] :=
      fun ids hids => ⟨(hchain ids hids).1, fun a _ => List.not_mem_nil⟩
    refine ⟨⟨⟨hown, hsupported⟩, hj⟩, ?_⟩
    intro a ha hreach
    obtain ⟨ids, hids, hlast⟩ := hreach.exists_isChain
    exact (hchain ids hids).2 a (List.mem_of_getLast? hlast) ha
  · intro h
    obtain ⟨⟨⟨hchain, hsupported⟩, hj⟩, hout⟩ := h
    exact ⟨⟨fun ids hids => ⟨(hchain ids hids).1, fun a ha hin => hout a hin (hids.reaches ha)⟩,
      hsupported⟩, hj⟩

/-- With one level more, a clause is generated where the clauses of the children are. -/
theorem exists_clause_succ_iff (hs : s.WellFormed) (depth : Nat) (wrap wrap' : Bool) (p : NodeId) :
    (∃ j, s.clause ⟨depth + 1, wrap⟩ p = .ok j) ↔
      (∀ c, s.Child p c → ∃ j, s.clause ⟨depth, wrap'⟩ c = .ok j) ∧ ¬ (s.node p).Faulty := by
  simp only [exists_clause_iff hs]
  constructor
  · intro h
    obtain ⟨hchain, hsupported⟩ := h
    refine ⟨fun c hc => ⟨fun ids hids => ?_, hsupported.child hc⟩, hsupported p .refl⟩
    have := hchain _ (.cons hc hids)
    rwa [List.length_cons, Nat.add_le_add_iff_right] at this
  · intro h
    obtain ⟨hchildren, hsound⟩ := h
    refine ⟨fun ids hids => ?_, fun m hm => ?_⟩
    · cases hids with
      | single => simp
      | cons hc hrest =>
          have := (hchildren _ hc).1 _ hrest
          rwa [List.length_cons, Nat.add_le_add_iff_right]
    · rcases hm.cases_head with rfl | ⟨c, hc, hcm⟩
      · exact hsound
      · exact (hchildren c hc).2 m hcm

/-- A clause that is generated is written with the clauses of its children, and they are there. -/
theorem exists_toJson_children_of_clause (hs : s.WellFormed) {settings : Settings} {p : NodeId}
    {j : Json} (h : s.clause settings p = .ok j) :
    ∃ f, j = (s.node p).toJson f ∧
      ∀ c, s.Child p c → s.clause ⟨settings.maxDepth - 1, settings.wrapRoot⟩ c = .ok (f c) := by
  obtain ⟨depth, wrap⟩ := settings
  cases depth with
  | zero =>
      rw [clause_zero] at h
      cases h
  | succ depth =>
      refine ⟨s.toJson depth, eq_toJson_of_clause hs h, fun c hc => ?_⟩
      have hchildren := ((exists_clause_succ_iff hs depth wrap wrap p).1 ⟨j, h⟩).1
      obtain ⟨k, hk⟩ := hchildren c hc
      show s.clause ⟨depth, wrap⟩ c = .ok (s.toJson depth c)
      rw [hk, eq_toJson_of_clause hs hk]

/-- **A clause is made of the clauses of its children**, whatever is above it. -/
theorem clause_of_children (hs : s.Reachable) (p : NodeId) :
    (∀ (depth : Nat) (wrap wrap' : Bool),
      ((∃ j, s.clause ⟨depth + 1, wrap⟩ p = .ok j) ↔
        (∀ c, s.Child p c → ∃ j, s.clause ⟨depth, wrap'⟩ c = .ok j) ∧ ¬ (s.node p).Faulty) ∧
      ∀ j, s.clause ⟨depth + 1, wrap⟩ p = .ok j →
        ∃ (f : NodeId → Json) (body : Dict Json),
          (∀ c, s.Child p c → s.clause ⟨depth, wrap'⟩ c = .ok (f c)) ∧
          j = (s.node p).frame (.ofDict body) ∧
          ∀ name, ((s.node p).kind = .matchAll → name ≠ "query" ∧ name ≠ "zero_terms_query") →
            body.get? name = if name ∈ (s.node p).kind.walked then
              ((s.node p).values.get? name).map (Value.toJson f) else none) ∧
    (∀ (limit room : Nat) (wrap : Bool) (chain : List NodeId) (j : Json),
      (s.expand limit room chain p).outcome = .ok j ↔
        s.clause ⟨room, wrap⟩ p = .ok j ∧ ∀ a ∈ chain, ¬ s.Reaches p a) := by
  refine ⟨fun depth wrap wrap' => ?_, fun limit room wrap chain j =>
    expand_eq_ok_iff hs.wellFormed limit room wrap chain p j⟩
  have hiff := exists_clause_succ_iff hs.wellFormed depth wrap wrap' p
  refine ⟨hiff, fun j hj => ⟨s.toJson depth, (s.node p).body (s.toJson depth), ?_, ?_, ?_⟩⟩
  · intro c hc
    obtain ⟨k, hk⟩ := (hiff.1 ⟨j, hj⟩).1 c hc
    rw [hk, eq_toJson_of_clause hs.wellFormed hk]
  · exact eq_toJson_of_clause hs.wellFormed hj
  · exact fun name hpinned => Node.get?_body _ hpinned

/-- In the diamond, the clause at depth three holds that of the Boolean query at depth two, which
    does not reach back. -/
theorem clause_of_children_diamond :
    diamond.Reachable ∧ ∃ (j : Json) (f : NodeId → Json) (body : Dict Json),
      diamond.clause ⟨3, true⟩ ⟨2⟩ = .ok j ∧ diamond.clause ⟨2, false⟩ ⟨1⟩ = .ok (f ⟨1⟩) ∧
      j = (diamond.node ⟨2⟩).frame (.ofDict body) ∧ body.get? "filter" = some (f ⟨1⟩) ∧
      ¬ diamond.Reaches ⟨1⟩ ⟨2⟩ := by
  have houter := (clause_of_children reachable_diamond ⟨2⟩).1 2 true false
  have hinner := (clause_of_children reachable_diamond ⟨1⟩).2 3 2 false [⟨2⟩]
  have hclause : ∃ j, diamond.clause ⟨3, true⟩ ⟨2⟩ = .ok j := ⟨_, rfl⟩
  have hbelow : ∃ j, (diamond.expand 3 2 [⟨2⟩] ⟨1⟩).outcome = .ok j := ⟨_, rfl⟩
  obtain ⟨j, hj⟩ := hclause
  obtain ⟨k, hk⟩ := hbelow
  obtain ⟨f, body, hchildren, hframe, hbody⟩ := houter.2 j hj
  have hchild : diamond.Child ⟨2⟩ ⟨1⟩ := ⟨"filter", .node ⟨1⟩, ⟨by decide, rfl⟩, .node _⟩
  refine ⟨reachable_diamond, j, f, body, hj, hchildren _ hchild, hframe, ?_, ?_⟩
  · rw [hbody "filter" fun h => absurd h (by decide +kernel)]
    rfl
  · exact ((hinner k).1 hk).2 ⟨2⟩ (List.mem_singleton_self _)

end SearchQuery.Store
