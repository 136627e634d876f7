import SearchQuery.Proofs.Success

/-!
# How deep the output is nested

The settings limit how many queries stand in one another. What is written for one query has up to
four levels: the object with its tag, the one with its primary field, its body, and a list in that.
**The nesting of a request is therefore at most four for every query on the longest chain, and that
of the deepest raw JSON on top** (`Store.nesting_generate_le`), and one more if it is wrapped.
-/

namespace SearchQuery

/-! ## 1. The nesting of JSON -/

namespace Json

mutual

/-- How many arrays and objects stand in one another. -/
def nesting : Json → Nat
  | .array items => nestingOfItems items + 1
  | .object members => nestingOfMembers members + 1
  | _ => 0

/-- The nesting of the most deeply nested. -/
def nestingOfItems : List Json → Nat
  | [] => 0
  | j :: js => max j.nesting (nestingOfItems js)

def nestingOfMembers : List (String × Json) → Nat
  | [] => 0
  | (_, j) :: ms => max j.nesting (nestingOfMembers ms)

end

theorem nestingOfItems_le {b : Nat} {items : List Json} :
    nestingOfItems items ≤ b ↔ ∀ j ∈ items, j.nesting ≤ b := by
  induction items with
  | nil => simp [nestingOfItems]
  | cons j js ih => simp [nestingOfItems, ih]

theorem nestingOfMembers_le {b : Nat} {members : List (String × Json)} :
    nestingOfMembers members ≤ b ↔ ∀ m ∈ members, m.2.nesting ≤ b := by
  induction members with
  | nil => simp [nestingOfMembers]
  | cons m ms ih => simp [nestingOfMembers, ih]

@[simp] theorem nesting_single (name : String) (j : Json) :
    (single name j).nesting = j.nesting + 1 := by
  simp [single, nesting, nestingOfMembers]

/-- An object is nested by one more than its members. -/
theorem nesting_ofDict_le {d : Dict Json} {b : Nat}
    (h : ∀ name j, d.get? name = some j → j.nesting ≤ b) : (ofDict d).nesting ≤ b + 1 := by
  refine Nat.succ_le_succ (nestingOfMembers_le.2 fun m hm => h m.1 m.2 ?_)
  exact lookup_eq_some_of_mem d.ascending hm

end Json

/-! ## 2. Raw JSON -/

/-- An item of a list, or a value that is no list, if it is raw JSON. -/
def Value.itemRaws : Value → List Json
  | .json j => [j]
  | _ => []

/-- The raw JSON in a value, by itself or as an item of a list. -/
def Value.raws : Value → List Json
  | .list items => items.flatMap itemRaws
  | v => v.itemRaws

/-- The raw JSON in the walked fields of a node. -/
def Node.raws (n : Node) : List Json :=
  n.kind.walked.flatMap fun name => ((n.values.get? name).map Value.raws).getD []

/-! ## 3. One query -/

section

variable {f : NodeId → Json} {b : Nat}

theorem Value.nesting_itemToJson_le {v : Value} (hchild : ∀ c, v = .node c → (f c).nesting ≤ b)
    (hraw : ∀ j ∈ v.itemRaws, j.nesting ≤ b) : (v.itemToJson f).nesting ≤ b := by
  cases v with
  | json j => exact hraw j (List.mem_singleton_self j)
  | node c => exact hchild c rfl
  | _ => exact Nat.zero_le b

/-- A list adds one level to what stands in it. -/
theorem Value.nesting_toJson_le {v : Value} (hchild : ∀ c, v.Holds c → (f c).nesting ≤ b)
    (hraw : ∀ j ∈ v.raws, j.nesting ≤ b) : (v.toJson f).nesting ≤ b + 1 := by
  cases v with
  | list items =>
      refine Nat.succ_le_succ (Json.nestingOfItems_le.2 fun j hj => ?_)
      obtain ⟨item, hitem, rfl⟩ := List.mem_map.1 hj
      refine nesting_itemToJson_le (fun c hc => hchild c (.item (hc ▸ hitem))) fun j hj => ?_
      exact hraw j (List.mem_flatMap.2 ⟨item, hitem, hj⟩)
  | json j => exact (hraw j (List.mem_singleton_self j)).trans (Nat.le_succ b)
  | node c => exact (hchild c (.node c)).trans (Nat.le_succ b)
  | _ => exact Nat.zero_le _

/-- What stands in a body: a walked value, or a pinned text. -/
theorem Node.mem_entries {n : Node} {name : String} {j : Json} (h : (name, j) ∈ n.entries f) :
    (∃ v, n.Walks name v ∧ j = v.toJson f) ∨ ∃ text, j = .string text := by
  rcases List.mem_append.1 h with h | h
  · left
    obtain ⟨key, hkey, he⟩ := List.mem_filterMap.1 h
    obtain ⟨v, hv, heq⟩ := Option.map_eq_some_iff.1 he
    cases heq
    exact ⟨v, ⟨Kind.mem_walkOrder.1 hkey, hv⟩, rfl⟩
  · right
    split at h
    · obtain ⟨e, -, heq⟩ := List.mem_map.1 h
      cases heq
      exact ⟨e.2, rfl⟩
    · cases h

theorem Node.mem_raws {n : Node} {name : String} {v : Value} (hv : n.Walks name v) {j : Json}
    (hj : j ∈ v.raws) : j ∈ n.raws := by
  refine List.mem_flatMap.2 ⟨name, hv.1, ?_⟩
  rwa [hv.2]

/-- **A clause has at most four levels of its own.** -/
theorem Store.nesting_node_toJson_le {s : Store} {p : NodeId}
    (hchild : ∀ c, s.Child p c → (f c).nesting ≤ b) (hraw : ∀ j ∈ (s.node p).raws, j.nesting ≤ b) :
    ((s.node p).toJson f).nesting ≤ b + 4 := by
  have hbody : (Json.ofDict ((s.node p).body f)).nesting ≤ b + 2 := by
    refine Json.nesting_ofDict_le fun name j hj => ?_
    rcases Dict.get?_insertAll_cases _ _ hj with hmem | hnone
    · rcases Node.mem_entries hmem with ⟨v, hv, rfl⟩ | ⟨text, rfl⟩
      · exact Value.nesting_toJson_le (fun c hc => hchild c ⟨name, v, hv, hc⟩)
          fun raw hmem => hraw raw (Node.mem_raws hv hmem)
      · exact Nat.zero_le _
    · cases hnone
  unfold Node.toJson Node.frame
  split <;> simp only [Json.nesting_single] <;> omega

end

/-! ## 4. All that is below a query -/

namespace Store

variable {s : Store} {r : NodeId}

/-- How deep the raw JSON below a query is nested. -/
def rawNestings (s : Store) (r : NodeId) : Set Nat :=
  {n | ∃ m, s.Reaches r m ∧ ∃ j ∈ (s.node m).raws, j.nesting = n}

/-- **The induction on the levels of the walk**: each query takes four levels at most, and the
    chains below a child are shorter by one. -/
theorem nesting_toJson_le {height J : Nat}
    (hheight : ∀ ids, s.IsChain r ids → ids.length ≤ height)
    (hraw : ∀ n ∈ s.rawNestings r, n ≤ J) (room : Nat) :
    (s.toJson room r).nesting ≤ 4 * height + J := by
  induction room generalizing r height with
  | zero => exact Nat.zero_le _
  | succ room ih =>
      cases height with
      | zero => cases hheight [r] (.single r)
      | succ height =>
          have hchild : ∀ c, s.Child r c → (s.toJson room c).nesting ≤ 4 * height + J := by
            intro c hc
            refine ih (fun ids hids => ?_) ?_
            · exact Nat.le_of_succ_le_succ (hheight _ (.cons hc hids))
            · intro n hn
              obtain ⟨m, hm, hj⟩ := hn
              exact hraw n ⟨m, .head hc hm, hj⟩
          have hown : ∀ j ∈ (s.node r).raws, j.nesting ≤ 4 * height + J := fun j hj =>
            (hraw _ ⟨r, .refl, j, hj, rfl⟩).trans (Nat.le_add_left _ _)
          have := nesting_node_toJson_le hchild hown
          rw [toJson]
          omega

/-- Of the raw JSON below a query some is the most deeply nested, or there is none. -/
theorem exists_isGreatest_rawNestings (hs : s.Closed) (hr : s.Has r) :
    ∃ J, IsGreatest (insert 0 (s.rawNestings r)) J := by
  have hne : (insert 0 (s.rawNestings r)).Nonempty := ⟨0, .inl rfl⟩
  have hbdd : BddAbove (insert 0 (s.rawNestings r)) := by
    refine ⟨Json.nestingOfItems ((List.range s.size).flatMap fun i => (s.node ⟨i⟩).raws), ?_⟩
    intro n hn
    rcases hn with rfl | ⟨m, hm, j, hj, rfl⟩
    · exact Nat.zero_le _
    · refine Json.nestingOfItems_le.1 le_rfl j (List.mem_flatMap.2 ⟨m.index, ?_, hj⟩)
      exact List.mem_range.2 (hs.has_of_reaches hr hm)
  exact ⟨_, Nat.sSup_mem hne hbdd, fun n hn => le_csSup hbdd hn⟩

theorem nesting_wrap_le (settings : Settings) (kind : Kind) (clause : Json) :
    (wrap settings kind clause).nesting ≤ clause.nesting + 1 := by
  unfold wrap
  split <;> simp

/-- **The depth limits the nesting of a request**: it is at most four for every query on the longest
    chain, with the nesting of the deepest raw JSON, and one for the wrapping. -/
theorem nesting_generate_le (hs : s.Reachable) (hr : s.Has r) {settings : Settings} {v : Json}
    (hv : s.generate settings r = .ok v) :
    ∃ height J, IsGreatest (s.chainLengths r) height ∧ height ≤ settings.maxDepth ∧
      IsGreatest (insert 0 (s.rawNestings r)) J ∧ v.nesting ≤ 4 * height + 1 + J ∧
      (settings.wrapRoot = false → v.nesting ≤ 4 * height + J) := by
  have hwf := hs.wellFormed
  have hok := exists_generate_iff.1 ⟨v, hv⟩
  obtain ⟨height, hheight⟩ :=
    exists_isGreatest_chainLengths hs.closed (not_cycleBelow_of_clause hwf hok)
  obtain ⟨J, hJ⟩ := exists_isGreatest_rawNestings hs.closed hr
  obtain ⟨clause, hclause⟩ := hok
  have hfits : height ≤ settings.maxDepth := by
    obtain ⟨ids, hids, rfl⟩ := hheight.1
    exact ((exists_clause_iff hwf settings r).1 ⟨clause, hclause⟩).1 ids hids
  have hbound : clause.nesting ≤ 4 * height + J := by
    rw [eq_toJson_of_clause hwf hclause]
    exact nesting_toJson_le (fun ids hids => hheight.2 ⟨ids, hids, rfl⟩)
      (fun n hn => hJ.2 (.inr hn)) settings.maxDepth
  rw [generate_eq, hclause] at hv
  obtain rfl : wrap settings (s.node r).kind clause = v := Except.ok.inj hv
  refine ⟨height, J, hheight, hfits, hJ, ?_, fun hwrap => ?_⟩
  · have := nesting_wrap_le settings (s.node r).kind clause
    omega
  · simpa [wrap, hwrap] using hbound

/-- A match query in the list of another, with a list of raw JSON of its own. -/
def nested : Store :=
  let inner : Builder := .run ⟨.matchText, some "title", ∅⟩
    [.set "query" (.list [.json (.array [.array []])])]
  let outer : Builder := .run ⟨.matchText, some "body", ∅⟩ [.set "query" (.list [.node ⟨0⟩])]
  ((perform ∅ (.build inner)).1.perform (.build outer)).1

theorem reachable_nested : nested.Reachable :=
  (Reachable.empty.build .matchText (some "title") (by decide +kernel)).build .matchText
    (some "body") (by decide +kernel)

/-- The bound is attained: two queries on the longest chain and raw JSON of nesting two make eleven
    levels. -/
theorem nesting_generate_le_nested :
    nested.Reachable ∧ nested.Has ⟨1⟩ ∧ ∃ v, nested.generate ⟨2, true⟩ ⟨1⟩ = .ok v ∧
      IsGreatest (nested.chainLengths ⟨1⟩) 2 ∧ IsGreatest (insert 0 (nested.rawNestings ⟨1⟩)) 2 ∧
      v.nesting = 4 * 2 + 1 + 2 := by
  have hr : nested.Has ⟨1⟩ := by decide +kernel
  obtain ⟨v, hv, hnesting⟩ :
      ∃ v, nested.generate ⟨2, true⟩ ⟨1⟩ = .ok v ∧ v.nesting = 4 * 2 + 1 + 2 := ⟨_, rfl, rfl⟩
  obtain ⟨height, J, hheight, hfits, hJ, hle, -⟩ := nesting_generate_le reachable_nested hr hv
  have hraw : J ≤ 2 := by
    rcases hJ.1 with rfl | ⟨m, hm, j, hj, rfl⟩
    · exact Nat.zero_le 2
    · have hall : ∀ i < 2, ∀ j ∈ (nested.node ⟨i⟩).raws, j.nesting ≤ 2 := by decide +kernel
      exact hall m.index (reachable_nested.closed.has_of_reaches hr hm) j hj
  have hheight2 : height = 2 := by
    simp only at hfits
    omega
  have hJ2 : J = 2 := by omega
  rw [hheight2] at hheight
  rw [hJ2] at hJ
  exact ⟨reachable_nested, hr, v, hv, hheight, hJ, hnesting⟩

end Store

end SearchQuery
