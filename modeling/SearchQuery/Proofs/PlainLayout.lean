import SearchQuery.Proofs.StandIn

/-!
# The irregular layouts and the plain one

Most clauses with a primary field have the plain layout: every declared field that holds a value, in
the declared order. Three layouts do not go by the declared fields. A term clause and a prefix
clause name their two fields, a fuzzy clause names its options and has the value after them, and a
match-all clause has texts put over what it rendered.

**Each says what the plain layout would say of the same query** (`irregular_layouts_agree`):

* where the fields are named in the declared order nothing is different at all, not even which
  queries are entered before an error (`Node.WellFormed.clause_eq_plain`);
* a fuzzy clause is the plain one, since the order of the names does not show in a body
  (`Node.ofList_entriesIn_congr`), nor in whether there is one (`bind_swap`). Only where the value
  and an option are both at fault do the two orders come upon different errors;
* a match-all clause is the plain one with its two texts in place, and has the same errors.
-/

namespace SearchQuery

/-! ## 1. The plain layout -/

section Plain

variable (child : NodeId → Expansion Json) {n : Node}

/-- **What the plain layout is made of**: what is come upon in the declared order, and then the
    entries. -/
theorem Node.WellFormed.plain_eq (hn : n.WellFormed) (hkeyed : n.kind.shape.hasPrimaryField) :
    layOut child n .primaryField =
      (fun _ => n.frame (.ofDict
        (.ofList (n.entriesIn (fun id => (child id).answer) n.kind.fields)))) <$>
        meet child (n.encountersIn n.kind.fields) := by
  have hframe : ∀ body, keyed n .primaryField body = pure (n.frame body) := by
    intro body
    rw [← keyed_eq hn body]
    unfold keyed
    rw [hkeyed]
    rfl
  rw [layOut, bodyEntries, renderFields_eq]
  simp [hframe]

/-- **Where the layout goes by the declared order, it is the plain one.** -/
theorem Node.WellFormed.clause_eq_plain (hn : n.WellFormed) (hkeyed : n.kind.shape.hasPrimaryField)
    (horder : n.kind.walkOrder = n.kind.fields) (hfree : n.kind.shape ≠ .matchAll) :
    n.clause child = layOut child n .primaryField := by
  rw [hn.plain_eq child hkeyed, Node.clause_eq child hn, Node.encounters, Node.toJson, Node.body,
    Node.entries, horder, if_neg hfree, List.append_nil]

/-! ## 2. The order of names -/

/-- **The order of names does not show in a body.** -/
theorem Node.ofList_entriesIn_congr (n : Node) (f : NodeId → Json) {names names' : List String}
    (h : ∀ name, name ∈ names ↔ name ∈ names') :
    Dict.ofList (n.entriesIn f names) = Dict.ofList (n.entriesIn f names') := by
  ext1 k
  rw [Dict.ofList, Dict.ofList, get?_insertAll_entriesIn, get?_insertAll_entriesIn]
  simp only [h]

/-- Of two tests, made in one order or the other, both pass or not; and where the two orders report
    different errors, each is that of the test made first. -/
theorem bind_swap {x y : Except QueryError Unit} :
    ((x >>= fun _ => y) = .ok () ↔ (y >>= fun _ => x) = .ok ()) ∧
      ∀ e e', (x >>= fun _ => y) = .error e → (y >>= fun _ => x) = .error e' → e ≠ e' →
        x = .error e ∧ y = .error e' := by
  cases x <;> cases y <;> simp [bind, Except.bind, eq_comm]

theorem map_const_eq_ok_iff {α : Type} {x : Except QueryError Unit} {a b : α} :
    (fun _ => a) <$> x = .ok b ↔ x = .ok () ∧ a = b := by
  cases x <;> simp [Functor.map, Except.map]

theorem map_const_eq_error_iff {α : Type} {x : Except QueryError Unit} {a : α} {e : QueryError} :
    (fun _ => a) <$> x = .error e ↔ x = .error e := by
  cases x <;> simp [Functor.map, Except.map]

/-- The values under some names fail with what is come upon in them. -/
theorem renderFields_eq_error_iff {names : List String} {e : QueryError} :
    (renderFields child n names).outcome = .error e ↔
      (meet child (n.encountersIn names)).outcome = .error e := by
  rw [renderFields_eq, Expansion.outcome_map, map_const_eq_error_iff]

/-- What is come upon under two lists of names, one list after the other. -/
theorem outcome_meet_encountersIn_append (names more : List String) :
    (meet child (n.encountersIn (names ++ more))).outcome =
      (meet child (n.encountersIn names)).outcome >>= fun _ =>
        (meet child (n.encountersIn more)).outcome := by
  rw [Node.encountersIn, List.flatMap_append, meet_append, Expansion.outcome_bind]
  rfl

/-- **A fuzzy clause and the plain one** are written alike, and come upon the same in two orders. -/
theorem Node.WellFormed.clause_of_fuzzy (hn : n.WellFormed) (hk : n.kind = .fuzzy) :
    (∀ j, (n.clause child).outcome = .ok j ↔ (layOut child n .primaryField).outcome = .ok j) ∧
      ∀ e e', (n.clause child).outcome = .error e →
        (layOut child n .primaryField).outcome = .error e' → e ≠ e' →
          (renderFields child n Kind.fuzzyOptions).outcome = .error e ∧
            (renderFields child n ["value"]).outcome = .error e' := by
  have horder : n.kind.walkOrder = Kind.fuzzyOptions ++ ["value"] := by rw [hk]; rfl
  have hfields : n.kind.fields = ["value"] ++ Kind.fuzzyOptions := by rw [hk]; rfl
  have hjson : n.toJson (fun id => (child id).answer) = n.frame (.ofDict
      (.ofList (n.entriesIn (fun id => (child id).answer) n.kind.fields))) := by
    have hsame : ∀ name, name ∈ n.kind.walkOrder ↔ name ∈ n.kind.fields := by
      rw [horder, hfields]
      simp [or_comm]
    rw [Node.toJson, Node.body, Node.entries, if_neg (by rw [hk]; decide), List.append_nil,
      n.ofList_entriesIn_congr _ hsame]
  obtain ⟨hok, herror⟩ := bind_swap (x := (meet child (n.encountersIn Kind.fuzzyOptions)).outcome)
    (y := (meet child (n.encountersIn ["value"])).outcome)
  rw [Node.clause_eq child hn, hn.plain_eq child (by rw [hk]; rfl), hjson, Node.encounters, horder,
    hfields]
  simp only [Expansion.outcome_map, outcome_meet_encountersIn_append, renderFields_eq_error_iff,
    map_const_eq_ok_iff, map_const_eq_error_iff, hok, true_and, implies_true]
  exact herror

/-! ## 3. Pinned names -/

/-- **A match-all clause and the plain one** differ in the texts that are put in place. -/
theorem Node.WellFormed.clause_of_matchAll (hn : n.WellFormed) (hk : n.kind = .matchAll) :
    ∃ body : Except QueryError (Dict Json),
      (layOut child n .primaryField).outcome = (fun b => n.frame (.ofDict b)) <$> body ∧
      (n.clause child).outcome = (fun b => n.frame (.ofDict
        ((b.insert "query" (.string "")).insert "zero_terms_query" (.string "all")))) <$> body := by
  have horder : n.kind.walkOrder = n.kind.fields := by rw [hk]; rfl
  refine ⟨(fun _ => .ofList (n.entriesIn (fun id => (child id).answer) n.kind.fields)) <$>
    (meet child (n.encountersIn n.kind.fields)).outcome, ?_, ?_⟩
  · rw [hn.plain_eq child (by rw [hk]; rfl), Expansion.outcome_map]
    simp
  · rw [Node.clause_eq child hn, Expansion.outcome_map, Node.encounters, Node.toJson,
      Node.body_of_matchAll hk, horder]
    simp

end Plain

/-! ## 4. Agreement -/

namespace Store

variable {s : Store}

/-- **The irregular layouts agree with the plain one**, whatever stands above the query. A term or
    prefix clause is the plain one. A fuzzy clause is generated exactly if the plain one is, and is
    the same; if they fail in different ways, an option and the value are both at fault, and the
    fuzzy clause reports the option. A match-all clause is the plain one with its texts in place of
    whatever stood there, and fails as the plain one does. -/
theorem irregular_layouts_agree (hs : s.Reachable) (limit room : Nat) (chain : List NodeId)
    (q : NodeId) :
    let n := s.node q
    let child := s.expand limit room (q :: chain)
    let plain := layOut child n .primaryField
    (n.kind = .term ∨ n.kind = .termPrefix → n.clause child = plain) ∧
    (n.kind = .fuzzy →
      (∀ j, (n.clause child).outcome = .ok j ↔ plain.outcome = .ok j) ∧
      ∀ e e', (n.clause child).outcome = .error e → plain.outcome = .error e' → e ≠ e' →
        (renderFields child n Kind.fuzzyOptions).outcome = .error e ∧
          (renderFields child n ["value"]).outcome = .error e') ∧
    (n.kind = .matchAll →
      (∀ j, (n.clause child).outcome = .ok j ↔ ∃ body, plain.outcome = .ok (n.frame (.ofDict body)) ∧
        j = n.frame (.ofDict
          ((body.insert "query" (.string "")).insert "zero_terms_query" (.string "all")))) ∧
      ∀ e, (n.clause child).outcome = .error e ↔ plain.outcome = .error e) := by
  intro n child plain
  have hn : n.WellFormed := hs.wellFormed q
  refine ⟨fun hk => ?_, hn.clause_of_fuzzy child, fun hk => ?_⟩
  · rcases hk with hk | hk
    · exact hn.clause_eq_plain child (by rw [hk]; rfl) (by rw [hk]; rfl) (by rw [hk]; decide)
    · exact hn.clause_eq_plain child (by rw [hk]; rfl) (by rw [hk]; rfl) (by rw [hk]; decide)
  · obtain ⟨body, hplain, hclause⟩ := hn.clause_of_matchAll child hk
    rw [show plain.outcome = _ from hplain, hclause]
    cases body with
    | error e => simp [Functor.map, Except.map]
    | ok b =>
        constructor
        · intro j
          constructor
          · exact fun hj => ⟨b, rfl, (Except.ok.inj hj).symm⟩
          · intro hbody
            obtain ⟨b', hb', rfl⟩ := hbody
            rw [Node.frame_ofDict_injective (Except.ok.inj hb')]
            rfl
        · simp [Functor.map, Except.map]

/-- A term query; a fuzzy query with that in its value, and one with a fault in two fields; and a
    match-all query that was given the term query in the place of one of its texts, and has lost the
    other. -/
def assorted : Store :=
  let term : Builder := .run ⟨.term, some "user", ∅⟩ [.set "value" (.text "kimchy"), .boost 2.0]
  let fuzzy : Builder := .run ⟨.fuzzy, some "user", ∅⟩
    [.set "value" (.node ⟨0⟩), .fuzziness (.text "AUTO")]
  let faulty : Builder := .run ⟨.fuzzy, some "user", ∅⟩
    [.set "value" (.list [.list []]), .boost (0.0 / 0.0)]
  let all : Builder := .run ⟨.matchAll, some "message", ∅⟩ []
  ((((((perform ∅ (.build term)).1.perform (.build fuzzy)).1.perform (.build faulty)).1.perform
    (.build all)).1.perform (.set ⟨3⟩ "query" (.node ⟨0⟩))).1.perform
    (.unset ⟨3⟩ "zero_terms_query")).1

theorem reachable_assorted : assorted.Reachable :=
  (((((Reachable.empty.build .term (some "user") (by decide +kernel)).build .fuzzy (some "user")
    (by decide +kernel)).build .fuzzy (some "user") (by decide +kernel)).build .matchAll
    (some "message") (by decide +kernel)).set "query" (by decide +kernel) (by decide +kernel)).unset
    "zero_terms_query" (by decide +kernel)

/-- The term clause and the sound fuzzy one are what the plain layout makes of them. In the other
    fuzzy query the boost is reported, where the plain layout comes upon the value first; and the
    match-all clause has its texts where the plain one has the term clause, and nothing. -/
theorem irregular_layouts_agree_assorted :
    assorted.Reachable ∧
    ((assorted.node ⟨0⟩).kind = .term ∧
      (assorted.node ⟨0⟩).clause (assorted.expand 64 63 [⟨0⟩]) =
        layOut (assorted.expand 64 63 [⟨0⟩]) (assorted.node ⟨0⟩) .primaryField) ∧
    ((assorted.node ⟨1⟩).kind = .fuzzy ∧
      ∃ j, (layOut (assorted.expand 64 63 [⟨1⟩]) (assorted.node ⟨1⟩) .primaryField).outcome = .ok j ∧
        ((assorted.node ⟨1⟩).clause (assorted.expand 64 63 [⟨1⟩])).outcome = .ok j) ∧
    ((assorted.node ⟨2⟩).kind = .fuzzy ∧
      ((assorted.node ⟨2⟩).clause (assorted.expand 64 63 [⟨2⟩])).outcome =
        .error (.unsupportedValue "boost" (.nonFinite (0.0 / 0.0))) ∧
      (layOut (assorted.expand 64 63 [⟨2⟩]) (assorted.node ⟨2⟩) .primaryField).outcome =
        .error (.unsupportedValue "value" .nestedList) ∧
      (renderFields (assorted.expand 64 63 [⟨2⟩]) (assorted.node ⟨2⟩) ["value"]).outcome =
        .error (.unsupportedValue "value" .nestedList)) ∧
    ((assorted.node ⟨3⟩).kind = .matchAll ∧
      ∃ body term, assorted.clause {} ⟨0⟩ = .ok term ∧ body.entries = [("query", term)] ∧
        (layOut (assorted.expand 64 63 [⟨3⟩]) (assorted.node ⟨3⟩) .primaryField).outcome =
          .ok ((assorted.node ⟨3⟩).frame (.ofDict body)) ∧
        ((assorted.node ⟨3⟩).clause (assorted.expand 64 63 [⟨3⟩])).outcome =
          .ok ((assorted.node ⟨3⟩).frame (.ofDict ((body.insert "query" (.string "")).insert
            "zero_terms_query" (.string "all"))))) := by
  have hagree := irregular_layouts_agree reachable_assorted 64 63 []
  have hboost : ((assorted.node ⟨2⟩).clause (assorted.expand 64 63 [⟨2⟩])).outcome =
      .error (.unsupportedValue "boost" (.nonFinite (0.0 / 0.0))) := rfl
  have hvalue : (layOut (assorted.expand 64 63 [⟨2⟩]) (assorted.node ⟨2⟩) .primaryField).outcome =
      .error (.unsupportedValue "value" .nestedList) := rfl
  have hdiffer := ((hagree ⟨2⟩).2.1 rfl).2 _ _ hboost hvalue (by decide)
  refine ⟨reachable_assorted, ⟨rfl, (hagree ⟨0⟩).1 (.inl rfl)⟩, ⟨rfl, _, rfl, ?_⟩,
    ⟨rfl, hboost, hvalue, hdiffer.2⟩, rfl, .ofList [("query", _)], _, rfl, rfl, rfl, ?_⟩
  · exact (((hagree ⟨1⟩).2.1 rfl).1 _).2 rfl
  · exact (((hagree ⟨3⟩).2.2 rfl).1 _).2 ⟨_, rfl, rfl⟩

end Store

end SearchQuery
