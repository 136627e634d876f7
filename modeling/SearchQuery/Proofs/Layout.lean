import SearchQuery.Proofs.Composition

/-!
# The form of a clause

The shapes choose the names of a body each in its own way: the declared fields, a list of options
and a value, the fields from the third on, pinned names. For queries as they can come about the six
choices come to one rule (`Node.mem_keys_body`): **a body has the names that hold a value**, no
other and none less, but for the names that a match-all query pins and the two that a
more-like-this query on one field leaves out.

`clause_form` says so of every clause that is generated, with the tag and the primary field around
the body, and of the request that is made of it.
-/

namespace SearchQuery

/-! ## 1. Walked names -/

/-- The walked names of a kind are the declared ones, less two for a more-like-this clause on one
    field. -/
theorem Kind.mem_walked {k : Kind} {name : String} :
    name ∈ k.walked ↔ k.declares name ∧
      (k = .moreLikeThisField → name ≠ "like_text" ∧ name ≠ "fields") := by
  unfold Kind.walked
  by_cases hk : k = .moreLikeThisField
  · subst hk
    have hsplit : moreLikeThisField.fields =
        "like_text" :: "fields" :: moreLikeThisField.fields.drop 2 := rfl
    have hskipped : "like_text" ∉ moreLikeThisField.fields.drop 2 ∧
        "fields" ∉ moreLikeThisField.fields.drop 2 := by decide +kernel
    rw [if_pos rfl, declares, List.contains_iff_mem]
    constructor
    · intro h
      refine ⟨List.mem_of_mem_drop h, fun _ => ⟨?_, ?_⟩⟩
      · rintro rfl
        exact hskipped.1 h
      · rintro rfl
        exact hskipped.2 h
    · intro h
      obtain ⟨hmem, hne⟩ := h
      rw [hsplit] at hmem
      simpa [hne rfl] using hmem
  · simp [hk, declares]

/-- The names that a kind pins in the bodies of its clauses. -/
theorem Kind.mem_pinned {k : Kind} {name : String} :
    name ∈ (if k.shape = .matchAll then pinned k else []).map (·.1) ↔
      k = .matchAll ∧ (name = "query" ∨ name = "zero_terms_query") := by
  have hshape : k.shape = .matchAll ↔ k = .matchAll := by cases k <;> decide
  by_cases hk : k = .matchAll
  · simp [hk, Kind.shape, pinned, Kind.forced]
  · simp [hshape, hk]

/-! ## 2. The names of a body -/

namespace Node

variable {n : Node} {name : String}

theorem map_entriesIn (n : Node) (f : NodeId → Json) (names : List String) :
    (n.entriesIn f names).map (·.1) = names.filter n.values.contains := by
  induction names with
  | nil => rfl
  | cons name names ih =>
      rw [entriesIn] at ih ⊢
      cases hv : n.values.get? name with
      | none => simp [hv, Dict.contains, ih]
      | some v => simp [hv, Dict.contains, ih]

theorem mem_setFields : name ∈ n.setFields ↔ n.values.contains name := Dict.mem_keys

/-- What a well-formed node holds, it holds under declared names. -/
theorem WellFormed.declares (hn : n.WellFormed) (h : name ∈ n.setFields) : n.kind.declares name :=
  requireDeclared_eq_ok_iff.1 hn.declared name h

/-- **The names of a body**: those that hold a value, less those that the kind leaves out, and those
    that it pins. -/
theorem mem_keys_body (hn : n.WellFormed) (f : NodeId → Json) :
    name ∈ (n.body f).keys ↔
      (name ∈ n.setFields ∧
        (n.kind = .moreLikeThisField → name ≠ "like_text" ∧ name ≠ "fields")) ∨
      (n.kind = .matchAll ∧ (name = "query" ∨ name = "zero_terms_query")) := by
  have hempty : name ∉ (Dict.empty : Dict Json).keys := List.not_mem_nil
  rw [body, Dict.ofList, Dict.mem_keys_insertAll, entries, List.map_append, List.mem_append,
    map_entriesIn, Kind.mem_pinned, List.mem_filter, Kind.mem_walkOrder, Kind.mem_walked,
    mem_setFields]
  constructor
  · rintro (h | ⟨⟨-, hskipped⟩, hset⟩ | hpinned)
    · exact absurd h hempty
    · exact .inl ⟨hset, hskipped⟩
    · exact .inr hpinned
  · rintro (⟨hset, hskipped⟩ | hpinned)
    · exact .inr (.inl ⟨⟨hn.declares (mem_setFields.2 hset), hskipped⟩, hset⟩)
    · exact .inr (.inr hpinned)

/-- The body of a match-all clause is the one that is rendered, with two texts in place. -/
theorem body_of_matchAll (hk : n.kind = .matchAll) (f : NodeId → Json) :
    n.body f = ((Dict.ofList (n.entriesIn f n.kind.walkOrder)).insert "query"
      (.string "")).insert "zero_terms_query" (.string "all") := by
  rw [body, Dict.ofList, entries, Dict.insertAll_append, hk]
  rfl

/-- Two names are pinned to a text, whatever is held under them. -/
theorem get?_body_pinned (hk : n.kind = .matchAll) (f : NodeId → Json) :
    (n.body f).get? "query" = some (.string "") ∧
      (n.body f).get? "zero_terms_query" = some (.string "all") := by
  rw [body_of_matchAll hk]
  exact ⟨by simp [Dict.get?_insert], by simp⟩

/-- With other values, the same stands under a name of a body if the value there is written alike,
    and in any case if the name is pinned or is not walked. -/
theorem get?_body_congr {values : Dict Value} {f : NodeId → Json}
    (h : (n.kind = .matchAll → name ≠ "query" ∧ name ≠ "zero_terms_query") →
      name ∈ n.kind.walked →
        (values.get? name).map (Value.toJson f) = (n.values.get? name).map (Value.toJson f)) :
    ((⟨n.kind, n.field, values⟩ : Node).body f).get? name = (n.body f).get? name := by
  by_cases hpinned : n.kind = .matchAll ∧ (name = "query" ∨ name = "zero_terms_query")
  · obtain ⟨hall, hname⟩ := hpinned
    obtain ⟨hquery, hzero⟩ := get?_body_pinned hall f
    obtain ⟨hquery', hzero'⟩ := get?_body_pinned (n := ⟨n.kind, n.field, values⟩) hall f
    rcases hname with rfl | rfl
    · rw [hquery, hquery']
    · rw [hzero, hzero']
  · have hfree : n.kind = .matchAll → name ≠ "query" ∧ name ≠ "zero_terms_query" :=
      fun hall => not_or.1 fun hname => hpinned ⟨hall, hname⟩
    rw [get?_body f hfree, get?_body (n := ⟨n.kind, n.field, values⟩) f hfree]
    split
    · exact h hfree ‹_›
    · rfl

/-- **What a body does not show of a value**: a body stays as it is if a value is set under a name
    that is pinned or is not walked, or if the value is written as the one before it. -/
theorem body_insert {v : Value} {f : NodeId → Json}
    (h : (n.kind = .matchAll → name ≠ "query" ∧ name ≠ "zero_terms_query") →
      name ∈ n.kind.walked → (n.values.get? name).map (Value.toJson f) = some (v.toJson f)) :
    (⟨n.kind, n.field, n.values.insert name v⟩ : Node).body f = n.body f := by
  ext1 k
  refine get?_body_congr fun hfree hwalked => ?_
  rw [Dict.get?_insert]
  by_cases hname : k = name
  · subst hname
    rw [if_pos rfl, h hfree hwalked, Option.map_some]
  · rw [if_neg hname]

/-- Nor does it show that a value is taken away from such a name. -/
theorem body_erase_of_hidden {f : NodeId → Json}
    (h : (n.kind = .matchAll → name ≠ "query" ∧ name ≠ "zero_terms_query") →
      name ∈ n.kind.walked → n.values.get? name = none) :
    (⟨n.kind, n.field, n.values.erase name⟩ : Node).body f = n.body f := by
  ext1 k
  refine get?_body_congr fun hfree hwalked => ?_
  rw [Dict.get?_erase]
  by_cases hname : k = name
  · subst hname
    rw [if_pos rfl, h hfree hwalked]
  · rw [if_neg hname]

/-- **What a body loses with a value**: the entry under its name, unless the name is pinned. -/
theorem body_erase (hfree : n.kind = .matchAll → name ≠ "query" ∧ name ≠ "zero_terms_query")
    (f : NodeId → Json) :
    (⟨n.kind, n.field, n.values.erase name⟩ : Node).body f = (n.body f).erase name := by
  ext1 k
  rw [Dict.get?_erase]
  by_cases hname : k = name
  · subst hname
    rw [if_pos rfl, get?_body (n := ⟨n.kind, n.field, n.values.erase k⟩) f hfree,
      Dict.get?_erase_self]
    exact ite_self none
  · rw [if_neg hname]
    refine get?_body_congr fun _ _ => ?_
    rw [Dict.get?_erase, if_neg hname]

/-- **What a body gains with a value**: the entry under its name, if the name is walked and not
    pinned. -/
theorem body_insert_of_walked
    (hfree : n.kind = .matchAll → name ≠ "query" ∧ name ≠ "zero_terms_query")
    (hwalked : name ∈ n.kind.walked) (v : Value) (f : NodeId → Json) :
    (⟨n.kind, n.field, n.values.insert name v⟩ : Node).body f =
      (n.body f).insert name (v.toJson f) := by
  ext1 k
  rw [Dict.get?_insert]
  by_cases hname : k = name
  · subst hname
    rw [if_pos rfl, get?_body (n := ⟨n.kind, n.field, n.values.insert k v⟩) f hfree,
      if_pos hwalked, Dict.get?_insert_self, Option.map_some]
  · rw [if_neg hname]
    refine get?_body_congr fun _ _ => ?_
    rw [Dict.get?_insert_ne _ _ hname]

/-! ## 3. Clauses and requests -/

/-- The form of the clause of a node: where its body stands, and which names the body has. -/
structure HasForm (n : Node) (body : Dict Json) (clause : Json) : Prop where
  /-- The body stands under the tag alone, whatever primary field the node has. -/
  generic : n.kind.shape = .generic → clause = .single n.kind.tag (.ofDict body)
  /-- The body stands under the tag and the primary field. -/
  keyed : n.kind.shape ≠ .generic → ∃ field, n.field = some field ∧
    clause = .single n.kind.tag (.single field (.ofDict body))
  /-- The names are those that hold a value. -/
  names : n.kind ≠ .matchAll → n.kind ≠ .moreLikeThisField → body.keys = n.setFields
  /-- In a match-all clause two names are pinned. -/
  pinned : n.kind = .matchAll →
    (∀ name, name ∈ body.keys ↔
      name ∈ n.setFields ∨ name = "query" ∨ name = "zero_terms_query") ∧
    body.get? "query" = some (.string "") ∧ body.get? "zero_terms_query" = some (.string "all")
  /-- In a more-like-this clause on one field two names are left out. -/
  leftOut : n.kind = .moreLikeThisField →
    body.keys = n.setFields.filter fun name => name ≠ "like_text" ∧ name ≠ "fields"
  /-- All names are declared. -/
  declared : ∀ name ∈ body.keys, n.kind.declares name

/-- **What is written for a well-formed node has its form.** -/
theorem hasForm_toJson (hn : n.WellFormed) (f : NodeId → Json) :
    n.HasForm (n.body f) (n.toJson f) where
  generic h := by simp [toJson, frame, h, Shape.hasPrimaryField]
  keyed h := by
    have hprimary : n.kind.shape.hasPrimaryField = true := by
      cases hs : n.kind.shape with
      | generic => exact absurd hs h
      | _ => rfl
    obtain ⟨field, hfield, -⟩ := requirePrimaryField_eq_ok_iff.1 hn.primaryField hprimary
    exact ⟨field, hfield, by simp [toJson, frame, hprimary, hfield]⟩
  names hmatchAll hlike := by
    refine Dict.keys_eq_of_mem_iff n.values.pairwise_keys fun name => ?_
    rw [mem_keys_body hn, setFields]
    simp [hmatchAll, hlike]
  pinned h := by
    refine ⟨fun name => ?_, get?_body_pinned h f⟩
    rw [mem_keys_body hn]
    simp [h]
  leftOut h := by
    refine Dict.keys_eq_of_mem_iff (n.values.pairwise_keys.filter _) fun name => ?_
    rw [mem_keys_body hn, setFields]
    simp [h]
  declared name h := by
    rcases (mem_keys_body hn f).1 h with ⟨hset, -⟩ | ⟨hk, rfl | rfl⟩
    · exact hn.declares hset
    · rw [hk]
      decide +kernel
    · rw [hk]
      decide +kernel

end Node

namespace Store

variable {s : Store}

/-- A clause that is generated is written for its node. -/
theorem exists_toJson_of_clause (hs : s.WellFormed) {settings : Settings} {q : NodeId} {j : Json}
    (h : s.clause settings q = .ok j) : ∃ f, j = (s.node q).toJson f := by
  obtain ⟨f, hf, -⟩ := exists_toJson_children_of_clause hs h
  exact ⟨f, hf⟩

/-- **The form of clauses and requests.** A clause has the form of its node, with an entry for every
    name that holds a value; a request is its clause, wrapped once or not at all. -/
theorem clause_form (hs : s.Reachable) (settings : Settings) (q : NodeId) :
    (∀ j, s.clause settings q = .ok j → ∃ body, (s.node q).HasForm body j) ∧
    (∀ j, s.generate settings q = .ok j ↔ ∃ clause, s.clause settings q = .ok clause ∧
      j = if settings.wrapRoot ∧ (s.node q).kind.shape.wrapsAtRoot then .single "query" clause
        else clause) ∧
    (∀ e, s.generate settings q = .error e ↔ s.clause settings q = .error e) := by
  refine ⟨fun j hj => ?_, fun j => ?_, fun e => generate_eq_error_iff⟩
  · obtain ⟨f, rfl⟩ := exists_toJson_of_clause hs.wellFormed hj
    exact ⟨_, Node.hasForm_toJson (hs.wellFormed q) f⟩
  · rw [generate_eq]
    cases s.clause settings q with
    | error e => simp [Except.map]
    | ok clause => simp [Except.map, wrap, eq_comm (b := j)]

/-- A match-all query that has lost its forced option, a more-like-this query on one field, and a
    Boolean query that was begun with a primary field. -/
def layouts : Store :=
  let all : Builder := .run ⟨.matchAll, some "title", ∅⟩ [.operator .or]
  let like : Builder := .run ⟨.moreLikeThisField, some "body", ∅⟩
    [.set "like_text" (.text "rust"), .set "fields" (.texts ["title"]), .analyzer "standard"]
  let bool : Builder := .run ⟨.bool, some "unused", ∅⟩ [.must ⟨0⟩]
  ((((perform ∅ (.build all)).1.perform (.build like)).1.perform (.build bool)).1.perform
    (.unset ⟨0⟩ "zero_terms_query")).1

theorem reachable_layouts : layouts.Reachable :=
  (((Reachable.empty.build .matchAll (some "title") (by decide +kernel)).build .moreLikeThisField
    (some "body") (by decide +kernel)).build .bool (some "unused") (by decide +kernel)).unset
      "zero_terms_query" (by decide +kernel)

/-- The lost option is there in the clause, the text and the fields are not, and the Boolean clause
    is keyed by no field. -/
theorem clause_form_layouts :
    layouts.Reachable ∧
    (∃ body, layouts.clause {} ⟨0⟩ = .ok (.single "match" (.single "title" (.ofDict body))) ∧
      (layouts.node ⟨0⟩).setFields = ["operator", "query"] ∧ "zero_terms_query" ∈ body.keys ∧
      body.get? "zero_terms_query" = some (.string "all")) ∧
    (∃ body, layouts.clause {} ⟨1⟩ =
        .ok (.single "more_like_this_field" (.single "body" (.ofDict body))) ∧
      body.keys = ["analyzer"]) ∧
    (∃ body, layouts.generate {} ⟨2⟩ = .ok (.single "query" (.single "bool" (.ofDict body))) ∧
      body.keys = ["must"]) := by
  have hform := fun q => (clause_form reachable_layouts {} q).1
  have hclause : ∀ q, q = ⟨0⟩ ∨ q = ⟨1⟩ ∨ q = ⟨2⟩ → ∃ j, layouts.clause {} q = .ok j := by
    rintro q (rfl | rfl | rfl) <;> exact ⟨_, rfl⟩
  refine ⟨reachable_layouts, ?_, ?_, ?_⟩
  · obtain ⟨j, hj⟩ := hclause ⟨0⟩ (by simp)
    obtain ⟨body, h⟩ := hform ⟨0⟩ j hj
    obtain ⟨field, hfield, rfl⟩ := h.keyed (by decide +kernel)
    cases (show some "title" = some field from hfield)
    obtain ⟨hnames, -, hzero⟩ := h.pinned (by decide +kernel)
    exact ⟨body, hj, by decide +kernel, (hnames _).2 (.inr (.inr rfl)), hzero⟩
  · obtain ⟨j, hj⟩ := hclause ⟨1⟩ (by simp)
    obtain ⟨body, h⟩ := hform ⟨1⟩ j hj
    obtain ⟨field, hfield, rfl⟩ := h.keyed (by decide +kernel)
    cases (show some "body" = some field from hfield)
    exact ⟨body, hj, (h.leftOut (by decide +kernel)).trans (by decide +kernel)⟩
  · obtain ⟨j, hj⟩ := hclause ⟨2⟩ (by simp)
    obtain ⟨body, h⟩ := hform ⟨2⟩ j hj
    have hgenerate := ((clause_form reachable_layouts {} ⟨2⟩).2.1 _).2 ⟨j, hj, rfl⟩
    refine ⟨body, ?_, (h.names (by decide +kernel) (by decide +kernel)).trans (by decide +kernel)⟩
    rw [hgenerate, h.generic (by decide +kernel)]
    rfl

end Store

end SearchQuery
