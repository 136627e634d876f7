import Mathlib.Data.List.Basic
import SearchQuery.Proofs.Graph

/-!
# What a clause is made of

The six layouts say the same thing in six ways. Here each is brought to one form: first the queries
in the node are expanded, in the order of the walk, up to the first fault; then the clause is
written from what they answered (`Node.clause_eq`).

* `Node.encounters` is what the walk comes upon in a node, in order: queries and faults;
* `meet` expands the queries among them and fails at a fault;
* `Node.toJson` is the clause that is written, given the JSON of the queries in the node. It cannot
  fail, and only the queries that the node holds matter to it (`Node.toJson_congr`).
-/

namespace SearchQuery

/-! ## 1. Expansions one after the other -/

namespace Expansion

variable {α β : Type}

instance : LawfulMonad Expansion := LawfulMonad.mk' Expansion
  (fun x => by
    obtain ⟨entered, outcome⟩ := x
    cases outcome <;> simp [Functor.map, andThen, done])
  (fun a f => by simp [pure, bind, andThen, done])
  (fun x f g => by
    obtain ⟨entered, outcome⟩ := x
    cases outcome with
    | error e => simp [bind, andThen]
    | ok a =>
        simp only [bind, andThen]
        cases (f a).outcome <;> simp)

@[simp] theorem map_fail (f : α → β) (e : QueryError) : f <$> (fail e : Expansion α) = fail e :=
  rfl

@[simp] theorem outcome_map (f : α → β) (x : Expansion α) :
    (f <$> x).outcome = f <$> x.outcome := by
  rw [map_eq_pure_bind, outcome_bind]
  cases x.outcome <;> rfl

@[simp] theorem entered_map (f : α → β) (x : Expansion α) : (f <$> x).entered = x.entered := by
  rw [map_eq_pure_bind]
  cases h : x.outcome with
  | ok a => rw [entered_bind_of_ok h, entered_pure, List.append_nil]
  | error e => exact entered_bind_of_error h _

/-- The answer of an expansion, if it has one. -/
def answer (x : Expansion Json) : Json := x.outcome.toOption.getD .null

@[simp] theorem map_answer (x : Expansion Json) : (fun _ => x.answer) <$> x = x := by
  obtain ⟨entered, outcome⟩ := x
  cases outcome <;> simp [Functor.map, andThen, done, answer, Except.toOption]

end Expansion

/-! ## 2. What the walk comes upon -/

/-- What rendering a value comes upon: a query, or a fault of a field. -/
inductive Encounter where
  | query (id : NodeId)
  | fault (field : String) (fault : ValueFault)

/-- The queries are expanded one after the other, and a fault ends it. -/
def meet (child : NodeId → Expansion Json) : List Encounter → Expansion Unit
  | [] => pure ()
  | .query id :: rest => do
    let _ ← child id
    meet child rest
  | .fault field fault :: _ => .fail (.unsupportedValue field fault)

/-- What is come upon in an item of a list, or in a value that is no list. -/
def Value.itemEncounters (field : String) : Value → List Encounter
  | .float x => if x.isFinite then [] else [.fault field (.nonFinite x)]
  | .node id => [.query id]
  | .list _ => [.fault field .nestedList]
  | _ => []

/-- What is come upon in a value, from left to right. -/
def Value.encounters (field : String) : Value → List Encounter
  | .list items => items.flatMap (itemEncounters field)
  | v => v.itemEncounters field

/-- What is come upon in the values under these names. -/
def Node.encountersIn (n : Node) (names : List String) : List Encounter :=
  names.flatMap fun name => ((n.values.get? name).map (Value.encounters name)).getD []

/-- The walked fields of a kind, in the order of the walk. -/
def Kind.walkOrder (k : Kind) : List String :=
  match k.shape with
  | .termLike => ["value", "boost"]
  | .fuzzy => fuzzyOptions ++ ["value"]
  | _ => k.walked

/-- What is come upon in a node, in order. -/
def Node.encounters (n : Node) : List Encounter := n.encountersIn n.kind.walkOrder

theorem Kind.mem_walkOrder {k : Kind} {name : String} : name ∈ k.walkOrder ↔ name ∈ k.walked := by
  have h : ∀ k : Kind, k.walkOrder ⊆ k.walked ∧ k.walked ⊆ k.walkOrder := by
    intro k
    cases k <;> decide +kernel
  exact ⟨fun hn => (h k).1 hn, fun hn => (h k).2 hn⟩

/-- The order of the walk, shape by shape. -/
theorem Kind.walkOrder_eq (k : Kind) :
    k.walkOrder = match k.shape with
      | .generic | .primaryField | .matchAll => k.fields
      | .termLike => ["value", "boost"]
      | .fuzzy => fuzzyOptions ++ ["value"]
      | .moreLikeThisField => k.fields.drop 2 := by
  cases k <;> rfl

theorem meet_append (child : NodeId → Expansion Json) (es fs : List Encounter) :
    meet child (es ++ fs) = meet child es >>= fun _ => meet child fs := by
  induction es with
  | nil => simp [meet]
  | cons e es ih =>
      cases e with
      | query id => simp [meet, ih]
      | fault field fault => rfl

theorem Value.query_mem_encounters {field : String} {v : Value} {id : NodeId} :
    .query id ∈ v.encounters field ↔ v.Holds id := by
  constructor
  · intro h
    cases v with
    | list items =>
        obtain ⟨item, hm, hi⟩ := List.mem_flatMap.1 h
        cases item with
        | node j =>
            cases List.mem_singleton.1 hi
            exact .item hm
        | float x => by_cases hx : x.isFinite <;> simp [itemEncounters, hx] at hi
        | _ => simp [itemEncounters] at hi
    | node j =>
        cases List.mem_singleton.1 h
        exact .node id
    | float x => by_cases hx : x.isFinite <;> simp [encounters, itemEncounters, hx] at h
    | _ => simp [encounters, itemEncounters] at h
  · intro h
    cases h with
    | node => simp [encounters, itemEncounters]
    | item hm => exact List.mem_flatMap.2 ⟨_, hm, by simp [itemEncounters]⟩

theorem Value.fault_mem_encounters {field name : String} {v : Value} {fault : ValueFault} :
    .fault name fault ∈ v.encounters field ↔ name = field ∧ v.HasFault fault := by
  constructor
  · intro h
    cases v with
    | list items =>
        obtain ⟨item, hm, hi⟩ := List.mem_flatMap.1 h
        cases item with
        | list inner =>
            cases List.mem_singleton.1 hi
            exact ⟨rfl, .nestedList hm⟩
        | float x =>
            by_cases hx : x.isFinite <;> simp [itemEncounters, hx] at hi
            obtain ⟨rfl, rfl⟩ := hi
            exact ⟨rfl, .nonFiniteItem hm (by simpa using hx)⟩
        | _ => simp [itemEncounters] at hi
    | float x =>
        by_cases hx : x.isFinite <;> simp [encounters, itemEncounters, hx] at h
        obtain ⟨rfl, rfl⟩ := h
        exact ⟨rfl, .nonFinite (by simpa using hx)⟩
    | _ => simp [encounters, itemEncounters] at h
  · rintro ⟨rfl, h⟩
    cases h with
    | nonFinite hx => simp [encounters, itemEncounters, hx]
    | nonFiniteItem hm hx => exact List.mem_flatMap.2 ⟨_, hm, by simp [itemEncounters, hx]⟩
    | nestedList hm => exact List.mem_flatMap.2 ⟨_, hm, by simp [itemEncounters]⟩

theorem Node.mem_encounters {n : Node} {e : Encounter} :
    e ∈ n.encounters ↔ ∃ name v, n.Walks name v ∧ e ∈ v.encounters name := by
  simp only [Node.encounters, Node.encountersIn, List.mem_flatMap, Kind.mem_walkOrder]
  constructor
  · rintro ⟨name, hname, he⟩
    cases hv : n.values.get? name with
    | none => simp [hv] at he
    | some v => exact ⟨name, v, ⟨hname, hv⟩, by simpa [hv] using he⟩
  · rintro ⟨name, v, ⟨hname, hv⟩, he⟩
    exact ⟨name, hname, by simpa [hv] using he⟩

/-- **The queries come upon are the children.** -/
theorem Store.query_mem_encounters {s : Store} {p c : NodeId} :
    .query c ∈ (s.node p).encounters ↔ s.Child p c := by
  simp only [Node.mem_encounters, Value.query_mem_encounters]
  rfl

/-- **The faults come upon are those of the values in walked fields.** -/
theorem Node.fault_mem_encounters {n : Node} {name : String} {fault : ValueFault} :
    .fault name fault ∈ n.encounters ↔ ∃ v, n.Walks name v ∧ v.HasFault fault := by
  simp only [Node.mem_encounters, Value.fault_mem_encounters]
  constructor
  · rintro ⟨_, v, hv, rfl, hf⟩
    exact ⟨v, hv, hf⟩
  · rintro ⟨v, hv, hf⟩
    exact ⟨name, v, hv, rfl, hf⟩

/-! ## 3. What is written -/

/-- The JSON of an item of a list, or of a value that is no list; a list has none. -/
def Value.itemToJson (f : NodeId → Json) : Value → Json
  | .bool b => .bool b
  | .int n => .int n.toInt
  | .float x => .float x
  | .text s => .string s
  | .json j => j
  | .node id => f id
  | .list _ => .null

/-- The JSON of a value, given that of the queries: scalars as they are, raw JSON untouched, lists
    item by item. -/
def Value.toJson (f : NodeId → Json) : Value → Json
  | .list items => .array (items.map (itemToJson f))
  | v => v.itemToJson f

/-- The entries of a body under these names, in order. -/
def Node.entriesIn (n : Node) (f : NodeId → Json) (names : List String) : List (String × Json) :=
  names.filterMap fun name => (n.values.get? name).map fun v => (name, v.toJson f)

/-- The entries of the body of a node: one for every walked field that holds a value, and those
    that its kind pins. -/
def Node.entries (n : Node) (f : NodeId → Json) : List (String × Json) :=
  n.entriesIn f n.kind.walkOrder ++ if n.kind.shape = .matchAll then pinned n.kind else []

/-- A body under the tag of its kind, and under the primary field if the shape has one. -/
def Node.frame (n : Node) (body : Json) : Json :=
  .single n.kind.tag
    (if n.kind.shape.hasPrimaryField then .single (n.field.getD "") body else body)

/-- The body of the clause of a node. -/
def Node.body (n : Node) (f : NodeId → Json) : Dict Json := .ofList (n.entries f)

/-- The clause of a node. -/
def Node.toJson (n : Node) (f : NodeId → Json) : Json := n.frame (.ofDict (n.body f))

/-- Only the queries a value holds matter to its JSON. -/
theorem Value.toJson_congr {f g : NodeId → Json} {v : Value} (h : ∀ id, v.Holds id → f id = g id) :
    v.toJson f = v.toJson g := by
  cases v with
  | list items =>
      refine congrArg Json.array (List.map_congr_left fun item hm => ?_)
      cases item with
      | node id => exact h id (.item hm)
      | _ => rfl
  | node id => exact h id (.node id)
  | _ => rfl

/-- **Only the children of a query matter to its clause.** -/
theorem Store.toJson_node_congr {s : Store} {p : NodeId} {f g : NodeId → Json}
    (h : ∀ c, s.Child p c → f c = g c) : (s.node p).toJson f = (s.node p).toJson g := by
  have he : (s.node p).entries f = (s.node p).entries g := by
    refine congrArg (· ++ _) (List.filterMap_congr fun name hname => ?_)
    cases hv : (s.node p).values.get? name with
    | none => rfl
    | some v =>
        have := Value.toJson_congr fun id hid =>
          h id ⟨name, v, ⟨Kind.mem_walkOrder.1 hname, hv⟩, hid⟩
        simp [this]
  rw [Node.toJson, Node.body, he]
  rfl

theorem Node.get?_insertAll_entriesIn (n : Node) (f : NodeId → Json) (k : String) :
    ∀ (names : List String) (d : Dict Json), (d.insertAll (n.entriesIn f names)).get? k =
      if k ∈ names then ((n.values.get? k).map (Value.toJson f)).or (d.get? k) else d.get? k
  | [], d => by simp [Node.entriesIn, Dict.insertAll]
  | name :: names, d => by
      cases hv : n.values.get? name with
      | none =>
          have ih := n.get?_insertAll_entriesIn f k names d
          rw [Node.entriesIn, List.filterMap_cons, hv, Option.map_none, ← Node.entriesIn, ih]
          by_cases hk : k = name
          · simp [hk, hv]
          · simp [hk]
      | some v =>
          have ih := n.get?_insertAll_entriesIn f k names (d.insert name (v.toJson f))
          rw [Node.entriesIn, List.filterMap_cons, hv, Option.map_some, ← Node.entriesIn]
          show ((d.insert name (v.toJson f)).insertAll (n.entriesIn f names)).get? k = _
          rw [ih]
          by_cases hk : k = name
          · simp [hk, hv]
          · simp [hk, Dict.get?_insert]

/-- **What stands under a name of a body**: the value a walked field holds, as JSON, unless the kind
    pins the name. -/
theorem Node.get?_body {n : Node} {name : String} (f : NodeId → Json)
    (hpinned : n.kind = .matchAll → name ≠ "query" ∧ name ≠ "zero_terms_query") :
    (n.body f).get? name =
      if name ∈ n.kind.walked then (n.values.get? name).map (Value.toJson f) else none := by
  have hne : ∀ e ∈ (if n.kind.shape = .matchAll then pinned n.kind else []), e.1 ≠ name := by
    intro e he
    by_cases hk : n.kind = .matchAll
    · obtain ⟨hquery, hzero⟩ := hpinned hk
      rw [hk] at he
      simp only [Kind.shape, if_true, pinned, Kind.forced, List.map_cons, List.map_nil,
        List.mem_cons, List.not_mem_nil, or_false] at he
      rcases he with rfl | rfl
      · exact hquery.symm
      · exact hzero.symm
    · have hs : n.kind.shape ≠ .matchAll := by
        intro hs
        revert hk hs
        cases n.kind <;> decide
      rw [if_neg hs] at he
      cases he
  rw [Node.body, Dict.ofList, Node.entries, Dict.insertAll_append,
    Dict.get?_insertAll_of_ne _ _ hne, n.get?_insertAll_entriesIn]
  have hempty : (Dict.empty : Dict Json).get? name = none := rfl
  simp [Kind.mem_walkOrder, hempty]

/-! ## 4. Values -/

section

variable (child : NodeId → Expansion Json)

/-- **What an item is rendered to**: its encounters, and then what is written. -/
theorem renderItem_eq (field : String) (v : Value) :
    renderItem child field v =
      (fun _ => v.itemToJson fun id => (child id).answer) <$>
        meet child (v.itemEncounters field) := by
  cases v with
  | float x =>
      by_cases hx : x.isFinite <;>
        simp [renderItem, Value.itemEncounters, hx, meet, Value.itemToJson]
  | list items => rfl
  | _ => simp [renderItem, Value.itemEncounters, meet, Value.itemToJson]

theorem renderItems_eq (field : String) (items : List Value) :
    renderItems child field items =
      (fun _ => items.map (Value.itemToJson fun id => (child id).answer)) <$>
        meet child (items.flatMap (Value.itemEncounters field)) := by
  induction items with
  | nil => simp [renderItems, meet]
  | cons v vs ih =>
      rw [renderItems, renderItem_eq, ih, List.flatMap_cons, meet_append]
      simp

theorem renderValue_eq (field : String) (v : Value) :
    renderValue child field v =
      (fun _ => v.toJson fun id => (child id).answer) <$> meet child (v.encounters field) := by
  cases v with
  | list items =>
      rw [renderValue, renderItems_eq]
      simp [Value.encounters, Value.toJson]
  | bool b => exact renderItem_eq child field (.bool b)
  | int i => exact renderItem_eq child field (.int i)
  | float x => exact renderItem_eq child field (.float x)
  | text s => exact renderItem_eq child field (.text s)
  | json j => exact renderItem_eq child field (.json j)
  | node id => exact renderItem_eq child field (.node id)

/-! ## 5. Entries and clauses -/

variable (n : Node)

theorem renderFields_eq (names : List String) :
    renderFields child n names =
      (fun _ => n.entriesIn (fun id => (child id).answer) names) <$>
        meet child (n.encountersIn names) := by
  induction names with
  | nil => simp [renderFields, Node.encountersIn, Node.entriesIn, meet]
  | cons name names ih =>
      rw [Node.encountersIn, List.flatMap_cons, meet_append, ← Node.encountersIn]
      cases hv : n.values.get? name with
      | none =>
          rw [renderFields, hv]
          simp [ih, Node.entriesIn, hv, meet]
      | some v =>
          rw [renderFields, hv]
          simp [ih, renderValue_eq, Node.entriesIn, hv]

/-- The values under two lists of names are rendered one list after the other. -/
theorem renderFields_append (names more : List String) :
    renderFields child n (names ++ more) = do
      let es ← renderFields child n names
      let fs ← renderFields child n more
      return es ++ fs := by
  simp [renderFields_eq, Node.encountersIn, Node.entriesIn, meet_append]

/-- A name that holds a value is rendered like a list of one name. -/
theorem renderFields_singleton {name : String} {v : Value} (hv : n.values.get? name = some v) :
    renderFields child n [name] = (fun e => [e]) <$> renderNeeded child n name := by
  rw [renderNeeded, renderFields, hv]
  simp [renderFields]

variable {n}

/-- Where the shape needs a value, a well-formed node holds it. -/
theorem Node.WellFormed.exists_value (hn : n.WellFormed)
    (h : n.kind.shape = .termLike ∨ n.kind.shape = .fuzzy) :
    ∃ v, n.values.get? "value" = some v := by
  have hreq : ∀ k : Kind, k.shape = .termLike ∨ k.shape = .fuzzy → "value" ∈ k.required := by
    intro k
    cases k <;> decide
  have hc := requireHeld_eq_ok_iff.1 hn.held "value" (hreq n.kind h)
  exact Option.isSome_iff_exists.1 hc

/-- **The layouts, as one**: what is come upon in the order of the walk, and then the entries. -/
theorem bodyEntries_eq (hn : n.WellFormed) :
    bodyEntries child n n.kind.shape =
      (fun _ => n.entries fun id => (child id).answer) <$> meet child n.encounters := by
  have hfields : bodyEntries child n n.kind.shape =
      (fun es => es ++ if n.kind.shape = .matchAll then pinned n.kind else []) <$>
        renderFields child n n.kind.walkOrder := by
    rw [Kind.walkOrder_eq]
    cases hs : n.kind.shape with
    | generic => simp [bodyEntries]
    | primaryField => simp [bodyEntries]
    | matchAll => simp [bodyEntries]
    | moreLikeThisField => simp [bodyEntries]
    | termLike =>
        obtain ⟨v, hv⟩ := hn.exists_value (.inl hs)
        have h := renderFields_append child n ["value"] ["boost"]
        rw [renderFields_singleton child n hv] at h
        simpa [bodyEntries] using h.symm
    | fuzzy =>
        obtain ⟨v, hv⟩ := hn.exists_value (.inr hs)
        have h := renderFields_append child n Kind.fuzzyOptions ["value"]
        rw [renderFields_singleton child n hv] at h
        simpa [bodyEntries] using h.symm
  rw [hfields, renderFields_eq]
  simp [Node.entries, Node.encounters]

/-- The frame of a well-formed node is there. -/
theorem keyed_eq (hn : n.WellFormed) (body : Json) :
    keyed n n.kind.shape body = pure (n.frame body) := by
  unfold keyed Node.frame
  by_cases hs : n.kind.shape.hasPrimaryField
  · obtain ⟨field, hf, -⟩ := requirePrimaryField_eq_ok_iff.1 hn.primaryField hs
    simp [hs, hf]
  · simp [hs]

/-- **What a clause is made of**: the encounters of its node, and then what is written. -/
theorem Node.clause_eq (hn : n.WellFormed) :
    n.clause child =
      (fun _ => n.toJson fun id => (child id).answer) <$> meet child n.encounters := by
  rw [Node.clause, layOut, bodyEntries_eq child hn]
  simp [keyed_eq hn, Node.toJson, Node.body]

end

end SearchQuery
