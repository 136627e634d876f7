import SearchQuery.Proofs.Atomicity
import SearchQuery.Proofs.Calls
import SearchQuery.Proofs.Footprint

/-!
# How many terms have to match

How many terms have to match is a count or an expression. It is read from JSON and written back, it
is set on a query or collected by a builder, and it is laid out in a clause. On all these ways it
stays what it is:

* what is read is what is written (`MinimumShouldMatch.ofJson_eq_ok_iff`), and **the value that a
  query is given is rendered to that** (`MinimumShouldMatch.toJson_toValue`);
* **a plain value that is set shows in the clause**, and nothing else changes
  (`Store.gainsEntry_of_set`), if its name is walked and not pinned;
* **to collect a value is to set it on what is built** (`Store.build_set_eq_ok_iff`), if the kind
  can do without the name. Every kind that declares `minimum_should_match` can
  (`Kind.optional_minimumShouldMatch`).

`ways_agree` puts this together.
-/

namespace SearchQuery

/-! ## 1. The value of a specification -/

namespace MinimumShouldMatch

theorem plain_toValue (m : MinimumShouldMatch) : m.toValue.Plain := by
  cases m <;> exact ⟨nofun, nofun⟩

/-- **The value is rendered to what is written of the specification itself.** -/
theorem toJson_toValue (m : MinimumShouldMatch) (f : NodeId → Json) :
    m.toValue.toJson f = m.toJson := by
  cases m <;> rfl

end MinimumShouldMatch

/-! ## 2. Setting -/

namespace Store

variable {s s' : Store} {p : NodeId} {name : String} {v : Value}

/-- The clause of a query that is generated in one store is generated in the other, with an entry
    under a name and otherwise as it was. -/
def GainsEntry (s t : Store) (p : NodeId) (name : String) (X : Json) : Prop :=
  ∀ (settings : Settings) (j : Json), s.clause settings p = .ok j →
    ∃ body, j = (s.node p).frame (.ofDict body) ∧
      t.clause settings p = .ok ((s.node p).frame (.ofDict (body.insert name X)))

/-- **A plain value that is set shows in the clause**, and nothing else does. -/
theorem gainsEntry_of_set (hs : s.WellFormed) (hset : s.set p name v = .ok s') (hp : s.Has p)
    (hv : v.Plain) (hwalked : name ∈ (s.node p).kind.walked)
    (hfree : (s.node p).kind = .matchAll → name ≠ "query" ∧ name ≠ "zero_terms_query") {X : Json}
    (hX : ∀ f, v.toJson f = X) : s.GainsEntry s' p name X := by
  intro settings j hj
  obtain ⟨j', hj'⟩ := exists_clause_set_plain hs hset hp hv ⟨j, hj⟩
  obtain ⟨f, hwritten, hwritten'⟩ := exists_toJson_of_changed hs (hs.set hset)
    (fun _ hm => node_set_ne hset hm) (fun _ hc => child_set_plain hset hp hv hc) hj hj'
  refine ⟨(s.node p).body f, hwritten, ?_⟩
  rw [hj', hwritten', node_set_self hset hp, Node.toJson,
    Node.body_insert_of_walked hfree hwalked, hX]
  rfl

end Store

/-! ## 3. Building -/

/-- A kind declares the name and can do without it: the name is neither required nor forced nor one
    of two alternatives. -/
structure Kind.Optional (k : Kind) (name : String) : Prop where
  declares : k.declares name
  not_forced : name ∉ k.forced.map (·.1)
  not_required : name ∉ k.required
  not_alternative : ∀ first second, k.alternatives = some (first, second) →
    name ≠ first ∧ name ≠ second

namespace Builder

variable {b : Builder} {name : String}

theorem allValues_set (v : Value) (hname : name ∉ b.kind.forced.map (·.1)) :
    (b.set name v).allValues = b.allValues.insert name v := by
  ext1 k
  by_cases hk : k ∈ b.kind.forced.map (·.1)
  · have hne : k ≠ name := fun e => hname (e ▸ hk)
    obtain ⟨⟨_, text⟩, hmem, rfl⟩ := List.mem_map.1 hk
    rw [get?_allValues_of_mem (b := b.set name v) hmem, Dict.get?_insert_ne _ _ hne,
      get?_allValues_of_mem hmem]
  · rw [get?_allValues_of_not_mem (b := b.set name v) hk, Dict.get?_insert,
      get?_allValues_of_not_mem hk]
    exact Dict.get?_insert _ _ _ _

/-- **A name that can be done without makes no difference to whether a node is built**, and the node
    is the other one with that value. -/
theorem build_set_eq_ok_iff (h : b.kind.Optional name) (v : Value) {n' : Node} :
    (b.set name v).build = .ok n' ↔
      ∃ n, b.build = .ok n ∧ n' = ⟨n.kind, n.field, n.values.insert name v⟩ := by
  have hcontains : ∀ j, j ≠ name →
      (b.allValues.insert name v).contains j = b.allValues.contains j := by
    intro j hj
    simp [Dict.contains_insert, hj]
  have hdeclared : requireDeclared b.kind (b.values.insert name v).keys = .ok () ↔
      requireDeclared b.kind b.values.keys = .ok () := by
    simp [requireDeclared_eq_ok_iff, Dict.mem_keys_insert, h.declares]
  have hheld : requireHeld b.kind (b.allValues.insert name v) = .ok () ↔
      requireHeld b.kind b.allValues = .ok () := by
    simp only [requireHeld_eq_ok_iff]
    refine forall₂_congr fun j hj => ?_
    rw [hcontains j fun e => h.not_required (e ▸ hj)]
  have halternative : requireAlternative b.kind (b.allValues.insert name v) = .ok () ↔
      requireAlternative b.kind b.allValues = .ok () := by
    simp only [requireAlternative_eq_ok_iff]
    refine forall₃_congr fun first second hnames => ?_
    obtain ⟨hfirst, hsecond⟩ := h.not_alternative first second hnames
    rw [hcontains first hfirst.symm, hcontains second hsecond.symm]
  simp only [build_eq_ok_iff, allValues_set v h.not_forced]
  constructor
  · intro hbuild
    obtain ⟨hfield, hdecl, hhold, halt, rfl⟩ := hbuild
    exact ⟨_, ⟨hfield, hdeclared.1 hdecl, hheld.1 hhold, halternative.1 halt, rfl⟩, rfl⟩
  · intro hbuild
    obtain ⟨n, ⟨hfield, hdecl, hhold, halt, rfl⟩, rfl⟩ := hbuild
    exact ⟨hfield, hdeclared.2 hdecl, hheld.2 hhold, halternative.2 halt, rfl⟩

/-- A value that is set under a name, which is not written again, may as well be set last. -/
theorem run_call_of_not_writes (b : Builder) {c : Call} {calls : List Call} {v : Value}
    (hc : c.write? = some (name, .set v)) (hcalls : ¬ Writes calls name) :
    (b.call c).run calls = (b.run calls).set name v := by
  have hwrites : ∀ k, writesTo k (c :: calls) = writesTo k (calls ++ [c]) := by
    intro k
    rw [← List.singleton_append, writesTo_append, writesTo_append]
    by_cases hk : k = name
    · have hnone : writesTo k calls = [] :=
        writesTo_eq_nil_iff.2 fun d hd hname => hcalls ⟨d, hd, hk ▸ hname⟩
      rw [hnone, List.append_nil, List.nil_append]
    · have hnone : writesTo k [c] = [] := by
        refine writesTo_eq_nil_iff.2 fun d hd hname => hk ?_
        rw [List.mem_singleton.1 hd, Call.name?, hc] at hname
        exact (Option.some.inj hname).symm
      rw [hnone, List.append_nil, List.nil_append]
  calc (b.call c).run calls = b.run (calls ++ [c]) := b.run_eq_of_writesTo_eq hwrites
    _ = (b.run calls).call c := List.foldl_append
    _ = (b.run calls).set name v := by rw [call_eq, hc]; rfl

end Builder

namespace Store

theorem replace_add_next (s : Store) (n n' : Node) : (s.add n).replace s.next n' = s.add n' := by
  refine eq_of_node_eq (by simp) fun q => ?_
  by_cases hq : q = s.next
  · rw [hq, node_replace_self _ (s.has_add.2 (.inr rfl)), node_add_next]
  · rw [node_replace_ne _ _ hq]
    by_cases hold : s.Has q
    · rw [node_add _ hold, node_add _ hold]
    · have hadd : ∀ m, ¬ (s.add m).Has q := fun m hm => (s.has_add.1 hm).elim hold hq
      rw [node_of_not_has _ (hadd n), node_of_not_has _ (hadd n')]

/-- **To collect a value is to set it on what is built**, for a name that can be done without. -/
theorem build_set_eq_ok_iff {s s₂ : Store} {b : Builder} {name : String}
    (h : b.kind.Optional name) (v : Value) {q : NodeId} :
    s.build (b.set name v) = .ok (s₂, q) ↔
      ∃ s₁, s.build b = .ok (s₁, q) ∧ s₁.set q name v = .ok s₂ := by
  simp only [build_eq_ok_iff, Builder.build_set_eq_ok_iff h]
  constructor
  · intro hbuild
    obtain ⟨_, ⟨n, hn, rfl⟩, rfl, rfl⟩ := hbuild
    refine ⟨_, ⟨n, hn, rfl, rfl⟩, set_eq_ok_iff.2 ?_⟩
    rw [node_add_next, replace_add_next]
    obtain ⟨-, -, -, -, rfl⟩ := Builder.build_eq_ok_iff.1 hn
    exact ⟨h.declares, rfl⟩
  · intro hbuild
    obtain ⟨_, ⟨n, hn, rfl, rfl⟩, hset⟩ := hbuild
    obtain ⟨-, rfl⟩ := set_eq_ok_iff.1 hset
    rw [node_add_next, replace_add_next]
    exact ⟨_, ⟨n, hn, rfl⟩, rfl, rfl⟩

end Store

/-! ## 4. Every way -/

/-- **No kind needs the number of matches**, and every kind that declares it lays it out. -/
theorem Kind.optional_minimumShouldMatch {k : Kind} (h : k.declares "minimum_should_match") :
    k.Optional "minimum_should_match" ∧ "minimum_should_match" ∈ k.walked := by
  have hall : ∀ k : Kind, k.declares "minimum_should_match" →
      "minimum_should_match" ∉ k.forced.map (·.1) ∧ "minimum_should_match" ∉ k.required ∧
        ∀ names ∈ k.alternatives, "minimum_should_match" ≠ names.1 ∧
          "minimum_should_match" ≠ names.2 := by
    intro k
    cases k <;> decide
  obtain ⟨hforced, hrequired, halternative⟩ := hall k h
  exact ⟨⟨h, hforced, hrequired, fun first second hnames => halternative _ hnames⟩,
    Kind.mem_walked.2 ⟨h, fun _ => by decide⟩⟩

namespace MinimumShouldMatch

open Store

variable {m : MinimumShouldMatch}

/-- What is set on a query of a kind that declares the name shows in its clause. -/
theorem gainsEntry_of_set {s s' : Store} {q : NodeId} (hs : s.WellFormed) (hq : s.Has q)
    (hdeclares : (s.node q).kind.declares "minimum_should_match")
    (hset : s.set q "minimum_should_match" m.toValue = .ok s') :
    s.GainsEntry s' q "minimum_should_match" m.toJson :=
  Store.gainsEntry_of_set hs hset hq m.plain_toValue (Kind.optional_minimumShouldMatch hdeclares).2
    (fun _ => by decide) m.toJson_toValue

/-- What a query holds stands in its clause. -/
theorem get?_body_of_clause {s : Store} {q : NodeId} (hs : s.WellFormed)
    (hdeclares : (s.node q).kind.declares "minimum_should_match")
    (hheld : (s.node q).values.get? "minimum_should_match" = some m.toValue) {settings : Settings}
    {j : Json} (hj : s.clause settings q = .ok j) :
    ∃ body, j = (s.node q).frame (.ofDict body) ∧
      body.get? "minimum_should_match" = some m.toJson := by
  obtain ⟨f, rfl⟩ := exists_toJson_of_clause hs hj
  refine ⟨(s.node q).body f, rfl, ?_⟩
  rw [Node.get?_body f fun _ => by decide,
    if_pos (Kind.optional_minimumShouldMatch hdeclares).2, hheld, Option.map_some, toJson_toValue]

/-- **The ways agree.** Exactly the integers of 64 bits with a sign and the texts can be read; what
    is read is written back as it was, and what is written is read back. On a query of a kind that
    declares the name it can be set, and then stands in the clause as it was read, next to what was
    there before. A builder that was called with it builds what is built without that call and set
    afterwards. And wherever it is held, it stands in the clause. -/
theorem ways_agree :
    (∀ X : Json, (∃ m, ofJson X = .ok m) ↔
      (∃ i : Int, X = .int i ∧ -9223372036854775808 ≤ i ∧ i ≤ 9223372036854775807) ∨
        ∃ text, X = .string text) ∧
    (∀ m, ofJson m.toJson = .ok m) ∧
    ∀ (X : Json) (m : MinimumShouldMatch), ofJson X = .ok m → m.toJson = X ∧
      ∀ s : Store, s.Reachable →
        (∀ q, s.Has q → (s.node q).kind.declares "minimum_should_match" →
          ∃ s', s.set q "minimum_should_match" m.toValue = .ok s' ∧
            s.GainsEntry s' q "minimum_should_match" X) ∧
        (∀ (b : Builder) (calls : List Builder.Call), b.kind.declares "minimum_should_match" →
          ¬ Builder.Writes calls "minimum_should_match" → ∀ (s₂ : Store) (q : NodeId),
            s.build ((b.call (.minimumShouldMatch m)).run calls) = .ok (s₂, q) ↔
              ∃ s₁, s.build (b.run calls) = .ok (s₁, q) ∧
                s₁.set q "minimum_should_match" m.toValue = .ok s₂ ∧
                s₁.GainsEntry s₂ q "minimum_should_match" X) ∧
        ∀ (q : NodeId) (settings : Settings) (j : Json),
          (s.node q).kind.declares "minimum_should_match" →
          (s.node q).values.get? "minimum_should_match" = some m.toValue →
          s.clause settings q = .ok j →
            ∃ body, j = (s.node q).frame (.ofDict body) ∧
              body.get? "minimum_should_match" = some X := by
  refine ⟨fun X => exists_ofJson_iff, fun m => ofJson_eq_ok_iff.2 rfl, fun X m hX => ?_⟩
  obtain rfl := ofJson_eq_ok_iff.1 hX
  refine ⟨rfl, fun s hs => ⟨fun q hq hdeclares => ?_, fun b calls hdeclares hcalls s₂ q => ?_,
    fun q settings j hdeclares hheld hj =>
      get?_body_of_clause hs.wellFormed hdeclares hheld hj⟩⟩
  · have hset := (set_eq_ok_iff (v := m.toValue)).2 ⟨hdeclares, rfl⟩
    exact ⟨_, hset, gainsEntry_of_set hs.wellFormed hq hdeclares hset⟩
  · have hkind : (b.run calls).kind = b.kind := b.run_kind calls
    have hoptional : (b.run calls).kind.Optional "minimum_should_match" := by
      rw [hkind]
      exact (Kind.optional_minimumShouldMatch hdeclares).1
    rw [b.run_call_of_not_writes rfl hcalls, Store.build_set_eq_ok_iff hoptional]
    refine exists_congr fun s₁ => and_congr_right fun hbuild => ⟨fun hset => ⟨hset, ?_⟩, And.left⟩
    exact gainsEntry_of_set (hs.wellFormed.build hbuild) (has_of_build hbuild).1
      (set_eq_ok_iff.1 hset).1 hset

/-- A text of digits is set on a match-all query and stands in its clause as a text; the least count
    there is goes through a builder, and another call after it, to the clause of a Boolean query. -/
theorem ways_agree_layouts :
    ofJson (.string "2") = .ok (.percentage "2") ∧
    ofJson (.int (-9223372036854775808)) = .ok (.count Int64.minValue) ∧ layouts.Reachable ∧
    (∃ s' body, layouts.set ⟨0⟩ "minimum_should_match" (.text "2") = .ok s' ∧
      layouts.clause {} ⟨0⟩ = .ok (.single "match" (.single "title" (.ofDict body))) ∧
      s'.clause {} ⟨0⟩ = .ok (.single "match" (.single "title"
        (.ofDict (body.insert "minimum_should_match" (.string "2")))))) ∧
    ∃ s₁ s₂ body, layouts.build ((Builder.new .bool).run [.must ⟨1⟩]) = .ok (s₁, ⟨3⟩) ∧
      layouts.build (((Builder.new .bool).call (.minimumShouldMatch (.count Int64.minValue))).run
        [.must ⟨1⟩]) = .ok (s₂, ⟨3⟩) ∧
      s₁.clause {} ⟨3⟩ = .ok (.single "bool" (.ofDict body)) ∧
      s₂.clause {} ⟨3⟩ = .ok (.single "bool" (.ofDict
        (body.insert "minimum_should_match" (.int (-9223372036854775808))))) := by
  obtain ⟨-, -, hways⟩ := ways_agree
  have htext : ofJson (.string "2") = .ok (.percentage "2") := rfl
  have hleast : ofJson (.int (-9223372036854775808)) = .ok (.count Int64.minValue) :=
    ofJson_eq_ok_iff.2 rfl
  obtain ⟨hset, -, -⟩ := (hways _ _ htext).2 layouts reachable_layouts
  obtain ⟨-, hbuild, -⟩ := (hways _ _ hleast).2 layouts reachable_layouts
  refine ⟨htext, hleast, reachable_layouts, ?_, ?_⟩
  · obtain ⟨s', hs', hgains⟩ := hset ⟨0⟩ (by decide +kernel) (by decide +kernel)
    obtain ⟨j, hj⟩ : ∃ j, layouts.clause {} ⟨0⟩ = .ok j := ⟨_, rfl⟩
    obtain ⟨body, rfl, hclause⟩ := hgains {} j hj
    exact ⟨s', body, hs', hj, hclause⟩
  · have hwrites : ¬ Builder.Writes [.must ⟨1⟩] "minimum_should_match" := by
      simp [Builder.Writes, Builder.Call.name?, Builder.Call.write?]
    obtain ⟨s₂, hs₂⟩ : ∃ s₂, layouts.build (((Builder.new .bool).call (.minimumShouldMatch
        (.count Int64.minValue))).run [.must ⟨1⟩]) = .ok (s₂, ⟨3⟩) := ⟨_, rfl⟩
    obtain ⟨s₁, hs₁, -, hgains⟩ :=
      (hbuild (.new .bool) [.must ⟨1⟩] (by decide) hwrites s₂ ⟨3⟩).1 hs₂
    obtain ⟨j, hj⟩ : ∃ j, s₁.clause {} ⟨3⟩ = .ok j := by
      cases hs₁
      exact ⟨_, rfl⟩
    have hnode : s₁.node ⟨3⟩ = ⟨.bool, none, .ofList [("must", .list [.node ⟨1⟩])]⟩ := by
      cases hs₁
      rfl
    obtain ⟨body, rfl, hclause⟩ := hgains {} j hj
    rw [hnode] at hj hclause
    exact ⟨s₁, s₂, body, hs₁, hs₂, hj, hclause⟩

end MinimumShouldMatch

end SearchQuery
