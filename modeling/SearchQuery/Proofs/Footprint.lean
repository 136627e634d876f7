import SearchQuery.Proofs.Composition
import SearchQuery.Proofs.Updates

/-!
# What generation reads

What is generated of a query is a matter of the queries below it, and of each of these it is a
matter of the kind, the primary field and the walked fields. Two stores that agree there cannot be
told apart, whatever they hold elsewhere: the guards come to the same answers, since they look at
handles that both stores have in the same places (`Store.expand_congr`).

**Whatever is done out of sight is therefore without effect** (`generate_of_outOfSight`): changes of
queries that do not stand below the one that is generated, new queries, and the two fields that a
more-like-this query on one field leaves out. JSON and errors stay as they are, cycles or not.
-/

namespace SearchQuery

/-! ## 1. Nodes that agree -/

/-- Nodes agree if the walk comes upon the same in both, and the same is written for them. -/
structure Node.Agrees (n m : Node) : Prop where
  kind : n.kind = m.kind
  encounters : n.encounters = m.encounters
  toJson : ∀ f, n.toJson f = m.toJson f

namespace Node

variable {n m l : Node}

theorem Agrees.refl (n : Node) : n.Agrees n := ⟨rfl, rfl, fun _ => rfl⟩

theorem Agrees.trans (h : n.Agrees m) (h' : m.Agrees l) : n.Agrees l :=
  ⟨h.kind.trans h'.kind, h.encounters.trans h'.encounters,
    fun f => (h.toJson f).trans (h'.toJson f)⟩

/-- **Only the walked fields matter**, next to the kind and the primary field. -/
theorem Agrees.of_walked (hkind : n.kind = m.kind) (hfield : n.field = m.field)
    (hvalues : ∀ name ∈ n.kind.walked, n.values.get? name = m.values.get? name) : n.Agrees m := by
  have horder : ∀ name ∈ n.kind.walkOrder, n.values.get? name = m.values.get? name :=
    fun name hname => hvalues name (Kind.mem_walkOrder.1 hname)
  refine ⟨hkind, ?_, fun f => ?_⟩
  · unfold Node.encounters encountersIn
    rw [← hkind]
    exact List.flatMap_congr fun name hname => by rw [horder name hname]
  · have hentries : n.entries f = m.entries f := by
      unfold entries entriesIn
      rw [← hkind]
      exact congrArg (· ++ _) (List.filterMap_congr fun name hname => by rw [horder name hname])
    rw [Node.toJson, Node.toJson, body, body, hentries, frame, frame, hkind, hfield]

end Node

/-! ## 2. Stores that agree below a query -/

theorem meet_congr {child child' : NodeId → Expansion Json} :
    ∀ {es : List Encounter}, (∀ id, .query id ∈ es → child id = child' id) →
      meet child es = meet child' es
  | [], _ => rfl
  | .fault _ _ :: _, _ => rfl
  | .query id :: es, h => by
      have ih : meet child es = meet child' es :=
        meet_congr fun id' hid' => h id' (List.mem_cons_of_mem _ hid')
      rw [meet, meet, h id List.mem_cons_self, ih]

namespace Store

variable {s t : Store}

/-- The same is expanded in nodes that agree, if it is for the queries in them. -/
theorem clause_node_congr (hs : s.WellFormed) (ht : t.WellFormed) {p : NodeId}
    (hp : (s.node p).Agrees (t.node p)) {child child' : NodeId → Expansion Json}
    (hchild : ∀ c, s.Child p c → child c = child' c) :
    (s.node p).clause child = (t.node p).clause child' := by
  have hmeet : meet child (s.node p).encounters = meet child' (s.node p).encounters :=
    meet_congr fun c hc => hchild c (query_mem_encounters.1 hc)
  have hjson : (s.node p).toJson (fun c => (child c).answer) =
      (s.node p).toJson fun c => (child' c).answer :=
    toJson_node_congr fun c hc => by rw [hchild c hc]
  rw [Node.clause_eq _ (hs p), Node.clause_eq _ (ht p), ← hp.encounters, ← hp.toJson, hmeet, hjson]

/-- **Stores that agree below a query expand it alike**, with the same record and the same outcome,
    in whatever chain it stands. -/
theorem expand_congr (hs : s.WellFormed) (ht : t.WellFormed) (limit room : Nat)
    (chain : List NodeId) {id : NodeId}
    (h : ∀ m, s.Reaches id m → (s.node m).Agrees (t.node m)) :
    s.expand limit room chain id = t.expand limit room chain id := by
  induction room generalizing chain id with
  | zero =>
      unfold expand
      rw [(h id .refl).kind]
  | succ room ih =>
      have hbelow : ∀ c, s.Child id c →
          s.expand limit room (id :: chain) c = t.expand limit room (id :: chain) c :=
        fun c hc => ih (id :: chain) fun m hm => h m (.head hc hm)
      have hclause := clause_node_congr hs ht (h id .refl) hbelow
      unfold expand
      simp only [(h id .refl).kind, hclause]

section Agree

variable (hs : s.WellFormed) (ht : t.WellFormed) {r : NodeId}
  (h : ∀ m, s.Reaches r m → (s.node m).Agrees (t.node m))

include hs ht h

theorem clause_congr (settings : Settings) : s.clause settings r = t.clause settings r := by
  unfold clause expandRoot
  rw [expand_congr hs ht _ _ _ h]

/-- **Stores that agree below a query generate the same of it**, in the same way. -/
theorem trace_congr (settings : Settings) : s.trace settings r = t.trace settings r := by
  have hkind := (h r .refl).kind
  unfold trace events generate clause expandRoot
  rw [expand_congr hs ht _ _ _ h, hkind]

end Agree

/-- What does not lead to the one query that is changed is generated as before. -/
theorem clause_of_not_reaches (hs : s.WellFormed) (ht : t.WellFormed) {p : NodeId}
    (hsame : ∀ m, m ≠ p → t.node m = s.node m) {r : NodeId} (hout : ¬ s.Reaches r p)
    (settings : Settings) : t.clause settings r = s.clause settings r := by
  refine (clause_congr hs ht (fun m hm => ?_) settings).symm
  have hne : m ≠ p := fun e => hout (e ▸ hm)
  rw [hsame m hne]
  exact .refl _

/-- **A query that is changed without new children** is written with the clauses that it was written
    with before, as its children do not lead back to it. -/
theorem exists_toJson_of_changed (hs : s.WellFormed) (ht : t.WellFormed) {p : NodeId}
    (hsame : ∀ m, m ≠ p → t.node m = s.node m) (hchild : ∀ c, t.Child p c → s.Child p c)
    {settings : Settings} {j j' : Json} (h : s.clause settings p = .ok j)
    (h' : t.clause settings p = .ok j') :
    ∃ f, j = (s.node p).toJson f ∧ j' = (t.node p).toJson f := by
  obtain ⟨f, hj, hf⟩ := exists_toJson_children_of_clause hs h
  obtain ⟨f', hj', hf'⟩ := exists_toJson_children_of_clause ht h'
  refine ⟨f, hj, hj'.trans (toJson_node_congr fun c hc => ?_)⟩
  have hout : ¬ s.Reaches c p := fun hreach =>
    not_cycleBelow_of_clause hs ⟨j, h⟩ ⟨p, .refl, .head' (hchild c hc) hreach⟩
  have hclause := clause_of_not_reaches hs ht hsame hout
    ⟨settings.maxDepth - 1, settings.wrapRoot⟩
  rw [hf' c hc, hf c (hchild c hc)] at hclause
  exact Except.ok.inj hclause

/-! ## 3. Out of sight -/

/-- An action on the store `t` that does not show in what is generated of `r`, given what stood
    below `r` in the store `s`. -/
inductive OutOfSight (s : Store) (r : NodeId) (t : Store) : Action → Prop where
  /-- A query is built. -/
  | build (b : Builder) : OutOfSight s r t (.build b)
  /-- A query is set that did not stand below. -/
  | set {id : NodeId} (h : ¬ s.Reaches r id) (name : String) (v : Value) :
      OutOfSight s r t (.set id name v)
  /-- A query is unset that did not stand below. -/
  | unset {id : NodeId} (h : ¬ s.Reaches r id) (name : String) :
      OutOfSight s r t (.unset id name)
  /-- A field is set that the clause leaves out, to any value and wherever the query stands. -/
  | leftOut {id : NodeId} {name : String} (hk : (t.node id).kind = .moreLikeThisField)
      (hname : name = "like_text" ∨ name = "fields") (v : Value) :
      OutOfSight s r t (.set id name v)

/-- The fields that are left out are not walked. -/
theorem not_mem_walked_of_leftOut {kind : Kind} {name : String} (hk : kind = .moreLikeThisField)
    (hname : name = "like_text" ∨ name = "fields") : name ∉ kind.walked := by
  subst hk
  rcases hname with rfl | rfl <;> decide +kernel

/-- **What is done out of sight leaves every query below in agreement.** -/
theorem OutOfSight.agrees {r : NodeId} {a : Action} (ha : OutOfSight s r t a) {m : NodeId}
    (hm : s.Reaches r m) (hhas : t.Has m) : (t.node m).Agrees ((t.perform a).1.node m) := by
  rcases t.perform_cases a with ⟨e, hp, -⟩ | ⟨b, n, rfl, -, hp⟩ | ⟨id, name, v, rfl, -, hp⟩ |
    ⟨id, name, rfl, -, -, hp⟩ <;> simp only [hp]
  · exact .refl _
  · rw [node_add n hhas]
    exact .refl _
  · rcases t.node_replace_cases id _ m with hsame | ⟨rfl, hnew⟩
    · rw [hsame]
      exact .refl _
    · rw [hnew]
      cases ha with
      | set hout => exact absurd hm hout
      | leftOut hk hname =>
          refine .of_walked rfl rfl fun j hj => ?_
          have hne : j ≠ name := fun e => not_mem_walked_of_leftOut hk hname (e ▸ hj)
          rw [Dict.get?_insert_ne _ _ hne]
  · rcases t.node_replace_cases id _ m with hsame | ⟨rfl, -⟩
    · rw [hsame]
      exact .refl _
    · cases ha with
      | unset hout => exact absurd hm hout

end Store

namespace Session

/-- **What is done out of sight does not show.** After any run of it, a query generates what it did:
    the same JSON or the same error, and it is generated in the same steps. -/
theorem generate_of_outOfSight {x y : Session} (hx : x.Reachable) {r : NodeId}
    (hr : x.store.Has r) (hrun : RunBy (Store.OutOfSight x.store r) x y) (settings : Settings) :
    y.store.generate settings r = x.store.generate settings r ∧
      y.store.events settings r = x.store.events settings r := by
  have hagrees : (∀ m, x.store.Reaches r m → y.store.Has m) ∧
      ∀ m, x.store.Reaches r m → (x.store.node m).Agrees (y.store.node m) := by
    refine hrun.keeps (I := fun t => (∀ m, x.store.Reaches r m → t.Has m) ∧
      ∀ m, x.store.Reaches r m → (x.store.node m).Agrees (t.node m)) hx ?_ ?_
    · exact ⟨fun m hm => hx.sound.closed.has_of_reaches hr hm, fun m _ => .refl _⟩
    · rintro z - ⟨hhas, hz⟩ a - ha
      exact ⟨fun m hm => (Store.perform_keeps a (hhas m hm)).1,
        fun m hm => (hz m hm).trans (ha.agrees hm (hhas m hm))⟩
  have hy : y.Reachable := hx.trans hrun.run
  have htrace := Store.trace_congr hx.sound.wellFormed hy.sound.wellFormed hagrees.2 settings
  exact ⟨(congrArg Prod.snd htrace).symm, (congrArg Prod.fst htrace).symm⟩

end Session

namespace Store

/-- A Boolean query that stands in itself, with a more-like-this query on one field in it, and a
    term query that stands apart. -/
def outskirts : Store :=
  let like : Builder := .run ⟨.moreLikeThisField, some "body", ∅⟩ [.set "like_text" (.text "rust")]
  let bool : Builder := .run ⟨.bool, none, ∅⟩ [.must ⟨0⟩]
  let term : Builder := .run ⟨.term, some "user", ∅⟩ [.set "value" (.text "kimchy")]
  ((((perform ∅ (.build like)).1.perform (.build bool)).1.perform (.build term)).1.perform
    (.set ⟨1⟩ "should" (.list [.node ⟨1⟩]))).1

theorem reachable_outskirts : outskirts.Reachable :=
  (((Reachable.empty.build .moreLikeThisField (some "body") (by decide +kernel)).build .bool none
    (by decide +kernel)).build .term (some "user") (by decide +kernel)).set "should"
      (by decide +kernel) (by decide +kernel)

theorem not_reaches_outskirts : ¬ outskirts.Reaches ⟨1⟩ ⟨2⟩ := by
  have hbelow : ∀ m, outskirts.Reaches ⟨1⟩ m → m = ⟨0⟩ ∨ m = ⟨1⟩ := by
    intro m hm
    induction hm with
    | refl => exact .inr rfl
    | @tail a c _ hc ih =>
        have hmet := query_mem_encounters.2 hc
        rcases ih with rfl | rfl
        · have hnone : (outskirts.node ⟨0⟩).encounters = [] := rfl
          rw [hnone] at hmet
          cases hmet
        · have htwo : (outskirts.node ⟨1⟩).encounters = [.query ⟨0⟩, .query ⟨1⟩] := rfl
          rw [htwo] at hmet
          simpa using hmet
  intro h
  rcases hbelow _ h with h | h <;> cases h

end Store

namespace Session

/-- The cycle in the outskirts stays what is reported of them after the query in it was given the
    cycle as its text, the query apart a list that has no form, and another query was built. -/
theorem generate_of_outOfSight_outskirts :
    ∃ x y : Session, x.Reachable ∧ x.store = Store.outskirts ∧ x.store.Has ⟨1⟩ ∧
      RunBy (Store.OutOfSight x.store ⟨1⟩) x y ∧
      (y.store.node ⟨0⟩).values.get? "like_text" = some (.node ⟨1⟩) ∧
      (y.store.node ⟨2⟩).values.get? "value" = some (.list [.list []]) ∧ y.store.size = 4 ∧
      y.store.generate {} ⟨1⟩ = .error (.cyclic .bool) := by
  obtain ⟨bs, hx⟩ := Store.reachable_outskirts
  have hhas : Store.outskirts.Has ⟨1⟩ := by decide +kernel
  have hstart : RunBy (Store.OutOfSight Store.outskirts ⟨1⟩) ⟨Store.outskirts, bs⟩
      ⟨Store.outskirts, bs⟩ := .refl
  have hlike : Store.outskirts.Has ⟨0⟩ := by decide +kernel
  have hleft := hstart.set hlike "like_text" (by decide +kernel)
    (.leftOut rfl (.inl rfl) (.node ⟨1⟩))
  have hterm : (Store.outskirts.perform (.set ⟨0⟩ "like_text" (.node ⟨1⟩))).1.Has ⟨2⟩ := by
    decide +kernel
  have hapart := hleft.set hterm "value" (by decide +kernel)
    (.set Store.not_reaches_outskirts _ (.list [.list []]))
  obtain ⟨bs', hrun⟩ := hapart.build .bool none [.must ⟨1⟩] (by decide +kernel) (.build _)
  have hsame := (generate_of_outOfSight hx hhas hrun {}).1
  exact ⟨_, _, hx, rfl, hhas, hrun, rfl, rfl, rfl, hsame.trans rfl⟩

end Session

end SearchQuery
