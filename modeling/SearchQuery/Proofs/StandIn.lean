import SearchQuery.Proofs.Composition
import SearchQuery.Proofs.FirstFault
import SearchQuery.Proofs.Layout
import SearchQuery.Proofs.Updates

/-!
# Rendered parts in the place of typed ones

Raw JSON is passed through, so what was rendered of a field may be put into the field itself. The
field may have held whole queries, which the walk then does not enter any more; and the query that
is changed may stand in many places, at different depths. **Nothing of this shows**
(`generate_of_standIn`): what was generated before is generated after, and is the same.

Three facts make it so. A query is written alike at every depth at which it is generated
(`Store.toJson_eq_of_clause`), so that the JSON that stands in one place stands in all. A body with
that JSON is the same body (`Node.body_insert`), pinned names included. And raw JSON is plain, so
that nothing comes to be below a query that was not below it before.
-/

namespace SearchQuery

/-- A body can be read off what it is framed in. -/
theorem Node.frame_ofDict_injective {n : Node} {body body' : Dict Json}
    (h : n.frame (.ofDict body) = n.frame (.ofDict body')) : body = body' := by
  have hentries : body.entries = body'.entries := by
    unfold frame at h
    split at h <;> simpa [Json.single, Json.ofDict] using h
  cases body
  cases body'
  cases hentries
  rfl

namespace Store

variable {s s' : Store} {p : NodeId} {name : String} {j : Json}

/-- **A query is written alike at every depth** at which it is generated. -/
theorem toJson_eq_of_clause (hs : s.WellFormed) {depth depth' : Nat} {wrap wrap' : Bool}
    {id : NodeId} (h : ∃ j, s.clause ⟨depth, wrap⟩ id = .ok j)
    (h' : ∃ j, s.clause ⟨depth', wrap'⟩ id = .ok j) : s.toJson depth id = s.toJson depth' id := by
  obtain ⟨j, hj⟩ := h
  obtain ⟨j', hj'⟩ := h'
  rw [clause_eq hs, settle_eq_ok_iff] at hj hj'
  rcases Nat.le_total depth depth' with hle | hle
  · exact toJson_eq_of_faults_eq_nil hj.1 hle
  · exact (toJson_eq_of_faults_eq_nil hj'.1 hle).symm

/-- **A body with a rendered part in the place of a typed one is the same body**, at whatever depth
    the part was rendered. -/
theorem body_of_standIn (hs : s.WellFormed) {depth room : Nat} {wrap : Bool}
    (hrendered : ∃ c, s.clause ⟨depth + 1, wrap⟩ p = .ok c)
    (hj : ((s.node p).body (s.toJson depth)).get? name = some j)
    (h : ∃ c, s.clause ⟨room + 1, wrap⟩ p = .ok c) :
    (⟨(s.node p).kind, (s.node p).field, (s.node p).values.insert name (.json j)⟩ : Node).body
      (s.toJson room) = (s.node p).body (s.toJson room) := by
  refine Node.body_insert fun hfree hwalked => ?_
  rw [Node.get?_body _ hfree, if_pos hwalked] at hj
  obtain ⟨v, hv, hvj⟩ := Option.map_eq_some_iff.1 hj
  have hchildren := ((exists_clause_succ_iff hs room wrap wrap p).1 h).1
  have hchildren' := ((exists_clause_succ_iff hs depth wrap wrap p).1 hrendered).1
  -- the value may hold queries, which are written alike here and where it was rendered
  have hsame : v.toJson (s.toJson room) = v.toJson (s.toJson depth) := by
    refine Value.toJson_congr fun c hc => ?_
    have hchild : s.Child p c := ⟨name, v, ⟨hwalked, hv⟩, hc⟩
    exact toJson_eq_of_clause hs (hchildren c hchild) (hchildren' c hchild)
  rw [hv, Option.map_some, hsame, hvj]
  rfl

/-- **A rendered part in the place of a typed one does not show** in anything that is generated. -/
theorem toJson_of_standIn (hs : s.WellFormed) (hset : s.set p name (.json j) = .ok s')
    (hp : s.Has p) {depth : Nat} {wrap : Bool} (hclause : ∃ c, s.clause ⟨depth + 1, wrap⟩ p = .ok c)
    (hj : ((s.node p).body (s.toJson depth)).get? name = some j) {room : Nat} {id : NodeId}
    (h : ∃ c, s.clause ⟨room, wrap⟩ id = .ok c) : s'.toJson room id = s.toJson room id := by
  induction room generalizing id with
  | zero => rfl
  | succ room ih =>
      have hchildren := ((exists_clause_succ_iff hs room wrap wrap id).1 h).1
      have hbelow : ∀ c, s.Child id c → s'.toJson room c = s.toJson room c :=
        fun c hc => ih (hchildren c hc)
      by_cases hid : id = p
      · subst hid
        calc s'.toJson (room + 1) id
            = (s'.node id).toJson (s.toJson room) :=
              toJson_node_congr fun c hc =>
                hbelow c (child_set_plain hset hp (Value.plain_json j) hc)
          _ = (s.node id).frame (.ofDict ((s.node id).body (s.toJson room))) := by
              rw [node_set_self hset hp, Node.toJson, body_of_standIn hs hclause hj h]
              rfl
          _ = s.toJson (room + 1) id := rfl
      · calc s'.toJson (room + 1) id
            = (s.node id).toJson (s'.toJson room) := by
              rw [toJson, node_set_ne hset hid]
          _ = s.toJson (room + 1) id := toJson_node_congr hbelow

/-- **A rendered part can stand in for the typed one.** Let a request be generated, and the clause
    of some query. Whatever stands in the body of that clause under some name may be set there as
    raw JSON, and the request is generated as before. -/
theorem generate_of_standIn (hs : s.Reachable) {settings : Settings} {r : NodeId} {v : Json}
    (hr : s.generate settings r = .ok v) (hp : s.Has p) {body : Dict Json}
    (hclause : s.clause settings p = .ok ((s.node p).frame (.ofDict body)))
    (hj : body.get? name = some j) :
    ∃ s', s.set p name (.json j) = .ok s' ∧ s'.generate settings r = .ok v := by
  have hwf := hs.wellFormed
  obtain ⟨depth, wrap⟩ := settings
  cases depth with
  | zero =>
      rw [clause_zero] at hclause
      cases hclause
  | succ depth =>
      have hbody : body = (s.node p).body (s.toJson depth) :=
        Node.frame_ofDict_injective (eq_toJson_of_clause hwf hclause)
      subst hbody
      have hdeclared : (s.node p).kind.declares name :=
        (Node.hasForm_toJson (hwf p) _).declared name
          (Dict.mem_keys.2 (Option.isSome_iff_exists.2 ⟨j, hj⟩))
      refine ⟨_, set_eq_ok_iff.2 ⟨hdeclared, rfl⟩, ?_⟩
      generalize hs' : s.replace p _ = s'
      have hset : s.set p name (.json j) = .ok s' := set_eq_ok_iff.2 ⟨hdeclared, hs'.symm⟩
      have hbefore := exists_generate_iff.1 ⟨v, hr⟩
      exact generate_set_of_toJson_eq hwf hset hr
        (exists_clause_set_plain hwf hset hp (Value.plain_json j) hbefore)
        (toJson_of_standIn hwf hset hp ⟨_, hclause⟩ hj hbefore)

/-- In the diamond the list with the term query can stand as the JSON it is rendered to, and so can
    the text in the term query, which stands there twice. -/
theorem generate_of_standIn_diamond :
    diamond.Reachable ∧ ∃ v term, diamond.generate {} ⟨2⟩ = .ok v ∧
      diamond.clause {} ⟨0⟩ = .ok term ∧
      (∃ s, diamond.set ⟨1⟩ "must" (.json (.array [term])) = .ok s ∧ s.generate {} ⟨2⟩ = .ok v) ∧
      (∃ s, diamond.set ⟨0⟩ "value" (.json (.string "kimchy")) = .ok s ∧
        s.generate {} ⟨2⟩ = .ok v) := by
  obtain ⟨v, hv⟩ : ∃ v, diamond.generate {} ⟨2⟩ = .ok v := ⟨_, rfl⟩
  have hterm : diamond.clause {} ⟨0⟩ =
      .ok ((diamond.node ⟨0⟩).frame (.ofDict ((diamond.node ⟨0⟩).body (diamond.toJson 62)))) := rfl
  have hbool : diamond.clause {} ⟨1⟩ =
      .ok ((diamond.node ⟨1⟩).frame (.ofDict ((diamond.node ⟨1⟩).body (diamond.toJson 63)))) := rfl
  have hmust : ((diamond.node ⟨1⟩).body (diamond.toJson 63)).get? "must" =
      some (.array [diamond.toJson 63 ⟨0⟩]) := by
    rw [Node.get?_body _ (by decide +kernel)]
    rfl
  have hvalue : ((diamond.node ⟨0⟩).body (diamond.toJson 62)).get? "value" =
      some (.string "kimchy") := by
    rw [Node.get?_body _ (by decide +kernel)]
    rfl
  exact ⟨reachable_diamond, v, _, hv, hterm,
    generate_of_standIn reachable_diamond hv (by decide +kernel) hbool hmust,
    generate_of_standIn reachable_diamond hv (by decide +kernel) hterm hvalue⟩

end Store

end SearchQuery
