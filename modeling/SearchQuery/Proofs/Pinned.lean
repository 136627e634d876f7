import SearchQuery.Proofs.Atomicity
import SearchQuery.Proofs.Composition
import SearchQuery.Proofs.Footprint
import SearchQuery.Proofs.Layout

/-!
# Pinned texts

A match-all query has two texts that are pinned: whatever is set under their names, the clause has
the texts. What is set is walked through all the same, and only then replaced. **It therefore never
shows in the JSON, but it may spoil it** (`pinned_texts_do_not_show`): a value that has no form, or
that holds a query which leads back or is too deep, makes the whole request fail.

When that happens is a matter of the value and of the places where the query stands, and not of
pinning: a request that was generated still is after `set` exactly if the new value fits into every
such place (`Store.exists_clause_set_iff`).
-/

namespace SearchQuery

namespace Store

variable {s s' : Store} {p : NodeId} {name : String} {v : Value}

/-! ## 1. Values that fit -/

/-- A value fits into a query with so much room below it: it has no fault, and the queries it holds
    are generated there and do not lead back. -/
structure Fits (s : Store) (p : NodeId) (room : Nat) (v : Value) : Prop where
  not_hasFault : ∀ fault, ¬ v.HasFault fault
  generated : ∀ c, v.Holds c → ∃ j, s.clause { maxDepth := room } c = .ok j
  apart : ∀ c, v.Holds c → ¬ s.Reaches c p

/-- A value fits into a query wherever it stands below another, where so many may stand in one
    another. -/
def FitsBelow (s : Store) (limit : Nat) (r p : NodeId) (v : Value) : Prop :=
  ∀ ids, s.IsChain r ids → ids.getLast? = some p → s.Fits p (limit - ids.length) v

theorem IsChain.getLast?_cons {c : NodeId} {ids : List NodeId} (h : s.IsChain c ids) (q : NodeId) :
    (q :: ids).getLast? = ids.getLast? := by
  cases h <;> simp

/-- Below itself, a query that is in no cycle stands once only. -/
theorem fitsBelow_self_iff (hacyclic : ¬ s.CycleBelow p) {depth : Nat} :
    s.FitsBelow (depth + 1) p p v ↔ s.Fits p depth v := by
  constructor
  · exact fun h => h [p] (.single p) rfl
  · intro h ids hids hlast
    cases hids with
    | single => exact h
    | cons hc hrest =>
        -- a longer chain would come back to where it began
        rw [hrest.getLast?_cons] at hlast
        have hback := hrest.reaches (List.mem_of_getLast? hlast)
        exact absurd ⟨p, .refl, .head' hc hback⟩ hacyclic

theorem fitsBelow_succ_iff {r : NodeId} (hr : r ≠ p) {depth : Nat} :
    s.FitsBelow (depth + 1) r p v ↔ ∀ c, s.Child r c → s.FitsBelow depth c p v := by
  constructor
  · intro h c hc ids hids hlast
    have hlonger := h (r :: ids) (.cons hc hids) ((hids.getLast?_cons r).trans hlast)
    rwa [List.length_cons, Nat.add_sub_add_right] at hlonger
  · intro h ids hids hlast
    cases hids with
    | single => exact absurd (Option.some.inj hlast) hr
    | @cons _ c rest hc hrest =>
        rw [hrest.getLast?_cons] at hlast
        rw [List.length_cons, Nat.add_sub_add_right]
        exact h c hc rest hrest hlast

/-- What does not lead to the query that is set is generated as before. -/
theorem clause_set_of_not_reaches (hs : s.WellFormed) (hset : s.set p name v = .ok s')
    {r : NodeId} (hout : ¬ s.Reaches r p) (settings : Settings) :
    s'.clause settings r = s.clause settings r :=
  clause_of_not_reaches hs (hs.set hset) (fun _ hm => node_set_ne hset hm) hout settings

/-- **When a query that is set is still generated**: when the new value fits into it. -/
theorem exists_clause_set_self_iff (hs : s.WellFormed) (hset : s.set p name v = .ok s')
    (hp : s.Has p) (hname : name ∈ (s.node p).kind.walked) {room : Nat} {wrap : Bool}
    (h : ∃ j, s.clause ⟨room + 1, wrap⟩ p = .ok j) :
    (∃ j, s'.clause ⟨room + 1, wrap⟩ p = .ok j) ↔ s.Fits p room v := by
  have hs' := hs.set hset
  have hacyclic := not_cycleBelow_of_clause hs h
  obtain ⟨hchildren, hsound⟩ := (exists_clause_succ_iff hs room wrap true p).1 h
  constructor
  · intro h'
    obtain ⟨hchildren', hsound'⟩ := (exists_clause_succ_iff hs' room wrap true p).1 h'
    have hapart : ∀ c, v.Holds c → ¬ s.Reaches c p := fun c hc hreach =>
      not_cycleBelow_of_clause hs' h'
        ⟨p, .refl, .head' (child_set_new hset hp hname hc) (hreach.set hset)⟩
    refine ⟨fun fault hfault => ?_, fun c hc => ?_, hapart⟩
    · exact hsound' ⟨name, v, fault, (walks_set hset hp).2 (.inl ⟨rfl, rfl, hname, rfl⟩), hfault⟩
    · rw [← clause_set_of_not_reaches hs hset (hapart c hc)]
      exact hchildren' c (child_set_new hset hp hname hc)
  · intro hfits
    refine (exists_clause_succ_iff hs' room wrap true p).2 ⟨fun c hc => ?_, fun hfaulty => ?_⟩
    · rcases child_set_cases hset hp hc with hold | ⟨-, -, hnew⟩
      · have hout : ¬ s.Reaches c p := fun hreach => hacyclic ⟨p, .refl, .head' hold hreach⟩
        rw [clause_set_of_not_reaches hs hset hout]
        exact hchildren c hold
      · rw [clause_set_of_not_reaches hs hset (hfits.apart c hnew)]
        exact hfits.generated c hnew
    · rcases faulty_set_cases hset hp hfaulty with hold | ⟨-, -, fault, hfault⟩
      · exact hsound hold
      · exact hfits.not_hasFault fault hfault

/-- **When what was generated still is after `set`**: when the new value fits into the query
    wherever it stands. -/
theorem exists_clause_set_iff (hs : s.WellFormed) (hset : s.set p name v = .ok s') (hp : s.Has p)
    (hname : name ∈ (s.node p).kind.walked) {depth : Nat} {wrap : Bool} {r : NodeId}
    (h : ∃ j, s.clause ⟨depth, wrap⟩ r = .ok j) :
    (∃ j, s'.clause ⟨depth, wrap⟩ r = .ok j) ↔ s.FitsBelow depth r p v := by
  induction depth generalizing r with
  | zero =>
      obtain ⟨j, hj⟩ := h
      rw [clause_zero] at hj
      cases hj
  | succ depth ih =>
      by_cases hr : r = p
      · subst hr
        rw [exists_clause_set_self_iff hs hset hp hname h,
          fitsBelow_self_iff (not_cycleBelow_of_clause hs h)]
      · obtain ⟨hchildren, hsound⟩ := (exists_clause_succ_iff hs depth wrap wrap r).1 h
        rw [exists_clause_succ_iff (hs.set hset) depth wrap wrap r, node_set_ne hset hr,
          fitsBelow_succ_iff hr]
        constructor
        · intro h' c hc
          exact (ih (hchildren c hc)).1 (h'.1 c ((child_set_ne hset hr).2 hc))
        · intro hfits
          refine ⟨fun c hc => ?_, hsound⟩
          have hc' := (child_set_ne hset hr).1 hc
          exact (ih (hchildren c hc')).2 (hfits c hc')

/-! ## 2. Setting a value back -/

/-- A field that is set to what it held before is as it was. -/
theorem set_back (hset : s.set p name v = .ok s') (hp : s.Has p) {old : Value}
    (hold : (s.node p).values.get? name = some old) : s'.set p name old = .ok s := by
  obtain ⟨hd, rfl⟩ := set_eq_ok_iff.1 hset
  exact (rebinds_insert hp name v).set_back hp hd hold

/-! ## 3. Pinned names -/

/-- What is set under a pinned name is not written. -/
theorem toJson_insert_pinned {n : Node} (hk : n.kind = .matchAll)
    (hname : name = "query" ∨ name = "zero_terms_query") (v : Value) (f : NodeId → Json) :
    (⟨n.kind, n.field, n.values.insert name v⟩ : Node).toJson f = n.toJson f := by
  rw [Node.toJson, Node.body_insert fun hfree _ => absurd hname (not_or.2 (hfree hk))]
  rfl

/-- What is written for every node alike is written for every query alike. -/
theorem toJson_congr (h : ∀ q f, (s'.node q).toJson f = (s.node q).toJson f) (room : Nat)
    (q : NodeId) : s'.toJson room q = s.toJson room q := by
  induction room generalizing q with
  | zero => rfl
  | succ room ih =>
      have hbelow : s'.toJson room = s.toJson room := funext ih
      rw [toJson, toJson, hbelow, h]

/-- **What is set under a pinned name is not written.** -/
theorem toJson_set_pinned (hset : s.set p name v = .ok s') (hp : s.Has p)
    (hk : (s.node p).kind = .matchAll) (hname : name = "query" ∨ name = "zero_terms_query")
    (room : Nat) (q : NodeId) : s'.toJson room q = s.toJson room q := by
  refine toJson_congr (fun q f => ?_) room q
  by_cases hq : q = p
  · subst hq
    rw [node_set_self hset hp, toJson_insert_pinned hk hname]
  · rw [node_set_ne hset hq]

/-- **A plain value under a pinned name, in the place of one or of none, does not show at all.** -/
theorem agrees_set_pinned (hset : s.set p name v = .ok s') (hp : s.Has p)
    (hk : (s.node p).kind = .matchAll) (hname : name = "query" ∨ name = "zero_terms_query")
    (hv : v.Plain) (hold : ∀ old, (s.node p).values.get? name = some old → old.Plain) (q : NodeId) :
    (s.node q).Agrees (s'.node q) := by
  by_cases hq : q = p
  · subst hq
    rw [node_set_self hset hp]
    refine ⟨rfl, ?_, fun f => (toJson_insert_pinned hk hname v f).symm⟩
    refine List.flatMap_congr fun j _ => ?_
    rw [Dict.get?_insert]
    split
    · rename_i hj
      rw [hj, Option.map_some, Option.getD_some, hv.encounters_eq_nil]
      cases hget : (s.node q).values.get? name with
      | none => rfl
      | some old => rw [Option.map_some, Option.getD_some, (hold old hget).encounters_eq_nil]
    · rfl
  · rw [node_set_ne hset hq]
    exact .refl _

/-- **When a request is generated again after its query was set back**: when the value of before
    fits, if there was one. -/
theorem exists_clause_of_set_iff (hs : s.WellFormed) (hset : s.set p name v = .ok s') (hp : s.Has p)
    (hname : name ∈ (s.node p).kind.walked) {depth : Nat} {wrap : Bool} {r : NodeId}
    (h : ∃ j, s'.clause ⟨depth, wrap⟩ r = .ok j) :
    (∃ j, s.clause ⟨depth, wrap⟩ r = .ok j) ↔
      ∀ old, (s.node p).values.get? name = some old → s'.FitsBelow depth r p old := by
  cases hget : (s.node p).values.get? name with
  | some old =>
      have hp' : s'.Has p := by
        obtain ⟨-, rfl⟩ := set_eq_ok_iff.1 hset
        exact s.has_replace.2 hp
      have hname' : name ∈ (s'.node p).kind.walked := by rwa [kind_set hset]
      rw [exists_clause_set_iff (hs.set hset) (set_back hset hp hget) hp' hname' h]
      simp
  | none =>
      have hwalks : ∀ q j w, (s.node q).Walks j w → (s'.node q).Walks j w := by
        intro q j w hw
        refine (walks_set hset hp).2 (.inr ⟨fun hq hj => ?_, hw⟩)
        rw [Node.Walks, hq, hj, hget] at hw
        cases hw.2
      have hbefore := exists_clause_of_fewer (hs.set hset) hs
        (fun q c ⟨j, w, hw, hc⟩ => ⟨j, w, hwalks q j w hw, hc⟩)
        (fun q ⟨j, w, fault, hw, hf⟩ => ⟨j, w, fault, hwalks q j w hw, hf⟩) h
      simp [hbefore]

/-- Two outcomes that cannot differ in the result are the same, but for the error, if each is a
    result when the other is. -/
theorem same_results_iff {α : Type} {x y : Except QueryError α}
    (h : ∀ a b, x = .ok a → y = .ok b → b = a) :
    (∀ a, x = .ok a ↔ y = .ok a) ↔
      ((∃ a, x = .ok a) → ∃ b, y = .ok b) ∧ ((∃ b, y = .ok b) → ∃ a, x = .ok a) := by
  constructor
  · intro hsame
    exact ⟨fun ⟨a, ha⟩ => ⟨a, (hsame a).1 ha⟩, fun ⟨b, hb⟩ => ⟨b, (hsame b).2 hb⟩⟩
  · rintro ⟨hxy, hyx⟩ a
    constructor
    · intro ha
      obtain ⟨b, hb⟩ := hxy ⟨a, ha⟩
      rwa [h a b ha hb] at hb
    · intro ha
      obtain ⟨b, hb⟩ := hyx ⟨a, ha⟩
      rwa [← h b a hb ha] at hb

/-- **Pinned texts do not show, but may spoil.** After a value is set under a pinned name of a
    match-all query, what is generated of any query is the same JSON if it is generated at all. If
    the value is plain, and what it took the place of was, the outcome is the same, errors included.
    And it is the same, but for the error, exactly if the value fits wherever the query stands, and
    what it took the place of did. -/
theorem pinned_texts_do_not_show (hs : s.Reachable) (hp : s.Has p)
    (hk : (s.node p).kind = .matchAll) (hname : name = "query" ∨ name = "zero_terms_query")
    (v : Value) :
    ∃ s', s.set p name v = .ok s' ∧ ∀ (settings : Settings) (r : NodeId),
      (∀ j j', s.generate settings r = .ok j → s'.generate settings r = .ok j' → j' = j) ∧
      (v.Plain → (∀ old, (s.node p).values.get? name = some old → old.Plain) →
        s'.generate settings r = s.generate settings r) ∧
      ((∀ j, s.generate settings r = .ok j ↔ s'.generate settings r = .ok j) ↔
        ((∃ j, s.generate settings r = .ok j) → s.FitsBelow settings.maxDepth r p v) ∧
        ((∃ j, s'.generate settings r = .ok j) → ∀ old, (s.node p).values.get? name = some old →
          s'.FitsBelow settings.maxDepth r p old)) := by
  have hwf := hs.wellFormed
  have hdeclared : (s.node p).kind.declares name := by
    rw [hk]
    rcases hname with rfl | rfl <;> decide +kernel
  have hwalked : name ∈ (s.node p).kind.walked := by
    rw [hk]
    rcases hname with rfl | rfl <;> decide +kernel
  obtain ⟨s', hset⟩ : ∃ s', s.set p name v = .ok s' := ⟨_, set_eq_ok_iff.2 ⟨hdeclared, rfl⟩⟩
  have hwf' := hwf.set hset
  refine ⟨s', hset, fun settings r => ?_⟩
  have hjson : ∀ j j', s.generate settings r = .ok j → s'.generate settings r = .ok j' →
      j' = j := by
    intro j j' hj hj'
    have hafter := generate_set_of_toJson_eq hwf hset hj (exists_generate_iff.1 ⟨j', hj'⟩)
      (toJson_set_pinned hset hp hk hname _ r)
    exact Except.ok.inj (hj'.symm.trans hafter)
  refine ⟨hjson, fun hv hold => ?_, ?_⟩
  · have htrace := trace_congr hwf hwf' (r := r)
      (fun m _ => agrees_set_pinned hset hp hk hname hv hold m) settings
    exact (congrArg Prod.snd htrace).symm
  · rw [same_results_iff hjson, exists_generate_iff, exists_generate_iff]
    obtain ⟨depth, wrap⟩ := settings
    exact and_congr (forall_congr' (exists_clause_set_iff hwf hset hp hwalked))
      (forall_congr' (exists_clause_of_set_iff hwf hset hp hwalked))

/-- A match-all query in a Boolean one. -/
def everything : Store :=
  let all : Builder := .run ⟨.matchAll, some "message", ∅⟩ []
  let bool : Builder := .run ⟨.bool, none, ∅⟩ [.must ⟨0⟩]
  ((perform ∅ (.build all)).1.perform (.build bool)).1

theorem reachable_everything : everything.Reachable :=
  (Reachable.empty.build .matchAll (some "message") (by decide +kernel)).build .bool none
    (by decide +kernel)

/-- Another text does not show in the Boolean query around. That query itself does not fit, and as
    the request was generated before it is not after. -/
theorem pinned_texts_do_not_show_everything :
    everything.Reachable ∧ everything.Has ⟨0⟩ ∧ (everything.node ⟨0⟩).kind = .matchAll ∧
      (∃ s', everything.set ⟨0⟩ "query" (.text "ignored") = .ok s' ∧
        s'.generate {} ⟨1⟩ = everything.generate {} ⟨1⟩) ∧
      (∃ s' j, everything.set ⟨0⟩ "zero_terms_query" (.node ⟨1⟩) = .ok s' ∧
        everything.generate {} ⟨1⟩ = .ok j ∧ s'.generate {} ⟨1⟩ ≠ .ok j) := by
  have hp : everything.Has ⟨0⟩ := by decide +kernel
  have hk : (everything.node ⟨0⟩).kind = .matchAll := rfl
  obtain ⟨s₁, hset₁, h₁⟩ := pinned_texts_do_not_show reachable_everything hp hk (.inl rfl)
    (.text "ignored")
  obtain ⟨s₂, hset₂, h₂⟩ := pinned_texts_do_not_show reachable_everything hp hk (.inr rfl)
    (.node ⟨1⟩)
  have hj : ∃ j, everything.generate {} ⟨1⟩ = .ok j := ⟨_, rfl⟩
  refine ⟨reachable_everything, hp, hk, ⟨s₁, hset₁, ?_⟩, s₂, hj.choose, hset₂, hj.choose_spec, ?_⟩
  · refine (h₁ {} ⟨1⟩).2.1 (Value.plain_text _) fun old hold => ?_
    cases (show some (Value.text "") = some old from hold)
    exact Value.plain_text ""
  · intro hafter
    have hsame : ∀ j, everything.generate {} ⟨1⟩ = .ok j ↔ s₂.generate {} ⟨1⟩ = .ok j := by
      intro j
      rw [hj.choose_spec, hafter]
    have hdown : everything.Child ⟨1⟩ ⟨0⟩ :=
      ⟨"must", .list [.node ⟨0⟩], ⟨by decide, rfl⟩, .item (by simp)⟩
    have hfits := ((h₂ {} ⟨1⟩).2.2.1 hsame).1 hj [⟨1⟩, ⟨0⟩] (.cons hdown (.single _)) rfl
    exact hfits.apart ⟨1⟩ (.node _) (.single hdown)

/-- **A pinned text can be spoilt**: with a number that is not finite under its name, the match-all
    query is not generated any more. -/
theorem nonFinite_spoils_pinned_text :
    everything.Reachable ∧ everything.Has ⟨0⟩ ∧ (everything.node ⟨0⟩).kind = .matchAll ∧
      ∃ s' j, everything.set ⟨0⟩ "query" (.float (0.0 / 0.0)) = .ok s' ∧
        everything.generate {} ⟨0⟩ = .ok j ∧
        s'.generate {} ⟨0⟩ = .error (.unsupportedValue "query" (.nonFinite (0.0 / 0.0))) :=
  ⟨reachable_everything, by decide +kernel, rfl, _, _, rfl, rfl, rfl⟩

end Store

end SearchQuery
