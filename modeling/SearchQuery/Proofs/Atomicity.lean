import SearchQuery.Proofs.Building
import SearchQuery.Proofs.Session

/-!
# Changes are exact, or none

`set` and `unset` change what one query holds under one name, and nothing else: the store afterwards
is the one with that binding (`Store.Rebinds`), which says all about it (`Rebinds.unique`).

`unset` may not take away what a query cannot do without. Its test looks at the alternatives only,
as everything else holds of every query at all times, so that **it refuses exactly what building the
query anew from what is left would refuse, and with the same error**
(`Node.WellFormed.build_without`).

Where the value is taken out first and looked for afterwards, it has to be put back. That way of
going about it leaves no trace either (`unsetInPlace_eq_perform`), and it is the same by which a
client takes back an `unset` that succeeded. **Both changes are therefore made as asked or not at
all** (`set_and_unset_exact`).
-/

namespace SearchQuery

/-! ## 1. One binding -/

namespace Store

variable {s s' t t' : Store} {q : NodeId} {name : String} {held held' : Option Value}

/-- The second store is the first, but for what a query holds under a name. -/
structure Rebinds (s : Store) (q : NodeId) (name : String) (held : Option Value) (s' : Store) :
    Prop where
  size : s'.size = s.size
  kind : ∀ p, (s'.node p).kind = (s.node p).kind
  field : ∀ p, (s'.node p).field = (s.node p).field
  held : (s'.node q).values.get? name = held
  kept : ∀ p j, p ≠ q ∨ j ≠ name → (s'.node p).values.get? j = (s.node p).values.get? j

/-- Stores of one size with the same nodes are the same. -/
theorem eq_of_node_eq (hsize : s.size = s'.size) (hnode : ∀ p, s.node p = s'.node p) : s = s' := by
  obtain ⟨nodes⟩ := s
  obtain ⟨nodes'⟩ := s'
  refine congrArg mk (Array.ext hsize fun i hi hi' => ?_)
  simpa [node, hi, hi'] using hnode ⟨i⟩

/-- A store is what it is with the binding it has. -/
theorem rebinds_self (s : Store) (q : NodeId) (name : String) :
    s.Rebinds q name ((s.node q).values.get? name) s :=
  ⟨rfl, fun _ => rfl, fun _ => rfl, rfl, fun _ _ _ => rfl⟩

namespace Rebinds

/-- **The binding says all about the store that has it.** -/
theorem unique (h : s.Rebinds q name held t) (h' : s.Rebinds q name held t') : t = t' := by
  have hvalues : ∀ p, (t.node p).values = (t'.node p).values := by
    intro p
    ext1 j
    by_cases hpj : p ≠ q ∨ j ≠ name
    · rw [h.kept p j hpj, h'.kept p j hpj]
    · obtain ⟨rfl, rfl⟩ := not_or.1 hpj |>.imp not_not.1 not_not.1
      rw [h.held, h'.held]
  have hnode : ∀ p, t.node p = t'.node p := by
    intro p
    show Node.mk (t.node p).kind (t.node p).field (t.node p).values = t'.node p
    rw [h.kind, h.field, hvalues, ← h'.kind, ← h'.field]
  exact eq_of_node_eq (h.size.trans h'.size.symm) hnode

/-- Of two bindings of one name the last counts. -/
theorem trans (h : s.Rebinds q name held s') (h' : s'.Rebinds q name held' t) :
    s.Rebinds q name held' t where
  size := h'.size.trans h.size
  kind p := (h'.kind p).trans (h.kind p)
  field p := (h'.field p).trans (h.field p)
  held := h'.held
  kept p j hpj := (h'.kept p j hpj).trans (h.kept p j hpj)

/-- A name that is bound to what it was bound to before leaves no trace. -/
theorem eq_of_back (h : s.Rebinds q name held s')
    (h' : s'.Rebinds q name ((s.node q).values.get? name) t) : t = s :=
  (h.trans h').unique (s.rebinds_self q name)

end Rebinds

theorem rebinds_replace (hq : s.Has q) {values : Dict Value} (hheld : values.get? name = held)
    (hkept : ∀ j, j ≠ name → values.get? j = (s.node q).values.get? j) :
    s.Rebinds q name held (s.replace q ⟨(s.node q).kind, (s.node q).field, values⟩) := by
  have hnode : ∀ p, (s.replace q ⟨(s.node q).kind, (s.node q).field, values⟩).node p =
      if p = q then ⟨(s.node q).kind, (s.node q).field, values⟩ else s.node p := by
    intro p
    split
    · rename_i hp
      rw [hp, node_replace_self _ hq]
    · rename_i hp
      exact node_replace_ne _ _ hp
  refine ⟨size_replace _ _ _, fun p => ?_, fun p => ?_, ?_, fun p j hpj => ?_⟩
  · rw [hnode]
    split
    · rename_i hp
      rw [hp]
    · rfl
  · rw [hnode]
    split
    · rename_i hp
      rw [hp]
    · rfl
  · rw [hnode, if_pos rfl, hheld]
  · rw [hnode]
    split
    · rename_i hp
      rw [hp, hkept j (hpj.resolve_left (not_not.2 hp))]
    · rfl

theorem rebinds_insert (hq : s.Has q) (name : String) (v : Value) :
    s.Rebinds q name (some v)
      (s.replace q ⟨(s.node q).kind, (s.node q).field, (s.node q).values.insert name v⟩) :=
  rebinds_replace hq (Dict.get?_insert_self _ _ _) fun _ hj => Dict.get?_insert_ne _ _ hj

theorem rebinds_erase (hq : s.Has q) (name : String) :
    s.Rebinds q name none
      (s.replace q ⟨(s.node q).kind, (s.node q).field, (s.node q).values.erase name⟩) :=
  rebinds_replace hq (Dict.get?_erase_self _ _) fun j hj => by rw [Dict.get?_erase, if_neg hj]

/-- A value that was bound before can be set back, and it is as if nothing had been. -/
theorem Rebinds.set_back (h : s.Rebinds q name held s') (hq : s.Has q)
    (hdeclares : (s.node q).kind.declares name) {old : Value}
    (hold : (s.node q).values.get? name = some old) : s'.set q name old = .ok s := by
  have hq' : s'.Has q := by
    show q.index < s'.size
    rw [h.size]
    exact hq
  refine set_eq_ok_iff.2 ⟨by rwa [h.kind q], (h.eq_of_back ?_).symm⟩
  rw [hold]
  exact rebinds_insert hq' name old

end Store

/-! ## 2. What a query can do without -/

namespace Node

variable {n : Node} {name : String}

/-- What a node holds without a name, collected to be built anew. -/
def without (n : Node) (name : String) : Builder := ⟨n.kind, n.field, n.values.erase name⟩

/-- **Building anew tests the alternatives, in effect**: the other tests pass for what is left of a
    well-formed node without a name that is not required. -/
theorem WellFormed.build_without (hn : n.WellFormed) (hopt : name ∉ n.kind.required) :
    (n.without name).build = (do
      requireAlternative n.kind (n.values.erase name)
      return ⟨n.kind, n.field, (n.without name).allValues⟩) := by
  -- what building forces comes on top: it cannot do harm here, and is never an alternative
  have hheld : requireHeld n.kind (n.without name).allValues = .ok () :=
    Builder.held_eq_ok_iff.2 fun j hj => .inl (hn.contains_erase hopt hj)
  have halternative := (n.without name).alternative_allValues
  unfold Builder.allValues at hheld halternative ⊢
  unfold Builder.build
  simp only [without] at hheld halternative ⊢
  rw [hn.primaryField, hn.declared_erase name, hheld, halternative]
  rfl

end Node

/-! ## 3. The answers of `set` and `unset` -/

namespace Store

variable {s s' : Store} {q : NodeId} {name : String} {v : Value} {e : QueryError}

theorem requireDeclared_of_not_declares {kind : Kind} (h : ¬ kind.declares name) :
    requireDeclared kind [name] = .error (.unknownField kind name) := by
  simp [requireDeclared, h]

theorem perform_set_of_declares (v : Value) (h : (s.node q).kind.declares name) :
    s.perform (.set q name v) =
      (s.replace q ⟨(s.node q).kind, (s.node q).field, (s.node q).values.insert name v⟩,
        .ok .changed) := by
  rw [perform, set_eq_ok_iff.2 ⟨h, rfl⟩]

theorem perform_set_of_not_declares (v : Value) (h : ¬ (s.node q).kind.declares name) :
    s.perform (.set q name v) = (s, .error (.unknownField (s.node q).kind name)) := by
  have hset : s.set q name v = .error (.unknownField (s.node q).kind name) := by
    rw [set, requireDeclared_of_not_declares h]
    rfl
  rw [perform, hset]

theorem perform_unset_of_not_declares (h : ¬ (s.node q).kind.declares name) :
    s.perform (.unset q name) = (s, .error (.unknownField (s.node q).kind name)) := by
  have hunset : s.unset q name = .error (.unknownField (s.node q).kind name) := by
    rw [unset, requireDeclared_of_not_declares h]
    rfl
  rw [perform, hunset]

theorem requireOptional_of_mem {kind : Kind} (h : name ∈ kind.required) :
    requireOptional kind name = .error (.invalidQuery (.unsetRequired kind name)) := by
  simp [requireOptional, h]

/-- What is required is declared, so that the first test does not stand in the way. -/
theorem perform_unset_of_mem_required (h : name ∈ (s.node q).kind.required) :
    s.perform (.unset q name) =
      (s, .error (.invalidQuery (.unsetRequired (s.node q).kind name))) := by
  have hdeclared := requireDeclared_singleton_iff.2 (Kind.declares_of_mem_required h)
  have hunset : s.unset q name =
      .error (.invalidQuery (.unsetRequired (s.node q).kind name)) := by
    rw [unset, hdeclared, requireOptional_of_mem h]
    rfl
  rw [perform, hunset]

/-- What is left to go wrong is a matter of the alternatives. -/
theorem perform_unset_of_error (hdeclares : (s.node q).kind.declares name)
    (hopt : name ∉ (s.node q).kind.required)
    (he : requireAlternative (s.node q).kind ((s.node q).values.erase name) = .error e) :
    s.perform (.unset q name) = (s, .error e) := by
  have hunset : s.unset q name = .error e := by
    rw [unset, requireDeclared_singleton_iff.2 hdeclares, requireOptional_eq_ok_iff.2 hopt]
    simp only [he]
    rfl
  rw [perform, hunset]

theorem perform_unset_of_ok (hdeclares : (s.node q).kind.declares name)
    (hopt : name ∉ (s.node q).kind.required)
    (hok : requireAlternative (s.node q).kind ((s.node q).values.erase name) = .ok ()) :
    s.perform (.unset q name) =
      (s.replace q ⟨(s.node q).kind, (s.node q).field, (s.node q).values.erase name⟩,
        .ok (.previous ((s.node q).values.get? name))) := by
  rw [perform, unset_eq_ok_iff.2 ⟨hdeclares, hopt, hok, rfl, rfl⟩]

/-! ## 4. In place -/

/-- Binds a name again to what was taken from it, if anything was. -/
def putBack (s : Store) (q : NodeId) (name : String) : Option Value → Store
  | some v =>
    let n := s.node q
    s.replace q { n with values := n.values.insert name v }
  | none => s

/-- As `unset`, but the value is taken out before the alternatives are looked for, and put back if
    there is none. -/
def unsetInPlace (s : Store) (q : NodeId) (name : String) : Store × Except QueryError Reply :=
  let n := s.node q
  match requireDeclared n.kind [name], requireOptional n.kind name with
  | .error e, _ => (s, .error e)
  | .ok (), .error e => (s, .error e)
  | .ok (), .ok () =>
    let previous := n.values.get? name
    let taken := s.replace q { n with values := n.values.erase name }
    match requireAlternative (taken.node q).kind (taken.node q).values with
    | .ok () => (taken, .ok (.previous previous))
    | .error e => (taken.putBack q name previous, .error e)

/-- Where nothing is bound to the name, what is put back is all that changes. -/
theorem rebinds_putBack (hq : s.Has q) (hnone : (s.node q).values.get? name = none)
    (held : Option Value) : s.Rebinds q name held (s.putBack q name held) := by
  cases held with
  | some v => exact rebinds_insert hq name v
  | none =>
      have hself := s.rebinds_self q name
      rwa [hnone] at hself

/-- **What is taken out and put back leaves no trace.** -/
theorem putBack_of_erase (hq : s.Has q) :
    (s.replace q ⟨(s.node q).kind, (s.node q).field, (s.node q).values.erase name⟩).putBack q name
      ((s.node q).values.get? name) = s :=
  have herase := rebinds_erase hq name
  herase.eq_of_back (rebinds_putBack (s.has_replace.2 hq) herase.held _)

/-- **Going about it in place comes to the same**, errors and stores included. -/
theorem unsetInPlace_eq_perform (hq : s.Has q) :
    s.unsetInPlace q name = s.perform (.unset q name) := by
  by_cases hdeclares : (s.node q).kind.declares name
  · by_cases hopt : name ∈ (s.node q).kind.required
    · rw [perform_unset_of_mem_required hopt, unsetInPlace,
        requireDeclared_singleton_iff.2 hdeclares, requireOptional_of_mem hopt]
    · rw [unsetInPlace, requireDeclared_singleton_iff.2 hdeclares,
        requireOptional_eq_ok_iff.2 hopt]
      simp only [node_replace_self _ hq]
      -- the test is the same, but in place it is made when the value is gone already
      cases halt : requireAlternative (s.node q).kind ((s.node q).values.erase name) with
      | ok u => rw [perform_unset_of_ok hdeclares hopt halt]
      | error e =>
          rw [perform_unset_of_error hdeclares hopt halt]
          exact Prod.ext (putBack_of_erase hq) rfl
  · rw [perform_unset_of_not_declares hdeclares, unsetInPlace,
      requireDeclared_of_not_declares hdeclares]

/-! ## 5. Exact, or none -/

/-- All that comes of `unset`, by what is wrong. -/
theorem perform_unset_cases (hn : (s.node q).WellFormed) (name : String) :
    (¬ (s.node q).kind.declares name ∧
      s.perform (.unset q name) = (s, .error (.unknownField (s.node q).kind name))) ∨
    ((s.node q).kind.declares name ∧ name ∈ (s.node q).kind.required ∧
      s.perform (.unset q name) =
        (s, .error (.invalidQuery (.unsetRequired (s.node q).kind name)))) ∨
    ((s.node q).kind.declares name ∧ name ∉ (s.node q).kind.required ∧
      ∃ e, ((s.node q).without name).build = .error e ∧
        s.perform (.unset q name) = (s, .error e)) ∨
    ((s.node q).kind.declares name ∧ name ∉ (s.node q).kind.required ∧
      ∃ m, ((s.node q).without name).build = .ok m ∧
        s.perform (.unset q name) =
          (s.replace q ⟨(s.node q).kind, (s.node q).field, (s.node q).values.erase name⟩,
            .ok (.previous ((s.node q).values.get? name)))) := by
  by_cases hdeclares : (s.node q).kind.declares name
  · by_cases hopt : name ∈ (s.node q).kind.required
    · exact .inr (.inl ⟨hdeclares, hopt, perform_unset_of_mem_required hopt⟩)
    · have hbuild := hn.build_without hopt
      cases halt : requireAlternative (s.node q).kind ((s.node q).values.erase name) with
      | error e =>
          rw [halt] at hbuild
          exact .inr (.inr (.inl ⟨hdeclares, hopt, e, hbuild,
            perform_unset_of_error hdeclares hopt halt⟩))
      | ok u =>
          rw [halt] at hbuild
          exact .inr (.inr (.inr ⟨hdeclares, hopt, _, hbuild,
            perform_unset_of_ok hdeclares hopt halt⟩))
  · exact .inl ⟨hdeclares, perform_unset_of_not_declares hdeclares⟩

/-- **What `set` and `unset` come to.** `set` binds a name that is declared. `unset` frees one that
    is declared, that is not required, and without which the query would be built all the same; a
    value that it returns can be set back. Nothing else changes. When they fail, the error says what
    is wrong, and nothing changes at all. -/
theorem set_and_unset_exact (hs : s.Reachable) (hq : s.Has q) (name : String) (v : Value) :
    let n := s.node q
    let set := s.perform (.set q name v)
    let unset := s.perform (.unset q name)
    (((∃ r, set.2 = .ok r) ↔ n.kind.declares name) ∧
      (∀ r, set.2 = .ok r → s.Rebinds q name (some v) set.1) ∧
      (¬ n.kind.declares name → set = (s, .error (.unknownField n.kind name)))) ∧
    (((∃ r, unset.2 = .ok r) ↔
        n.kind.declares name ∧ name ∉ n.kind.required ∧ ∃ m, (n.without name).build = .ok m) ∧
      (∀ r, unset.2 = .ok r → r = .previous (n.values.get? name) ∧ s.Rebinds q name none unset.1 ∧
        ∀ old, n.values.get? name = some old →
          unset.1.perform (.set q name old) = (s, .ok .changed)) ∧
      (¬ n.kind.declares name → unset = (s, .error (.unknownField n.kind name))) ∧
      (name ∈ n.kind.required →
        unset = (s, .error (.invalidQuery (.unsetRequired n.kind name)))) ∧
      (n.kind.declares name → name ∉ n.kind.required →
        ∀ e, (n.without name).build = .error e → unset = (s, .error e))) ∧
    s.unsetInPlace q name = unset := by
  intro n set unset
  refine ⟨?_, ?_, unsetInPlace_eq_perform hq⟩
  · by_cases hdeclares : n.kind.declares name
    · have hset : set = _ := perform_set_of_declares v hdeclares
      refine ⟨⟨fun _ => hdeclares, fun _ => ⟨.changed, by rw [hset]⟩⟩, fun _ _ => ?_,
        fun h => absurd hdeclares h⟩
      rw [hset]
      exact rebinds_insert hq name v
    · have hset : set = _ := perform_set_of_not_declares v hdeclares
      rw [hset]
      exact ⟨⟨nofun, fun h => absurd h hdeclares⟩, nofun, fun _ => rfl⟩
  · rcases perform_unset_cases (hs.wellFormed q) name with ⟨hd, hunset⟩ | ⟨hd, hr, hunset⟩ |
      ⟨hd, hr, e, hb, hunset⟩ | ⟨hd, hr, m, hb, hunset⟩
    · rw [show unset = _ from hunset]
      exact ⟨⟨nofun, fun h => absurd h.1 hd⟩, nofun, fun _ => rfl,
        fun h => absurd (Kind.declares_of_mem_required h) hd, fun h => absurd h hd⟩
    · rw [show unset = _ from hunset]
      exact ⟨⟨nofun, fun h => absurd hr h.2.1⟩, nofun, fun h => absurd hd h, fun _ => rfl,
        fun _ h => absurd hr h⟩
    · rw [show unset = _ from hunset]
      refine ⟨⟨nofun, fun ⟨_, _, m, hm⟩ => ?_⟩, nofun, fun h => absurd hd h, fun h => absurd h hr,
        fun _ _ e' he' => ?_⟩
      · cases hb.symm.trans hm
      · cases hb.symm.trans he'
        rfl
    · rw [show unset = _ from hunset]
      refine ⟨⟨fun _ => ⟨hd, hr, m, hb⟩, fun _ => ⟨_, rfl⟩⟩, fun r hreply => ?_,
        fun h => absurd hd h, fun h => absurd h hr, fun _ _ e' he' => ?_⟩
      · cases hreply
        have herase := rebinds_erase hq name
        refine ⟨rfl, herase, fun old hold => ?_⟩
        rw [perform, herase.set_back hq hd hold]
      · cases hb.symm.trans he'

/-- The diamond, where the outermost query has another query beside its filter. -/
def spare : Store := (diamond.perform (.set ⟨2⟩ "query" (.node ⟨0⟩))).1

/-- In the diamond the filter cannot be freed, as it is the only one of two alternatives. With the
    other beside it it can, and it can be set back. -/
theorem set_and_unset_exact_diamond :
    diamond.Reachable ∧ diamond.Has ⟨2⟩ ∧
    (diamond.perform (.unset ⟨2⟩ "filter") =
        (diamond, .error (.invalidQuery (.noAlternative .constantScore "filter" "query"))) ∧
      diamond.unsetInPlace ⟨2⟩ "filter" = diamond.perform (.unset ⟨2⟩ "filter")) ∧
    diamond.perform (.set ⟨2⟩ "must" (.node ⟨0⟩)) =
      (diamond, .error (.unknownField .constantScore "must")) ∧
    diamond.Rebinds ⟨2⟩ "query" (some (.node ⟨0⟩)) spare ∧
    spare.Reachable ∧ spare.Has ⟨2⟩ ∧
    ∃ s', spare.perform (.unset ⟨2⟩ "filter") = (s', .ok (.previous (some (.node ⟨1⟩)))) ∧
      spare.Rebinds ⟨2⟩ "filter" none s' ∧
      s'.perform (.set ⟨2⟩ "filter" (.node ⟨1⟩)) = (spare, .ok .changed) := by
  have hq : diamond.Has ⟨2⟩ := by decide +kernel
  have hspare : spare.Reachable :=
    reachable_diamond.set "query" (by decide +kernel) (by decide +kernel)
  have hq' : spare.Has ⟨2⟩ := by decide +kernel
  obtain ⟨-, hfilter, hinPlace⟩ := set_and_unset_exact reachable_diamond hq "filter" (.bool true)
  obtain ⟨hmust, -, -⟩ := set_and_unset_exact reachable_diamond hq "must" (.node ⟨0⟩)
  obtain ⟨hquery, -, -⟩ := set_and_unset_exact reachable_diamond hq "query" (.node ⟨0⟩)
  obtain ⟨-, hfreed, -⟩ := set_and_unset_exact hspare hq' "filter" (.bool true)
  have hold : spare.perform (.unset ⟨2⟩ "filter") = (_, .ok (.previous (some (.node ⟨1⟩)))) := rfl
  obtain ⟨-, hrebinds, hback⟩ := hfreed.2.1 (.previous (some (.node ⟨1⟩))) rfl
  exact ⟨reachable_diamond, hq, ⟨hfilter.2.2.2.2 (by decide +kernel) (by decide +kernel) _ rfl,
    hinPlace⟩, hmust.2.2 (by decide +kernel), hquery.2.1 .changed rfl, hspare, hq',
    _, hold, hrebinds, hback _ rfl⟩

end Store

end SearchQuery
