import Mathlib.Logic.Relation
import SearchQuery.Proofs.Graph
import SearchQuery.Proofs.Operations

/-!
# Sessions

A session is a client at work: it begins builders and makes calls on them, builds queries, copies
handles, and changes queries by `set` and `unset`, in any order and as often as it likes. The
handles it uses are those it was given, so that they lead to queries.

* `Session.Step` is one thing that a client does, `Session.Reachable` what a run of them leads to
  from nothing, and `Store.Reachable` a store that some run leads to; `Session.RunBy` are the runs
  that do only certain things to the store;
* **`Session.Sound` is the invariant of runs**: every node is well formed, and no value, in a node
  or in a builder, has a handle that leads nowhere;
* a query once built stays, with its kind and its primary field (`Session.Run.keeps`).
-/

namespace SearchQuery

/-! ## 1. Handles -/

namespace Value

mutual

/-- The handles in a value, at any depth of lists. -/
def handles : Value → List NodeId
  | .node id => [id]
  | .list items => handlesOfAll items
  | _ => []

/-- The handles in values. -/
def handlesOfAll : List Value → List NodeId
  | [] => []
  | v :: vs => v.handles ++ handlesOfAll vs

end

theorem handlesOfAll_eq_flatMap : ∀ vs : List Value, handlesOfAll vs = vs.flatMap handles
  | [] => rfl
  | v :: vs => by rw [handlesOfAll, handlesOfAll_eq_flatMap vs, List.flatMap_cons]

theorem handles_list (items : List Value) : (Value.list items).handles = items.flatMap handles := by
  rw [handles, handlesOfAll_eq_flatMap]

/-- What a value holds is among its handles. -/
theorem Holds.mem_handles {v : Value} {id : NodeId} (h : v.Holds id) : id ∈ v.handles := by
  cases h with
  | node => simp [handles]
  | item hm =>
      rw [handles_list]
      exact List.mem_flatMap.2 ⟨_, hm, by simp [handles]⟩

/-- What is appended brings its own handles to those that were there. -/
theorem handles_appended {v w : Value} {held : Option Value} {id : NodeId}
    (hw : appended v held = w) (h : id ∈ w.handles) :
    id ∈ v.handles ∨ ∃ u, held = some u ∧ id ∈ u.handles := by
  subst hw
  cases held with
  | none => exact .inl (by simpa [appended, handles_list] using h)
  | some u =>
      have hu : id ∈ u.handles ∨ id ∈ v.handles := by
        cases u with
        | list items => simpa [appended, handles_list, or_and_right, exists_or] using h
        | _ => simpa [appended, handles_list] using h
      exact hu.symm.imp_right fun hu => ⟨u, rfl, hu⟩

end Value

/-- The handles that a call is given. -/
def Builder.Call.handles : Builder.Call → List NodeId
  | .set _ v | .push _ v | .query v | .filter v | .fuzziness v => v.handles
  | .setOpt _ v => (v.map Value.handles).getD []
  | .must q | .should q | .mustNot q | .positive q | .negative q | .function q => [q]
  | .boost _ | .operator _ | .minimumShouldMatch _ | .analyzer _ => []

namespace Store

variable {s s' : Store}

/-- These handles lead to queries. -/
def Knows (s : Store) (ids : List NodeId) : Prop := ∀ id ∈ ids, s.Has id

/-- The handles of all these values lead to queries. -/
def KnowsAll (s : Store) (values : Dict Value) : Prop :=
  ∀ name v, values.get? name = some v → s.Knows v.handles

instance (s : Store) (ids : List NodeId) : Decidable (s.Knows ids) :=
  inferInstanceAs (Decidable (∀ id ∈ ids, s.Has id))

theorem knowsAll_empty : s.KnowsAll ∅ := by
  intro name v h
  cases h

theorem KnowsAll.insert {values : Dict Value} (h : s.KnowsAll values) {name : String} {v : Value}
    (hv : s.Knows v.handles) : s.KnowsAll (values.insert name v) := by
  intro j w hw
  rw [Dict.get?_insert] at hw
  split at hw
  · cases hw
    exact hv
  · exact h j w hw

theorem KnowsAll.erase {values : Dict Value} (h : s.KnowsAll values) (name : String) :
    s.KnowsAll (values.erase name) := by
  intro j w hw
  rw [Dict.get?_erase] at hw
  split at hw
  · cases hw
  · exact h j w hw

/-- Handles stay good while the store grows. -/
theorem KnowsAll.mono {values : Dict Value} (h : s.KnowsAll values) (hle : s.size ≤ s'.size) :
    s'.KnowsAll values :=
  fun name v hv id hid => Nat.lt_of_lt_of_le (h name v hv id hid) hle

end Store

namespace Builder

variable {s : Store} {b : Builder}

theorem knowsAll_push (h : s.KnowsAll b.values) {name : String} {v : Value}
    (hv : s.Knows v.handles) : s.KnowsAll (b.push name v).values := by
  refine h.insert fun id hid => ?_
  rcases Value.handles_appended rfl hid with hid | ⟨u, hu, hid⟩
  · exact hv id hid
  · exact h name u hu id hid

/-- **A call brings no handles but its own.** -/
theorem knowsAll_call (h : s.KnowsAll b.values) (c : Call) (hc : s.Knows c.handles) :
    s.KnowsAll (b.call c).values := by
  have hnone : ∀ v : Value, v.handles = [] → s.Knows v.handles := by
    intro v hv id hid
    rw [hv] at hid
    cases hid
  cases c with
  | set name v => exact h.insert hc
  | setOpt name v =>
      cases v with
      | none => exact h
      | some v => exact h.insert hc
  | push name v => exact knowsAll_push h hc
  | boost x => exact h.insert (hnone _ rfl)
  | query v => exact h.insert hc
  | filter v => exact h.insert hc
  | must q => exact knowsAll_push h hc
  | should q => exact knowsAll_push h hc
  | mustNot q => exact knowsAll_push h hc
  | positive q => exact h.insert hc
  | negative q => exact h.insert hc
  | function q => exact knowsAll_push h hc
  | fuzziness v => exact h.insert hc
  | operator o => exact h.insert (hnone _ rfl)
  | minimumShouldMatch m => exact h.insert (hnone _ (by cases m <;> rfl))
  | analyzer name => exact h.insert (hnone _ rfl)

/-- What is built holds no handles but those of its builder. -/
theorem knowsAll_of_build (h : s.KnowsAll b.values) {n : Node} (hn : b.build = .ok n) :
    s.KnowsAll n.values := by
  intro name v hv
  rcases get?_of_build hn hv with hcollected | ⟨text, rfl⟩
  · exact h name v hcollected
  · intro id hid
    cases hid

end Builder

/-! ## 2. Steps and runs -/

/-- What a client works with: the store, and the builders it has. -/
structure Session where
  store : Store
  builders : List Builder

namespace Session

/-- A client at the beginning. -/
def start : Session := ⟨∅, []⟩

/-- A client may take this action: it builds a builder it has, and uses handles it was given. -/
def Allows (x : Session) : Store.Action → Prop
  | .build b => b ∈ x.builders
  | .set id _ v => x.store.Has id ∧ x.store.Knows v.handles
  | .unset id _ => x.store.Has id

/-- One thing that a client does. -/
inductive Step : Session → Session → Prop where
  /-- It begins a builder. -/
  | new (x : Session) (kind : Kind) : Step x ⟨x.store, .new kind :: x.builders⟩
  /-- It begins a builder of a query that is keyed by a document field. -/
  | forField (x : Session) (kind : Kind) (field : String) :
      Step x ⟨x.store, .forField kind field :: x.builders⟩
  /-- It makes a call on a builder, or on a copy of one. -/
  | call {x : Session} {b : Builder} (hb : b ∈ x.builders) (c : Builder.Call)
      (hc : x.store.Knows c.handles) : Step x ⟨x.store, b.call c :: x.builders⟩
  /-- It copies a handle, which leads to the same query. -/
  | copy (x : Session) (id : NodeId) (h : x.store.Has id) : Step x x
  /-- It builds, sets or unsets, with success or without. -/
  | perform {x : Session} {a : Store.Action} (h : x.Allows a) :
      Step x ⟨(x.store.perform a).1, x.builders⟩

/-- From one moment of a session to a later one. -/
def Run : Session → Session → Prop := Relation.ReflTransGen Step

/-- Sessions that runs from the beginning lead to. -/
def Reachable (x : Session) : Prop := Run start x

/-- One thing that a client does, where it does to the store only what `P` allows. -/
inductive StepBy (P : Store → Store.Action → Prop) : Session → Session → Prop where
  /-- It works on its builders, or copies a handle. -/
  | aside {x y : Session} (h : Step x y) (hstore : y.store = x.store) : StepBy P x y
  /-- It builds, sets or unsets. -/
  | perform {x : Session} {a : Store.Action} (h : x.Allows a) (hP : P x.store a) :
      StepBy P x ⟨(x.store.perform a).1, x.builders⟩

/-- From one moment of a session to a later one, where only what `P` allows is done to the store. -/
def RunBy (P : Store → Store.Action → Prop) : Session → Session → Prop :=
  Relation.ReflTransGen (StepBy P)

end Session

/-- Stores that runs lead to. -/
def Store.Reachable (s : Store) : Prop := ∃ builders, Session.Reachable ⟨s, builders⟩

/-! ## 3. Nodes of a changed store -/

namespace Store

variable (s : Store)

theorem has_add {n : Node} {id : NodeId} : (s.add n).Has id ↔ s.Has id ∨ id = s.next := by
  have hnext : id = s.next ↔ id.index = s.size := by
    cases id
    simp [next]
  rw [hnext]
  show id.index < (s.add n).size ↔ id.index < s.size ∨ id.index = s.size
  rw [size_add]
  omega

theorem has_replace {j : NodeId} {n : Node} {id : NodeId} : (s.replace j n).Has id ↔ s.Has id := by
  show id.index < (s.replace j n).size ↔ id.index < s.size
  rw [size_replace]

theorem node_of_not_has {id : NodeId} (h : ¬ s.Has id) : s.node id = default := by
  have hsize : ¬ id.index < s.nodes.size := h
  simp [node, hsize]

theorem node_add_cases (n : Node) (id : NodeId) :
    (s.add n).node id = n ∨ (s.add n).node id = s.node id := by
  by_cases hold : s.Has id
  · exact .inr (node_add n hold)
  · by_cases hnext : id = s.next
    · rw [hnext]
      exact .inl (s.node_add_next n)
    · have hadd : ¬ (s.add n).Has id := fun h => (s.has_add.1 h).elim hold hnext
      exact .inr (by rw [node_of_not_has _ hadd, node_of_not_has _ hold])

theorem node_replace_cases (id : NodeId) (n : Node) (j : NodeId) :
    (s.replace id n).node j = s.node j ∨ j = id ∧ (s.replace id n).node j = n := by
  by_cases hj : j = id
  · subst hj
    by_cases h : s.Has j
    · exact .inr ⟨rfl, node_replace_self n h⟩
    · have hreplace : ¬ (s.replace j n).Has j := fun h' => h (s.has_replace.1 h')
      exact .inl (by rw [node_of_not_has _ hreplace, node_of_not_has _ h])
  · exact .inl (s.node_replace_ne n hj)

/-- An action never makes the store smaller. -/
theorem size_le_size_perform (a : Action) : s.size ≤ (s.perform a).1.size := by
  rcases s.perform_cases a with ⟨e, h, -⟩ | ⟨b, n, -, -, h⟩ | ⟨id, name, v, -, -, h⟩ |
    ⟨id, name, -, -, -, h⟩ <;> simp [h]

/-- **What holds of every node after an action**: what held before, if a built node has it and a
    node that is set or unset keeps it. -/
theorem node_perform {P : Node → Prop} {a : Action} (hold : ∀ id, P (s.node id))
    (hbuild : ∀ b n, a = .build b → b.build = .ok n → P n)
    (hset : ∀ id name v, a = .set id name v → (s.node id).kind.declares name →
      P ⟨(s.node id).kind, (s.node id).field, (s.node id).values.insert name v⟩)
    (hunset : ∀ id name, a = .unset id name → name ∉ (s.node id).kind.required →
      requireAlternative (s.node id).kind ((s.node id).values.erase name) = .ok () →
      P ⟨(s.node id).kind, (s.node id).field, (s.node id).values.erase name⟩) (j : NodeId) :
    P ((s.perform a).1.node j) := by
  rcases s.perform_cases a with ⟨e, h, -⟩ | ⟨b, n, ha, hn, h⟩ | ⟨id, name, v, ha, hd, h⟩ |
    ⟨id, name, ha, hopt, halt, h⟩ <;> simp only [h]
  · exact hold j
  · rcases s.node_add_cases n j with hj | hj <;> rw [hj]
    · exact hbuild b n ha hn
    · exact hold j
  · rcases s.node_replace_cases id _ j with hj | ⟨-, hj⟩ <;> rw [hj]
    · exact hold j
    · exact hset id name v ha hd
  · rcases s.node_replace_cases id _ j with hj | ⟨-, hj⟩ <;> rw [hj]
    · exact hold j
    · exact hunset id name ha hopt halt

variable {s}

/-- What is built is there, of the kind and with the primary field of its builder. -/
theorem has_of_build {s' : Store} {b : Builder} {q : NodeId} (h : s.build b = .ok (s', q)) :
    s'.Has q ∧ (s'.node q).kind = b.kind ∧ (s'.node q).field = b.field := by
  obtain ⟨n, hn, rfl, rfl⟩ := build_eq_ok_iff.1 h
  obtain ⟨-, -, -, -, rfl⟩ := Builder.build_eq_ok_iff.1 hn
  rw [node_add_next]
  exact ⟨s.has_add.2 (.inr rfl), rfl, rfl⟩

theorem WellFormed.build (hs : s.WellFormed) {s' : Store} {b : Builder} {q : NodeId}
    (h : s.build b = .ok (s', q)) : s'.WellFormed := by
  intro p
  obtain ⟨n, hn, rfl, -⟩ := build_eq_ok_iff.1 h
  rcases s.node_add_cases n p with hp | hp <;> rw [hp]
  · exact Builder.wellFormed_of_build hn
  · exact hs p

/-- An action leaves every query its kind and its primary field. -/
theorem perform_keeps (a : Action) {j : NodeId} (hj : s.Has j) :
    (s.perform a).1.Has j ∧ ((s.perform a).1.node j).kind = (s.node j).kind ∧
      ((s.perform a).1.node j).field = (s.node j).field := by
  refine ⟨Nat.lt_of_lt_of_le hj (s.size_le_size_perform a), ?_⟩
  rcases s.perform_cases a with ⟨e, h, -⟩ | ⟨b, n, -, -, h⟩ | ⟨id, name, v, -, -, h⟩ |
    ⟨id, name, -, -, -, h⟩ <;> simp only [h]
  · trivial
  · rw [node_add n hj]
    trivial
  · rcases s.node_replace_cases id _ j with hj | ⟨rfl, hj⟩ <;> rw [hj] <;> trivial
  · rcases s.node_replace_cases id _ j with hj | ⟨rfl, hj⟩ <;> rw [hj] <;> trivial

end Store

/-! ## 4. The invariant of runs -/

namespace Session

/-- **The invariant of runs**: nodes are well formed, and no handle leads nowhere. -/
structure Sound (x : Session) : Prop where
  wellFormed : x.store.WellFormed
  nodes : ∀ id, x.store.KnowsAll (x.store.node id).values
  builders : ∀ b ∈ x.builders, x.store.KnowsAll b.values

theorem Sound.closed {x : Session} (hx : x.Sound) : x.store.Closed := by
  intro p c hchild
  obtain ⟨name, v, hv, hc⟩ := hchild
  exact hx.nodes p name v hv.2 c hc.mem_handles

theorem wellFormed_default : (default : Node).WellFormed := ⟨rfl, rfl, rfl, rfl⟩

theorem sound_start : start.Sound where
  wellFormed _ := wellFormed_default
  nodes _ := Store.knowsAll_empty
  builders _ hb := absurd hb List.not_mem_nil

theorem Sound.perform {x : Session} (hx : x.Sound) {a : Store.Action} (ha : x.Allows a) :
    (⟨(x.store.perform a).1, x.builders⟩ : Session).Sound := by
  have hle := x.store.size_le_size_perform a
  refine ⟨?_, ?_, fun b hb => (hx.builders b hb).mono hle⟩
  · refine x.store.node_perform hx.wellFormed (fun b n _ hn => Builder.wellFormed_of_build hn) ?_ ?_
    · exact fun id _ _ _ hd => (hx.wellFormed id).insert hd
    · exact fun id _ _ hopt halt => (hx.wellFormed id).erase hopt halt
  · refine x.store.node_perform (P := fun n => (x.store.perform a).1.KnowsAll n.values)
      (fun id => (hx.nodes id).mono hle) ?_ ?_ ?_
    · intro b n hb hn
      subst hb
      exact (Builder.knowsAll_of_build (hx.builders b ha) hn).mono hle
    · intro id name v hset _
      subst hset
      exact ((hx.nodes id).insert ha.2).mono hle
    · intro id name _ _ _
      exact ((hx.nodes id).erase name).mono hle

theorem Sound.step {x y : Session} (hx : x.Sound) (h : Step x y) : y.Sound := by
  have hnew : ∀ b : Builder, x.store.KnowsAll b.values →
      (⟨x.store, b :: x.builders⟩ : Session).Sound := by
    refine fun b hb => ⟨hx.wellFormed, hx.nodes, fun b' hb' => ?_⟩
    rcases List.mem_cons.1 hb' with rfl | hb'
    · exact hb
    · exact hx.builders b' hb'
  cases h with
  | new kind => exact hnew _ Store.knowsAll_empty
  | forField kind field => exact hnew _ Store.knowsAll_empty
  | call hb c hc => exact hnew _ (Builder.knowsAll_call (hx.builders _ hb) c hc)
  | copy id h => exact hx
  | perform ha => exact hx.perform ha

/-- **The invariant on every reachable session.** -/
theorem Reachable.sound {x : Session} (h : x.Reachable) : x.Sound := by
  induction h with
  | refl => exact sound_start
  | tail _ hstep ih => exact ih.step hstep

theorem StepBy.step {P : Store → Store.Action → Prop} {x y : Session} (h : StepBy P x y) :
    Step x y := by
  cases h with
  | aside h _ => exact h
  | perform h _ => exact .perform h

theorem RunBy.run {P : Store → Store.Action → Prop} {x y : Session} (h : RunBy P x y) : Run x y :=
  Relation.ReflTransGen.mono (fun _ _ => StepBy.step) _ _ h

/-- **What the allowed actions keep, a run of them keeps.** -/
theorem RunBy.keeps {P : Store → Store.Action → Prop} {I : Store → Prop} {x y : Session}
    (h : RunBy P x y) (hx : x.Reachable) (hI : I x.store)
    (hstep : ∀ z : Session, z.Reachable → I z.store → ∀ a, z.Allows a → P z.store a →
      I (z.store.perform a).1) : I y.store := by
  induction h with
  | refl => exact hI
  | @tail z w hz hlast ih =>
      cases hlast with
      | aside _ hstore => rwa [hstore]
      | perform ha hP => exact hstep z (hx.trans (RunBy.run hz)) ih _ ha hP

theorem RunBy.set {P : Store → Store.Action → Prop} {x : Session} {s : Store} {bs : List Builder}
    (h : RunBy P x ⟨s, bs⟩) {id : NodeId} (hid : s.Has id) (name : String) {v : Value}
    (hv : s.Knows v.handles) (hP : P s (.set id name v)) :
    RunBy P x ⟨(s.perform (.set id name v)).1, bs⟩ :=
  h.tail (.perform ⟨hid, hv⟩ hP)

theorem RunBy.unset {P : Store → Store.Action → Prop} {x : Session} {s : Store}
    {bs : List Builder} (h : RunBy P x ⟨s, bs⟩) {id : NodeId} (hid : s.Has id) (name : String)
    (hP : P s (.unset id name)) : RunBy P x ⟨(s.perform (.unset id name)).1, bs⟩ :=
  h.tail (.perform hid hP)

/-- A builder that is there may be called as often as one likes. -/
theorem RunBy.calls {P : Store → Store.Action → Prop} {s : Store} {bs : List Builder} {b : Builder}
    {calls : List Builder.Call} (hcalls : ∀ c ∈ calls, s.Knows c.handles) :
    ∃ bs', RunBy P ⟨s, b :: bs⟩ ⟨s, b.run calls :: bs'⟩ := by
  induction calls generalizing b bs with
  | nil => exact ⟨bs, .refl⟩
  | cons c calls ih =>
      have hcall : StepBy P ⟨s, b :: bs⟩ ⟨s, b.call c :: b :: bs⟩ :=
        .aside (.call List.mem_cons_self c (hcalls c List.mem_cons_self)) rfl
      have hrest : ∃ bs', RunBy P ⟨s, b.call c :: b :: bs⟩ ⟨s, b.run (c :: calls) :: bs'⟩ :=
        ih fun c' hc' => hcalls c' (List.mem_cons_of_mem _ hc')
      obtain ⟨bs', h⟩ := hrest
      exact ⟨bs', .head hcall h⟩

/-- A builder may be begun, called and built in one go. -/
theorem RunBy.build {P : Store → Store.Action → Prop} {x : Session} {s : Store}
    {bs : List Builder} (h : RunBy P x ⟨s, bs⟩) (kind : Kind) (field : Option String)
    (calls : List Builder.Call) (hcalls : ∀ c ∈ calls, s.Knows c.handles)
    (hP : P s (.build (Builder.run ⟨kind, field, ∅⟩ calls))) :
    ∃ bs', RunBy P x ⟨(s.perform (.build (Builder.run ⟨kind, field, ∅⟩ calls))).1, bs'⟩ := by
  have hbegin : StepBy P ⟨s, bs⟩ ⟨s, ⟨kind, field, ∅⟩ :: bs⟩ := by
    cases field with
    | none => exact .aside (.new _ kind) rfl
    | some f => exact .aside (.forField _ kind f) rfl
  obtain ⟨bs', hcall⟩ : ∃ bs', RunBy P ⟨s, ⟨kind, field, ∅⟩ :: bs⟩
      ⟨s, Builder.run ⟨kind, field, ∅⟩ calls :: bs'⟩ := RunBy.calls hcalls
  exact ⟨_, ((h.tail hbegin).trans hcall).tail (.perform List.mem_cons_self hP)⟩

/-- A step leaves every query its kind and its primary field. -/
theorem Step.keeps {x y : Session} (h : Step x y) {id : NodeId} (hid : x.store.Has id) :
    y.store.Has id ∧ (y.store.node id).kind = (x.store.node id).kind ∧
      (y.store.node id).field = (x.store.node id).field := by
  cases h with
  | perform ha => exact Store.perform_keeps _ hid
  | _ => exact ⟨hid, rfl, rfl⟩

/-- **A query once built stays**, with its kind and its primary field. -/
theorem Run.keeps {x y : Session} (h : Run x y) {id : NodeId} (hid : x.store.Has id) :
    y.store.Has id ∧ (y.store.node id).kind = (x.store.node id).kind ∧
      (y.store.node id).field = (x.store.node id).field := by
  induction h with
  | refl => exact ⟨hid, rfl, rfl⟩
  | tail _ hstep ih =>
      obtain ⟨hhas, hkind, hfield⟩ := hstep.keeps ih.1
      exact ⟨hhas, hkind.trans ih.2.1, hfield.trans ih.2.2⟩

end Session

/-! ## 5. Reachable stores -/

namespace Store.Reachable

variable {s : Store}

theorem wellFormed (h : s.Reachable) : s.WellFormed := by
  obtain ⟨_, h⟩ := h
  exact h.sound.wellFormed

theorem knowsAll (h : s.Reachable) (id : NodeId) : s.KnowsAll (s.node id).values := by
  obtain ⟨_, h⟩ := h
  exact h.sound.nodes id

theorem closed (h : s.Reachable) : s.Closed := by
  obtain ⟨_, h⟩ := h
  exact h.sound.closed

theorem empty : (∅ : Store).Reachable := ⟨[], .refl⟩

theorem set (h : s.Reachable) {id : NodeId} (name : String) {v : Value} (hid : s.Has id)
    (hv : s.Knows v.handles) : (s.perform (.set id name v)).1.Reachable := by
  obtain ⟨builders, h⟩ := h
  exact ⟨builders, h.tail (.perform ⟨hid, hv⟩)⟩

theorem unset (h : s.Reachable) {id : NodeId} (name : String) (hid : s.Has id) :
    (s.perform (.unset id name)).1.Reachable := by
  obtain ⟨builders, h⟩ := h
  exact ⟨builders, h.tail (.perform hid)⟩

/-- What is built of known handles leads to a store that can be reached. -/
theorem build (h : s.Reachable) (kind : Kind) (field : Option String) {calls : List Builder.Call}
    (hcalls : ∀ c ∈ calls, s.Knows c.handles) :
    (s.perform (.build (Builder.run ⟨kind, field, ∅⟩ calls))).1.Reachable := by
  obtain ⟨builders, h⟩ := h
  obtain ⟨bs, hb⟩ := Session.RunBy.build (P := fun _ _ => True) (x := ⟨s, builders⟩) .refl kind
    field calls hcalls trivial
  exact ⟨bs, h.trans hb.run⟩

end Store.Reachable

/-! ## 6. Two stores to look at -/

namespace Store

/-- A term query, a Boolean query that it stands in twice, and a query around that. -/
def diamond : Store :=
  let term : Builder := .run ⟨.term, some "user", ∅⟩ [.set "value" (.text "kimchy")]
  let bool : Builder := .run ⟨.bool, none, ∅⟩ [.must ⟨0⟩, .should ⟨0⟩]
  let outer : Builder := .run ⟨.constantScore, none, ∅⟩ [.filter (.node ⟨1⟩)]
  (((perform ∅ (.build term)).1.perform (.build bool)).1.perform (.build outer)).1

/-- The same, with the outermost query put into the one in the middle. -/
def loop : Store := (diamond.perform (.set ⟨1⟩ "must_not" (.list [.node ⟨2⟩]))).1

/-- Nothing but building leads to the diamond. -/
theorem exists_runBy_diamond {P : Store → Action → Prop} (hP : ∀ s b, P s (.build b)) :
    ∃ bs, Session.RunBy P Session.start ⟨diamond, bs⟩ := by
  have hstart : Session.RunBy P Session.start ⟨∅, []⟩ := .refl
  obtain ⟨_, hterm⟩ := hstart.build .term (some "user") [.set "value" (.text "kimchy")]
    (by decide +kernel) (hP _ _)
  obtain ⟨_, hbool⟩ := hterm.build .bool none [.must ⟨0⟩, .should ⟨0⟩] (by decide +kernel) (hP _ _)
  exact hbool.build .constantScore none [.filter (.node ⟨1⟩)] (by decide +kernel) (hP _ _)

theorem reachable_diamond : diamond.Reachable := by
  obtain ⟨bs, h⟩ := exists_runBy_diamond (P := fun _ _ => True) fun _ _ => trivial
  exact ⟨bs, h.run⟩

theorem reachable_loop : loop.Reachable :=
  reachable_diamond.set "must_not" (by decide +kernel) (by decide +kernel)

end Store

end SearchQuery
