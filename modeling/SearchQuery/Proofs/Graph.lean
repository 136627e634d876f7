import Mathlib.Data.List.Chain
import Mathlib.Data.List.Nodup
import Mathlib.Data.List.Perm.Subperm
import Mathlib.Logic.Relation
import SearchQuery.Generation

/-!
# The graph of queries

A query holds other queries, and only some of what it holds is laid out in its clause. This file
fixes the graph that generation walks:

* the walked fields of a kind are the declared ones; a more-like-this clause on one field leaves
  out the first two (`Kind.walked`);
* a query is a child of another if a walked field of the other holds it, by itself or as an item of
  a list (`Store.Child`), and a value has a fault if JSON has no form for it (`Value.HasFault`);
* a chain goes from child to child (`Store.IsChain`). Below a cycle there are chains of any length
  (`Store.CycleBelow.exists_isChain`); where no cycle is, a chain meets no query twice
  (`Store.IsChain.nodup`), so that it is no longer than the store allows.
-/

namespace SearchQuery

/-! ## 1. Walked fields and what they hold -/

/-- The fields whose values stand in the clause of a query of the kind. -/
def Kind.walked (k : Kind) : List String :=
  if k = .moreLikeThisField then k.fields.drop 2 else k.fields

/-- A walked field of a node, with the value it holds. -/
def Node.Walks (n : Node) (name : String) (v : Value) : Prop :=
  name ∈ n.kind.walked ∧ n.values.get? name = some v

/-- A value holds a query: it is one, or it is a list with one among its items. -/
inductive Value.Holds : Value → NodeId → Prop where
  | node (id : NodeId) : Holds (.node id) id
  | item {items : List Value} {id : NodeId} (h : .node id ∈ items) : Holds (.list items) id

/-- A value has a fault: it is a number that is not finite, or a list with such a number or with a
    list among its items. -/
inductive Value.HasFault : Value → ValueFault → Prop where
  | nonFinite {x : Float} (h : x.isFinite = false) : HasFault (.float x) (.nonFinite x)
  | nonFiniteItem {items : List Value} {x : Float} (hm : .float x ∈ items)
      (h : x.isFinite = false) : HasFault (.list items) (.nonFinite x)
  | nestedList {items inner : List Value} (hm : .list inner ∈ items) :
      HasFault (.list items) .nestedList

/-- A walked field of the node holds a value with a fault. -/
def Node.Faulty (n : Node) : Prop := ∃ name v fault, n.Walks name v ∧ v.HasFault fault

namespace Store

variable (s : Store)

/-- A query stands in a walked field of another, by itself or in a list. -/
def Child (p c : NodeId) : Prop := ∃ name v, (s.node p).Walks name v ∧ v.Holds c

/-- One query is another, or stands in it at some depth. -/
def Reaches : NodeId → NodeId → Prop := Relation.ReflTransGen s.Child

/-- A chain of queries from a first one: each is a child of the one before it. -/
inductive IsChain : NodeId → List NodeId → Prop where
  | single (r : NodeId) : IsChain r [r]
  | cons {p c : NodeId} {ids : List NodeId} (hc : s.Child p c) (h : IsChain c ids) :
      IsChain p (p :: ids)

/-- Somewhere below a query, the query itself included, one stands below itself. -/
def CycleBelow (r : NodeId) : Prop := ∃ m, s.Reaches r m ∧ Relation.TransGen s.Child m m

/-- No query below this one, itself included, holds a value with a fault in a walked field. -/
def Supported (r : NodeId) : Prop := ∀ m, s.Reaches r m → ¬ (s.node m).Faulty

/-- Every query holds what its kind allows and needs. -/
def WellFormed : Prop := ∀ id, (s.node id).WellFormed

/-- Queries only hold queries that there are. -/
def Closed : Prop := ∀ p c, s.Child p c → s.Has c

variable {s : Store}

theorem Supported.child {p c : NodeId} (h : s.Supported p) (hc : s.Child p c) : s.Supported c :=
  fun m hm => h m (.head hc hm)

/-! ## 2. Chains -/

/-- Whatever is on a chain can be reached from where it begins. -/
theorem IsChain.reaches {r a : NodeId} {ids : List NodeId} (h : s.IsChain r ids) (ha : a ∈ ids) :
    s.Reaches r a := by
  induction h with
  | single p =>
      rw [List.mem_singleton.1 ha]
      exact .refl
  | cons hc _ ih =>
      rcases List.mem_cons.1 ha with rfl | ha
      · exact .refl
      · exact .head hc (ih ha)

/-- A chain goes on with a child of its last query. -/
theorem IsChain.snoc {r last c : NodeId} {ids : List NodeId} (h : s.IsChain r ids)
    (hlast : ids.getLast? = some last) (hc : s.Child last c) : s.IsChain r (ids ++ [c]) := by
  induction h with
  | single p =>
      cases hlast
      exact .cons hc (.single c)
  | cons hp h ih =>
      refine .cons hp (ih ?_)
      cases h <;> simpa [List.getLast?_cons_cons] using hlast

/-- A chain may stop before its last query. -/
theorem IsChain.of_snoc {r a : NodeId} {ids : List NodeId} (h : s.IsChain r (ids ++ [a]))
    (hne : ids ≠ []) : s.IsChain r ids := by
  induction ids generalizing r with
  | nil => exact absurd rfl hne
  | cons b rest ih =>
      cases rest with
      | nil =>
          cases h
          exact .single b
      | cons b' rest =>
          cases h with
          | cons hc hrest => exact .cons hc (ih hrest (List.cons_ne_nil b' rest))

/-- What can be reached is the last of a chain. -/
theorem Reaches.exists_isChain {r m : NodeId} (h : s.Reaches r m) :
    ∃ ids, s.IsChain r ids ∧ ids.getLast? = some m := by
  induction h with
  | refl => exact ⟨[r], .single r, rfl⟩
  | tail _ hc ih =>
      obtain ⟨ids, hids, hlast⟩ := ih
      exact ⟨ids ++ [_], hids.snoc hlast hc, by simp⟩

/-! ## 3. Cycles -/

/-- From above a cycle, a child is above one. -/
theorem CycleBelow.exists_child {r : NodeId} (h : s.CycleBelow r) :
    ∃ c, s.Child r c ∧ s.CycleBelow c := by
  obtain ⟨m, hreach, hcycle⟩ := h
  rcases hreach.cases_head with rfl | ⟨c, hc, hcm⟩
  · obtain ⟨c, hc, hback⟩ := Relation.TransGen.head'_iff.1 hcycle
    exact ⟨c, hc, r, hback, hcycle⟩
  · exact ⟨c, hc, m, hcm, hcycle⟩

/-- **Above a cycle there are chains of any length.** -/
theorem CycleBelow.exists_isChain {r : NodeId} (h : s.CycleBelow r) (n : Nat) :
    ∃ ids, s.IsChain r ids ∧ ids.length = n + 1 := by
  induction n generalizing r with
  | zero => exact ⟨[r], .single r, rfl⟩
  | succ n ih =>
      obtain ⟨c, hc, hbelow⟩ := h.exists_child
      obtain ⟨ids, hids, hlen⟩ := ih hbelow
      exact ⟨r :: ids, .cons hc hids, by rw [List.length_cons, hlen]⟩

theorem CycleBelow.of_child {p c : NodeId} (hc : s.Child p c) (h : s.CycleBelow c) :
    s.CycleBelow p := by
  obtain ⟨m, hreach, hcycle⟩ := h
  exact ⟨m, .head hc hreach, hcycle⟩

/-- **Where no cycle is below, a chain meets no query twice.** -/
theorem IsChain.nodup {r : NodeId} {ids : List NodeId} (h : s.IsChain r ids)
    (hacyclic : ¬ s.CycleBelow r) : ids.Nodup := by
  induction h with
  | single p => exact List.nodup_singleton p
  | @cons p c rest hc hrest ih =>
      refine List.nodup_cons.2 ⟨fun hp => hacyclic ?_, ih fun hb => hacyclic (hb.of_child hc)⟩
      exact ⟨p, .refl, .head' hc (hrest.reaches hp)⟩

/-! ## 4. Chains in a store -/

/-- A list of queries of a store, none of them twice, is no longer than the store. -/
theorem length_le_size {ids : List NodeId} (hn : ids.Nodup) (h : ∀ id ∈ ids, s.Has id) :
    ids.length ≤ s.size := by
  have hinj : Function.Injective NodeId.index := fun a b e => by cases a; cases b; simp_all
  have hsub : ids.map NodeId.index ⊆ List.range s.size := by
    intro i hi
    obtain ⟨id, hid, rfl⟩ := List.mem_map.1 hi
    exact List.mem_range.2 (h id hid)
  have := ((List.Nodup.map hinj hn).subperm hsub).length_le
  simpa using this

/-- What stands in a query of a closed store is a query of the store. -/
theorem Closed.has_of_reaches (hs : s.Closed) {r m : NodeId} (hr : s.Has r)
    (h : s.Reaches r m) : s.Has m := by
  induction h with
  | refl => exact hr
  | tail _ hc _ => exact hs _ _ hc

/-- Where no cycle is below, a chain has one query more than the store at most, and the one more
    only if it begins outside. -/
theorem Closed.length_le_of_isChain (hs : s.Closed) {r : NodeId} {ids : List NodeId}
    (h : s.IsChain r ids) (hacyclic : ¬ s.CycleBelow r) : ids.length ≤ s.size + 1 := by
  have hn := h.nodup hacyclic
  cases h with
  | single => simp
  | @cons _ c rest hc hrest =>
    have hall : ∀ id ∈ rest, s.Has id := fun id hid =>
      hs.has_of_reaches (hs _ _ hc) (hrest.reaches hid)
    have := length_le_size (List.nodup_cons.1 hn).2 hall
    rw [List.length_cons]
    omega

end Store

end SearchQuery
