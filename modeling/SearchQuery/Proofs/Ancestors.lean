import Mathlib.Logic.Function.Iterate
import SearchQuery.Proofs.Faults
import SearchQuery.Proofs.Session

/-!
# The list of ancestors

`Store.expand` is told the queries above by its caller, so there is nothing that it could fail to
put back, and it counts the levels that are left, so that it ends in any case. Here is the walk as
it is done: in single steps, with one list of ancestors for all calls, which a query is put on when
it is entered and taken off when its call ends. The limit may be any number, or none.

* **The invariant** (`Moment.Sound`): at every moment the ancestors are the queries of the open
  calls, and a chain from the root with no query twice. It is kept step by step
  (`Moment.Sound.step`).
* **A call returns** (`Store.returns_expand`), with the ancestors as it found them, whether it
  succeeds or fails, and with the outcome and the record of `Store.expand`. No limit is needed for
  that: a store has only so many queries to put on the list.

`cycle_test_ends_walk` puts this together.
-/

namespace SearchQuery

/-! ## 1. The walk in steps -/

/-- A call that has entered a query and has not ended yet. -/
structure OpenCall where
  id : NodeId
  /-- What is still to be met in the query, in order. -/
  due : List Encounter
  /-- The queries that were met, with their clauses. -/
  answers : List (NodeId × Json)

namespace OpenCall

/-- The clause that a call was given for a query. -/
def answer (c : OpenCall) (id : NodeId) : Json := (c.answers.lookup id).getD .null

/-- The call goes on with the clause of the query that is due. -/
def resume (c : OpenCall) (j : Json) : OpenCall :=
  match c.due with
  | .query id :: due => ⟨c.id, due, (id, j) :: c.answers⟩
  | _ => c

theorem id_resume (c : OpenCall) (j : Json) : (c.resume j).id = c.id := by
  unfold resume
  split <;> rfl

theorem due_resume (c : OpenCall) (j : Json) : (c.resume j).due ⊆ c.due := by
  unfold resume
  split
  · rename_i id due hdue
    rw [hdue]
    exact List.subset_cons_self _ _
  · exact List.Subset.refl _

end OpenCall

/-- What the walk is about to do. -/
inductive Control where
  /-- A query is to be expanded. -/
  | call (id : NodeId)
  /-- The innermost call goes on with what is due. -/
  | go
  /-- A call has ended, with its clause or with an error. -/
  | back (answer : Except QueryError Json)

/-- A moment of the walk. -/
structure Moment where
  /-- The queries that are being expanded, the innermost first. -/
  ancestors : List NodeId
  /-- The calls that have not ended, the innermost first. -/
  calls : List OpenCall
  /-- The record, in order. -/
  visits : List Visit
  control : Control

namespace Moment

/-- Before anything was done. -/
def first (r : NodeId) : Moment := ⟨[], [], [], .call r⟩

/-- The innermost call ends, and the innermost ancestor is taken off the list. -/
def leave (m : Moment) (answer : Except QueryError Json) : Moment :=
  { m with ancestors := m.ancestors.tail, calls := m.calls.tail, control := .back answer }

end Moment

namespace Store

/-- A query is entered, and put on the list of ancestors. -/
def enter (s : Store) (m : Moment) (id : NodeId) : Moment where
  ancestors := id :: m.ancestors
  calls := ⟨id, (s.node id).encounters, []⟩ :: m.calls
  visits := m.visits ++ [⟨id, (s.node id).kind, m.ancestors⟩]
  control := .go

/-- One step of the walk, with a limit on the number of ancestors or with none. Once the outermost
    call has ended nothing more is done. -/
def step (s : Store) (limit : Option Nat) (m : Moment) : Moment :=
  match m.control with
  | .call id =>
    if id ∈ m.ancestors then { m with control := .back (.error (.cyclic (s.node id).kind)) }
    else
      match limit.filter (· ≤ m.ancestors.length) with
      | some d => { m with control := .back (.error (.depthLimitExceeded d)) }
      | none => s.enter m id
  | .go =>
    match m.calls with
    | [] => m
    | c :: _ =>
      match c.due with
      | [] => m.leave (.ok ((s.node c.id).toJson c.answer))
      | .query id :: _ => { m with control := .call id }
      | .fault field fault :: _ => m.leave (.error (.unsupportedValue field fault))
  | .back answer =>
    match m.calls with
    | [] => m
    | c :: calls =>
      match answer with
      | .ok j => { m with calls := c.resume j :: calls, control := .go }
      | .error e => m.leave (.error e)

/-- The walk from a query, after so many steps. -/
def moment (s : Store) (limit : Option Nat) (r : NodeId) (k : Nat) : Moment :=
  (s.step limit)^[k] (.first r)

variable {s : Store} {limit : Option Nat} {r id : NodeId} {m m' m'' : Moment} {base : Nat}
  {chain : List NodeId} {calls : List OpenCall} {visits : List Visit}

theorem moment_succ (s : Store) (limit : Option Nat) (r : NodeId) (k : Nat) :
    s.moment limit r (k + 1) = s.step limit (s.moment limit r k) :=
  Function.iterate_succ_apply' _ _ _

theorem moment_add (s : Store) (limit : Option Nat) (r : NodeId) (k n : Nat) :
    s.moment limit r (k + n) = (s.step limit)^[n] (s.moment limit r k) := by
  rw [moment, Nat.add_comm, Function.iterate_add_apply]
  rfl

theorem step_call_of_mem (h : id ∈ chain) :
    s.step limit ⟨chain, calls, visits, .call id⟩ =
      ⟨chain, calls, visits, .back (.error (.cyclic (s.node id).kind))⟩ :=
  if_pos h

theorem step_call_of_full (h : id ∉ chain) :
    s.step (some chain.length) ⟨chain, calls, visits, .call id⟩ =
      ⟨chain, calls, visits, .back (.error (.depthLimitExceeded chain.length))⟩ := by
  simp [step, h, Option.filter]

theorem step_call_of_room (h : id ∉ chain) (hroom : ∀ d, limit = some d → chain.length < d) :
    s.step limit ⟨chain, calls, visits, .call id⟩ =
      s.enter ⟨chain, calls, visits, .call id⟩ id := by
  have hfree : limit.filter (· ≤ chain.length) = none := by
    cases limit with
    | none => rfl
    | some d => simpa [Option.filter] using hroom d rfl
  simp [step, h, hfree]

end Store

/-! ## 2. The ancestors at every moment -/

/-- **The invariant of the walk**: the ancestors are the queries of the open calls, and they are a
    chain from the root with no query twice and no longer than the limit. What is due in a call
    stands in its query, and so does the query that is called. -/
structure Moment.Sound (s : Store) (limit : Option Nat) (r : NodeId) (m : Moment) : Prop where
  calls : m.calls.map OpenCall.id = m.ancestors
  nodup : m.ancestors.Nodup
  chain : m.ancestors ≠ [] → s.IsChain r m.ancestors.reverse
  within : ∀ d, limit = some d → m.ancestors.length ≤ d
  due : ∀ c ∈ m.calls, c.due ⊆ (s.node c.id).encounters
  called : ∀ id, m.control = .call id → s.IsChain r (id :: m.ancestors).reverse

namespace Moment.Sound

variable {s : Store} {limit : Option Nat} {r : NodeId} {m : Moment}

theorem first (s : Store) (limit : Option Nat) (r : NodeId) : (Moment.first r).Sound s limit r where
  calls := rfl
  nodup := List.nodup_nil
  chain h := absurd rfl h
  within _ _ := Nat.zero_le _
  due _ h := absurd h List.not_mem_nil
  called id h := by
    cases h
    exact .single r

/-- A query that is entered is put on the list, where it was not before. -/
theorem enter (h : m.Sound s limit r) {id : NodeId} (hcall : m.control = .call id)
    (hfree : id ∉ m.ancestors) (hroom : ∀ d, limit = some d → m.ancestors.length < d) :
    (s.enter m id).Sound s limit r where
  calls := congrArg (id :: ·) h.calls
  nodup := List.nodup_cons.2 ⟨hfree, h.nodup⟩
  chain _ := h.called id hcall
  within := hroom
  due c hc := by
    rcases List.mem_cons.1 hc with rfl | hc
    · exact List.Subset.refl _
    · exact h.due c hc
  called _ hcall := by cases hcall

/-- **What is taken off the list is what the call put there.** -/
theorem leave (h : m.Sound s limit r) (answer : Except QueryError Json) :
    (m.leave answer).Sound s limit r where
  calls := by rw [Moment.leave, List.map_tail, h.calls]
  nodup := h.nodup.tail
  chain hne := by
    cases hm : m.ancestors with
    | nil => exact absurd (by rw [Moment.leave, hm]; rfl) hne
    | cons id above =>
        have hchain := h.chain (by rw [hm]; exact List.cons_ne_nil id above)
        rw [hm, List.reverse_cons] at hchain
        simp only [Moment.leave, hm, List.tail_cons] at hne ⊢
        exact hchain.of_snoc (mt List.reverse_eq_nil_iff.1 hne)
  within d hd := by
    have hlength := h.within d hd
    simp only [Moment.leave, List.length_tail]
    omega
  due c hc := h.due c (List.mem_of_mem_tail hc)
  called _ hcall := by cases hcall

/-- A query that is due stands in the innermost ancestor, so that it prolongs the chain. -/
theorem call (h : m.Sound s limit r) {c : OpenCall} {calls : List OpenCall}
    (hm : m.calls = c :: calls) {id : NodeId} (hdue : .query id ∈ c.due) :
    ({ m with control := .call id } : Moment).Sound s limit r := by
  refine ⟨h.calls, h.nodup, h.chain, h.within, h.due, fun id' hcall => ?_⟩
  cases hcall
  have hancestors : m.ancestors = c.id :: calls.map OpenCall.id := by
    rw [← h.calls, hm, List.map_cons]
  have hchain := h.chain (by rw [hancestors]; exact List.cons_ne_nil _ _)
  have hlast : m.ancestors.reverse.getLast? = some c.id := by
    rw [hancestors, List.reverse_cons, List.getLast?_concat]
  have hmet := h.due c (by rw [hm]; exact List.mem_cons_self) hdue
  rw [List.reverse_cons]
  exact hchain.snoc hlast (Store.query_mem_encounters.1 hmet)

theorem resume (h : m.Sound s limit r) {c : OpenCall} {calls : List OpenCall}
    (hm : m.calls = c :: calls) (j : Json) :
    ({ m with calls := c.resume j :: calls, control := .go } : Moment).Sound s limit r where
  calls := by
    show (c.resume j :: calls).map OpenCall.id = m.ancestors
    rw [← h.calls, hm, List.map_cons, List.map_cons, c.id_resume]
  nodup := h.nodup
  chain := h.chain
  within := h.within
  due c' hc' := by
    have hdue := h.due
    rw [hm] at hdue
    rcases List.mem_cons.1 hc' with rfl | hc'
    · rw [c.id_resume]
      exact List.Subset.trans (c.due_resume j) (hdue c List.mem_cons_self)
    · exact hdue c' (List.mem_cons_of_mem _ hc')
  called _ hcall := by cases hcall

theorem back (h : m.Sound s limit r) (answer : Except QueryError Json) :
    ({ m with control := .back answer } : Moment).Sound s limit r :=
  ⟨h.calls, h.nodup, h.chain, h.within, h.due, fun _ hcall => by cases hcall⟩

/-- **A step keeps the invariant.** -/
theorem step (h : m.Sound s limit r) : (s.step limit m).Sound s limit r := by
  unfold Store.step
  split
  · rename_i id hcall
    split
    · exact h.back _
    · rename_i hfree
      split
      · exact h.back _
      · rename_i hroom
        refine h.enter hcall hfree fun d hd => ?_
        rw [hd] at hroom
        simpa [Option.filter] using hroom
  · split
    · exact h
    · rename_i c calls hm
      split
      · exact h.leave _
      · rename_i id due hdue
        exact h.call hm (hdue ▸ List.mem_cons_self)
      · exact h.leave _
  · split
    · exact h
    · rename_i c calls hm
      split
      · exact h.resume hm _
      · exact h.leave _

end Moment.Sound

namespace Store

variable {s : Store} {limit : Option Nat} {r id : NodeId} {m m' m'' : Moment} {base : Nat}
  {chain : List NodeId} {calls : List OpenCall} {visits : List Visit}

/-- **The invariant at every moment.** -/
theorem sound_moment (s : Store) (limit : Option Nat) (r : NodeId) (k : Nat) :
    (s.moment limit r k).Sound s limit r := by
  induction k with
  | zero => exact .first s limit r
  | succ k ih =>
      rw [moment_succ]
      exact ih.step

/-- The ancestors are queries of the store. -/
theorem has_of_sound (hs : s.Closed) (hr : s.Has r) (h : m.Sound s limit r) :
    ∀ a ∈ m.ancestors, s.Has a := by
  intro a ha
  have hchain := h.chain (List.ne_nil_of_mem ha)
  exact hs.has_of_reaches hr (hchain.reaches (List.mem_reverse.2 ha))

/-! ## 3. Calls return -/

/-- From one moment to another, in steps that are taken with more than so many calls open. -/
inductive RunsAbove (s : Store) (limit : Option Nat) (base : Nat) : Moment → Moment → Prop where
  | refl (m : Moment) : RunsAbove s limit base m m
  | head {m m' : Moment} (h : base < m.calls.length)
      (rest : RunsAbove s limit base (s.step limit m) m') : RunsAbove s limit base m m'

namespace RunsAbove

theorem trans (h : s.RunsAbove limit base m m') (h' : s.RunsAbove limit base m' m'') :
    s.RunsAbove limit base m m'' := by
  induction h with
  | refl => exact h'
  | head hopen _ ih => exact .head hopen (ih h')

theorem mono {above : Nat} (h : s.RunsAbove limit above m m') (hle : base ≤ above) :
    s.RunsAbove limit base m m' := by
  induction h with
  | refl => exact .refl _
  | head hopen _ ih => exact .head (Nat.lt_of_le_of_lt hle hopen) ih

/-- The steps can be counted. -/
theorem exists_iterate (h : s.RunsAbove limit base m m') :
    ∃ n, (s.step limit)^[n] m = m' ∧ ∀ i < n, base < ((s.step limit)^[i] m).calls.length := by
  induction h with
  | refl => exact ⟨0, rfl, fun i hi => absurd hi (Nat.not_lt_zero i)⟩
  | head hopen _ ih =>
      obtain ⟨n, hn, hbelow⟩ := ih
      refine ⟨n + 1, hn, fun i hi => ?_⟩
      cases i with
      | zero => exact hopen
      | succ i => exact hbelow i (Nat.lt_of_succ_lt_succ hi)

end RunsAbove

/-- A call of the query returns with what the expansion says, and with the ancestors and the open
    calls as it found them. -/
def Returns (s : Store) (limit : Option Nat) (chain : List NodeId) (id : NodeId)
    (x : Expansion Json) : Prop :=
  ∀ (calls : List OpenCall) (visits : List Visit),
    s.RunsAbove limit calls.length (s.step limit ⟨chain, calls, visits, .call id⟩)
      ⟨chain, calls, visits ++ x.entered, .back x.outcome⟩

/-- **A call that has entered a query ends**, if the calls of the queries in it return. It then
    comes to what the walk makes of the queries and faults that were due. -/
theorem runsAbove_go {child : NodeId → Expansion Json} {es : List Encounter}
    {answers : List (NodeId × Json)}
    (hchild : ∀ q, .query q ∈ es → s.Returns limit (id :: chain) q (child q))
    (hanswers : ∀ q, s.Child id q → .query q ∈ es ∨ answers.lookup q = some (child q).answer) :
    s.RunsAbove limit calls.length ⟨id :: chain, ⟨id, es, answers⟩ :: calls, visits, .go⟩
      ⟨chain, calls, visits ++ (meet child es).entered,
        .back ((fun _ => (s.node id).toJson fun q => (child q).answer) <$>
          (meet child es).outcome)⟩ := by
  have hopen : calls.length < calls.length + 1 := Nat.lt_succ_self _
  induction es generalizing answers visits with
  | nil =>
      have hjson : (s.node id).toJson (OpenCall.answer ⟨id, [], answers⟩) =
          (s.node id).toJson fun q => (child q).answer := by
        refine toJson_node_congr fun q hq => ?_
        rcases hanswers q hq with h | h
        · cases h
        · rw [OpenCall.answer, h]
          rfl
      rw [← hjson, meet, Expansion.entered_pure, List.append_nil]
      exact .head hopen (.refl _)
  | cons e es ih =>
      cases e with
      | fault field fault =>
          rw [meet, Expansion.entered_fail, List.append_nil]
          exact .head hopen (.refl _)
      | query q =>
          -- the call is made, returns, and is answered for
          have hq := hchild q List.mem_cons_self (⟨id, .query q :: es, answers⟩ :: calls) visits
          refine .head hopen (.head hopen ((hq.mono (Nat.le_succ _)).trans (.head hopen ?_)))
          cases hout : (child q).outcome with
          | error e =>
              rw [meet, Expansion.entered_bind_of_error hout, Expansion.outcome_bind, hout]
              exact .refl _
          | ok j =>
              rw [meet, Expansion.entered_bind_of_ok hout, Expansion.outcome_bind, hout,
                ← List.append_assoc]
              refine ih (fun q' hq' => hchild q' (List.mem_cons_of_mem _ hq')) fun q' hq' => ?_
              by_cases hsame : q' = q
              · subst hsame
                exact .inr (by simp [Expansion.answer, hout, Except.toOption])
              · rcases hanswers q' hq' with h | h
                · rcases List.mem_cons.1 h with he | h
                  · cases he
                    exact absurd rfl hsame
                  · exact .inl h
                · have hne : (q' == q) = false := by simpa using hsame
                  rw [List.lookup_cons, hne]
                  exact .inr h

/-- A query that is not entered is answered for at once. -/
theorem returns_of_step {e : QueryError} (h : ∀ (calls : List OpenCall) (visits : List Visit),
      s.step limit ⟨chain, calls, visits, .call id⟩ = ⟨chain, calls, visits, .back (.error e)⟩) :
    s.Returns limit chain id (.fail e) := by
  intro calls visits
  rw [h, Expansion.entered_fail, List.append_nil]
  exact .refl _

/-- A query that is entered is answered for by its clause. -/
theorem returns_of_enter (hid : (s.node id).WellFormed) (hfree : id ∉ chain)
    (hroom : ∀ d, limit = some d → chain.length < d) {child : NodeId → Expansion Json}
    (hchild : ∀ q, s.Child id q → s.Returns limit (id :: chain) q (child q)) :
    s.Returns limit chain id
      (.enter ⟨id, (s.node id).kind, chain⟩ ((s.node id).clause child)) := by
  intro calls visits
  rw [step_call_of_room hfree hroom, Expansion.entered_enter, Expansion.outcome_enter,
    Node.clause_eq _ hid, Expansion.entered_map, Expansion.outcome_map, List.append_cons]
  exact runsAbove_go (fun q hq => hchild q (query_mem_encounters.1 hq))
    fun q hq => .inl (query_mem_encounters.2 hq)

/-- **A call returns** with the outcome and the record of `Store.expand`. Where there is no limit,
    the number of queries serves as one: it is never reached, as no query is on the list twice. -/
theorem returns_expand (hs : s.WellFormed) (hclosed : s.Closed) {d : Nat}
    (hlimit : limit = some d ∨ limit = none ∧ s.size ≤ d) {room : Nat}
    (hroom : chain.length + room = d) (hnodup : chain.Nodup) (hhas : ∀ a ∈ chain, s.Has a)
    (hid : s.Has id) : s.Returns limit chain id (s.expand d room chain id) := by
  induction room generalizing chain id with
  | zero =>
      unfold expand
      by_cases h : id ∈ chain
      · rw [if_pos h]
        exact returns_of_step fun _ _ => step_call_of_mem h
      · rw [if_neg h]
        rcases hlimit with rfl | ⟨-, hsize⟩
        · obtain rfl : chain.length = d := hroom
          exact returns_of_step fun _ _ => step_call_of_full h
        · -- one query more than there are would be on the list
          have hlength : (id :: chain).length ≤ s.size :=
            length_le_size (List.nodup_cons.2 ⟨h, hnodup⟩) (List.forall_mem_cons.2 ⟨hid, hhas⟩)
          rw [List.length_cons] at hlength
          omega
  | succ room ih =>
      unfold expand
      by_cases h : id ∈ chain
      · rw [if_pos h]
        exact returns_of_step fun _ _ => step_call_of_mem h
      · rw [if_neg h]
        have hfree : ∀ d', limit = some d' → chain.length < d' := by
          intro d' hd'
          rcases hlimit with h' | ⟨h', -⟩ <;> rw [hd'] at h' <;> cases h'
          omega
        have hlength : (id :: chain).length + room = d := by
          rw [List.length_cons]
          omega
        exact returns_of_enter (hs id) h hfree fun q hq => ih hlength
          (List.nodup_cons.2 ⟨h, hnodup⟩) (List.forall_mem_cons.2 ⟨hid, hhas⟩) (hclosed id q hq)

/-- Nothing is done after the end. -/
theorem moment_of_le {n k : Nat} {answer : Except QueryError Json}
    (h : s.moment limit r n = ⟨[], [], visits, .back answer⟩) (hk : n ≤ k) :
    s.moment limit r k = ⟨[], [], visits, .back answer⟩ := by
  obtain ⟨i, rfl⟩ := Nat.exists_eq_add_of_le hk
  rw [moment_add, h]
  exact Function.iterate_fixed rfl i

/-- Every limit comes to a number that the walk can be given in its place. -/
theorem exists_depth (s : Store) (limit : Option Nat) :
    ∃ d, limit = some d ∨ limit = none ∧ s.size ≤ d := by
  cases limit with
  | none => exact ⟨s.size, .inr ⟨rfl, Nat.le_refl _⟩⟩
  | some d => exact ⟨d, .inl rfl⟩

section Walk

variable (hs : s.Reachable) (hr : s.Has r)

include hs hr

/-- There are no more ancestors than queries. -/
theorem length_ancestors_le (h : m.Sound s limit r) : m.ancestors.length ≤ s.size :=
  length_le_size h.nodup (has_of_sound hs.closed hr h)

/-- **The walk ends**, and comes to the outcome and the record of `Store.expand`. -/
theorem exists_moment_eq {d : Nat} (hd : limit = some d ∨ limit = none ∧ s.size ≤ d) :
    ∃ n, ∀ k, n ≤ k → s.moment limit r k =
      ⟨[], [], (s.expand d d [] r).entered, .back (s.expand d d [] r).outcome⟩ := by
  have hreturns : s.Returns limit [] r (s.expand d d [] r) :=
    returns_expand hs.wellFormed hs.closed hd (Nat.zero_add d) List.nodup_nil
      (fun _ ha => absurd ha List.not_mem_nil) hr
  obtain ⟨n, hn, -⟩ := (hreturns [] []).exists_iterate
  have hend : s.moment limit r (n + 1) = _ := hn
  exact ⟨n + 1, fun k hk => moment_of_le hend hk⟩

/-- At a sound moment a call returns. -/
theorem exists_returns (h : m.Sound s limit r) (hm : m.control = .call id) :
    ∃ x, s.Returns limit m.ancestors id x := by
  have hlength := length_ancestors_le hs hr h
  have hid : s.Has id := hs.closed.has_of_reaches hr
    ((h.called id hm).reaches (List.mem_reverse.2 List.mem_cons_self))
  obtain ⟨d, hd⟩ := exists_depth s limit
  have hroom : m.ancestors.length + (d - m.ancestors.length) = d := by
    rcases hd with hd | ⟨-, hd⟩
    · have hwithin := h.within d hd
      omega
    · omega
  exact ⟨_, returns_expand hs.wellFormed hs.closed hd hroom h.nodup (has_of_sound hs.closed hr h)
    hid⟩

/-- **Every call of the walk returns**, with the list of ancestors as it found it; until then more
    calls are open. -/
theorem exists_return {k : Nat} (hk : (s.moment limit r k).control = .call id) :
    ∃ n answer, k < n ∧ (s.moment limit r n).control = .back answer ∧
      (s.moment limit r n).ancestors = (s.moment limit r k).ancestors ∧
      (s.moment limit r n).calls = (s.moment limit r k).calls ∧
      ∀ i, k < i → i < n →
        (s.moment limit r k).calls.length < (s.moment limit r i).calls.length := by
  obtain ⟨x, hreturns⟩ := exists_returns hs hr (sound_moment s limit r k) hk
  have hruns := hreturns (s.moment limit r k).calls (s.moment limit r k).visits
  rw [← hk, ← moment_succ] at hruns
  obtain ⟨n, hn, hopen⟩ := hruns.exists_iterate
  rw [← moment_add] at hn
  refine ⟨k + 1 + n, x.outcome, by omega, by rw [hn], by rw [hn], by rw [hn], fun i hki hin => ?_⟩
  obtain ⟨j, rfl⟩ := Nat.exists_eq_add_of_le (show k + 1 ≤ i from hki)
  rw [moment_add]
  exact hopen j (by omega)

end Walk

/-- **The cycle test alone ends the walk**, whatever the limit is and if there is none. At every
    moment the ancestors are queries of the store, no two of them the same, and a chain from the
    root; so no more calls are open than there are queries, nor than the limit. Every call returns
    with the list of ancestors as it found it, with a clause or with an error. The walk therefore
    ends; with the limit of the settings, or with none where they allow as many levels as there are
    queries, its outcome is the clause. -/
theorem cycle_test_ends_walk (hs : s.Reachable) (hr : s.Has r) (limit : Option Nat) :
    (∀ k, let m := s.moment limit r k
      m.ancestors.Nodup ∧ (∀ a ∈ m.ancestors, s.Has a) ∧
        (m.ancestors ≠ [] → s.IsChain r m.ancestors.reverse) ∧
        m.calls.map OpenCall.id = m.ancestors ∧ m.calls.length ≤ s.size ∧
        ∀ d, limit = some d → m.calls.length ≤ d) ∧
    (∀ k id, (s.moment limit r k).control = .call id → ∃ n answer, k < n ∧
      (s.moment limit r n).control = .back answer ∧
      (s.moment limit r n).ancestors = (s.moment limit r k).ancestors ∧
      (s.moment limit r n).calls = (s.moment limit r k).calls ∧
      ∀ i, k < i → i < n →
        (s.moment limit r k).calls.length < (s.moment limit r i).calls.length) ∧
    (∃ n answer visits, ∀ k, n ≤ k → s.moment limit r k = ⟨[], [], visits, .back answer⟩) ∧
    ∀ settings : Settings,
      limit = some settings.maxDepth ∨ limit = none ∧ s.size ≤ settings.maxDepth →
        ∃ n, ∀ k, n ≤ k → s.moment limit r k =
          ⟨[], [], (s.expandRoot settings r).entered, .back (s.clause settings r)⟩ := by
  refine ⟨fun k => ?_, fun k id hk => exists_return hs hr hk, ?_,
    fun settings hd => exists_moment_eq hs hr hd⟩
  · have hsound := sound_moment s limit r k
    have hlength : (s.moment limit r k).calls.length = (s.moment limit r k).ancestors.length := by
      rw [← hsound.calls, List.length_map]
    refine ⟨hsound.nodup, has_of_sound hs.closed hr hsound, hsound.chain, hsound.calls, ?_, ?_⟩
    · rw [hlength]
      exact length_ancestors_le hs hr hsound
    · intro d hd
      rw [hlength]
      exact hsound.within d hd
  · obtain ⟨d, hd⟩ := exists_depth s limit
    obtain ⟨n, hn⟩ := exists_moment_eq hs hr hd
    exact ⟨n, _, _, hn⟩

/-- In the loop three queries are being expanded at once, the term the innermost; its call returns
    with the other two on the list. The cycle test ends the walk without a limit, and with the error
    that is reported at depth three. -/
theorem cycle_test_ends_walk_loop :
    loop.Reachable ∧ loop.Has ⟨2⟩ ∧
    ((loop.moment none ⟨2⟩ 4).control = .call ⟨0⟩ ∧
      (loop.moment none ⟨2⟩ 5).ancestors = [⟨0⟩, ⟨1⟩, ⟨2⟩] ∧
      loop.IsChain ⟨2⟩ [⟨2⟩, ⟨1⟩, ⟨0⟩] ∧
      ∃ n answer, 4 < n ∧ (loop.moment none ⟨2⟩ n).control = .back answer ∧
        (loop.moment none ⟨2⟩ n).ancestors = [⟨1⟩, ⟨2⟩]) ∧
    loop.clause ⟨3, true⟩ ⟨2⟩ = .error (.cyclic .constantScore) ∧
    ∃ n visits, ∀ k, n ≤ k → loop.moment none ⟨2⟩ k =
      ⟨[], [], visits, .back (.error (.cyclic .constantScore))⟩ := by
  have hhas : loop.Has ⟨2⟩ := by decide +kernel
  obtain ⟨hmoment, hreturn, -, hclause⟩ := cycle_test_ends_walk reachable_loop hhas none
  obtain ⟨-, -, hchain, -⟩ := hmoment 5
  obtain ⟨n, answer, hn, hback, hancestors, -⟩ := hreturn 4 ⟨0⟩ rfl
  obtain ⟨last, hlast⟩ := hclause ⟨3, true⟩ (.inr ⟨rfl, by decide +kernel⟩)
  exact ⟨reachable_loop, hhas, ⟨rfl, rfl, hchain (List.cons_ne_nil _ _), n, answer, hn, hback,
    hancestors⟩, rfl, last, _, hlast⟩

end Store

end SearchQuery
