import Mathlib.Data.List.DropRight
import SearchQuery.Proofs.Composition
import SearchQuery.Proofs.Layout

/-!
# What calls collect

A builder is called in any order, and a name may be set, pushed on, and set again. What it holds in
the end is told from the calls that write it, and from nothing else:

* every call is a `Write` under one name, or writes nothing (`Builder.call_eq`), and `writesTo` are
  the writes under a name, in the order of the calls;
* **a name holds what it was last set to, and on it whatever was pushed since**
  (`Builder.get?_run`), so that nothing is lost, doubled or moved;
* **sequences with the same writes under every name make the same builder**
  (`Builder.run_eq_of_writesTo_eq`): calls on different names may change places.

`calls_lose_nothing` puts this together, and follows the clauses that are added to a Boolean query
or to a function score into the arrays of the clause that is generated.
-/

namespace SearchQuery

/-! ## 1. Writes -/

/-- What a call does to the name that it writes. -/
inductive Write where
  | set (v : Value)
  | push (v : Value)

namespace Write

/-- What the name holds afterwards, given what it held. -/
def apply (held : Option Value) : Write → Value
  | .set v => v
  | .push v => appended v held

def set? : Write → Option Value
  | .set v => some v
  | .push _ => none

def push? : Write → Option Value
  | .set _ => none
  | .push v => some v

end Write

/-- The value that was set last. -/
def lastSet? (ws : List Write) : Option Value := (ws.filterMap Write.set?).getLast?

/-- The values pushed since a value was set last, in order. -/
def pushedSince (ws : List Write) : List Value :=
  (ws.rtakeWhile fun w => w.push?.isSome).filterMap Write.push?

/-- What a name holds when values were pushed on what it held. -/
def pushedOn : Option Value → List Value → Option Value
  | held, [] => held
  | none, vs => some (.list vs)
  | some (.list items), vs => some (.list (items ++ vs))
  | some single, vs => some (.list (single :: vs))

/-- One more value pushed is one more at the end. -/
theorem pushedOn_concat (held : Option Value) (vs : List Value) (v : Value) :
    pushedOn held (vs ++ [v]) = some (appended v (pushedOn held vs)) := by
  cases vs with
  | nil =>
      cases held with
      | none => rfl
      | some u => cases u <;> rfl
  | cons w ws =>
      cases held with
      | none => rfl
      | some u => cases u <;> simp [pushedOn, appended]

/-- **What writes come to**: what was set last, and on it what was pushed since. -/
theorem foldl_apply (held : Option Value) (ws : List Write) :
    ws.foldl (fun h w => some (w.apply h)) held =
      pushedOn ((lastSet? ws).or held) (pushedSince ws) := by
  -- from the end: a value that is set there cuts off all that came before
  induction ws using List.reverseRecOn with
  | nil => rfl
  | append_singleton ws w ih =>
      rw [List.foldl_append, List.foldl_cons, List.foldl_nil, ih]
      cases w with
      | set v => simp [Write.apply, lastSet?, pushedSince, Write.set?, Write.push?, pushedOn]
      | push v =>
          have hlast : lastSet? (ws ++ [.push v]) = lastSet? ws := by
            simp [lastSet?, Write.set?]
          have hsince : pushedSince (ws ++ [.push v]) = pushedSince ws ++ [v] := by
            simp [pushedSince, Write.push?]
          rw [hlast, hsince, pushedOn_concat]
          rfl

namespace Builder

/-! ## 2. Calls -/

/-- The name that a call writes, and the write. A call to set an optional value writes nothing if
    there is none. -/
def Call.write? : Call → Option (String × Write)
  | .set name v => some (name, .set v)
  | .setOpt name v => v.map fun v => (name, .set v)
  | .push name v => some (name, .push v)
  | .boost x => some ("boost", .set (.float x))
  | .query v => some ("query", .set v)
  | .filter v => some ("filter", .set v)
  | .must q => some ("must", .push (.node q))
  | .should q => some ("should", .push (.node q))
  | .mustNot q => some ("must_not", .push (.node q))
  | .positive q => some ("positive", .set (.node q))
  | .negative q => some ("negative", .set (.node q))
  | .function q => some ("functions", .push (.node q))
  | .fuzziness v => some ("fuzziness", .set v)
  | .operator o => some ("operator", .set o.toValue)
  | .minimumShouldMatch m => some ("minimum_should_match", .set m.toValue)
  | .analyzer name => some ("analyzer", .set (.text name))

/-- The name that a call writes, if it writes one. -/
def Call.name? (c : Call) : Option String := c.write?.map (·.1)

/-- One of the calls writes the name. -/
def Writes (calls : List Call) (name : String) : Prop := ∃ c ∈ calls, c.name? = some name

/-- The writes under a name, in the order of the calls. -/
def writesTo (name : String) (calls : List Call) : List Write :=
  calls.filterMap fun c => (c.write?.filter (·.1 = name)).map (·.2)

/-- **Every call is a write, or does nothing.** -/
theorem call_eq (b : Builder) (c : Call) :
    b.call c = match c.write? with
      | some (name, w) => b.set name (w.apply (b.values.get? name))
      | none => b := by
  cases c with
  | setOpt name v => cases v <;> rfl
  | _ => rfl

theorem call_kind (b : Builder) (c : Call) : (b.call c).kind = b.kind := by
  rw [call_eq]
  split <;> rfl

theorem call_field (b : Builder) (c : Call) : (b.call c).field = b.field := by
  rw [call_eq]
  split <;> rfl

theorem writesTo_append (name : String) (calls more : List Call) :
    writesTo name (calls ++ more) = writesTo name calls ++ writesTo name more :=
  List.filterMap_append

/-- What a call writes under a name, and only that, changes what the name holds. -/
theorem get?_call (b : Builder) (c : Call) (name : String) :
    (b.call c).values.get? name =
      (writesTo name [c]).foldl (fun h w => some (w.apply h)) (b.values.get? name) := by
  rw [call_eq]
  unfold writesTo
  cases hw : c.write? with
  | none => simp [hw]
  | some e =>
      obtain ⟨j, w⟩ := e
      show (b.values.insert j (w.apply (b.values.get? j))).get? name = _
      rw [Dict.get?_insert]
      by_cases hj : j = name
      · subst hj
        simp [hw]
      · simp [hw, hj, Ne.symm hj]

/-- A name whose writes are none. -/
theorem writesTo_eq_nil_iff {name : String} {calls : List Call} :
    writesTo name calls = [] ↔ ∀ c ∈ calls, c.name? ≠ some name := by
  unfold writesTo Call.name?
  rw [List.filterMap_eq_nil_iff]
  refine forall₂_congr fun c _ => ?_
  cases c.write? <;> simp [Option.filter]

/-! ## 3. Sequences of calls -/

variable (b : Builder) (calls : List Call)

theorem run_kind : (b.run calls).kind = b.kind := by
  induction calls generalizing b with
  | nil => rfl
  | cons c calls ih => exact (ih (b.call c)).trans (b.call_kind c)

theorem run_field : (b.run calls).field = b.field := by
  induction calls generalizing b with
  | nil => rfl
  | cons c calls ih => exact (ih (b.call c)).trans (b.call_field c)

theorem get?_run_eq_foldl (name : String) :
    (b.run calls).values.get? name =
      (writesTo name calls).foldl (fun h w => some (w.apply h)) (b.values.get? name) := by
  induction calls generalizing b with
  | nil => rfl
  | cons c calls ih =>
      rw [← List.singleton_append, writesTo_append, List.foldl_append, ← get?_call]
      exact ih (b.call c)

/-- **What a name holds after calls**: what it was last set to, and on it what was pushed since. A
    name that was never set has what it held at first in the place of that. -/
theorem get?_run (name : String) :
    (b.run calls).values.get? name =
      pushedOn ((lastSet? (writesTo name calls)).or (b.values.get? name))
        (pushedSince (writesTo name calls)) := by
  rw [get?_run_eq_foldl, foldl_apply]

/-- **No call unbinds a name**: a name is bound after calls if it was before, or if one writes
    it. -/
theorem contains_run {name : String} :
    (b.run calls).values.contains name ↔ b.values.contains name ∨ Writes calls name := by
  have hwritten : Writes calls name ↔ writesTo name calls ≠ [] := by
    rw [Ne, writesTo_eq_nil_iff, Writes]
    simp
  rw [hwritten, Dict.contains, Dict.contains, get?_run_eq_foldl]
  cases writesTo name calls using List.reverseRecOn with
  | nil => simp
  | append_singleton ws w => simp

/-- **The same writes under every name make the same builder.** -/
theorem run_eq_of_writesTo_eq {calls calls' : List Call}
    (h : ∀ name, writesTo name calls = writesTo name calls') : b.run calls = b.run calls' := by
  have hvalues : (b.run calls).values = (b.run calls').values := by
    ext1 name
    rw [get?_run, get?_run, h]
  have hkind : (b.run calls).kind = (b.run calls').kind := by rw [run_kind, run_kind]
  have hfield : (b.run calls).field = (b.run calls').field := by rw [run_field, run_field]
  generalize b.run calls = x at hvalues hkind hfield ⊢
  generalize b.run calls' = y at hvalues hkind hfield ⊢
  cases x
  cases y
  cases hvalues
  cases hkind
  cases hfield
  rfl

/-- Two calls that write no name in common have the same writes in either order. -/
theorem writesTo_swap {c d : Call} (h : ∀ name, c.name? = some name → d.name? ≠ some name)
    (name : String) (before after : List Call) :
    writesTo name (before ++ c :: d :: after) = writesTo name (before ++ d :: c :: after) := by
  have hsplit : ∀ c d : Call, writesTo name (before ++ c :: d :: after) =
      writesTo name before ++
        (writesTo name [c] ++ (writesTo name [d] ++ writesTo name after)) := by
    intro c d
    rw [← writesTo_append, ← writesTo_append, ← writesTo_append]
    rfl
  rw [hsplit, hsplit]
  by_cases hc : c.name? = some name
  · have hd : writesTo name [d] = [] := writesTo_eq_nil_iff.2 (by simpa using h name hc)
    rw [hd, List.nil_append, List.nil_append]
  · have hc : writesTo name [c] = [] := writesTo_eq_nil_iff.2 (by simpa using hc)
    rw [hc, List.nil_append, List.nil_append]

/-! ## 4. Clauses added -/

/-- The name that a call adds a clause under, and the clause. -/
def Call.clause? : Call → Option (String × NodeId)
  | .must q => some ("must", q)
  | .should q => some ("should", q)
  | .mustNot q => some ("must_not", q)
  | .function q => some ("functions", q)
  | _ => none

/-- The clauses added under a name, in the order of the calls. -/
def added (name : String) (calls : List Call) : List NodeId :=
  calls.filterMap fun c => (c.clause?.filter (·.1 = name)).map (·.2)

theorem write?_of_clause? {c : Call} {e : String × NodeId} (h : c.clause? = some e) :
    c.write? = some (e.1, .push (.node e.2)) := by
  cases c <;> cases h <;> rfl

/-- Where clauses are added and nothing else is done, they are what is pushed. -/
theorem writesTo_eq_added (name : String) {calls : List Call}
    (h : ∀ c ∈ calls, c.clause?.isSome) :
    writesTo name calls = (added name calls).map fun q => .push (.node q) := by
  unfold writesTo added
  rw [List.map_filterMap]
  refine List.filterMap_congr fun c hc => ?_
  obtain ⟨e, he⟩ := Option.isSome_iff_exists.1 (h c hc)
  rw [he, write?_of_clause? he]
  by_cases hname : e.1 = name <;> simp [Option.filter, hname]

theorem pushedSince_pushes (vs : List Value) : pushedSince (vs.map .push) = vs := by
  have hall : (vs.map Write.push).rtakeWhile (fun w => w.push?.isSome) = vs.map .push :=
    List.rtakeWhile_eq_self_iff.2 fun w hw => by
      obtain ⟨v, -, rfl⟩ := List.mem_map.1 hw
      rfl
  rw [pushedSince, hall, List.filterMap_map]
  exact List.filterMap_some

/-- What a new builder holds when clauses were added to it. -/
theorem get?_run_of_clauses (kind : Kind) (field : Option String) {calls : List Call}
    (h : ∀ c ∈ calls, c.clause?.isSome) (name : String) :
    (run ⟨kind, field, ∅⟩ calls).values.get? name =
      if added name calls = [] then none else some (.nodes (added name calls)) := by
  have hwrites : writesTo name calls = ((added name calls).map Value.node).map .push := by
    rw [writesTo_eq_added name h, List.map_map]
    rfl
  have hlast : lastSet? (writesTo name calls) = none := by
    rw [hwrites, lastSet?, List.filterMap_map]
    simp [Write.set?, Function.comp_def]
  rw [get?_run, hlast, hwrites, pushedSince_pushes, Dict.get?_empty]
  cases added name calls <;> rfl

/-- A kind that forces no values is built with those that were collected. -/
theorem eq_of_build {b : Builder} {n : Node} (h : b.build = .ok n) (hforced : b.kind.forced = []) :
    n = ⟨b.kind, b.field, b.values⟩ := by
  obtain ⟨-, -, -, -, rfl⟩ := build_eq_ok_iff.1 h
  rw [allValues, forcedValues, hforced]
  rfl

end Builder

/-! ## 5. From calls to clauses -/

namespace Node

variable {n : Node} {name : String}

/-- But for a more-like-this query on one field, whatever is held is walked. -/
theorem WellFormed.walks (hn : n.WellFormed) (hlike : n.kind ≠ .moreLikeThisField) {v : Value}
    (hv : n.values.get? name = some v) : n.Walks name v := by
  have hset : name ∈ n.setFields := mem_setFields.2 (by rw [Dict.contains, hv]; rfl)
  exact ⟨Kind.mem_walked.2 ⟨hn.declares hset, fun h => absurd h hlike⟩, hv⟩

/-- Where no name is pinned and none is left out, a body has whatever is held. -/
theorem WellFormed.get?_body (hn : n.WellFormed) (hmatchAll : n.kind ≠ .matchAll)
    (hlike : n.kind ≠ .moreLikeThisField) (f : NodeId → Json) :
    (n.body f).get? name = (n.values.get? name).map (Value.toJson f) := by
  rw [Node.get?_body f fun h => absurd h hmatchAll]
  cases hv : n.values.get? name with
  | none => simp
  | some v => rw [if_pos (hn.walks hlike hv).1]

end Node

theorem Value.toJson_nodes (f : NodeId → Json) (ids : List NodeId) :
    (Value.nodes ids).toJson f = .array (ids.map f) := by
  rw [nodes, toJson, List.map_map]
  rfl

namespace Builder

open Store

/-- **The clauses that are added stand in the clause that is generated**, those of a name in one
    array and in the order of the calls, each as it is generated on its own. -/
theorem clause_of_added {s s' : Store} (hs : s.WellFormed) {kind : Kind} {field : Option String}
    (hkind : kind = .bool ∨ kind = .functionScore) {calls : List Call}
    (hclauses : ∀ c ∈ calls, c.clause?.isSome) {q : NodeId}
    (hbuild : s.build (run ⟨kind, field, ∅⟩ calls) = .ok (s', q)) {settings : Settings} {j : Json}
    (hj : s'.clause settings q = .ok j) :
    ∃ (f : NodeId → Json) (body : Dict Json), j = .single kind.tag (.ofDict body) ∧
      ∀ name, (body.get? name =
          if added name calls = [] then none else some (.array ((added name calls).map f))) ∧
        ∀ c ∈ added name calls,
          s'.clause ⟨settings.maxDepth - 1, settings.wrapRoot⟩ c = .ok (f c) := by
  obtain ⟨n, hn, rfl, rfl⟩ := Store.build_eq_ok_iff.1 hbuild
  have hkinds : kind.forced = [] ∧ kind ≠ .matchAll ∧ kind ≠ .moreLikeThisField ∧
      kind.shape = .generic := by
    rcases hkind with h | h <;> rw [h] <;> decide
  obtain ⟨hforced, hmatchAll, hlike, hgeneric⟩ := hkinds
  have hnwf : n.WellFormed := wellFormed_of_build hn
  have hwf : (s.add n).WellFormed := hs.build hbuild
  obtain ⟨f, hf, hchildren⟩ := exists_toJson_children_of_clause hwf hj
  rw [node_add_next] at hf
  have hnkind : n.kind = kind := by
    rw [eq_of_build hn (by rwa [run_kind])]
    exact run_kind _ calls
  have hheld : ∀ name, n.values.get? name =
      if added name calls = [] then none else some (.nodes (added name calls)) := by
    intro name
    rw [eq_of_build hn (by rwa [run_kind])]
    exact get?_run_of_clauses kind field hclauses name
  rw [← hnkind] at hmatchAll hlike hgeneric
  refine ⟨f, n.body f, ?_, fun name => ⟨?_, fun c hc => hchildren c ?_⟩⟩
  · rw [hf, (Node.hasForm_toJson hnwf f).generic hgeneric, hnkind]
  · rw [hnwf.get?_body hmatchAll hlike, hheld]
    split
    · rfl
    · rw [Option.map_some, Value.toJson_nodes]
  · have hnodes : n.values.get? name = some (.nodes (added name calls)) := by
      rw [hheld, if_neg (List.ne_nil_of_mem hc)]
    refine ⟨name, .nodes (added name calls), ?_, .item (List.mem_map_of_mem hc)⟩
    rw [node_add_next]
    exact hnwf.walks hlike hnodes

/-- **Calls lose nothing, double nothing and move nothing**, from the call to the clause. -/
theorem calls_lose_nothing (b : Builder) (calls : List Call) :
    ((b.run calls).kind = b.kind ∧ (b.run calls).field = b.field ∧
      ∀ name, (b.run calls).values.get? name =
        pushedOn ((lastSet? (writesTo name calls)).or (b.values.get? name))
          (pushedSince (writesTo name calls))) ∧
    (∀ c d : Call, (∀ name, c.name? = some name → d.name? ≠ some name) →
      ∀ before after, b.run (before ++ c :: d :: after) = b.run (before ++ d :: c :: after)) ∧
    (∀ calls', (∀ name, writesTo name calls = writesTo name calls') →
      b.run calls = b.run calls' ∧ ∀ s : Store, s.build (b.run calls) = s.build (b.run calls')) ∧
    (∀ (kind : Kind) (field : Option String) (s s' : Store) (q : NodeId) (settings : Settings)
      (j : Json), kind = .bool ∨ kind = .functionScore → (∀ c ∈ calls, c.clause?.isSome) →
      s.Reachable → s.build (run ⟨kind, field, ∅⟩ calls) = .ok (s', q) →
      s'.clause settings q = .ok j →
      ∃ (f : NodeId → Json) (body : Dict Json), j = .single kind.tag (.ofDict body) ∧
        ∀ name, (body.get? name =
            if added name calls = [] then none else some (.array ((added name calls).map f))) ∧
          ∀ c ∈ added name calls,
            s'.clause ⟨settings.maxDepth - 1, settings.wrapRoot⟩ c = .ok (f c)) := by
  refine ⟨⟨b.run_kind calls, b.run_field calls, b.get?_run calls⟩, ?_, ?_, ?_⟩
  · intro c d h before after
    exact b.run_eq_of_writesTo_eq fun name => writesTo_swap h name before after
  · intro calls' h
    have hrun := b.run_eq_of_writesTo_eq h
    exact ⟨hrun, fun s => by rw [hrun]⟩
  · intro kind field s s' q settings j hkind hclauses hs hbuild hj
    exact clause_of_added hs.wellFormed hkind hclauses hbuild hj

/-- Four clauses added in turn to a Boolean query. -/
def interleaved : List Call := [.must ⟨0⟩, .should ⟨1⟩, .must ⟨2⟩, .must ⟨0⟩]

/-- On the diamond they make two arrays; the clause that is added twice stands there twice. A value
    that is set and pushed on makes a list. -/
theorem calls_lose_nothing_interleaved :
    diamond.Reachable ∧
    (run (new .bool) interleaved).values.get? "must" =
      some (.list [.node ⟨0⟩, .node ⟨2⟩, .node ⟨0⟩]) ∧
    run (new .bool) interleaved =
      run (new .bool) [.should ⟨1⟩, .must ⟨0⟩, .must ⟨2⟩, .must ⟨0⟩] ∧
    (run (new .ids) [.push "values" (.int 1), .set "values" (.int 2), .analyzer "a",
      .push "values" (.int 3)]).values.get? "values" = some (.list [.int 2, .int 3]) ∧
    ∃ (s' : Store) (q : NodeId) (f : NodeId → Json) (body : Dict Json),
      diamond.build (run (new .bool) interleaved) = .ok (s', q) ∧
      s'.clause ⟨5, true⟩ q = .ok (.single "bool" (.ofDict body)) ∧
      body.get? "must" = some (.array [f ⟨0⟩, f ⟨2⟩, f ⟨0⟩]) ∧
      body.get? "should" = some (.array [f ⟨1⟩]) ∧ body.get? "must_not" = none ∧
      s'.clause ⟨4, true⟩ ⟨2⟩ = .ok (f ⟨2⟩) := by
  obtain ⟨⟨-, -, hheld⟩, hswap, -, hclause⟩ := calls_lose_nothing (new .bool) interleaved
  have hids := (calls_lose_nothing (new .ids) [.push "values" (.int 1), .set "values" (.int 2),
    .analyzer "a", .push "values" (.int 3)]).1.2.2 "values"
  obtain ⟨s', q, j, hbuild, hj⟩ : ∃ s' q j,
      diamond.build (run (new .bool) interleaved) = .ok (s', q) ∧ s'.clause ⟨5, true⟩ q = .ok j :=
    ⟨_, _, _, rfl, rfl⟩
  have hclauses : ∀ c ∈ interleaved, c.clause?.isSome := by decide
  obtain ⟨f, body, rfl, hbody⟩ := hclause .bool none diamond s' q ⟨5, true⟩ j (.inl rfl) hclauses
    reachable_diamond hbuild hj
  have hdiffer : ∀ name, (Call.must ⟨0⟩).name? = some name →
      (Call.should ⟨1⟩).name? ≠ some name := by
    intro name h
    cases h
    decide
  refine ⟨reachable_diamond, hheld "must", hswap _ _ hdiffer [] _, hids, s', q, f, body, hbuild, hj,
    (hbody "must").1, (hbody "should").1, (hbody "must_not").1, (hbody "must").2 ⟨2⟩ ?_⟩
  decide

end Builder

end SearchQuery
