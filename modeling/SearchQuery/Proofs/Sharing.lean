import Mathlib.Data.List.Forall2
import SearchQuery.Proofs.Faults
import SearchQuery.Proofs.Session

/-!
# Sharing does not show

A query may stand in many places, and the walk tells queries apart by their handles. What it writes
is nevertheless a matter of the tree alone that unfolds from a query: where the same tree stands in
two places, it makes no difference whether one query stands in both or two.

* Two nodes are alike if they differ in nothing but the handles they hold (`Node.Alike`), and a
  relation of queries is a bisimulation if what it relates is alike, with related queries in the
  same places (`Store.Bisimulation`). Stores may be shared in different ways, and circles in them
  may be of different lengths.
* The cycle test is of no weight for success, as a cycle is too deep for every limit. Without it the
  faults of a query are a matter of depth alone (`Store.depthFaults`), which handles do not enter.

**Related queries therefore cannot be told apart** by what is generated of them
(`sharing_does_not_show`); nor can a query before and after copies were built and put in the place
of a query that is shared, or one was put in the place of its copies (`Store.Reshare`). The error is
the same as well if no cycle is below; with one, the walk comes back to a handle sooner or later as
the circles are short or long, and may find the depth exceeded first.
-/

namespace SearchQuery

/-! ## 1. Values and nodes that are alike -/

/-- Values are alike if they are equal constructor by constructor, with related queries in the same
    places. -/
inductive Value.Alike (R : NodeId → NodeId → Prop) : Value → Value → Prop where
  | bool (b : Bool) : Alike R (.bool b) (.bool b)
  | int (n : Int64) : Alike R (.int n) (.int n)
  | float (x : Float) : Alike R (.float x) (.float x)
  | text (s : String) : Alike R (.text s) (.text s)
  | json (j : Json) : Alike R (.json j) (.json j)
  | node {a b : NodeId} (h : R a b) : Alike R (.node a) (.node b)
  | list {vs ws : List Value} (h : List.Forall₂ (Alike R) vs ws) : Alike R (.list vs) (.list ws)

/-- Nodes are alike if they have the same kind and primary field, and values in the same walked
    fields that are alike. -/
structure Node.Alike (R : NodeId → NodeId → Prop) (n m : Node) : Prop where
  kind : n.kind = m.kind
  field : n.field = m.field
  values : ∀ name ∈ n.kind.walked,
    Option.Rel (Value.Alike R) (n.values.get? name) (m.values.get? name)

/-- What the walk comes upon is alike if it is the same fault, or related queries. -/
inductive Encounter.Alike (R : NodeId → NodeId → Prop) : Encounter → Encounter → Prop where
  | query {a b : NodeId} (h : R a b) : Alike R (.query a) (.query b)
  | fault (field : String) (what : ValueFault) : Alike R (.fault field what) (.fault field what)

theorem optionRel_trans {α : Type} {r s t : α → α → Prop} (h : ∀ a b c, r a b → s b c → t a c) :
    ∀ {x y z : Option α}, Option.Rel r x y → Option.Rel s y z → Option.Rel t x z
  | _, _, _, .none, .none => .none
  | _, _, _, .some hab, .some hbc => .some (h _ _ _ hab hbc)

section Alike

variable {R S T : NodeId → NodeId → Prop}

mutual

theorem Value.Alike.refl : ∀ v : Value, (∀ a ∈ v.handles, R a a) → v.Alike R v
  | .bool b, _ => .bool b
  | .int n, _ => .int n
  | .float x, _ => .float x
  | .text s, _ => .text s
  | .json j, _ => .json j
  | .node a, hR => .node (hR a (List.mem_singleton_self a))
  | .list vs, hR => .list (Value.Alike.refl_all vs hR)

theorem Value.Alike.refl_all : ∀ vs : List Value, (∀ a ∈ Value.handlesOfAll vs, R a a) →
    List.Forall₂ (Value.Alike R) vs vs
  | [], _ => .nil
  | v :: vs, hR =>
    .cons (Value.Alike.refl v fun a ha => hR a (List.mem_append_left _ ha))
      (Value.Alike.refl_all vs fun a ha => hR a (List.mem_append_right _ ha))

end

mutual

theorem Value.Alike.trans (hT : ∀ a b c, R a b → S b c → T a c) :
    ∀ {u v w : Value}, u.Alike R v → v.Alike S w → u.Alike T w
  | _, _, _, .bool b, .bool _ => .bool b
  | _, _, _, .int n, .int _ => .int n
  | _, _, _, .float x, .float _ => .float x
  | _, _, _, .text s, .text _ => .text s
  | _, _, _, .json j, .json _ => .json j
  | _, _, _, .node h, .node h' => .node (hT _ _ _ h h')
  | _, _, _, .list h, .list h' => .list (Value.Alike.trans_all hT h h')

theorem Value.Alike.trans_all (hT : ∀ a b c, R a b → S b c → T a c) :
    ∀ {us vs ws : List Value}, List.Forall₂ (Value.Alike R) us vs →
      List.Forall₂ (Value.Alike S) vs ws → List.Forall₂ (Value.Alike T) us ws
  | _, _, _, .nil, .nil => .nil
  | _, _, _, .cons h hs, .cons h' hs' =>
    .cons (Value.Alike.trans hT h h') (Value.Alike.trans_all hT hs hs')

end

/-- Under a walked name, alike nodes both hold nothing, or values that are alike. -/
theorem Node.Alike.cases {n m : Node} (h : n.Alike R m) {name : String}
    (hname : name ∈ n.kind.walked) :
    (n.values.get? name = none ∧ m.values.get? name = none) ∨
      ∃ v w, n.values.get? name = some v ∧ m.values.get? name = some w ∧ v.Alike R w := by
  have hvalues := h.values name hname
  revert hvalues
  generalize n.values.get? name = u, m.values.get? name = u'
  intro hvalues
  cases hvalues with
  | none => exact .inl ⟨rfl, rfl⟩
  | @some v w hvw => exact .inr ⟨v, w, rfl, rfl, hvw⟩

/-- A node is like itself if every query in it is related to itself. -/
theorem Node.Alike.refl (n : Node)
    (hR : ∀ name v, n.values.get? name = some v → ∀ a ∈ v.handles, R a a) : n.Alike R n := by
  refine ⟨rfl, rfl, fun name _ => ?_⟩
  cases hv : n.values.get? name with
  | none => exact .none
  | some v => exact .some (.refl v (hR name v hv))

theorem Node.Alike.trans (hT : ∀ a b c, R a b → S b c → T a c) {n m l : Node}
    (h : n.Alike R m) (h' : m.Alike S l) : n.Alike T l where
  kind := h.kind.trans h'.kind
  field := h.field.trans h'.field
  values name hname := by
    have hname' : name ∈ m.kind.walked := h.kind ▸ hname
    exact optionRel_trans (fun _ _ _ huv hvw => huv.trans hT hvw) (h.values name hname)
      (h'.values name hname')

/-- Alike nodes stay alike with alike values under one name. -/
theorem Node.Alike.insert {n m : Node} (h : n.Alike R m) (name : String) {v w : Value}
    (hvw : v.Alike R w) :
    (⟨n.kind, n.field, n.values.insert name v⟩ : Node).Alike R
      ⟨m.kind, m.field, m.values.insert name w⟩ := by
  refine ⟨h.kind, h.field, fun j hj => ?_⟩
  rw [Dict.get?_insert, Dict.get?_insert]
  split
  · exact .some hvw
  · exact h.values j hj

theorem Node.Alike.empty (kind : Kind) (field : Option String) :
    (⟨kind, field, ∅⟩ : Node).Alike R ⟨kind, field, ∅⟩ := ⟨rfl, rfl, fun _ _ => .none⟩

end Alike

/-! ## 2. What is come upon and what is written -/

section Alike

variable {R : NodeId → NodeId → Prop} {v w : Value} {n m : Node}

theorem Value.Alike.itemEncounters (h : v.Alike R w) (field : String) :
    List.Forall₂ (Encounter.Alike R) (v.itemEncounters field) (w.itemEncounters field) := by
  cases h with
  | float x =>
      by_cases hx : x.isFinite
      · simp [Value.itemEncounters, hx]
      · simp [Value.itemEncounters, hx, Encounter.Alike.fault]
  | node h => exact .cons (.query h) .nil
  | list h => exact .cons (.fault _ _) .nil
  | _ => exact .nil

theorem Value.Alike.encounters (h : v.Alike R w) (field : String) :
    List.Forall₂ (Encounter.Alike R) (v.encounters field) (w.encounters field) := by
  cases h with
  | list h => exact List.rel_flatMap h fun _ _ hitem => hitem.itemEncounters field
  | bool b => exact (Value.Alike.bool b).itemEncounters field
  | int i => exact (Value.Alike.int i).itemEncounters field
  | float x => exact (Value.Alike.float x).itemEncounters field
  | text s => exact (Value.Alike.text s).itemEncounters field
  | json j => exact (Value.Alike.json j).itemEncounters field
  | node h => exact (Value.Alike.node h).itemEncounters field

/-- **In alike nodes the walk comes upon the same**, but for the handles. -/
theorem Node.Alike.encounters (h : n.Alike R m) :
    List.Forall₂ (Encounter.Alike R) n.encounters m.encounters := by
  unfold Node.encounters
  rw [← h.kind]
  have hnames : List.Forall₂ (fun a b => a = b ∧ a ∈ n.kind.walked) n.kind.walkOrder
      n.kind.walkOrder := List.forall₂_same.2 fun name hname => ⟨rfl, Kind.mem_walkOrder.1 hname⟩
  refine List.rel_flatMap hnames ?_
  rintro name _ ⟨rfl, hname⟩
  rcases h.cases hname with ⟨hn, hm⟩ | ⟨v, w, hn, hm, hvw⟩
  · simp [hn, hm]
  · simpa [Function.swap, hn, hm] using hvw.encounters name

theorem Value.Alike.toJson_eq (h : v.Alike R w) {f g : NodeId → Json}
    (hfg : ∀ a b, R a b → f a = g b) : v.toJson f = w.toJson g := by
  cases h with
  | @list vs ws h =>
      have hitems : List.Forall₂ (fun j k : Json => j = k) (vs.map (itemToJson f))
          (ws.map (itemToJson g)) := by
        refine List.rel_map (fun v w hitem => ?_) h
        cases hitem with
        | node h => exact hfg _ _ h
        | _ => rfl
      rw [List.forall₂_eq_eq_eq] at hitems
      exact congrArg Json.array hitems
  | node h => exact hfg _ _ h
  | _ => rfl

/-- **For alike nodes the same is written**, if it is for the queries in them. -/
theorem Node.Alike.toJson_eq (h : n.Alike R m) {f g : NodeId → Json}
    (hfg : ∀ a b, R a b → f a = g b) : n.toJson f = m.toJson g := by
  have hentries : n.entries f = m.entries g := by
    unfold Node.entries
    rw [← h.kind]
    refine congrArg (· ++ _) (List.filterMap_congr fun name hname => ?_)
    rcases h.cases (Kind.mem_walkOrder.1 hname) with ⟨hn, hm⟩ | ⟨v, w, hn, hm, hvw⟩
    · rw [hn, hm]
      rfl
    · rw [hn, hm, Option.map_some, Option.map_some, hvw.toJson_eq hfg]
  rw [Node.toJson, Node.toJson, Node.body, Node.body, hentries, Node.frame, Node.frame, h.kind,
    h.field]

end Alike

/-! ## 3. Faults without a look at handles -/

namespace Store

/-- The faults that a walk comes upon if it looks at nothing but the depth. -/
def depthFaults (s : Store) (limit : Nat) : (room : Nat) → NodeId → List QueryError
  | 0, _ => [.depthLimitExceeded limit]
  | room + 1, id => (s.node id).encounters.flatMap (Encounter.faults (s.depthFaults limit room))

section Depth

variable {s : Store}

/-- The depth is exceeded where a chain is longer than there is room for. -/
theorem depth_mem_depthFaults {limit room : Nat} {id : NodeId} :
    .depthLimitExceeded limit ∈ s.depthFaults limit room id ↔
      ∃ ids, s.IsChain id ids ∧ ids.length = room + 1 := by
  induction room generalizing id with
  | zero =>
      simp only [depthFaults, List.mem_singleton, true_iff]
      exact ⟨[id], .single id, rfl⟩
  | succ room ih =>
      rw [depthFaults, List.mem_flatMap]
      constructor
      · rintro ⟨encounter, hm, he⟩
        cases encounter with
        | fault field what => simp [Encounter.faults] at he
        | query c =>
            obtain ⟨ids, hids, hlen⟩ := ih.1 he
            exact ⟨id :: ids, .cons (query_mem_encounters.1 hm) hids, by simp [hlen]⟩
      · rintro ⟨ids, hids, hlen⟩
        cases hids with
        | single => simp at hlen
        | @cons _ c rest hc hrest =>
            have hbelow := ih.2 ⟨rest, hrest, by simpa using hlen⟩
            exact ⟨.query c, query_mem_encounters.2 hc, hbelow⟩

/-- **A cycle is too deep for every limit**, and nothing else is. -/
theorem cycleBelow_iff_depthFaults (hs : s.Closed) {id : NodeId} :
    s.CycleBelow id ↔ ∀ room, .depthLimitExceeded 0 ∈ s.depthFaults 0 room id := by
  constructor
  · intro h room
    exact depth_mem_depthFaults.2 (h.exists_isChain room)
  · intro h
    by_contra hacyclic
    obtain ⟨ids, hids, hlen⟩ := depth_mem_depthFaults.1 (h (s.size + 1))
    have := hs.length_le_of_isChain hids hacyclic
    omega

/-- **Without a cycle the handles are of no weight**: no query comes back to one above. -/
theorem faults_eq_depthFaults (limit room : Nat) {chain : List NodeId} {id : NodeId}
    (hacyclic : ¬ s.CycleBelow id) (hout : ∀ a ∈ chain, ¬ s.Reaches id a) :
    s.faults limit room chain id = s.depthFaults limit room id := by
  have hmem : id ∉ chain := fun h => hout id h .refl
  induction room generalizing chain id with
  | zero => rw [faults_zero hmem, depthFaults]
  | succ room ih =>
      rw [faults_succ hmem, depthFaults]
      refine List.flatMap_congr fun encounter he => ?_
      cases encounter with
      | fault field what => rfl
      | query c =>
          have hc := query_mem_encounters.1 he
          have hbelow : ∀ a ∈ id :: chain, ¬ s.Reaches c a := by
            intro a ha hreach
            rcases List.mem_cons.1 ha with rfl | ha
            · exact hacyclic ⟨a, .refl, .head' hc hreach⟩
            · exact hout a ha (.head hc hreach)
          exact ih (fun h => hacyclic (h.of_child hc)) hbelow fun h => hbelow c h .refl

/-- **For success the cycle test is of no weight**, as a cycle is too deep anyway. -/
theorem clause_eq_ok_iff_depthFaults (hs : s.WellFormed) (settings : Settings) (id : NodeId)
    (j : Json) :
    s.clause settings id = .ok j ↔
      s.depthFaults settings.maxDepth settings.maxDepth id = [] ∧
        s.toJson settings.maxDepth id = j := by
  rw [clause_eq hs, settle_eq_ok_iff]
  by_cases hcycle : s.CycleBelow id
  · obtain ⟨ids, hids, hlen⟩ := hcycle.exists_isChain settings.maxDepth
    have hdepth : s.depthFaults settings.maxDepth settings.maxDepth id ≠ [] :=
      List.ne_nil_of_mem (depth_mem_depthFaults.2 ⟨ids, hids, hlen⟩)
    have hfaults : s.faults settings.maxDepth settings.maxDepth [] id ≠ [] := by
      intro h
      have := ((faults_eq_nil_iff.1 h).1 ids hids).1
      omega
    simp [hdepth, hfaults]
  · rw [faults_eq_depthFaults _ _ hcycle fun a ha => absurd ha List.not_mem_nil]

end Depth

/-! ## 4. Bisimulations -/

/-- Related queries are alike, with related queries in the same places. -/
def Bisimulation (s t : Store) (R : NodeId → NodeId → Prop) : Prop :=
  ∀ p q, R p q → (s.node p).Alike R (t.node q)

/-- Two queries of a store unfold to the same tree. -/
def SameTree (s : Store) (p q : NodeId) : Prop := ∃ R, s.Bisimulation s R ∧ R p q

/-- What is generated does not tell two queries apart: the JSON is the same under all settings, and
    so is the error if no cycle is below. -/
structure Indistinct (s t : Store) (p q : NodeId) : Prop where
  json : ∀ settings j, s.clause settings p = .ok j ↔ t.clause settings q = .ok j
  cycle : s.CycleBelow p ↔ t.CycleBelow q
  error : ¬ s.CycleBelow p → ∀ settings, s.clause settings p = t.clause settings q

/-- One step from one way of sharing to another: a query is built, a copy perhaps of one that is
    there, or a value is exchanged for another with queries of the same trees in the same places. -/
inductive Reshare : Store → Store → Prop where
  | build {s : Store} (kind : Kind) (field : Option String) {calls : List Builder.Call}
      (hcalls : ∀ c ∈ calls, s.Knows c.handles) :
      Reshare s (s.perform (.build (Builder.run ⟨kind, field, ∅⟩ calls))).1
  | set {s : Store} {p : NodeId} {name : String} {v w : Value} (hp : s.Has p)
      (hw : s.Knows w.handles) (hv : (s.node p).values.get? name = some v)
      (hvw : v.Alike s.SameTree w) : Reshare s (s.perform (.set p name w)).1

variable {s t : Store} {R : NodeId → NodeId → Prop} {p q : NodeId}

theorem Indistinct.refl (s : Store) (p : NodeId) : s.Indistinct s p p :=
  ⟨fun _ _ => .rfl, .rfl, fun _ _ => rfl⟩

theorem Indistinct.trans {u : Store} {r : NodeId} (h : s.Indistinct t p q)
    (h' : t.Indistinct u q r) : s.Indistinct u p r where
  json settings j := (h.json settings j).trans (h'.json settings j)
  cycle := h.cycle.trans h'.cycle
  error hacyclic settings :=
    (h.error hacyclic settings).trans (h'.error (fun hq => hacyclic (h.cycle.2 hq)) settings)

theorem Bisimulation.depthFaults_eq (h : s.Bisimulation t R) (limit room : Nat) (hpq : R p q) :
    s.depthFaults limit room p = t.depthFaults limit room q := by
  induction room generalizing p q with
  | zero => rfl
  | succ room ih =>
      have hfaults : List.Forall₂ (fun e e' : QueryError => e = e')
          (s.depthFaults limit (room + 1) p) (t.depthFaults limit (room + 1) q) := by
        refine List.rel_flatMap (h p q hpq).encounters fun e e' he => ?_
        cases he with
        | fault field what => exact List.forall₂_same.2 fun _ _ => rfl
        | query hab =>
            rw [List.forall₂_eq_eq_eq]
            exact ih hab
      rwa [List.forall₂_eq_eq_eq] at hfaults

theorem Bisimulation.toJson_eq (h : s.Bisimulation t R) (room : Nat) (hpq : R p q) :
    s.toJson room p = t.toJson room q := by
  induction room generalizing p q with
  | zero => rfl
  | succ room ih => exact (h p q hpq).toJson_eq fun _ _ hab => ih hab

/-- **Related queries are indistinct.** -/
theorem Bisimulation.indistinct (h : s.Bisimulation t R) (hs : s.Reachable) (ht : t.Reachable)
    (hpq : R p q) : s.Indistinct t p q := by
  have hcycle : s.CycleBelow p ↔ t.CycleBelow q := by
    rw [cycleBelow_iff_depthFaults hs.closed, cycleBelow_iff_depthFaults ht.closed]
    simp only [h.depthFaults_eq 0 _ hpq]
  refine ⟨fun settings j => ?_, hcycle, fun hacyclic settings => ?_⟩
  · rw [clause_eq_ok_iff_depthFaults hs.wellFormed, clause_eq_ok_iff_depthFaults ht.wellFormed,
      h.depthFaults_eq _ _ hpq, h.toJson_eq _ hpq]
  · have hnil : ∀ (x : Store) (r : NodeId), ∀ a ∈ [], ¬ x.Reaches r a :=
      fun _ _ _ ha => absurd ha List.not_mem_nil
    rw [clause_eq hs.wellFormed, clause_eq ht.wellFormed,
      faults_eq_depthFaults _ _ hacyclic (hnil s p),
      faults_eq_depthFaults _ _ (fun hq => hacyclic (hcycle.2 hq)) (hnil t q),
      h.depthFaults_eq _ _ hpq, h.toJson_eq _ hpq]

/-! ## 5. Queries in the place of others -/

/-- A query that was built once more, with the same values, has the same tree. -/
theorem SameTree.of_node_eq (h : s.node p = s.node q) : s.SameTree p q := by
  refine ⟨fun a b => s.node a = s.node b, fun a b hab => ?_, h⟩
  rw [hab]
  exact .refl _ fun _ _ _ _ _ => rfl

theorem SameTree.refl (s : Store) (p : NodeId) : s.SameTree p p := .of_node_eq rfl

theorem SameTree.trans {r : NodeId} (h : s.SameTree p q) (h' : s.SameTree q r) :
    s.SameTree p r := by
  obtain ⟨R, hR, hpq⟩ := h
  obtain ⟨S, hS, hqr⟩ := h'
  refine ⟨fun a c => ∃ b, R a b ∧ S b c, ?_, q, hpq, hqr⟩
  rintro a c ⟨b, hab, hbc⟩
  exact (hR a b hab).trans (fun _ b' _ h h' => ⟨b', h, h'⟩) (hS b c hbc)

/-- Queries with the same tree are alike, with queries of the same tree in the same places. -/
theorem bisimulation_sameTree (s : Store) : s.Bisimulation s s.SameTree := by
  rintro a b ⟨R, hR, hab⟩
  refine (hR a b hab).trans ?_ (.refl _ fun _ _ _ c _ => SameTree.refl s c)
  intro a' b' c' hab' hbc'
  exact .trans ⟨R, hR, hab'⟩ hbc'

/-- A build leaves the queries as they are that are there. -/
theorem bisimulation_build (hs : s.Reachable) (b : Builder) :
    s.Bisimulation (s.perform (.build b)).1 fun p q => p = q ∧ s.Has p := by
  rintro r _ ⟨rfl, hr⟩
  have hnode : (s.perform (.build b)).1.node r = s.node r := by
    rcases s.perform_cases (.build b) with ⟨e, h, -⟩ | ⟨_, n, -, -, h⟩ | ⟨_, _, _, ha, -⟩ |
      ⟨_, _, ha, -⟩
    · rw [h]
    · rw [h]
      exact node_add n hr
    · cases ha
    · cases ha
  rw [hnode]
  exact .refl _ fun name v hv c hc => ⟨rfl, hs.knowsAll r name v hv c hc⟩

/-- The trees are the same after an exchange of queries for others with the same trees. -/
theorem bisimulation_set {name : String} {v w : Value}
    (hv : (s.node p).values.get? name = some v) (hvw : v.Alike s.SameTree w) :
    s.Bisimulation (s.perform (.set p name w)).1 s.SameTree := by
  intro a b hab
  have hsame := s.bisimulation_sameTree a b hab
  have hset := (Node.Alike.refl (s.node p) fun _ _ _ c _ => SameTree.refl s c).insert name hvw
  rw [Dict.insert_of_get?_eq hv] at hset
  rcases s.perform_cases (.set p name w) with ⟨e, h, -⟩ | ⟨_, _, ha, -⟩ | ⟨_, _, _, ha, -, h⟩ |
    ⟨_, _, ha, -⟩
  · rwa [h]
  · cases ha
  · cases ha
    rw [h]
    rcases s.node_replace_cases p ⟨(s.node p).kind, (s.node p).field,
      (s.node p).values.insert name w⟩ b with hb | ⟨rfl, hb⟩ <;> rw [hb]
    · exact hsame
    · exact hsame.trans (fun _ _ _ => .trans) hset
  · cases ha

theorem Reshare.reachable (h : Reshare s t) (hs : s.Reachable) : t.Reachable := by
  cases h with
  | build kind field hcalls => exact hs.build kind field hcalls
  | set hp hw => exact hs.set _ hp hw

theorem Reshare.has (h : Reshare s t) (hp : s.Has p) : t.Has p := by
  cases h <;> exact (perform_keeps _ hp).1

theorem Reshare.indistinct (h : Reshare s t) (hs : s.Reachable) (hp : s.Has p) :
    s.Indistinct t p p := by
  have ht := h.reachable hs
  cases h with
  | build => exact (bisimulation_build hs _).indistinct hs ht ⟨rfl, hp⟩
  | set _ _ hv hvw => exact (bisimulation_set hv hvw).indistinct hs ht (SameTree.refl s p)

/-- **No number of steps shows** in what is generated of a query. -/
theorem indistinct_of_reshares (h : Relation.ReflTransGen Reshare s t) (hs : s.Reachable)
    (hp : s.Has p) : t.Reachable ∧ t.Has p ∧ s.Indistinct t p p := by
  induction h with
  | refl => exact ⟨hs, hp, .refl s p⟩
  | tail _ hstep ih =>
      obtain ⟨ht, hpt, hst⟩ := ih
      exact ⟨hstep.reachable ht, hstep.has hpt, hst.trans (hstep.indistinct ht hpt)⟩

/-- **Sharing does not show.** A bisimulation relates queries that cannot be told apart by what is
    generated of them; and to build copies, and to exchange queries for others with the same trees,
    as often as one likes, changes nothing that is generated of any query. -/
theorem sharing_does_not_show (hs : s.Reachable) :
    (∀ (t : Store) (R : NodeId → NodeId → Prop), t.Reachable → s.Bisimulation t R →
      ∀ p q, R p q → s.Indistinct t p q) ∧
    (∀ t, Relation.ReflTransGen Reshare s t → ∀ r, s.Has r → s.Indistinct t r r) :=
  ⟨fun _ _ ht hR _ _ hpq => hR.indistinct hs ht hpq,
    fun _ h _ hr => (indistinct_of_reshares h hs hr).2.2⟩

/-- The diamond with a term query of its own in each place. -/
def unshared : Store :=
  let term : Builder := .run ⟨.term, some "user", ∅⟩ [.set "value" (.text "kimchy")]
  let bool : Builder := .run ⟨.bool, none, ∅⟩ [.must ⟨0⟩, .should ⟨1⟩]
  let outer : Builder := .run ⟨.constantScore, none, ∅⟩ [.filter (.node ⟨2⟩)]
  ((((perform ∅ (.build term)).1.perform (.build term)).1.perform (.build bool)).1.perform
    (.build outer)).1

theorem reachable_unshared : unshared.Reachable :=
  (((Reachable.empty.build .term (some "user") (by decide +kernel)).build .term (some "user")
    (by decide +kernel)).build .bool none (by decide +kernel)).build .constantScore none
      (by decide +kernel)

/-- The two term queries are copies of one, and the handles after them are one higher. -/
theorem bisimulation_unshared : diamond.Bisimulation unshared fun p q => p = ⟨q.index - 1⟩ := by
  have hnode : ∀ i, Value.Alike (fun p q : NodeId => p = ⟨q.index - 1⟩) (.node ⟨i - 1⟩)
      (.node ⟨i⟩) := fun _ => .node rfl
  rintro _ ⟨i⟩ rfl
  match i with
  | 0 => exact (Node.Alike.empty .term (some "user")).insert "value" (.text "kimchy")
  | 1 => exact (Node.Alike.empty .term (some "user")).insert "value" (.text "kimchy")
  | 2 =>
      exact ((Node.Alike.empty .bool none).insert "must" (.list (.cons (hnode 0) .nil))).insert
        "should" (.list (.cons (hnode 1) .nil))
  | 3 => exact (Node.Alike.empty .constantScore none).insert "filter" (hnode 2)
  | i + 4 => exact .empty .bool none

/-- Three Boolean queries, one in itself and two in one another. -/
def rings : Store :=
  let bool : Builder := .run ⟨.bool, none, ∅⟩ []
  let built := (((perform ∅ (.build bool)).1.perform (.build bool)).1.perform (.build bool)).1
  (((built.perform (.set ⟨0⟩ "must" (.node ⟨0⟩))).1.perform (.set ⟨1⟩ "must" (.node ⟨2⟩))).1.perform
    (.set ⟨2⟩ "must" (.node ⟨1⟩))).1

theorem reachable_rings : rings.Reachable :=
  (((((Reachable.empty.build .bool none (by decide +kernel)).build .bool none
    (by decide +kernel)).build .bool none (by decide +kernel)).set "must" (by decide +kernel)
      (by decide +kernel)).set "must" (by decide +kernel) (by decide +kernel)).set "must"
        (by decide +kernel) (by decide +kernel)

theorem bisimulation_rings : rings.Bisimulation rings fun p q => p.index < 3 ∧ q.index < 3 := by
  have hnode : ∀ p : NodeId, p.index < 3 → ∃ c : NodeId, c.index < 3 ∧
      rings.node p = ⟨.bool, none, (∅ : Dict Value).insert "must" (.node c)⟩ := by
    rintro ⟨i⟩ hi
    match i, hi with
    | 0, _ => exact ⟨⟨0⟩, by decide, rfl⟩
    | 1, _ => exact ⟨⟨2⟩, by decide, rfl⟩
    | 2, _ => exact ⟨⟨1⟩, by decide, rfl⟩
  rintro p q ⟨hp, hq⟩
  obtain ⟨c, hc, hpc⟩ := hnode p hp
  obtain ⟨d, hd, hqd⟩ := hnode q hq
  rw [hpc, hqd]
  exact (Node.Alike.empty .bool none).insert "must" (.node ⟨hc, hd⟩)

/-- The diamond after a copy of its term query was built. -/
def copied : Store :=
  (diamond.perform (.build (.run ⟨.term, some "user", ∅⟩ [.set "value" (.text "kimchy")]))).1

/-- The diamond and its copy without sharing are indistinct. So is what becomes of the diamond when
    the copy is put in the second place of its term query, and of the copy without sharing when its
    two term queries are made one. The rings are indistinct too, but not by their errors: at depth
    one, one is a cycle and the other is too deep. -/
theorem sharing_does_not_show_diamond :
    (diamond.Reachable ∧ unshared.Reachable ∧ diamond.Indistinct unshared ⟨2⟩ ⟨3⟩ ∧
      ∃ j, diamond.clause {} ⟨2⟩ = .ok j ∧ unshared.clause {} ⟨3⟩ = .ok j) ∧
    (copied.SameTree ⟨0⟩ ⟨3⟩ ∧
      diamond.Indistinct (copied.perform (.set ⟨1⟩ "should" (.list [.node ⟨3⟩]))).1 ⟨2⟩ ⟨2⟩ ∧
      unshared.Indistinct (unshared.perform (.set ⟨2⟩ "should" (.list [.node ⟨0⟩]))).1 ⟨3⟩ ⟨3⟩) ∧
    (rings.Reachable ∧ rings.Indistinct rings ⟨0⟩ ⟨1⟩ ∧
      rings.clause ⟨1, true⟩ ⟨0⟩ = .error (.cyclic .bool) ∧
      rings.clause ⟨1, true⟩ ⟨1⟩ = .error (.depthLimitExceeded 1)) := by
  have hdiamond := (sharing_does_not_show reachable_diamond).1 unshared _ reachable_unshared
    bisimulation_unshared ⟨2⟩ ⟨3⟩ rfl
  have hrings := (sharing_does_not_show reachable_rings).1 rings _ reachable_rings
    bisimulation_rings ⟨0⟩ ⟨1⟩ (by decide)
  have hcopy : copied.SameTree ⟨0⟩ ⟨3⟩ := .of_node_eq rfl
  have hbuild : Reshare diamond copied := .build .term (some "user") (by decide +kernel)
  have hsplit : Reshare copied (copied.perform (.set ⟨1⟩ "should" (.list [.node ⟨3⟩]))).1 :=
    .set (v := .list [.node ⟨0⟩]) (by decide +kernel) (by decide +kernel) rfl
      (.list (.cons (.node hcopy) .nil))
  have hmerge : Reshare unshared (unshared.perform (.set ⟨2⟩ "should" (.list [.node ⟨0⟩]))).1 :=
    .set (v := .list [.node ⟨1⟩]) (by decide +kernel) (by decide +kernel) rfl
      (.list (.cons (.node (.of_node_eq rfl)) .nil))
  have hafter := (sharing_does_not_show reachable_diamond).2 _ (.tail (.single hbuild) hsplit) ⟨2⟩
    (by decide +kernel)
  have hmerged := (sharing_does_not_show reachable_unshared).2 _ (.single hmerge) ⟨3⟩
    (by decide +kernel)
  have hclause : ∃ j, diamond.clause {} ⟨2⟩ = .ok j := ⟨_, rfl⟩
  obtain ⟨j, hj⟩ := hclause
  exact ⟨⟨reachable_diamond, reachable_unshared, hdiamond, j, hj, (hdiamond.json {} j).1 hj⟩,
    ⟨hcopy, hafter, hmerged⟩, reachable_rings, hrings, rfl, rfl⟩

end Store

end SearchQuery
