import SearchQuery.Proofs.ByteOrder
import SearchQuery.Proofs.Calls

/-!
# What comes of building

A builder may be wrong in several ways at once, and one of them is reported. `Builder.Refused` says
which: it goes through the tests in their order, and each of its cases says that nothing before it
is wrong.

**Building reports exactly that** (`Builder.build_eq_error_iff`), and where there is nothing to
report it makes a query of what was collected and of what the kind forces. Nothing here looks at
the order of the calls, so that the order in which different names were written does not matter
(`build_result`).
-/

namespace SearchQuery

/-! ## 1. What each test reports -/

section Tests

variable {kind : Kind} {e : QueryError}

theorem bind_eq_error_iff {β : Type} {x : Except QueryError Unit}
    {f : Unit → Except QueryError β} :
    x >>= f = .error e ↔ x = .error e ∨ x = .ok () ∧ f () = .error e := by
  cases x <;> simp [bind, Except.bind]

theorem requirePrimaryField_eq_error_iff {field : Option String} :
    requirePrimaryField kind field = .error e ↔
      (kind.shape.hasPrimaryField ∧ (field = none ∨ field = some "")) ∧
        e = .missingField kind "field" := by
  have hempty : (field.getD "").isEmpty ↔ field = none ∨ field = some "" := by
    cases field <;> simp
  unfold requirePrimaryField
  rw [← hempty, ← Bool.and_eq_true]
  split
  · rename_i h
    simp [h, eq_comm]
  · rename_i h
    simp [h]

theorem requireDeclared_eq_error_iff {names : List String} :
    requireDeclared kind names = .error e ↔
      ∃ name, names.find? (!kind.declares ·) = some name ∧ e = .unknownField kind name := by
  unfold requireDeclared
  cases names.find? (!kind.declares ·) <;> simp [eq_comm]

theorem requireHeld_eq_error_iff {values : Dict Value} :
    requireHeld kind values = .error e ↔
      ∃ name, kind.required.find? (!values.contains ·) = some name ∧
        e = .missingField kind name := by
  unfold requireHeld
  cases kind.required.find? (!values.contains ·) <;> simp [eq_comm]

theorem requireAlternative_eq_error_iff {values : Dict Value} :
    requireAlternative kind values = .error e ↔
      ∃ first second, kind.alternatives = some (first, second) ∧
        (¬ values.contains first ∧ ¬ values.contains second) ∧
        e = .invalidQuery (.noAlternative kind first second) := by
  unfold requireAlternative
  cases kind.alternatives with
  | none => simp
  | some names =>
      obtain ⟨first, second⟩ := names
      by_cases h : values.contains first || values.contains second
      · simp only [h, if_true, reduceCtorEq, Option.some.injEq, Prod.mk.injEq, false_iff]
        intro he
        obtain ⟨_, _, ⟨rfl, rfl⟩, hno, -⟩ := he
        simp [hno] at h
      · simp at h
        simp [h, eq_comm (b := e)]

/-- The kinds that need one of two fields. -/
theorem Kind.alternatives_eq_some_iff {first second : String} :
    kind.alternatives = some (first, second) ↔
      kind = .indices ∧ first = "index" ∧ second = "indices" ∨
      kind = .constantScore ∧ first = "filter" ∧ second = "query" := by
  cases kind <;> simp [Kind.alternatives, eq_comm]

/-- The first name of a sort in an ascending list is the least of that sort. -/
theorem find?_eq_some_iff_least {names : List String} (hn : names.Pairwise (· < ·))
    {p : String → Bool} {name : String} :
    names.find? p = some name ↔
      (name ∈ names ∧ p name) ∧ ∀ other, other ∈ names ∧ p other → utf8 name ≤ utf8 other := by
  have hfirst : ∀ {name}, names.find? p = some name →
      ∀ other, other ∈ names ∧ p other → ¬ other < name := by
    intro name h other hother hlt
    obtain ⟨-, before, after, rfl, hbefore⟩ := List.find?_eq_some_iff_append.1 h
    obtain ⟨hin, hp⟩ := hother
    rcases List.mem_append.1 hin with hin | hin
    · have hnot := hbefore other hin
      rw [hp] at hnot
      cases hnot
    · rcases List.mem_cons.1 hin with rfl | hin
      · exact String.lt_irrefl _ hlt
      · have hafter := (List.pairwise_cons.1 (List.pairwise_append.1 hn).2.1).1 other hin
        exact String.lt_asymm hlt hafter
  constructor
  · intro h
    refine ⟨⟨List.mem_of_find?_eq_some h, List.find?_some h⟩, fun other hother hlt => ?_⟩
    exact hfirst h other hother (lt_iff_utf8_lt.2 hlt)
  · intro h
    obtain ⟨hname, hleast⟩ := h
    obtain ⟨found, hfound⟩ : ∃ found, names.find? p = some found :=
      Option.isSome_iff_exists.1 (List.find?_isSome.2 ⟨name, hname⟩)
    have hle := hleast found ⟨List.mem_of_find?_eq_some hfound, List.find?_some hfound⟩
    rw [hfound, key_eq_of_not_lt (fun hlt => hle (lt_iff_utf8_lt.1 hlt))
      (hfirst hfound name hname)]

end Tests

/-! ## 2. Refusals -/

namespace Builder

/-- The clause is to be keyed by a document field, and there is none, or one without a name. -/
def LacksField (b : Builder) : Prop :=
  b.kind.shape.hasPrimaryField ∧ (b.field = none ∨ b.field = some "")

/-- A value was collected under a name that the kind does not declare. -/
def Stray (b : Builder) (name : String) : Prop :=
  b.values.contains name ∧ ¬ b.kind.declares name

/-- A value was collected under the name, or the kind forces one. -/
def Supplies (b : Builder) (name : String) : Prop :=
  b.values.contains name ∨ name ∈ b.kind.forced.map (·.1)

/-- Why a builder is refused: the first thing that is wrong with it. -/
inductive Refused (b : Builder) : QueryError → Prop where
  | field (h : b.LacksField) : Refused b (.missingField b.kind "field")
  /-- Of the names that are not declared, the least is reported. -/
  | stray {name : String} (hfield : ¬ b.LacksField) (h : b.Stray name)
      (hleast : ∀ other, b.Stray other → utf8 name ≤ utf8 other) :
      Refused b (.unknownField b.kind name)
  /-- Of the required names that are not supplied, the first is reported. -/
  | missing {before after : List String} {name : String} (hfield : ¬ b.LacksField)
      (hstray : ∀ other, ¬ b.Stray other) (hrequired : b.kind.required = before ++ name :: after)
      (hbefore : ∀ other ∈ before, b.Supplies other) (h : ¬ b.Supplies name) :
      Refused b (.missingField b.kind name)
  | index (hfield : ¬ b.LacksField) (hstray : ∀ other, ¬ b.Stray other)
      (hsupplied : ∀ name ∈ b.kind.required, b.Supplies name) (hkind : b.kind = .indices)
      (hindex : ¬ b.values.contains "index") (hindices : ¬ b.values.contains "indices") :
      Refused b (.invalidQuery (.noAlternative .indices "index" "indices"))
  | filter (hfield : ¬ b.LacksField) (hstray : ∀ other, ¬ b.Stray other)
      (hsupplied : ∀ name ∈ b.kind.required, b.Supplies name) (hkind : b.kind = .constantScore)
      (hfilter : ¬ b.values.contains "filter") (hquery : ¬ b.values.contains "query") :
      Refused b (.invalidQuery (.noAlternative .constantScore "filter" "query"))

variable {b : Builder} {e : QueryError}

theorem contains_allValues {name : String} : b.allValues.contains name ↔ b.Supplies name := by
  have hnames : (forcedValues b.kind).map (·.1) = b.kind.forced.map (·.1) := by
    rw [forcedValues, List.map_map]
    rfl
  rw [Supplies, Dict.contains, Dict.contains, ← Dict.mem_keys, ← Dict.mem_keys, allValues,
    Dict.mem_keys_insertAll, hnames]

theorem primaryField_eq_ok_iff :
    requirePrimaryField b.kind b.field = .ok () ↔ ¬ b.LacksField := by
  unfold LacksField requirePrimaryField
  cases b.field <;> cases b.kind.shape.hasPrimaryField <;> simp

theorem declared_eq_ok_iff :
    requireDeclared b.kind b.values.keys = .ok () ↔ ∀ name, ¬ b.Stray name := by
  rw [requireDeclared_eq_ok_iff]
  simp only [Dict.mem_keys, Stray, not_and, not_not]
  rfl

theorem held_eq_ok_iff :
    requireHeld b.kind b.allValues = .ok () ↔ ∀ name ∈ b.kind.required, b.Supplies name := by
  simp only [requireHeld_eq_ok_iff, contains_allValues]

theorem declared_eq_error_iff :
    requireDeclared b.kind b.values.keys = .error e ↔
      ∃ name, b.Stray name ∧ (∀ other, b.Stray other → utf8 name ≤ utf8 other) ∧
        e = .unknownField b.kind name := by
  have hstray : ∀ name, (name ∈ b.values.keys ∧ (!b.kind.declares name) = true) ↔ b.Stray name := by
    intro name
    rw [Stray, Dict.mem_keys, Dict.contains, Bool.not_eq_true', Bool.not_eq_true]
  rw [requireDeclared_eq_error_iff]
  simp only [find?_eq_some_iff_least b.values.pairwise_keys, hstray, and_assoc]

theorem held_eq_error_iff :
    requireHeld b.kind b.allValues = .error e ↔
      ∃ before name after, b.kind.required = before ++ name :: after ∧
        (∀ other ∈ before, b.Supplies other) ∧ ¬ b.Supplies name ∧
        e = .missingField b.kind name := by
  simp only [requireHeld_eq_error_iff, List.find?_eq_some_iff_append, ← contains_allValues]
  constructor
  · intro h
    obtain ⟨name, ⟨hname, before, after, hrequired, hbefore⟩, rfl⟩ := h
    exact ⟨before, name, after, hrequired, by simpa using hbefore, by simpa using hname, rfl⟩
  · intro h
    obtain ⟨before, name, after, hrequired, hbefore, hname, rfl⟩ := h
    exact ⟨name, ⟨by simpa using hname, before, after, hrequired, by simpa using hbefore⟩, rfl⟩

/-- What a kind forces is never one of two alternatives. -/
theorem alternative_allValues (b : Builder) :
    requireAlternative b.kind b.allValues = requireAlternative b.kind b.values := by
  obtain ⟨kind, field, values⟩ := b
  cases kind <;> rfl

theorem alternative_eq_error_iff :
    requireAlternative b.kind b.allValues = .error e ↔
      (b.kind = .indices ∧ (¬ b.values.contains "index" ∧ ¬ b.values.contains "indices") ∧
        e = .invalidQuery (.noAlternative .indices "index" "indices")) ∨
      (b.kind = .constantScore ∧ (¬ b.values.contains "filter" ∧ ¬ b.values.contains "query") ∧
        e = .invalidQuery (.noAlternative .constantScore "filter" "query")) := by
  rw [alternative_allValues, requireAlternative_eq_error_iff]
  constructor
  · intro h
    obtain ⟨first, second, hnames, hno, he⟩ := h
    rcases Kind.alternatives_eq_some_iff.1 hnames with ⟨hk, rfl, rfl⟩ | ⟨hk, rfl, rfl⟩
    · rw [hk] at he
      exact .inl ⟨hk, hno, he⟩
    · rw [hk] at he
      exact .inr ⟨hk, hno, he⟩
  · intro h
    rcases h with ⟨hk, hno, he⟩ | ⟨hk, hno, he⟩
    · exact ⟨_, _, Kind.alternatives_eq_some_iff.2 (.inl ⟨hk, rfl, rfl⟩), hno, by rw [he, hk]⟩
    · exact ⟨_, _, Kind.alternatives_eq_some_iff.2 (.inr ⟨hk, rfl, rfl⟩), hno, by rw [he, hk]⟩

/-- **A builder is refused for the first thing that is wrong with it**, and for nothing else. -/
theorem build_eq_error_iff : b.build = .error e ↔ b.Refused e := by
  -- the tests stand in a row: each reports if those before it had nothing to report
  have hbuild : b.build = .error e ↔
      requirePrimaryField b.kind b.field = .error e ∨ ¬ b.LacksField ∧
      (requireDeclared b.kind b.values.keys = .error e ∨ (∀ name, ¬ b.Stray name) ∧
      (requireHeld b.kind b.allValues = .error e ∨ (∀ name ∈ b.kind.required, b.Supplies name) ∧
      requireAlternative b.kind b.allValues = .error e)) := by
    rw [← primaryField_eq_ok_iff, ← declared_eq_ok_iff, ← held_eq_ok_iff]
    unfold build allValues
    simp only [bind_eq_error_iff, pure, Except.pure, reduceCtorEq, and_false, or_false]
  rw [hbuild, requirePrimaryField_eq_error_iff, declared_eq_error_iff, held_eq_error_iff,
    alternative_eq_error_iff]
  constructor
  · intro h
    rcases h with ⟨hlacks, rfl⟩ | ⟨hfield, ⟨name, hname, hleast, rfl⟩ | ⟨hstray, h⟩⟩
    · exact .field hlacks
    · exact .stray hfield hname hleast
    · rcases h with ⟨before, name, after, hrequired, hbefore, hname, rfl⟩ | ⟨hsupplied, h⟩
      · exact .missing hfield hstray hrequired hbefore hname
      · rcases h with ⟨hk, ⟨hindex, hindices⟩, rfl⟩ | ⟨hk, ⟨hfilter, hquery⟩, rfl⟩
        · exact .index hfield hstray hsupplied hk hindex hindices
        · exact .filter hfield hstray hsupplied hk hfilter hquery
  · intro h
    cases h with
    | field h => exact .inl ⟨h, rfl⟩
    | stray hfield h hleast => exact .inr ⟨hfield, .inl ⟨_, h, hleast, rfl⟩⟩
    | missing hfield hstray hrequired hbefore h =>
        exact .inr ⟨hfield, .inr ⟨hstray, .inl ⟨_, _, _, hrequired, hbefore, h, rfl⟩⟩⟩
    | index hfield hstray hsupplied hk hindex hindices =>
        exact .inr ⟨hfield, .inr ⟨hstray, .inr ⟨hsupplied, .inl ⟨hk, ⟨hindex, hindices⟩, rfl⟩⟩⟩⟩
    | filter hfield hstray hsupplied hk hfilter hquery =>
        exact .inr ⟨hfield, .inr ⟨hstray, .inr ⟨hsupplied, .inr ⟨hk, ⟨hfilter, hquery⟩, rfl⟩⟩⟩⟩

/-! ## 3. What is built -/

theorem alternative_eq_ok_iff :
    requireAlternative b.kind b.allValues = .ok () ↔
      (b.kind = .indices → b.values.contains "index" ∨ b.values.contains "indices") ∧
      (b.kind = .constantScore → b.values.contains "filter" ∨ b.values.contains "query") := by
  rw [alternative_allValues, requireAlternative_eq_ok_iff]
  constructor
  · intro h
    exact ⟨fun hk => h _ _ (Kind.alternatives_eq_some_iff.2 (.inl ⟨hk, rfl, rfl⟩)),
      fun hk => h _ _ (Kind.alternatives_eq_some_iff.2 (.inr ⟨hk, rfl, rfl⟩))⟩
  · intro h first second hnames
    rcases Kind.alternatives_eq_some_iff.1 hnames with ⟨hk, rfl, rfl⟩ | ⟨hk, rfl, rfl⟩
    · exact h.1 hk
    · exact h.2 hk

/-- **When there is nothing to report.** -/
theorem exists_build_iff :
    (∃ n, b.build = .ok n) ↔
      ¬ b.LacksField ∧ (∀ name, ¬ b.Stray name) ∧ (∀ name ∈ b.kind.required, b.Supplies name) ∧
      (b.kind = .indices → b.values.contains "index" ∨ b.values.contains "indices") ∧
      (b.kind = .constantScore → b.values.contains "filter" ∨ b.values.contains "query") := by
  rw [← primaryField_eq_ok_iff, ← declared_eq_ok_iff, ← held_eq_ok_iff, ← alternative_eq_ok_iff]
  simp only [build_eq_ok_iff, exists_and_left, exists_eq, and_true]

/-- A forced value is there, whatever was collected under its name. -/
theorem get?_allValues_of_mem {name text : String} (h : (name, text) ∈ b.kind.forced) :
    b.allValues.get? name = some (.text text) := by
  have hmem : (name, Value.text text) ∈ forcedValues b.kind := List.mem_map.2 ⟨_, h, rfl⟩
  refine Dict.get?_insertAll_of_mem _ _ ?_ hmem
  rw [forcedValues, List.map_map]
  exact b.kind.nodup_forced

/-- Under any other name there is what was collected. -/
theorem get?_allValues_of_not_mem {name : String} (h : name ∉ b.kind.forced.map (·.1)) :
    b.allValues.get? name = b.values.get? name := by
  refine Dict.get?_insertAll_of_ne _ _ fun e he hname => h ?_
  obtain ⟨forced, hforced, rfl⟩ := List.mem_map.1 he
  exact List.mem_map.2 ⟨forced, hforced, hname⟩

theorem build_of_not_refused (h : ∀ e, ¬ b.Refused e) :
    b.build = .ok ⟨b.kind, b.field, b.allValues⟩ := by
  cases hb : b.build with
  | error e => exact absurd (build_eq_error_iff.1 hb) (h e)
  | ok n =>
      obtain ⟨-, -, -, -, rfl⟩ := build_eq_ok_iff.1 hb
      rfl

end Builder

namespace Store

theorem build_eq_error_iff {s : Store} {b : Builder} {e : QueryError} :
    s.build b = .error e ↔ b.build = .error e := by
  unfold build
  cases b.build <;> simp [bind, Except.bind, pure, Except.pure]

theorem exists_build_iff {s : Store} {b : Builder} :
    (∃ s' q, s.build b = .ok (s', q)) ↔ ∃ n, b.build = .ok n := by
  unfold build
  cases b.build <;> simp [bind, Except.bind, pure, Except.pure]

theorem not_has_next (s : Store) : ¬ s.Has s.next := Nat.lt_irrefl s.size

/-- **What comes of building**: the first thing that is wrong, or else a new query with what was
    collected and, over it, what its kind forces. The order in which different names were written
    does not matter. -/
theorem build_result (s : Store) (b : Builder) :
    (∀ e, s.build b = .error e ↔ b.Refused e) ∧
    ((∀ e, ¬ b.Refused e) → ∃ s' q, s.build b = .ok (s', q) ∧
      (¬ s.Has q ∧ (∀ p, s'.Has p ↔ s.Has p ∨ p = q) ∧
        ∀ p, s.Has p → s'.node p = s.node p) ∧
      (s'.node q).kind = b.kind ∧ (s'.node q).field = b.field ∧
      (∀ name text, (name, text) ∈ b.kind.forced →
        (s'.node q).values.get? name = some (.text text)) ∧
      ∀ name, name ∉ b.kind.forced.map (·.1) →
        (s'.node q).values.get? name = b.values.get? name) ∧
    (∀ calls calls', (∀ name, Builder.writesTo name calls = Builder.writesTo name calls') →
      s.build (b.run calls) = s.build (b.run calls')) := by
  refine ⟨fun e => build_eq_error_iff.trans Builder.build_eq_error_iff, fun h => ?_, ?_⟩
  · have hb := Builder.build_of_not_refused h
    refine ⟨_, s.next, build_eq_ok_iff.2 ⟨_, hb, rfl, rfl⟩, ⟨s.not_has_next, ?_, ?_⟩, ?_⟩
    · exact fun p => s.has_add
    · exact fun p hp => node_add _ hp
    · rw [node_add_next]
      exact ⟨rfl, rfl, fun _ _ => Builder.get?_allValues_of_mem,
        fun _ => Builder.get?_allValues_of_not_mem⟩
  · intro calls calls' h
    rw [b.run_eq_of_writesTo_eq h]

/-- A match-all query that is to be built with two names that its kind does not declare. -/
def strays : Builder := .run ⟨.matchAll, some "title", ∅⟩ [.set "é" (.int 1), .boost 2]

/-- A match-all query that is to be built with a text of its own. -/
def overruled : Builder := .run ⟨.matchAll, some "title", ∅⟩ [.query (.text "rust"), .operator .or]

/-- The first is refused for the least of the two names. The second is refused for nothing, and is
    built with the forced text; its calls may change places. -/
theorem build_result_match_all :
    (strays.Refused (.unknownField .matchAll "boost") ∧
      (∅ : Store).build strays = .error (.unknownField .matchAll "boost")) ∧
    (∀ e, ¬ overruled.Refused e) ∧
    (∃ s' q, (∅ : Store).build overruled = .ok (s', q) ∧
      (s'.node q).values.get? "query" = some (.text "") ∧
      (s'.node q).values.get? "operator" = some (.text "or")) ∧
    (∅ : Store).build overruled =
      (∅ : Store).build (.run ⟨.matchAll, some "title", ∅⟩ [.operator .or, .query (.text "rust")]) := by
  have hstrays := build_result ∅ strays
  have hoverruled := build_result ∅ overruled
  have hnew := build_result ∅ ⟨.matchAll, some "title", ∅⟩
  have herror : (∅ : Store).build strays = .error (.unknownField .matchAll "boost") := rfl
  have hfree : ∀ e, ¬ overruled.Refused e := by
    intro e h
    have hok : ∃ r, (∅ : Store).build overruled = .ok r := ⟨_, rfl⟩
    obtain ⟨r, hr⟩ := hok
    rw [(hoverruled.1 e).2 h] at hr
    cases hr
  obtain ⟨s', q, hbuild, -, -, -, hforced, hcollected⟩ := hoverruled.2.1 hfree
  have hdiffer : ∀ name, (Builder.Call.query (.text "rust")).name? = some name →
      (Builder.Call.operator .or).name? ≠ some name := by
    intro name h
    cases h
    decide
  have hswap := hnew.2.2 _ _ fun name => Builder.writesTo_swap hdiffer name [] []
  exact ⟨⟨(hstrays.1 _).1 herror, herror⟩, hfree,
    ⟨s', q, hbuild, hforced "query" "" (by decide), hcollected "operator" (by decide)⟩, hswap⟩

end Store

end SearchQuery
