/-!
# Dictionaries keyed by text

The values a query node holds, the members of a JSON object and the body of a clause are all the
same thing: a finite map from names to values whose listing is in ascending order of the names.
This file fixes that map:

* the order is the order of the code points, which is also the order of the UTF-8 bytes;
* a key occurs once, and the list of entries is determined by what `get?` answers (`Dict.ext_get?`),
  so two dictionaries that answer alike ARE equal, however they were filled.
-/

namespace SearchQuery

/-! ## 1. Ascending lists of entries -/

/-- The keys of the entries ascend strictly; a key therefore occurs at most once. -/
def Ascending {α : Type} (es : List (String × α)) : Prop :=
  es.Pairwise (fun a b => a.1 < b.1)

theorem key_eq_of_not_lt {j k : String} (h₁ : ¬ j < k) (h₂ : ¬ k < j) : j = k :=
  String.le_antisymm (String.not_lt.1 h₂) (String.not_lt.1 h₁)

/-- The entries with `k` bound to `v`: in its place if `k` is new, over the old value otherwise. -/
def insertEntry {α : Type} (k : String) (v : α) : List (String × α) → List (String × α)
  | [] => [(k, v)]
  | (j, w) :: rest =>
    if k < j then (k, v) :: (j, w) :: rest
    else if j < k then (j, w) :: insertEntry k v rest
    else (k, v) :: rest

theorem mem_insertEntry {α : Type} {k : String} {v : α} {e : String × α} :
    ∀ {es : List (String × α)}, e ∈ insertEntry k v es → e = (k, v) ∨ e ∈ es
  | [], h => by simpa [insertEntry] using h
  | (j, w) :: rest, h => by
      unfold insertEntry at h
      split at h
      · simpa using h
      · split at h
        · rcases List.mem_cons.1 h with rfl | h
          · simp
          · rcases mem_insertEntry h with h | h <;> simp [h]
        · rcases List.mem_cons.1 h with rfl | h <;> simp [*]

theorem ascending_insertEntry {α : Type} {k : String} {v : α} :
    ∀ {es : List (String × α)}, Ascending es → Ascending (insertEntry k v es)
  | [], _ => by simp [insertEntry, Ascending]
  | (j, w) :: rest, h => by
      have hr : Ascending rest := (List.pairwise_cons.1 h).2
      have hj : ∀ e ∈ rest, j < e.1 := (List.pairwise_cons.1 h).1
      unfold insertEntry
      split
      · rename_i hk
        refine List.pairwise_cons.2 ⟨fun e he => ?_, h⟩
        rcases List.mem_cons.1 he with rfl | he
        · exact hk
        · exact String.lt_trans hk (hj e he)
      · split
        · rename_i hk
          refine List.pairwise_cons.2 ⟨fun e he => ?_, ascending_insertEntry hr⟩
          rcases mem_insertEntry he with rfl | he
          · exact hk
          · exact hj e he
        · rename_i h₁ h₂
          have : j = k := key_eq_of_not_lt h₂ h₁
          subst this
          exact List.pairwise_cons.2 ⟨hj, hr⟩

theorem lookup_insertEntry_self {α : Type} {k : String} {v : α} :
    ∀ {es : List (String × α)}, (insertEntry k v es).lookup k = some v
  | [] => by simp [insertEntry]
  | (j, w) :: rest => by
      unfold insertEntry
      split
      · simp
      · split
        · rename_i h
          have hne : (k == j) = false := by
            simp only [beq_eq_false_iff_ne]; rintro rfl; exact String.lt_irrefl _ h
          simp [List.lookup_cons, hne, lookup_insertEntry_self]
        · simp

theorem lookup_insertEntry_ne {α : Type} {k j : String} {v : α} (hne : j ≠ k) :
    ∀ {es : List (String × α)}, (insertEntry k v es).lookup j = es.lookup j
  | [] => by
      have : (j == k) = false := by simpa using hne
      simp [insertEntry, List.lookup_cons, this]
  | (i, w) :: rest => by
      have hb : (j == k) = false := by simpa using hne
      unfold insertEntry
      split
      · simp [List.lookup_cons, hb]
      · split
        · simp only [List.lookup_cons, lookup_insertEntry_ne hne]
        · rename_i h₁ h₂
          have : i = k := key_eq_of_not_lt h₂ h₁
          subst this
          simp [List.lookup_cons, hb]

theorem lookup_eq_none_of_lt {α : Type} {k : String} :
    ∀ {es : List (String × α)}, (∀ e ∈ es, k < e.1) → es.lookup k = none
  | [], _ => rfl
  | (j, w) :: rest, h => by
      have hb : (k == j) = false := by
        simp only [beq_eq_false_iff_ne]; rintro rfl
        exact String.lt_irrefl _ (h (k, w) (by simp))
      simp only [List.lookup_cons, hb]
      exact lookup_eq_none_of_lt fun e he => h e (by simp [he])

theorem mem_of_lookup_eq_some {α : Type} {k : String} {v : α} :
    ∀ {es : List (String × α)}, es.lookup k = some v → (k, v) ∈ es
  | (j, w) :: rest, h => by
      by_cases hb : k = j
      · subst hb
        simp_all
      · have hb' : (k == j) = false := by simpa using hb
        simp only [List.lookup_cons, hb'] at h
        simp [mem_of_lookup_eq_some h]

/-- In an ascending list every entry is the one its key finds. -/
theorem lookup_eq_some_of_mem {α : Type} {k : String} {v : α} :
    ∀ {es : List (String × α)}, Ascending es → (k, v) ∈ es → es.lookup k = some v
  | (j, w) :: rest, hs, h => by
      have hs' := List.pairwise_cons.1 hs
      by_cases hb : k = j
      · subst hb
        rcases List.mem_cons.1 h with h | h
        · simp [(Prod.mk.inj h).2]
        · exact absurd (hs'.1 _ h) (String.lt_irrefl _)
      · have hb' : (k == j) = false := by simpa using hb
        rcases List.mem_cons.1 h with h | h
        · exact absurd (Prod.mk.inj h).1 hb
        · simp only [List.lookup_cons, hb']
          exact lookup_eq_some_of_mem hs'.2 h

/-- Ascending lists that answer every lookup alike are equal. -/
theorem ascending_ext {α : Type} : ∀ {es fs : List (String × α)}, Ascending es → Ascending fs →
    (∀ k, es.lookup k = fs.lookup k) → es = fs
  | [], [], _, _, _ => rfl
  | [], (j, w) :: _, _, _, h => by simpa using h j
  | (j, w) :: _, [], _, _, h => by simpa using h j
  | (i, v) :: es, (j, w) :: fs, hs, hf, h => by
      have hs' := List.pairwise_cons.1 hs
      have hf' := List.pairwise_cons.1 hf
      have hij : i = j := by
        refine key_eq_of_not_lt (fun hlt => ?_) (fun hlt => ?_)
        · have hn : ((j, w) :: fs).lookup i = none := lookup_eq_none_of_lt fun e he => by
            rcases List.mem_cons.1 he with rfl | he
            · exact hlt
            · exact String.lt_trans hlt (hf'.1 e he)
          rw [← h i] at hn
          simp at hn
        · have hn : ((i, v) :: es).lookup j = none := lookup_eq_none_of_lt fun e he => by
            rcases List.mem_cons.1 he with rfl | he
            · exact hlt
            · exact String.lt_trans hlt (hs'.1 e he)
          rw [h j] at hn
          simp at hn
      subst hij
      have hvw : v = w := by simpa using h i
      subst hvw
      have hrest : es = fs := ascending_ext hs'.2 hf'.2 fun k => by
        by_cases hk : k = i
        · subst hk
          rw [lookup_eq_none_of_lt hs'.1, lookup_eq_none_of_lt hf'.1]
        · have hb : (k == i) = false := by simpa using hk
          simpa only [List.lookup_cons, hb] using h k
      rw [hrest]

/-! ## 2. The dictionary -/

/-- A finite map from names to values, listed in ascending order of the names. -/
structure Dict (α : Type) where
  entries : List (String × α)
  ascending : Ascending entries

namespace Dict

variable {α : Type}

def empty : Dict α := ⟨[], List.Pairwise.nil⟩

instance : EmptyCollection (Dict α) := ⟨empty⟩

instance : Inhabited (Dict α) := ⟨empty⟩

/-- The value bound to a name. -/
def get? (d : Dict α) (k : String) : Option α := d.entries.lookup k

def contains (d : Dict α) (k : String) : Bool := (d.get? k).isSome

/-- The bound names, ascending. -/
def keys (d : Dict α) : List String := d.entries.map (·.1)

/-- Binds a name, over whatever it was bound to. -/
def insert (d : Dict α) (k : String) (v : α) : Dict α :=
  ⟨insertEntry k v d.entries, ascending_insertEntry d.ascending⟩

def erase (d : Dict α) (k : String) : Dict α :=
  ⟨d.entries.filter (·.1 != k), d.ascending.filter _⟩

/-- Binds every name of a list in turn, so that of two values for one name the later stays. -/
def insertAll (d : Dict α) (es : List (String × α)) : Dict α :=
  es.foldl (fun d e => d.insert e.1 e.2) d

/-- The dictionary of a list of bindings; the last binding of a name stays. -/
def ofList (es : List (String × α)) : Dict α := empty.insertAll es

/-! ## 3. What each operation answers -/

/-- **A dictionary is what it answers**: equal answers to every name make equal dictionaries. -/
@[ext] theorem ext_get? {d e : Dict α} (h : ∀ k, d.get? k = e.get? k) : d = e := by
  cases d; cases e
  simp only [Dict.mk.injEq]
  exact ascending_ext ‹_› ‹_› h

@[simp] theorem get?_empty (k : String) : (∅ : Dict α).get? k = none := rfl

@[simp] theorem get?_insert_self (d : Dict α) (k : String) (v : α) :
    (d.insert k v).get? k = some v := lookup_insertEntry_self

theorem get?_insert_ne (d : Dict α) {j k : String} (v : α) (h : j ≠ k) :
    (d.insert k v).get? j = d.get? j := lookup_insertEntry_ne h

theorem get?_insert (d : Dict α) (j k : String) (v : α) :
    (d.insert k v).get? j = if j = k then some v else d.get? j := by
  split
  · rename_i h; subst h; exact d.get?_insert_self j v
  · rename_i h; exact d.get?_insert_ne v h

theorem contains_insert (d : Dict α) (j k : String) (v : α) :
    (d.insert k v).contains j = (decide (j = k) || d.contains j) := by
  rw [contains, get?_insert]
  by_cases h : j = k <;> simp [h, contains]

/-- To bind a name to what it is bound to already changes nothing. -/
theorem insert_of_get?_eq {d : Dict α} {k : String} {v : α} (h : d.get? k = some v) :
    d.insert k v = d := by
  ext1 j
  rw [get?_insert]
  split
  · rename_i hj
    rw [hj, h]
  · rfl

theorem lookup_filter_ne {k j : String} : ∀ (es : List (String × α)),
    (es.filter (·.1 != k)).lookup j = if j = k then none else es.lookup j
  | [] => by simp
  | (i, w) :: rest => by
      have ih := lookup_filter_ne (k := k) (j := j) rest
      by_cases hi : i = k
      · subst hi
        by_cases hj : j = i
        · subst hj; simpa using ih
        · have hb : (j == i) = false := by simpa using hj
          simpa [List.lookup_cons, hb, hj] using ih
      · by_cases hj : j = i
        · subst hj; simp [hi]
        · have hb : (j == i) = false := by simpa using hj
          simpa [List.filter_cons, hi, List.lookup_cons, hb] using ih

theorem get?_erase (d : Dict α) (j k : String) :
    (d.erase k).get? j = if j = k then none else d.get? j := lookup_filter_ne d.entries

@[simp] theorem get?_erase_self (d : Dict α) (k : String) : (d.erase k).get? k = none := by
  simp [get?_erase]

/-- The keys are the names that answer. -/
theorem mem_keys {d : Dict α} {k : String} : k ∈ d.keys ↔ (d.get? k).isSome := by
  simp only [keys, List.mem_map]
  constructor
  · rintro ⟨⟨j, v⟩, he, rfl⟩
    simp [get?, lookup_eq_some_of_mem d.ascending he]
  · intro h
    obtain ⟨v, hv⟩ := Option.isSome_iff_exists.1 h
    exact ⟨(k, v), mem_of_lookup_eq_some hv, rfl⟩

theorem mem_keys_insert {d : Dict α} {j k : String} {v : α} :
    j ∈ (d.insert k v).keys ↔ j = k ∨ j ∈ d.keys := by
  rw [mem_keys, mem_keys, get?_insert]
  by_cases h : j = k <;> simp [h]

theorem pairwise_keys (d : Dict α) : d.keys.Pairwise (· < ·) :=
  List.pairwise_map.2 d.ascending

/-- The keys are listed in one way only: an ascending list with the same names is the same list. -/
theorem keys_eq_of_mem_iff {d : Dict α} {names : List String} (hn : names.Pairwise (· < ·))
    (h : ∀ k, k ∈ d.keys ↔ k ∈ names) : d.keys = names := by
  have hnodup : ∀ {ks : List String}, ks.Pairwise (· < ·) → ks.Nodup := by
    intro ks hks
    refine hks.imp fun hlt e => ?_
    rw [e] at hlt
    exact String.lt_irrefl _ hlt
  have hperm : d.keys.Perm names :=
    (List.perm_ext_iff_of_nodup (hnodup d.pairwise_keys) (hnodup hn)).2 h
  exact hperm.eq_of_pairwise (fun a b _ _ hab hba => absurd hba (String.lt_asymm hab))
    d.pairwise_keys hn

/-! ## 4. Several names at once -/

theorem insertAll_append (d : Dict α) (es fs : List (String × α)) :
    d.insertAll (es ++ fs) = (d.insertAll es).insertAll fs := by
  rw [insertAll, List.foldl_append]
  rfl

/-- What a name answers after several are bound is what it was bound to, or what it answered
    before. -/
theorem get?_insertAll_cases {k : String} {v : α} :
    ∀ (es : List (String × α)) (d : Dict α), (d.insertAll es).get? k = some v →
      (k, v) ∈ es ∨ d.get? k = some v
  | [], _, h => .inr h
  | (j, w) :: es, d, h => by
      rcases get?_insertAll_cases es (d.insert j w) h with h | h
      · exact .inl (List.mem_cons_of_mem _ h)
      · rw [get?_insert] at h
        split at h
        · rename_i hk
          cases h
          exact .inl (by simp [hk])
        · exact .inr h

/-- A name that is not among those bound answers as before. -/
theorem get?_insertAll_of_ne {k : String} :
    ∀ (es : List (String × α)) (d : Dict α), (∀ e ∈ es, e.1 ≠ k) →
      (d.insertAll es).get? k = d.get? k
  | [], _, _ => rfl
  | (j, w) :: es, d, h => by
      have hj : k ≠ j := fun e => h (j, w) List.mem_cons_self e.symm
      have ih := get?_insertAll_of_ne es (d.insert j w) fun e he => h e (List.mem_cons_of_mem _ he)
      rw [← d.get?_insert_ne w hj, ← ih]
      rfl

/-- A name that is bound once answers with its value. -/
theorem get?_insertAll_of_mem {k : String} {v : α} :
    ∀ (es : List (String × α)) (d : Dict α), (es.map (·.1)).Nodup → (k, v) ∈ es →
      (d.insertAll es).get? k = some v
  | (j, w) :: es, d, hn, h => by
      have hn' := List.nodup_cons.1 hn
      show ((d.insert j w).insertAll es).get? k = some v
      rcases List.mem_cons.1 h with he | h
      · cases he
        have hne : ∀ e ∈ es, e.1 ≠ k := fun e he hk => hn'.1 (List.mem_map.2 ⟨e, he, hk⟩)
        rw [get?_insertAll_of_ne es _ hne, get?_insert_self]
      · exact get?_insertAll_of_mem es _ hn'.2 h

/-- The names that several bindings leave bound: those bound before, and their own. -/
theorem mem_keys_insertAll {k : String} :
    ∀ (es : List (String × α)) (d : Dict α),
      k ∈ (d.insertAll es).keys ↔ k ∈ d.keys ∨ k ∈ es.map (·.1)
  | [], d => by simp [insertAll]
  | (j, w) :: es, d => by
      have ih := mem_keys_insertAll (k := k) es (d.insert j w)
      show k ∈ ((d.insert j w).insertAll es).keys ↔ _
      rw [ih, mem_keys_insert, List.map_cons, List.mem_cons, or_assoc, or_left_comm]

end Dict

end SearchQuery
