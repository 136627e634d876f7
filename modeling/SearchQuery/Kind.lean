import SearchQuery.Json.Reading

/-!
# The catalog of query kinds

Every query is of one of twenty-seven kinds. A kind fixes

* its `name`, unique in the catalog, and the `tag` its clauses stand under, which several kinds
  share: match-all and phrase queries are match clauses with extra options;
* its `fields` -- the names a query of the kind may hold values under, in the order in which a
  clause is laid out;
* which of them are `required`, which are `forced` to a value, and of which two one is needed
  (`alternatives`);
* the `Shape` of its clauses.

In JSON a kind is its name (`Kind.ofJson`, `Kind.toJson`).
-/

namespace SearchQuery

/-! ## 1. Shapes -/

/-- How a clause is laid out. -/
inductive Shape where
  /-- The body stands under the tag. -/
  | generic
  /-- The body stands under the tag and the primary field. -/
  | primaryField
  /-- As `primaryField`, with the forced values pinned. -/
  | matchAll
  /-- As `primaryField`, with a value and a boost. -/
  | termLike
  /-- As `primaryField`, with a value and the fuzzy options. -/
  | fuzzy
  /-- As `primaryField`, less the first two fields. -/
  | moreLikeThisField
deriving DecidableEq, Repr, Inhabited

namespace Shape

/-- Whether a clause is keyed by a document field. -/
def hasPrimaryField : Shape → Bool
  | .generic => false
  | _ => true

/-- Whether a clause at the root is wrapped. -/
def wrapsAtRoot : Shape → Bool
  | .generic | .primaryField | .matchAll => true
  | .termLike | .fuzzy | .moreLikeThisField => false

end Shape

/-! ## 2. Kinds -/

inductive Kind where
  | matchText
  | matchAll
  | matchPhrase
  | multiMatch
  | bool
  | boosting
  | commonTerms
  | constantScore
  | term
  | termPrefix
  | disMax
  | filtered
  | fuzzyLikeThis
  | fuzzyLikeThisField
  | functionScore
  | scriptScore
  | randomScore
  | fieldValueFactor
  | fuzzy
  | hasChild
  | hasParent
  | ids
  | indices
  | moreLikeThis
  | moreLikeThisField
  | nested
  | queryString
deriving DecidableEq, Repr, Inhabited

namespace Kind

/-- Every kind, in catalog order. -/
def all : List Kind :=
  [ .matchText, .matchAll, .matchPhrase, .multiMatch, .bool, .boosting, .commonTerms,
    .constantScore, .term, .termPrefix, .disMax, .filtered, .fuzzyLikeThis, .fuzzyLikeThisField,
    .functionScore, .scriptScore, .randomScore, .fieldValueFactor, .fuzzy, .hasChild, .hasParent,
    .ids, .indices, .moreLikeThis, .moreLikeThisField, .nested, .queryString ]

theorem mem_all (k : Kind) : k ∈ all := by cases k <;> decide

/-- The name of a kind in the catalog, in errors and in reports. -/
def name : Kind → String
  | .matchText => "match"
  | .matchAll => "match_all"
  | .matchPhrase => "match_phrase"
  | .multiMatch => "multi_match"
  | .bool => "bool"
  | .boosting => "boosting"
  | .commonTerms => "common_terms"
  | .constantScore => "constant_score"
  | .term => "term"
  | .termPrefix => "prefix"
  | .disMax => "dis_max"
  | .filtered => "filtered"
  | .fuzzyLikeThis => "fuzzy_like_this"
  | .fuzzyLikeThisField => "fuzzy_like_this_field"
  | .functionScore => "function_score"
  | .scriptScore => "script_score"
  | .randomScore => "random_score"
  | .fieldValueFactor => "field_value_factor"
  | .fuzzy => "fuzzy"
  | .hasChild => "has_child"
  | .hasParent => "has_parent"
  | .ids => "ids"
  | .indices => "indices"
  | .moreLikeThis => "more_like_this"
  | .moreLikeThisField => "more_like_this_field"
  | .nested => "nested"
  | .queryString => "query_string"

/-- The name that the clauses of a kind stand under. -/
def tag : Kind → String
  | .matchAll | .matchPhrase => "match"
  | .commonTerms => "common"
  | k => k.name

def ofName? (s : String) : Option Kind := all.find? (·.name = s)

theorem ofName?_name (k : Kind) : ofName? k.name = some k := by cases k <;> decide +kernel

theorem name_injective {j k : Kind} (h : j.name = k.name) : j = k := by
  have := ofName?_name k
  rw [← h, ofName?_name j] at this
  exact Option.some.inj this

/-! ## 3. Fields -/

def matchFields : List String :=
  ["query", "operator", "minimum_should_match", "analyzer", "fuzziness", "prefix_length",
    "max_expansions", "zero_terms_query", "cutoff_frequency"]

/-- The fields of a more-like-this clause. The text and the fields it is compared in come first:
    the clause on a single field leaves these two out. -/
def moreLikeThisFields : List String :=
  ["like_text", "fields", "min_term_freq", "max_query_terms", "docs", "ids", "include",
    "percent_terms_to_match", "stop_words", "min_doc_freq", "max_doc_freq", "min_word_length",
    "max_word_length", "boost", "analyzer"]

/-- The names a query of the kind may hold values under, in order. -/
def fields : Kind → List String
  | .matchText | .matchAll => matchFields
  | .matchPhrase => matchFields ++ ["slop", "type"]
  | .multiMatch =>
    ["fields", "query", "type", "tie_breaker", "analyzer", "boost", "operator",
      "minimum_should_match", "fuzziness", "prefix_length", "max_expansions", "zero_terms_query",
      "rewrite", "cutoff_frequency"]
  | .bool => ["must", "must_not", "should", "minimum_should_match", "disable_coord", "boost"]
  | .boosting => ["positive", "negative", "negative_boost"]
  | .commonTerms =>
    ["query", "low_freq_operator", "boost", "analyzer", "disable_coord", "minimum_should_match",
      "cutoff_frequency"]
  | .constantScore => ["filter", "query", "boost"]
  | .term | .termPrefix => ["value", "boost"]
  | .disMax => ["queries", "boost", "tie_breaker"]
  | .filtered => ["query", "filter", "strategy"]
  | .fuzzyLikeThis =>
    ["like_text", "fields", "max_query_terms", "ignore_tf", "fuzziness", "boost", "analyzer",
      "prefix_length"]
  | .fuzzyLikeThisField =>
    ["like_text", "max_query_terms", "ignore_tf", "fuzziness", "boost", "analyzer",
      "prefix_length"]
  | .functionScore =>
    ["query", "filter", "boost", "functions", "boost_mode", "max_boost", "score_mode"]
  | .scriptScore => ["script", "lang", "params"]
  | .randomScore => ["seed"]
  | .fieldValueFactor => ["field", "factor", "modifier"]
  | .fuzzy => ["value", "boost", "fuzziness", "prefix_length", "max_expansions"]
  | .hasChild => ["query", "type", "score_mode", "min_children", "max_children"]
  | .hasParent => ["query", "parent_type", "score_mode"]
  | .ids => ["type", "values"]
  | .indices => ["query", "indices", "index", "no_match_query"]
  | .moreLikeThis | .moreLikeThisField => moreLikeThisFields
  | .nested => ["path", "score_mode", "query"]
  | .queryString =>
    ["query", "default_field", "default_operator", "tie_breaker", "use_dis_max", "fields",
      "rewrite", "locale", "lenient", "minimum_should_match", "auto_generate_phrase_queries",
      "analyze_wildcard", "boost", "phrase_slop", "fuzzy_prefix_length", "fuzziness",
      "fuzzy_max_expansions", "enable_position_increments", "lowercase_expanded_terms",
      "allow_leading_wildcard", "analyzer"]

def declares (k : Kind) (name : String) : Bool := k.fields.contains name

/-- The options that a fuzzy clause has next to its value, in the order of its layout. -/
def fuzzyOptions : List String := ["boost", "fuzziness", "prefix_length", "max_expansions"]

/-- The fields that hold a value in every query of the kind. -/
def required : Kind → List String
  | .matchText | .matchAll | .matchPhrase | .commonTerms | .queryString => ["query"]
  | .multiMatch => ["fields", "query"]
  | .term | .termPrefix | .fuzzy => ["value"]
  | .disMax => ["queries"]
  | .fuzzyLikeThis | .fuzzyLikeThisField | .moreLikeThis | .moreLikeThisField => ["like_text"]
  | .scriptScore => ["script"]
  | .randomScore => ["seed"]
  | .fieldValueFactor => ["field", "factor"]
  | .hasChild => ["query", "type"]
  | .hasParent => ["query", "parent_type"]
  | .ids => ["values"]
  | .indices => ["query"]
  | .nested => ["query", "path"]
  | .bool | .boosting | .constantScore | .filtered | .functionScore => []

theorem declares_of_mem_required {k : Kind} {name : String} (h : name ∈ k.required) :
    k.declares name := by
  have : ∀ k : Kind, ∀ n ∈ k.required, k.declares n = true := by
    intro k; cases k <;> decide +kernel
  exact this k name h

/-- The texts that a query of the kind starts with, whatever its builder was given. -/
def forced : Kind → List (String × String)
  | .matchAll => [("query", ""), ("zero_terms_query", "all")]
  | .matchPhrase => [("type", "phrase")]
  | _ => []

theorem declares_of_mem_forced {k : Kind} {e : String × String} (h : e ∈ k.forced) :
    k.declares e.1 := by
  have : ∀ k : Kind, ∀ e ∈ k.forced, k.declares e.1 = true := by
    intro k; cases k <;> decide +kernel
  exact this k e h

theorem nodup_forced (k : Kind) : (k.forced.map (·.1)).Nodup := by cases k <;> decide

/-- Two fields of which a query of the kind holds one at least. -/
def alternatives : Kind → Option (String × String)
  | .indices => some ("index", "indices")
  | .constantScore => some ("filter", "query")
  | _ => none

/-! ## 4. The shape of a kind -/

/-- How the clauses of a kind are laid out. -/
def shape : Kind → Shape
  | .matchText | .matchPhrase | .commonTerms | .fuzzyLikeThisField => .primaryField
  | .matchAll => .matchAll
  | .term | .termPrefix => .termLike
  | .fuzzy => .fuzzy
  | .moreLikeThisField => .moreLikeThisField
  | _ => .generic

/-! ## 5. Kinds in JSON -/

/-- The kind of a JSON value. -/
def ofJson : Json → Except ReadError Kind := readName (all.map fun k => (k.name, k))

/-- A kind as JSON. -/
def toJson (k : Kind) : Json := .string k.name

/-- **A kind that is written is read back.** -/
theorem ofJson_toJson (k : Kind) : ofJson k.toJson = .ok k :=
  readName_name (fun _ _ => name_injective) (mem_all k)

end Kind

end SearchQuery
