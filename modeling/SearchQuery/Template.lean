import SearchQuery.Builder

/-!
# Templates

A template is a typed way to begin a builder. There is one for every kind, and it asks for what the
kind requires: a builder that begins with a template is never short of a required value
(`Template.builder`).
-/

namespace SearchQuery

/-- A way to begin a query. -/
inductive Template where
  | matchText (field : String) (text : Value)
  /-- Every document of a field. -/
  | matchAll (field : String)
  | matchPhrase (field : String) (text : Value)
  | multiMatch (fields text : Value)
  /-- A match that splits terms by frequency. -/
  | commonTerms (field : String) (text : Value)
  | bool
  /-- A clause that demotes documents instead of excluding them. -/
  | boosting
  | disMax (queries : List NodeId)
  /-- One score for every document of a filter or query. -/
  | constantScore
  | filtered
  /-- A query rescored by functions. -/
  | functionScore
  | scriptScore (script : Value)
  /-- Scoring at random, reproducibly. -/
  | randomScore (seed : Value)
  | fieldValueFactor (field : String) (factor : Value)
  | fuzzy (field : String) (value : Value)
  | fuzzyLikeThis (text : Value)
  | fuzzyLikeThisField (field : String) (text : Value)
  | ids (values : Value)
  | indices (query : NodeId)
  | nested (path : String) (query : NodeId)
  /-- Parents by their children. -/
  | hasChild (childType : String) (query : NodeId)
  /-- Children by their parent. -/
  | hasParent (parentType : String) (query : NodeId)
  | moreLikeThis (text fields : Value)
  | moreLikeThisField (field : String) (text : Value)
  | termPrefix (field : String) (start : Value)
  | queryString (query : Value)
  | term (field : String) (value : Value)

namespace Template

def kind : Template → Kind
  | .matchText .. => .matchText
  | .matchAll .. => .matchAll
  | .matchPhrase .. => .matchPhrase
  | .multiMatch .. => .multiMatch
  | .commonTerms .. => .commonTerms
  | .bool => .bool
  | .boosting => .boosting
  | .disMax .. => .disMax
  | .constantScore => .constantScore
  | .filtered => .filtered
  | .functionScore => .functionScore
  | .scriptScore .. => .scriptScore
  | .randomScore .. => .randomScore
  | .fieldValueFactor .. => .fieldValueFactor
  | .fuzzy .. => .fuzzy
  | .fuzzyLikeThis .. => .fuzzyLikeThis
  | .fuzzyLikeThisField .. => .fuzzyLikeThisField
  | .ids .. => .ids
  | .indices .. => .indices
  | .nested .. => .nested
  | .hasChild .. => .hasChild
  | .hasParent .. => .hasParent
  | .moreLikeThis .. => .moreLikeThis
  | .moreLikeThisField .. => .moreLikeThisField
  | .termPrefix .. => .termPrefix
  | .queryString .. => .queryString
  | .term .. => .term

/-- The document field that a template keys its clause by. -/
def field : Template → Option String
  | .matchText f _ | .matchAll f | .matchPhrase f _ | .commonTerms f _ | .fuzzy f _
  | .fuzzyLikeThisField f _ | .moreLikeThisField f _ | .termPrefix f _ | .term f _ => some f
  | _ => none

/-- The values that a template is given, under their names. -/
def values : Template → List (String × Value)
  | .matchText _ text | .matchPhrase _ text | .commonTerms _ text => [("query", text)]
  | .multiMatch fields text => [("fields", fields), ("query", text)]
  | .disMax queries => [("queries", .nodes queries)]
  | .scriptScore script => [("script", script)]
  | .randomScore seed => [("seed", seed)]
  | .fieldValueFactor field factor => [("field", .text field), ("factor", factor)]
  | .fuzzy _ value | .term _ value => [("value", value)]
  | .termPrefix _ start => [("value", start)]
  | .fuzzyLikeThis text | .fuzzyLikeThisField _ text | .moreLikeThisField _ text =>
    [("like_text", text)]
  | .ids values => [("values", values)]
  | .indices query => [("query", .node query)]
  | .nested path query => [("path", .text path), ("query", .node query)]
  | .hasChild childType query => [("type", .text childType), ("query", .node query)]
  | .hasParent parentType query => [("parent_type", .text parentType), ("query", .node query)]
  | .moreLikeThis text fields => [("like_text", text), ("fields", fields)]
  | .queryString query => [("query", query)]
  | .matchAll _ | .bool | .boosting | .constantScore | .filtered | .functionScore => []

/-- The builder that a template begins. -/
def builder (t : Template) : Builder := ⟨t.kind, t.field, .ofList t.values⟩

/-- A template keys its clause by a document field exactly if its kind does. -/
theorem isSome_field (t : Template) : t.field.isSome = t.kind.shape.hasPrimaryField := by
  cases t <;> rfl

end Template

end SearchQuery
