import SearchRequest.Clause.FullText
import SearchRequest.Clause.Range

/-! # Leaf clauses

The clauses that hold no other clause. A document names its kind and holds the body of the clause.
-/

namespace SearchRequest

inductive Leaf where
  | matchAll (b : Builder Unit ScoreSetting)
  | matchNone (b : Builder Unit NameSetting)
  | term (b : Term)
  | terms (b : Terms)
  | termsSet (b : TermsSet)
  | ids (b : Ids)
  | presence (b : Presence)
  | regexp (b : Regexp)
  | range (r : Range)
  | text (b : FieldText MatchSetting)
  | phrase (b : FieldText PhraseSetting)
  | phrasePrefix (b : FieldText PhrasePrefixSetting)
  | boolPrefix (b : FieldText BoolPrefixSetting)
  | multiMatch (b : FreeText MultiMatchSetting)
  | queryString (b : FreeText QueryStringSetting)
  | simpleQueryString (b : FreeText SimpleQueryStringSetting)
  | script (b : ScriptFilter)
  deriving BEq

namespace Leaf

def kind : Leaf → String
  | matchAll _ => "match_all"
  | matchNone _ => "match_none"
  | term _ => "term"
  | terms _ => "terms"
  | termsSet _ => "terms_set"
  | ids _ => "ids"
  | presence _ => "exists"
  | regexp _ => "regexp"
  | range _ => "range"
  | text _ => "match"
  | phrase _ => "match_phrase"
  | phrasePrefix _ => "match_phrase_prefix"
  | boolPrefix _ => "match_bool_prefix"
  | multiMatch _ => "multi_match"
  | queryString _ => "query_string"
  | simpleQueryString _ => "simple_query_string"
  | script _ => "script"

def body : Leaf → Object
  | matchAll b => b.options.object
  | matchNone b => b.options.object
  | term b => Term.body b
  | terms b => Terms.body b
  | termsSet b => TermsSet.body b
  | ids b => Ids.body b
  | presence b => Presence.body b
  | regexp b => Regexp.body b
  | range r => r.body
  | text b => FieldText.body b
  | phrase b => FieldText.body b
  | phrasePrefix b => FieldText.body b
  | boolPrefix b => FieldText.body b
  | multiMatch b => FreeText.body b
  | queryString b => FreeText.body b
  | simpleQueryString b => FreeText.body b
  | script b => ScriptFilter.body b

def document (l : Leaf) : Value :=
  .entry l.kind (.obj l.body)

end Leaf

end SearchRequest
