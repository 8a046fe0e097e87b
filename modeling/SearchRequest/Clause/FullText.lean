import SearchRequest.Clause.TermLevel

/-! # Full-text clauses

Clauses on analysed text, either on one field or on fields named among the options.
-/

namespace SearchRequest

inductive MatchSetting where
  | operator (o : Operator)
  | boost (b : Double)
  | cutoffFrequency (f : Double)
  | fuzziness (v : Value)
  | fuzzyExpansion (s : String)
  | fuzzyTranspositions (b : Bool)
  | lenient (b : Bool)
  | maxExpansions (n : UInt32)
  | prefixLength (n : UInt32)
  | analyzer (s : String)
  | minimumShouldMatch (v : Value)
  | autoGenerateSynonymsPhraseQuery (b : Bool)
  | zeroTerms (z : ZeroTerms)

instance : Setting MatchSetting where
  entry
    | .operator o => ("operator", Word.value o)
    | .boost b => ("boost", .double b)
    | .cutoffFrequency f => ("cutoff_frequency", .double f)
    | .fuzziness v => ("fuzziness", v)
    | .fuzzyExpansion s => ("fuzzy_rewrite", .str s)
    | .fuzzyTranspositions b => ("fuzzy_transpositions", .bool b)
    | .lenient b => ("lenient", .bool b)
    | .maxExpansions n => ("max_expansions", .uint32 n)
    | .prefixLength n => ("prefix_length", .uint32 n)
    | .analyzer s => ("analyzer", .str s)
    | .minimumShouldMatch v => ("minimum_should_match", v)
    | .autoGenerateSynonymsPhraseQuery b => ("auto_generate_synonyms_phrase_query", .bool b)
    | .zeroTerms z => ("zero_terms_query", Word.value z)

inductive PhraseSetting where
  | analyzer (s : String)
  | boost (b : Double)
  | slop (n : UInt32)
  | zeroTerms (z : ZeroTerms)

instance : Setting PhraseSetting where
  entry
    | .analyzer s => ("analyzer", .str s)
    | .boost b => ("boost", .double b)
    | .slop n => ("slop", .uint32 n)
    | .zeroTerms z => ("zero_terms_query", Word.value z)

/-- The settings of a phrase, and how many endings its last term may take. -/
inductive PhrasePrefixSetting where
  | phrase (s : PhraseSetting)
  | maxExpansions (n : UInt32)

instance : Setting PhrasePrefixSetting where
  entry
    | .phrase s => Setting.entry s
    | .maxExpansions n => ("max_expansions", .uint32 n)

inductive BoolPrefixSetting where
  | analyzer (s : String)
  | fuzzyExpansion (s : String)
  | minimumShouldMatch (v : Value)
  | fuzziness (v : Value)
  | operator (o : Operator)
  | boost (b : Double)
  | fuzzyTranspositions (b : Bool)
  | maxExpansions (n : UInt32)
  | prefixLength (n : UInt32)

instance : Setting BoolPrefixSetting where
  entry
    | .analyzer s => ("analyzer", .str s)
    | .fuzzyExpansion s => ("fuzzy_rewrite", .str s)
    | .minimumShouldMatch v => ("minimum_should_match", v)
    | .fuzziness v => ("fuzziness", v)
    | .operator o => ("operator", Word.value o)
    | .boost b => ("boost", .double b)
    | .fuzzyTranspositions b => ("fuzzy_transpositions", .bool b)
    | .maxExpansions n => ("max_expansions", .uint32 n)
    | .prefixLength n => ("prefix_length", .uint32 n)

/-- The settings of a match on one field, and those that several fields add. -/
inductive MultiMatchSetting where
  | single (s : MatchSetting)
  | fields (names : List String)
  | slop (n : UInt32)
  | tieBreaker (t : Double)
  | strategy (s : TextStrategy)

instance : Setting MultiMatchSetting where
  entry
    | .single s => Setting.entry s
    | .fields names => ("fields", .strs names)
    | .slop n => ("slop", .uint32 n)
    | .tieBreaker t => ("tie_breaker", .double t)
    | .strategy s => ("type", Word.value s)

inductive QueryStringSetting where
  | fields (names : List String)
  | defaultField (s : String)
  | analyzer (s : String)
  | fuzziness (s : String)
  | fuzzyExpansion (s : String)
  | minimumShouldMatch (s : String)
  | quoteAnalyzer (s : String)
  | quoteFieldSuffix (s : String)
  | expansion (s : String)
  | timeZone (s : String)
  | allowLeadingWildcard (b : Bool)
  | analyzeWildcard (b : Bool)
  | autoGenerateSynonymsPhraseQuery (b : Bool)
  | enablePositionIncrements (b : Bool)
  | fuzzyTranspositions (b : Bool)
  | lenient (b : Bool)
  | escape (b : Bool)
  | boost (b : Double)
  | tieBreaker (t : Double)
  | fuzzyMaxExpansions (n : Int64)
  | fuzzyPrefixLength (n : Int64)
  | maxDeterminizedStates (n : Int64)
  | phraseSlop (n : Int64)
  | defaultOperator (o : Operator)
  | strategy (s : TextStrategy)

instance : Setting QueryStringSetting where
  entry
    | .fields names => ("fields", .strs names)
    | .defaultField s => ("default_field", .str s)
    | .analyzer s => ("analyzer", .str s)
    | .fuzziness s => ("fuzziness", .str s)
    | .fuzzyExpansion s => ("fuzzy_rewrite", .str s)
    | .minimumShouldMatch s => ("minimum_should_match", .str s)
    | .quoteAnalyzer s => ("quote_analyzer", .str s)
    | .quoteFieldSuffix s => ("quote_field_suffix", .str s)
    | .expansion s => ("rewrite", .str s)
    | .timeZone s => ("time_zone", .str s)
    | .allowLeadingWildcard b => ("allow_leading_wildcard", .bool b)
    | .analyzeWildcard b => ("analyze_wildcard", .bool b)
    | .autoGenerateSynonymsPhraseQuery b => ("auto_generate_synonyms_phrase_query", .bool b)
    | .enablePositionIncrements b => ("enable_position_increments", .bool b)
    | .fuzzyTranspositions b => ("fuzzy_transpositions", .bool b)
    | .lenient b => ("lenient", .bool b)
    | .escape b => ("escape", .bool b)
    | .boost b => ("boost", .double b)
    | .tieBreaker t => ("tie_breaker", .double t)
    | .fuzzyMaxExpansions n => ("fuzzy_max_expansions", .int64 n)
    | .fuzzyPrefixLength n => ("fuzzy_prefix_length", .int64 n)
    | .maxDeterminizedStates n => ("max_determinized_states", .int64 n)
    | .phraseSlop n => ("phrase_slop", .int64 n)
    | .defaultOperator o => ("default_operator", Word.value o)
    | .strategy s => ("type", Word.value s)

inductive SimpleQueryStringSetting where
  | fields (names : List String)
  | analyzer (s : String)
  | minimumShouldMatch (s : String)
  | flags (s : String)
  | quoteFieldSuffix (s : String)
  | fuzzyTranspositions (b : Bool)
  | analyzeWildcard (b : Bool)
  | autoGenerateSynonymsPhraseQuery (b : Bool)
  | lenient (b : Bool)
  | fuzzyMaxExpansions (n : Int64)
  | fuzzyPrefixLength (n : Int64)
  | defaultOperator (o : Operator)

instance : Setting SimpleQueryStringSetting where
  entry
    | .fields names => ("fields", .strs names)
    | .analyzer s => ("analyzer", .str s)
    | .minimumShouldMatch s => ("minimum_should_match", .str s)
    | .flags s => ("flags", .str s)
    | .quoteFieldSuffix s => ("quote_field_suffix", .str s)
    | .fuzzyTranspositions b => ("fuzzy_transpositions", .bool b)
    | .analyzeWildcard b => ("analyze_wildcard", .bool b)
    | .autoGenerateSynonymsPhraseQuery b => ("auto_generate_synonyms_phrase_query", .bool b)
    | .lenient b => ("lenient", .bool b)
    | .fuzzyMaxExpansions n => ("fuzzy_max_expansions", .int64 n)
    | .fuzzyPrefixLength n => ("fuzzy_prefix_length", .int64 n)
    | .defaultOperator o => ("default_operator", Word.value o)

/-- A text looked for in one field. -/
abbrev FieldText (ω : Type) [Setting ω] := Builder FieldValue ω

/-- A text looked for in the fields that the options name. -/
abbrev FreeText (ω : Type) [Setting ω] := Builder Value ω

def FieldText.body {ω : Type} [Setting ω] (t : FieldText ω) : Object :=
  fieldBody t.parts.field (.obj (t.optionsWith "query" t.parts.value))

def FreeText.body {ω : Type} [Setting ω] (t : FreeText ω) : Object :=
  t.optionsWith "query" t.parts

end SearchRequest
