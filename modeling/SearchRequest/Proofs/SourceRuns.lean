import Mathlib.Data.List.DropRight
import SearchRequest.Proofs.EnvelopeRuns

/-! # Runs on the source filter

A call sets the source filter of a request, or lists fields for it. The filter after a run is told
from the last call that set one and from the fields that were listed since.
-/

namespace SearchRequest

namespace SourceFilter

variable {f : Option SourceFilter} {inc exc inc' exc' : List String}

/-- A filter that may not be set yet, and fields listed for it. A disabled filter, or none, has no
fields of its own. -/
def list? (f : Option SourceFilter) (inc exc : List String) : Option SourceFilter :=
  if inc = [] ∧ exc = [] then f
  else some (.fields ((f.getD empty).included ++ inc) ((f.getD empty).excluded ++ exc))

theorem list?_nil : list? f [] [] = f :=
  if_pos ⟨rfl, rfl⟩

theorem list?_of_ne_nil (h : ¬(inc = [] ∧ exc = [])) : list? f inc exc =
    some (.fields ((f.getD empty).included ++ inc) ((f.getD empty).excluded ++ exc)) :=
  if_neg h

theorem includes?_eq_list? : includes? f inc = list? f inc [] := by
  cases inc <;> simp [includes?, includes, list?]

theorem excludes?_eq_list? : excludes? f exc = list? f [] exc := by
  cases exc <;> simp [excludes?, excludes, list?]

theorem list?_list? : list? (list? f inc exc) inc' exc' = list? f (inc ++ inc') (exc ++ exc') := by
  by_cases h : inc = [] ∧ exc = []
  · obtain ⟨rfl, rfl⟩ := h
    rw [list?_nil, List.nil_append, List.nil_append]
  · have hn : ¬(inc ++ inc' = [] ∧ exc ++ exc' = []) := fun hn =>
      h ⟨(List.append_eq_nil_iff.mp hn.1).1, (List.append_eq_nil_iff.mp hn.2).1⟩
    rw [list?_of_ne_nil h, list?_of_ne_nil hn, list?]
    split
    · next h' => rw [h'.1, h'.2, List.append_nil, List.append_nil]
    · rw [Option.getD_some, included, excluded, List.append_assoc, List.append_assoc]

/-- The entry that shows names, left out if there are none. -/
def nameEntry (key : String) (names : List String) : List (String × Json) :=
  if names = [] then [] else [(key, .arr (names.map .str))]

theorem json_arr_str (names : List String) :
    (Value.arr (names.map .str)).json = .arr (names.map .str) :=
  congrArg Json.arr (List.map_map ..)

theorem json_document_fields : (fields inc exc).document.json =
    .obj (nameEntry "excludes" exc ++ nameEntry "includes" inc) := by
  have hk : "excludes" < "includes" := by decide
  have he : (∅ : Object).entries = [] := rfl
  cases inc <;> cases exc <;>
    simp [document, nameEntry, Value.obj, Value.arr?, Object.insert?, Object.insert, Keyed.insert,
      he, hk, json_arr_str, -List.map_cons]

theorem list?_eq_none_iff : list? f inc exc = none ↔ f = none ∧ inc = [] ∧ exc = [] := by
  rw [list?]
  split
  · next h => exact ⟨fun hf => ⟨hf, h⟩, fun hf => hf.1⟩
  · next h => exact ⟨nofun, fun hf => absurd hf.2 h⟩

theorem map_document_list? : (list? f inc exc).map (fun f => f.document.json) =
    if f = none ∧ inc = [] ∧ exc = [] then none
    else if f = some disabled ∧ inc = [] ∧ exc = [] then some (.bool false)
    else some (.obj (nameEntry "excludes" ((f.getD empty).excluded ++ exc) ++
      nameEntry "includes" ((f.getD empty).included ++ inc))) := by
  by_cases h : inc = [] ∧ exc = []
  · obtain ⟨rfl, rfl⟩ := h
    rw [list?_nil, List.append_nil, List.append_nil]
    cases f with
    | none => rfl
    | some f =>
      cases f with
      | disabled => rfl
      | fields inc exc => exact congrArg some json_document_fields
  · rw [list?_of_ne_nil h, if_neg fun hf => h hf.2, if_neg fun hf => h hf.2, Option.map_some,
      json_document_fields]

end SourceFilter

namespace Envelope

namespace Call

/-- The filter that a call sets. -/
def filter? : Call → Option SourceFilter
  | source f => some f
  | sourceDisabled => some .disabled
  | _ => none

def included : Call → List String
  | sourceIncludes names => names
  | _ => []

def excluded : Call → List String
  | sourceExcludes names => names
  | _ => []

/-- A list of no fields. -/
def listsNothing : Call → Bool
  | sourceIncludes names | sourceExcludes names => names.isEmpty
  | _ => false

theorem filters_eq_false_iff (call : Call) :
    call.filters = false ↔ call.filter? = none ∧ call.included = [] ∧ call.excluded = [] := by
  cases call <;> simp [filters, filter?, included, excluded]

end Call

/-- The last filter that a call set. -/
def lastFilter? (calls : List Call) : Option SourceFilter :=
  (calls.filterMap Call.filter?).getLast?

/-- The calls since the last one that set a filter, or all of them. -/
def sinceFilter (calls : List Call) : List Call :=
  calls.rtakeWhile fun call => call.filter?.isNone

theorem source_apply (e : Envelope) (call : Call) : (e.apply call).source =
    SourceFilter.list? (call.filter?.or e.source) call.included call.excluded := by
  cases call with
  | query c => cases c <;> exact SourceFilter.list?_nil.symm
  | sourceIncludes names => exact SourceFilter.includes?_eq_list?
  | sourceExcludes names => exact SourceFilter.excludes?_eq_list?
  | _ => exact SourceFilter.list?_nil.symm

/-! ## A run -/

section Run

variable (e : Envelope) (calls : List Call)

theorem run_append (calls' : List Call) : e.run (calls ++ calls') = (e.run calls).run calls' :=
  List.foldl_append

theorem run_concat (call : Call) : e.run (calls ++ [call]) = (e.run calls).apply call :=
  e.run_append calls [call]

theorem lastFilter?_concat (call : Call) :
    lastFilter? (calls ++ [call]) = call.filter?.or (lastFilter? calls) := by
  rw [lastFilter?, List.filterMap_append, List.getLast?_append]
  cases h : call.filter? <;> simp [h, lastFilter?]

/-- By induction from the last call, because fields count from the last filter on. -/
theorem source_run_eq : (e.run calls).source =
    SourceFilter.list? ((lastFilter? calls).or e.source)
      ((sinceFilter calls).flatMap Call.included) ((sinceFilter calls).flatMap Call.excluded) := by
  induction calls using List.reverseRecOn with
  | nil => exact SourceFilter.list?_nil.symm
  | append_singleton calls call ih =>
    rw [run_concat, source_apply, ih, lastFilter?_concat]
    cases h : call.filter? with
    | none =>
      have hs : sinceFilter (calls ++ [call]) = sinceFilter calls ++ [call] :=
        List.rtakeWhile_concat_pos _ _ _ (by rw [h]; rfl)
      rw [hs, List.flatMap_append, List.flatMap_append, List.flatMap_singleton,
        List.flatMap_singleton, Option.none_or, Option.none_or, SourceFilter.list?_list?]
    | some f =>
      have hs : sinceFilter (calls ++ [call]) = [] :=
        List.rtakeWhile_concat_neg _ _ _ (by rw [h]; exact Bool.false_ne_true)
      have hl : call.included = [] ∧ call.excluded = [] := by
        cases call <;> first | exact ⟨rfl, rfl⟩ | cases h
      rw [hs, hl.1, hl.2]
      rfl

/-- No other part of a request bears on its source filter. -/
theorem source_run_congr {e' : Envelope} (h : e.source = e'.source) :
    (e.run calls).source = (e'.run calls).source := by
  rw [source_run_eq, source_run_eq, h]

theorem apply_of_listsNothing {call : Call} (h : call.listsNothing = true) :
    e.apply call = e := by
  cases call with
  | sourceIncludes names =>
    have hs : SourceFilter.includes? e.source names = e.source := if_pos h
    rw [apply, hs]
  | sourceExcludes names =>
    have hs : SourceFilter.excludes? e.source names = e.source := if_pos h
    rw [apply, hs]
  | _ => cases h

theorem run_filter_not_listsNothing :
    e.run (calls.filter fun call => !call.listsNothing) = e.run calls := by
  induction calls generalizing e with
  | nil => rfl
  | cons call calls ih =>
    cases h : call.listsNothing with
    | false =>
      rw [List.filter_cons_of_pos (by rw [h]; rfl)]
      exact ih _
    | true =>
      rw [List.filter_cons_of_neg (by rw [h]; exact Bool.false_ne_true), ih]
      exact congrArg (run · calls) (e.apply_of_listsNothing h).symm

theorem sinceFilter_lists_iff : (∀ call ∈ sinceFilter calls, call.filters = false) ↔
    (sinceFilter calls).flatMap Call.included = [] ∧
      (sinceFilter calls).flatMap Call.excluded = [] := by
  have hf (call : Call) (hc : call ∈ sinceFilter calls) : call.filter? = none :=
    Option.isNone_iff_eq_none.mp
      (List.mem_rtakeWhile_imp (p := fun call : Call => call.filter?.isNone) hc)
  simp only [List.flatMap_eq_nil_iff, Call.filters_eq_false_iff]
  constructor
  · intro h
    constructor
    · intro call hc
      obtain ⟨-, hi, -⟩ := h call hc
      exact hi
    · intro call hc
      obtain ⟨-, -, he⟩ := h call hc
      exact he
  · exact fun h call hc => ⟨hf call hc, h.1 call hc, h.2 call hc⟩

theorem forall_filters_iff : (∀ call ∈ calls, call.filters = false) ↔ lastFilter? calls = none ∧
    (sinceFilter calls).flatMap Call.included = [] ∧
      (sinceFilter calls).flatMap Call.excluded = [] := by
  have hr := Envelope.empty.source_run calls
  rw [source_run_eq, SourceFilter.list?_eq_none_iff] at hr
  simpa [Envelope.empty] using hr.symm

end Run

/-- Calls with an empty list change nothing. If no other call set a filter or listed fields, none is
shown. Otherwise the last call that set a filter counts, with the fields listed since: the filter is
false if that call disabled it and none were listed, and has the fields of that call and then the
listed ones if not. So what was there before a filter is disabled is lost, fields listed afterwards
are the only ones, and a filter that comes with fields is the one to which they are added. -/
theorem source_of_last_filter (start : Start) (e : Envelope) (calls before after : List Call)
    (f : SourceFilter) (name : String) (names : List String) :
    e.run (calls.filter fun call => !call.listsNothing) = e.run calls ∧
    (∃ body : Object, (start.envelope.run calls).document = .obj body ∧
      body.get? "_source" =
        if ∀ call ∈ calls, call.filters = false then none
        else if lastFilter? calls = some .disabled ∧
            ∀ call ∈ sinceFilter calls, call.filters = false then some (.bool false)
        else some (.obj
          (SourceFilter.nameEntry "excludes" (((lastFilter? calls).getD .empty).excluded ++
              (sinceFilter calls).flatMap Call.excluded) ++
            SourceFilter.nameEntry "includes" (((lastFilter? calls).getD .empty).included ++
              (sinceFilter calls).flatMap Call.included)))) ∧
    (e.run (before ++ .sourceDisabled :: after)).source =
      (Envelope.empty.run (.sourceDisabled :: after)).source ∧
    (e.run (before ++ [.sourceDisabled, .sourceIncludes (name :: names)])).source =
      some (.fields (name :: names) []) ∧
    (e.run (before ++ [.sourceDisabled, .sourceExcludes (name :: names)])).source =
      some (.fields [] (name :: names)) ∧
    e.run [.source (f.includes names)] = e.run [.source f, .sourceIncludes names] ∧
    e.run [.source (f.excludes names)] = e.run [.source f, .sourceExcludes names] := by
  refine ⟨e.run_filter_not_listsNothing calls, ⟨_, rfl, ?_⟩, ?_, ?_, ?_, ?_, ?_⟩
  · have hs : start.envelope.source = none := by cases start <;> rfl
    rw [get?_body_source, source_run_eq, hs, Option.or_none, SourceFilter.map_document_list?]
    simp only [forall_filters_iff calls, sinceFilter_lists_iff]
  · have hd : ((e.run before).apply .sourceDisabled).source =
        (Envelope.empty.apply .sourceDisabled).source := rfl
    rw [run_append]
    exact source_run_congr _ after hd
  · rw [run_append]
    rfl
  · rw [run_append]
    rfl
  · cases names <;> rfl
  · cases names <;> rfl

example : (Envelope.empty.run [.sourceIncludes ["id"], .sourceDisabled, .sourceIncludes [],
    .sourceExcludes ["body"], .sourceExcludes ["body"]]).source =
      some (.fields [] ["body", "body"]) :=
  rfl

end Envelope

end SearchRequest
