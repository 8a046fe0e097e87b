import SearchRequest.Proofs.Assembly
import SearchRequest.Proofs.Leaves
import SearchRequest.Proofs.Runs

/-! # Runs on a range

A bound is written under one of the two keys of its side and clears the other one. So after any run
of calls a side shows the last bound that it was given and no other, whatever the calls on the other
side and on the options were. The keyed form of a range simulates it call by call.
-/

namespace SearchRequest

/-- The keys that a side may be shown under. -/
def Side.keys : Side → List String
  | lower => ["gt", "gte"]
  | upper => ["lt", "lte"]

theorem Side.not_mem_keys {side other : Side} (h : side ≠ other) :
    ∀ k ∈ side.keys, k ∉ other.keys := by
  revert h
  cases side <;> cases other <;> decide

theorem Bound.key_mem (side : Side) (inclusive : Bool) : key side inclusive ∈ side.keys := by
  cases side <;> cases inclusive <;> decide

namespace Comparison

theorem key_eq (c : Comparison) : c.key = Bound.key c.side c.inclusive := by
  cases c <;> rfl

theorem key_mem_iff (c : Comparison) (side : Side) : c.key ∈ side.keys ↔ c.side = side := by
  cases c <;> cases side <;> decide

theorem mem_keys_iff (c : Comparison) (k : String) :
    k ∈ c.side.keys ↔ k = c.key ∨ k = c.rival := by
  cases c <;> simp [side, Side.keys, key, rival, or_comm]

theorem rival_ne_key (c : Comparison) : c.rival ≠ c.key := by
  cases c <;> decide

end Comparison

namespace Range

open Setting

variable {side : Side} {k : String}

def run (r : Range) (calls : List Call) : Range :=
  calls.foldl apply r

/-! ## What calls give -/

namespace Call

/-- The entry that a call writes on a side. -/
def bound? (side : Side) : Call → Option (String × Value)
  | compare c v => if c.key ∈ side.keys then some (c.key, v) else none
  | set _ => none

/-- The value that a call writes under the key of an option. -/
def written? (k : String) : Call → Option Json
  | compare _ _ => none
  | set s => if k = key s then some (value s).json else none

end Call

/-- The last entry that was written on a side. -/
def lastBound? (side : Side) (calls : List Call) : Option (String × Value) :=
  (calls.filterMap (Call.bound? side)).getLast?

def optionKeys : List String :=
  ["from", "to", "format", "time_zone", "boost", "relation"]

theorem key_mem (s : RangeSetting) : key s ∈ optionKeys := by
  cases s <;> simp [optionKeys, key, entry]

theorem not_mem_keys_of_mem_optionKeys (h : k ∈ optionKeys) (side : Side) : k ∉ side.keys := by
  revert k
  cases side <;> decide

theorem written?_eq_none (h : k ∉ optionKeys) (call : Call) : call.written? k = none := by
  cases call with
  | compare c v => rfl
  | set s =>
    refine if_neg ?_
    rintro rfl
    exact h (key_mem s)

/-! ## The body -/

section Body

variable (r : Range)

/-- The entry of a side. -/
def entryOn? (side : Side) : Option (String × Value) :=
  (r.bound side).map fun b => (Bound.key side b.inclusive, b.value)

/-- What an entry that may be there shows under a key. -/
def shown (e : Option (String × Value)) (k : String) : Option Json :=
  e.bind fun e => if k = e.1 then some e.2.json else none

theorem shown_eq_none_or (e : Option (String × Value)) {k l : String} (h : k ≠ l) :
    shown e k = none ∨ shown e l = none := by
  cases e with
  | none => exact .inl rfl
  | some e =>
    by_cases hk : k = e.1
    · exact .inr (if_neg fun hl => h (hk.trans hl.symm))
    · exact .inl (if_neg hk)

theorem get?_insertBound (side : Side) (o : Object) :
    (r.insertBound side o).get? k = (shown (r.entryOn? side) k).or (o.get? k) := by
  rw [insertBound, entryOn?]
  cases r.bound side with
  | none => rfl
  | some b =>
    rw [Object.get?_insert, Option.map_some, shown, Option.bind_some]
    split <;> rfl

theorem shown_entryOn?_eq_none (h : k ∉ side.keys) : shown (r.entryOn? side) k = none := by
  rw [entryOn?]
  cases r.bound side with
  | none => rfl
  | some b =>
    refine if_neg ?_
    rintro rfl
    exact h (Bound.key_mem side b.inclusive)

/-- Neither the other side nor an option is shown under the keys of a side. -/
theorem get?_bounds_of_mem (h : k ∈ side.keys) : r.bounds.get? k = shown (r.entryOn? side) k := by
  have ho : r.options.object.get? k = none := r.options.get?_eq_none fun s hs =>
    not_mem_keys_of_mem_optionKeys (hs ▸ key_mem s) side h
  rw [bounds, get?_insertBound, get?_insertBound, ho, Option.or_none]
  cases side with
  | lower =>
    have hu : k ∉ Side.upper.keys := Side.not_mem_keys (by decide) k h
    rw [r.shown_entryOn?_eq_none hu, Option.none_or]
  | upper =>
    have hl : k ∉ Side.lower.keys := Side.not_mem_keys (by decide) k h
    rw [r.shown_entryOn?_eq_none hl, Option.or_none]

theorem get?_bounds_of_not_mem (h : ∀ side : Side, k ∉ side.keys) :
    r.bounds.get? k = r.options.object.get? k := by
  rw [bounds, get?_insertBound, get?_insertBound, r.shown_entryOn?_eq_none (h .upper),
    r.shown_entryOn?_eq_none (h .lower), Option.none_or, Option.none_or]

/-- The two keys of a side are never there together. -/
theorem get?_bounds_eq_none_or (side : Side) {k l : String} (hk : k ∈ side.keys)
    (hl : l ∈ side.keys) (h : k ≠ l) : r.bounds.get? k = none ∨ r.bounds.get? l = none := by
  rw [get?_bounds_of_mem _ hk, get?_bounds_of_mem _ hl]
  exact shown_eq_none_or _ h

end Body

/-! ## One call -/

section Step

variable (r : Range) (c : Comparison) (v : Value)

theorem entryOn?_compare : (r.apply (.compare c v)).entryOn? side =
    if c.side = side then some (c.key, v) else r.entryOn? side := by
  rw [entryOn?, bound_compare]
  split
  · next h => rw [c.key_eq, h]; rfl
  · rfl

/-- A bound is written under its key, clears the rival one, and leaves all others as they are. -/
theorem get?_bounds_compare : (r.apply (.compare c v)).bounds.get? k =
    if k = c.key then some v.json else if k = c.rival then none else r.bounds.get? k := by
  by_cases h : k ∈ c.side.keys
  · rw [get?_bounds_of_mem _ h, entryOn?_compare, if_pos rfl, shown, Option.bind_some]
    rcases (c.mem_keys_iff k).mp h with rfl | rfl
    · rw [if_pos rfl, if_pos rfl]
    · rw [if_neg c.rival_ne_key, if_neg c.rival_ne_key, if_pos rfl]
  · have hk := mt (c.mem_keys_iff k).mpr h
    rw [if_neg fun he => hk (.inl he), if_neg fun he => hk (.inr he)]
    by_cases ho : ∃ side : Side, k ∈ side.keys
    · obtain ⟨side, ho⟩ := ho
      have hs : c.side ≠ side := by
        rintro rfl
        exact h ho
      rw [get?_bounds_of_mem _ ho, get?_bounds_of_mem _ ho, entryOn?_compare, if_neg hs]
    · have ho (side : Side) : k ∉ side.keys := fun hs => ho ⟨side, hs⟩
      rw [get?_bounds_of_not_mem _ ho, get?_bounds_of_not_mem _ ho, options_compare]

theorem get?_bounds_set (s : RangeSetting) : (r.apply (.set s)).bounds.get? k =
    if k = key s then some (value s).json else r.bounds.get? k := by
  by_cases hs : ∃ side : Side, k ∈ side.keys
  · obtain ⟨side, hs⟩ := hs
    have hk : k ≠ key s := by
      rintro rfl
      exact not_mem_keys_of_mem_optionKeys (key_mem s) side hs
    rw [get?_bounds_of_mem _ hs, get?_bounds_of_mem _ hs, if_neg hk]
    cases side <;> rfl
  · have hs (side : Side) : k ∉ side.keys := fun h => hs ⟨side, h⟩
    rw [get?_bounds_of_not_mem _ hs, get?_bounds_of_not_mem _ hs]
    exact Object.get?_insert ..

theorem field_apply (call : Call) : (r.apply call).field = r.field := by
  cases call with
  | compare c v => cases h : c.side <;> simp [apply, h]
  | set s => rfl

theorem entryOn?_apply (call : Call) :
    (r.apply call).entryOn? side = (call.bound? side).or (r.entryOn? side) := by
  cases call with
  | set s => cases side <;> rfl
  | compare c v =>
    rw [entryOn?_compare, Call.bound?]
    simp only [c.key_mem_iff]
    split <;> rfl

theorem get?_options_apply (call : Call) : (r.apply call).options.object.get? k =
    (call.written? k).or (r.options.object.get? k) := by
  cases call with
  | compare c v => rw [options_compare]; rfl
  | set s => exact r.options.get?_set s

end Step

/-! ## A run -/

section Run

variable (r : Range) (calls : List Call)

theorem entryOn?_run : (r.run calls).entryOn? side = (lastBound? side calls).or (r.entryOn? side) :=
  last_of_run (entryOn? · side) entryOn?_apply r calls

theorem get?_options_run : (r.run calls).options.object.get? k =
    (calls.filterMap (Call.written? k)).getLast?.or (r.options.object.get? k) :=
  last_of_run (fun r : Range => r.options.object.get? k) get?_options_apply r calls

theorem field_run : (r.run calls).field = r.field := by
  induction calls generalizing r with
  | nil => rfl
  | cons call calls ih => exact (ih (r.apply call)).trans (r.field_apply call)

theorem run_concat (call : Call) : r.run (calls ++ [call]) = (r.run calls).apply call :=
  List.foldl_append

end Run

/-! ## The keyed form -/

section Keyed

variable (r : Range)

theorem bounds_compare (c : Comparison) (v : Value) :
    (r.apply (.compare c v)).bounds = (r.bounds.insert c.key v).erase c.rival := by
  refine Object.ext_get? fun k => ?_
  rw [get?_bounds_compare, Object.get?_erase, Object.get?_insert]
  by_cases h : k = c.rival
  · rw [if_pos h, if_pos h, if_neg (h ▸ c.rival_ne_key)]
  · rw [if_neg h, if_neg h]

theorem bounds_set (s : RangeSetting) :
    (r.apply (.set s)).bounds = r.bounds.insert (key s) (value s) := by
  refine Object.ext_get? fun k => ?_
  rw [get?_bounds_set, Object.get?_insert]

/-- Each call does to the keyed form what it does to the range. -/
theorem keyed_apply (call : Call) : (r.apply call).keyed = r.keyed.apply call := by
  unfold keyed
  rw [field_apply]
  cases call with
  | compare c v => rw [bounds_compare]; rfl
  | set s => rw [bounds_set]; rfl

theorem keyed_run (calls : List Call) :
    (r.run calls).keyed = calls.foldl KeyedRange.apply r.keyed := by
  induction calls generalizing r with
  | nil => rfl
  | cons call calls ih =>
    rw [List.foldl_cons, ← keyed_apply]
    exact ih (r.apply call)

/-- A range with at most one bound on each side and an object whose entries are put in and taken out
key by key make the same document after the same calls. -/
theorem document_run_keyed (field : String) (calls : List Call) :
    (Leaf.range (run { field } calls)).document =
      .entry "range" (.obj (calls.foldl KeyedRange.apply { field }).body) := by
  have hn : keyed { field } = { field } := rfl
  rw [← hn, ← keyed_run]
  rfl

end Keyed

section New

variable (field : String) (calls : List Call)

theorem get?_bounds_run_of_mem (h : k ∈ side.keys) :
    (run { field } calls).bounds.get? k = shown (lastBound? side calls) k := by
  have hn : entryOn? { field } side = none := by
    cases side <;> rfl
  rw [get?_bounds_of_mem _ h, entryOn?_run, hn, Option.or_none]

theorem get?_bounds_run_of_not_mem (h : ∀ side : Side, k ∉ side.keys) :
    (run { field } calls).bounds.get? k = (calls.filterMap (Call.written? k)).getLast? := by
  rw [get?_bounds_of_not_mem _ h, get?_options_run]
  exact Option.or_none

end New

/-- After any run of calls, each side shows the last bound that was written on it, under the key of
that bound and with its value, and nothing under the other key. Each option shows its last value,
and nothing else is shown. A bound that is given next changes no keys but its own and the rival one,
and an option no key but its own. -/
theorem bounds_of_run (field : String) (calls : List Call) :
    ∃ body : Object,
      (Leaf.range (run { field } calls)).document = .entry "range" (.entry field (.obj body)) ∧
      (∀ side : Side, ∀ k ∈ side.keys, body.get? k = shown (lastBound? side calls) k) ∧
      (body.get? "gt" = none ∨ body.get? "gte" = none) ∧
      (body.get? "lt" = none ∨ body.get? "lte" = none) ∧
      (∀ k ∈ optionKeys, body.get? k = (calls.filterMap (Call.written? k)).getLast?) ∧
      (∀ k ∉ optionKeys, (∀ side : Side, k ∉ side.keys) → body.get? k = none) ∧
      (∀ (c : Comparison) (v : Value) (k : String),
        (run { field } (calls ++ [.compare c v])).bounds.get? k =
          if k = c.key then some v.json else if k = c.rival then none else body.get? k) ∧
      ∀ (s : RangeSetting) (k : String), (run { field } (calls ++ [.set s])).bounds.get? k =
        if k = key s then some (value s).json else body.get? k := by
  refine ⟨(run { field } calls).bounds, ?_, fun side k hk => get?_bounds_run_of_mem field calls hk,
    get?_bounds_eq_none_or _ .lower (by decide) (by decide) (by decide),
    get?_bounds_eq_none_or _ .upper (by decide) (by decide) (by decide), ?_, ?_, ?_, ?_⟩
  · rw [Leaf.document, Leaf.body, body, field_run]
    rfl
  · intro k hk
    exact get?_bounds_run_of_not_mem field calls (not_mem_keys_of_mem_optionKeys hk)
  · intro k hk hs
    rw [get?_bounds_run_of_not_mem field calls hs,
      List.filterMap_eq_nil_iff.mpr fun call _ => written?_eq_none hk call]
    rfl
  · intro c v k
    rw [run_concat, get?_bounds_compare]
  · intro s k
    rw [run_concat, get?_bounds_set]

end Range

end SearchRequest
