import SearchRequest.Proofs.Clauses
import SearchRequest.Proofs.Expression
import SearchRequest.Proofs.Runs

/-! # Runs on a bool

After any run of calls on an empty bool, each slot holds the present clauses that it was given, in
the order of the calls, and each option its last value. Calls on different slots do not meet, and it
does not matter how the clauses of a slot are divided among calls.
-/

namespace SearchRequest.BoolClause

open Logged

variable {slot : Slot} {key : String} {l : Logger}

def run (b : BoolClause) (calls : List Call) : Logged BoolClause :=
  calls.foldlM apply b

/-- The bool after one call, whatever the logger hears of it. -/
def next (b : BoolClause) (call : Call) : BoolClause :=
  (b.apply call).result {}

namespace Call

/-- The present clauses that a call gives to a slot. -/
def given (slot : Slot) : Call → List Clause
  | add other c => if other = slot then c.toList else []
  | addAll other cs => if other = slot then cs.filterMap id else []
  | set _ => []

/-- The value that a call writes under the key of an option. -/
def written? (key : String) : Call → Option Json
  | set s => if key = Setting.key s then some (Setting.value s).json else none
  | add _ _ | addAll _ _ => none

end Call

/-! ## One call -/

theorem apply_result (b : BoolClause) (call : Call) (l : Logger) :
    (b.apply call).result l = b.next call := by
  cases call with
  | add slot c => exact (add_result b c).trans (add_result b c).symm
  | addAll slot cs => exact (addAll_result b cs).trans (addAll_result b cs).symm
  | set s => rfl

theorem get_next (b : BoolClause) (call : Call) :
    (b.next call).parts.get slot = b.parts.get slot ++ call.given slot := by
  cases call with
  | add other c =>
    rw [next, apply, add_result, Call.given]
    exact Slots.get_pushes ..
  | addAll other cs =>
    rw [next, apply, addAll_result, Call.given]
    exact Slots.get_pushes ..
  | set s => exact (List.append_nil _).symm

theorem get?_next (b : BoolClause) (call : Call) : (b.next call).options.object.get? key =
    (call.written? key).or (b.options.object.get? key) := by
  cases call with
  | add other c => rw [next, apply, add_result]; rfl
  | addAll other cs => rw [next, apply, addAll_result]; rfl
  | set s => exact b.options.get?_set s

/-! ## A run -/

section Run

variable (calls : List Call)

theorem run_result (b : BoolClause) : (b.run calls).result l = calls.foldl next b :=
  result_foldlM apply_result b calls l

theorem get_run :
    ((empty.run calls).result l).parts.get slot = calls.flatMap (Call.given slot) := by
  rw [run_result, all_of_run (fun b : BoolClause => b.parts.get slot) get_next]
  cases slot <;> rfl

theorem get?_run : ((empty.run calls).result l).options.object.get? key =
    (calls.filterMap (Call.written? key)).getLast? := by
  rw [run_result,
    last_of_run (fun b : BoolClause => b.options.object.get? key) get?_next]
  exact Option.or_none

end Run

/-- A run is known by the clauses that each slot was given and the last value of each option. -/
theorem run_eq_run {calls calls' : List Call} {l l' : Logger}
    (hs : ∀ slot, calls.flatMap (Call.given slot) = calls'.flatMap (Call.given slot))
    (ho : ∀ key, (calls.filterMap (Call.written? key)).getLast? =
      (calls'.filterMap (Call.written? key)).getLast?) :
    (empty.run calls).result l = (empty.run calls').result l' := by
  apply Builder.ext
  · exact Slots.ext_get fun slot => by rw [get_run, get_run, hs]
  · exact Options.ext_get? fun key => by rw [get?_run, get?_run, ho]

/-! ## The document after a run -/

theorem isEmpty_iff_body (b : BoolClause) :
    b.isEmpty = true ↔ ∀ slot : Slot, b.body.get? slot.key = none := by
  rw [isEmpty, Slots.isEmpty_iff]
  refine forall_congr' fun slot => ?_
  rw [get?_body_slot]
  split <;> simp_all

def optionKeys : List String :=
  ["minimum_should_match", "boost", "adjust_pure_negative", "_name"]

theorem key_mem (s : BoolSetting) : Setting.key s ∈ optionKeys := by
  cases s <;> simp [optionKeys, Setting.key, Setting.entry]

theorem ne_slot_key (h : key ∈ optionKeys) (slot : Slot) : key ≠ slot.key := by
  rintro rfl
  cases slot <;> simp [optionKeys, Slot.key] at h

theorem written?_eq_none (h : key ∉ optionKeys) (call : Call) : call.written? key = none := by
  cases call with
  | set s => exact if_neg fun hk : key = Setting.key s => h (hk ▸ key_mem s)
  | _ => rfl

theorem get?_body_option (calls : List Call) (h : ∀ slot : Slot, key ≠ slot.key) :
    (body ((empty.run calls).result l)).get? key =
      (calls.filterMap (Call.written? key)).getLast? := by
  rw [body, BoolOf.get?_body_of_ne _ h]
  exact get?_run calls

/-- Each slot shows the documents of exactly the present clauses that it was given, in order, and is
left out if it was given none. Each option shows its last value, and nothing else is shown. Runs that
give the same clauses to each slot and end on the same options make the same bool. -/
theorem document_of_run (calls : List Call) (l : Logger) :
    ∃ body : Object,
      (Clause.bool ((empty.run calls).result l)).document = .entry "bool" (.obj body) ∧
      (∀ slot : Slot, body.get? slot.key =
        if calls.flatMap (Call.given slot) = [] then none
        else some (.arr ((calls.flatMap (Call.given slot)).map fun c => c.document.json))) ∧
      (∀ key ∈ optionKeys, body.get? key = (calls.filterMap (Call.written? key)).getLast?) ∧
      (∀ key ∉ optionKeys, (∀ slot : Slot, key ≠ slot.key) → body.get? key = none) ∧
      (((empty.run calls).result l).isEmpty = true ↔
        ∀ slot : Slot, body.get? slot.key = none) ∧
      ∀ (calls' : List Call) (l' : Logger),
        (∀ slot, calls'.flatMap (Call.given slot) = calls.flatMap (Call.given slot)) →
        (∀ key, (calls'.filterMap (Call.written? key)).getLast? =
          (calls.filterMap (Call.written? key)).getLast?) →
        (empty.run calls').result l' = (empty.run calls).result l := by
  refine ⟨body ((empty.run calls).result l), Clause.document_bool _, ?_, ?_, ?_, ?_, ?_⟩
  · intro slot
    rw [get?_body_slot, get_run]
  · intro key hk
    exact get?_body_option calls (ne_slot_key hk)
  · intro key hk hs
    rw [get?_body_option calls hs, List.filterMap_eq_nil_iff.mpr fun c _ => written?_eq_none hk c]
    rfl
  · exact isEmpty_iff_body _
  · intro calls' l' hs ho
    exact run_eq_run hs ho

end SearchRequest.BoolClause
