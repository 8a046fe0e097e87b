import SearchRequest.Proofs.DebugMode
import SearchRequest.Proofs.JsonLines
import SearchRequest.Proofs.NullLocation

/-! # Lines on the standard error stream

A compact line has the line breaks of its target and its message, so a run writes as many lines as
records pass just if no target and no message among them breaks a line. The warning about a null
takes its line breaks from the keys on the way to the null. A JSON line is always one line.
-/

namespace SearchRequest

/-! ## Line breaks -/

/-- How many line breaks stand in a text. -/
def breaks (s : String) : ℕ :=
  s.toList.count '\n'

section Breaks

variable {s t : String}

@[simp] theorem breaks_append : breaks (s ++ t) = breaks s + breaks t := by
  rw [breaks, String.toList_append, List.count_append]
  rfl

theorem breaks_eq_zero_iff : breaks s = 0 ↔ '\n' ∉ s.toList :=
  List.count_eq_zero

theorem breaks_of_controlFree (h : ControlFree s.toList) : breaks s = 0 := by
  rw [breaks_eq_zero_iff]
  intro hn
  exact absurd (h _ hn) (by decide)

theorem breaks_repr (i : ℕ) : breaks i.repr = 0 := by
  rw [breaks_eq_zero_iff, Nat.repr, String.toList_ofList]
  intro hn
  exact absurd (Nat.isDigit_of_mem_toDigits (by decide) (by decide) hn) (by decide)

theorem breaks_joinStep : breaks (joinStep s t) = breaks s + breaks t := by
  unfold joinStep
  split
  · next h =>
    rw [String.isEmpty_iff.mp h]
    rfl
  · have hdot : breaks "." = 0 := by decide
    rw [breaks_append, breaks_append, hdot, Nat.add_zero]

theorem breaks_pathText (steps : List String) :
    breaks (pathText steps) = (steps.map breaks).sum := by
  induction steps with
  | nil => rfl
  | cons s steps ih =>
    rw [List.map_cons, List.sum_cons, ← ih]
    exact breaks_joinStep

end Breaks

/-! ## Lines of records -/

namespace Record

variable (stamp : String) (r : Record)

theorem breaks_compactLine :
    breaks (r.compactLine stamp) = breaks stamp + breaks r.target + breaks r.message := by
  have hspace : breaks " " = 0 := by decide
  have hcolon : breaks ": " = 0 := by decide
  have hinitial : breaks r.level.initial.toString = 0 := by cases r.level <;> decide
  unfold compactLine
  split
  · next h =>
    have htarget : breaks r.target = 0 := by
      rw [String.isEmpty_iff.mp h]
      rfl
    have hempty : breaks "" = 0 := rfl
    simp only [breaks_append, hspace, hinitial, hempty, htarget, Nat.add_zero]
  · simp only [breaks_append, hspace, hcolon, hinitial, Nat.add_zero, Nat.add_assoc]

theorem breaks_compactLine_of_stamp (h : breaks stamp = 0) :
    breaks (r.compactLine stamp) = breaks r.target + breaks r.message := by
  rw [breaks_compactLine, h, Nat.zero_add]

theorem breaks_jsonLine : breaks (r.jsonLine stamp) = 0 :=
  breaks_of_controlFree (r.controlFree_jsonLine stamp)

end Record

/-! ## Lines of a stream -/

namespace Format

variable {format : Format} {stamps : ℕ → String} {f : Record → ℕ}

/-- Each record gives the break after its line, and those in it. -/
theorem breaks_text (h : ∀ i r, breaks (format.line (stamps i) r) = f r) (rs : List Record) :
    breaks (format.text stamps rs) = rs.length + (rs.map f).sum := by
  induction rs generalizing stamps with
  | nil => rfl
  | cons r rs ih =>
    have hbreak : breaks "\n" = 1 := by decide
    have hhead : breaks (format.line (stamps 0) r ++ "\n") = f r + 1 := by
      rw [breaks_append, h, hbreak]
    have htail := ih fun i => h (i + 1)
    unfold text at htail ⊢
    rw [List.mapIdx_cons, String.join_cons, breaks_append, hhead, htail, List.map_cons,
      List.sum_cons, List.length_cons]
    omega

theorem breaks_text_json (stamps : ℕ → String) (rs : List Record) :
    breaks (json.text stamps rs) = rs.length := by
  have hline (i : ℕ) (r : Record) : breaks (json.line (stamps i) r) = 0 :=
    r.breaks_jsonLine (stamps i)
  rw [breaks_text hline, List.map_const', List.sum_replicate_nat, Nat.mul_zero, Nat.add_zero]

section Compact

variable (h : ∀ i, breaks (stamps i) = 0) (rs : List Record)
include h

theorem breaks_text_compact : breaks (compact.text stamps rs) =
    rs.length + (rs.map fun r => breaks r.target + breaks r.message).sum := by
  refine breaks_text (fun i r => ?_) rs
  exact r.breaks_compactLine_of_stamp (stamps i) (h i)

theorem breaks_text_compact_eq_length_iff : breaks (compact.text stamps rs) = rs.length ↔
    ∀ r ∈ rs, breaks r.target = 0 ∧ breaks r.message = 0 := by
  rw [breaks_text_compact h, Nat.add_eq_left, List.sum_eq_zero_iff_forall_eq_nat,
    List.forall_mem_map]
  simp only [Nat.add_eq_zero_iff]

end Compact

end Format

/-! ## The warning about a null -/

namespace Envelope

variable {e : Envelope} {path : String}

def rejection (path : String) : Record :=
  ⟨.warn, target, "Rejected search document with null at `" ++ path ++ "`"⟩

section Rejected

variable (h : e.document.nullPath? = some path) (config : EncoderConfig) (l : Logger)
include h

theorem logger_encode_rejected : (e.encode config).logger l = l.report (rejection path) := by
  simp only [encode, h]
  rfl

theorem logger_writeTo_rejected {ω : Type} [Writer ω] (w : ω) :
    (e.writeTo config w).logger l = l.report (rejection path) := by
  simp only [writeTo, h]
  rfl

end Rejected

theorem breaks_target : breaks target = 0 := by decide

theorem breaks_rejection (path : String) : breaks (rejection path).message = breaks path := by
  have hopen : breaks "Rejected search document with null at `" = 0 := by decide
  have hclose : breaks "`" = 0 := by decide
  rw [rejection, breaks_append, breaks_append, hopen, hclose, Nat.zero_add, Nat.add_zero]

/-- Only keys break the line: the number of an item has no line break. -/
theorem breaks_rejection_eq_zero_iff (path : List SearchRequest.Step) :
    breaks (rejection (pathText (path.map SearchRequest.Step.text))).message = 0 ↔
      ∀ k, .key k ∈ path → breaks k = 0 := by
  rw [breaks_rejection, breaks_pathText, List.sum_eq_zero_iff_forall_eq_nat, List.map_map,
    List.forall_mem_map]
  constructor
  · intro hp k hk
    exact hp (.key k) hk
  · intro hp s hs
    cases s with
    | key k => exact hp k hs
    | index i => exact breaks_repr i

end Envelope

/-! ## Runs -/

namespace Logger

/-- At times without line breaks, a compact line has the line breaks of its target and its message.
So the text of a run has a line for each record that passes just if none of these breaks a line,
while JSON lines are always one for each. The line of the warning about a null, which both encoders
report, is one line just if no key on the way to that null breaks it. -/
theorem lines_of_run {stamps : ℕ → String} (h : ∀ i, breaks (stamps i) = 0) :
    (∀ i r, breaks (Record.compactLine (stamps i) r) = breaks r.target + breaks r.message) ∧
    (∀ (l : Logger) (calls : List Call),
      let passed := delivered .stderr l.settings calls
      breaks (Format.json.text stamps (l.gained calls .stderr)) = passed.length ∧
      breaks (Format.compact.text stamps (l.gained calls .stderr)) =
        passed.length + (passed.map fun r => breaks r.target + breaks r.message).sum ∧
      (breaks (Format.compact.text stamps (l.gained calls .stderr)) = passed.length ↔
        ∀ r ∈ passed, breaks r.target = 0 ∧ breaks r.message = 0)) ∧
    ∀ (e : Envelope) (path : List Step), e.document.json.FirstNull path →
      let warning := Envelope.rejection (pathText (path.map Step.text))
      (∀ config l, (e.encode config).logger l = l.report warning) ∧
      (∀ (ω : Type) [Writer ω] (w : ω) config l,
        (e.writeTo config w).logger l = l.report warning) ∧
      ∀ i, breaks (warning.compactLine (stamps i)) = 0 ↔ ∀ k, .key k ∈ path → breaks k = 0 := by
  have hcompact (i : ℕ) (r : Record) := r.breaks_compactLine_of_stamp (stamps i) (h i)
  refine ⟨hcompact, ?_, ?_⟩
  · intro l calls passed
    rw [gained_eq]
    exact ⟨Format.breaks_text_json stamps passed, Format.breaks_text_compact h passed,
      Format.breaks_text_compact_eq_length_iff h passed⟩
  · intro e path hp warning
    have hn := hp.nullPath?_eq
    have htarget : breaks warning.target = 0 := Envelope.breaks_target
    refine ⟨fun config l => Envelope.logger_encode_rejected hn config l,
      fun ω _ w config l => Envelope.logger_writeTo_rejected hn config l w, fun i => ?_⟩
    rw [hcompact i warning, htarget, Nat.zero_add]
    exact Envelope.breaks_rejection_eq_zero_iff path

/-- Two of three records pass, each on a line of its own, and so does a warning about a null. -/
theorem lines_of_run_plain :
    let stamps : ℕ → String := fun _ => "12:00:00.000"
    let l : Logger := { sink := .stderr }
    let calls : List Call := [.report ⟨.warn, "t", "a"⟩, .report ⟨.trace, "t", "b\n"⟩,
      .report ⟨.error, "", "c d"⟩]
    let e : Envelope := .around (some (.raw (.entry "a" .null)))
    (∀ i, breaks (stamps i) = 0) ∧
      breaks (Format.compact.text stamps (l.gained calls .stderr)) = 2 ∧
      e.document.json.FirstNull [.key "query", .key "a"] ∧
      breaks ((Envelope.rejection "query.a").compactLine (stamps 0)) = 0 := by
  intro stamps l calls e
  have hnoon : breaks "12:00:00.000" = 0 := by decide
  have h (i : ℕ) : breaks (stamps i) = 0 := hnoon
  have hp : Json.FirstNull (.obj [("query", .obj [("a", .null)])]) [.key "query", .key "a"] :=
    Json.firstNull_singleton (Json.firstNull_singleton Json.firstNull_null)
  obtain ⟨-, hrun, hnull⟩ := lines_of_run h
  obtain ⟨-, -, hlines⟩ := hrun l calls
  obtain ⟨-, -, hwarning⟩ := hnull e _ hp
  refine ⟨h, hlines.mpr (by decide), hp, (hwarning 0).mpr ?_⟩
  intro k hk
  simp only [List.mem_cons, List.not_mem_nil, or_false, Step.key.injEq] at hk
  rcases hk with rfl | rfl <;> decide

/-- A record whose message breaks the line, and the warning about a null under such a key. -/
theorem broken_lines :
    let r : Record := ⟨.warn, "t", "a\nb"⟩
    let e : Envelope := .around (some (.raw (.entry "a\nb" .null)))
    let l : Logger := { sink := .stderr }
    let l' := (e.writeTo {} ([] : List UInt8)).logger l
    breaks (r.compactLine "12:00:00.000") = 1 ∧ l'.written.length = 1 ∧
      breaks (Format.compact.text (fun _ => "12:00:00.000") l'.written) = 2 := by
  decide

end Logger

end SearchRequest
