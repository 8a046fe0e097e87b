import SearchRequest.Encoding.Encode
import SearchRequest.Proofs.Absence
import SearchRequest.Proofs.BoolRuns

/-! # Independence of logging

What is built and what is encoded do not depend on the logger, and reporting leaves its level, its
debug flag and its sink as they were. Every computation here is put together from steps of which
this is plain.
-/

namespace SearchRequest

variable {α β : Type} {p q : Part}

/-! ## Settings of a logger -/

namespace Logger

/-- What of a logger decides about records. -/
@[ext]
structure Settings where
  level : Level
  debug : Bool
  sink : Sink
  deriving DecidableEq

def settings (l : Logger) : Settings :=
  ⟨l.level, l.debug, l.sink⟩

theorem settings_deliver (l : Logger) (r : Record) : (l.deliver r).settings = l.settings := by
  unfold deliver
  split
  · split <;> rfl
  · rfl

theorem settings_report (l : Logger) (r : Record) : (l.report r).settings = l.settings := by
  unfold report
  split
  · exact l.settings_deliver r
  · rfl

end Logger

/-! ## Computations that only report -/

namespace Logged

/-- The computation has the same result under any two loggers, and leaves the settings alone. -/
structure Inert (x : Logged α) : Prop where
  result (l l' : Logger) : x.result l = x.result l'
  settings (l : Logger) : (x.logger l).settings = l.settings

namespace Inert

theorem pure (a : α) : Inert (pure a) :=
  ⟨fun _ _ => rfl, fun _ => rfl⟩

theorem report (level : Level) (target message : String) :
    Inert (SearchRequest.report level target message) :=
  ⟨fun _ _ => rfl, fun l => l.settings_report ⟨level, target, message⟩⟩

theorem bind {x : Logged α} {f : α → Logged β} (hx : Inert x) (hf : ∀ a, Inert (f a)) :
    Inert (x >>= f) where
  result l l' := by
    rw [result_bind, result_bind, hx.result l l']
    exact (hf _).result _ _
  settings l := by
    have h : (x >>= f).logger l = (f (x.result l)).logger (x.logger l) := rfl
    rw [h, (hf _).settings, hx.settings]

theorem foldlM {f : β → α → Logged β} (hf : ∀ b a, Inert (f b a)) (b : β) (as : List α) :
    Inert (as.foldlM f b) := by
  induction as generalizing b with
  | nil => exact pure b
  | cons a as ih =>
    rw [List.foldlM_cons]
    exact bind (hf b a) ih

end Inert

end Logged

open Logged

/-! ## Builders -/

namespace BoolClause

variable {slot : Slot}

theorem inert_add (b : BoolClause) (c : Option Clause) : Inert (b.add slot c) := by
  cases c with
  | some c => exact .pure _
  | none => exact .bind (.report ..) fun _ => .pure b

theorem inert_addAll (b : BoolClause) (cs : List (Option Clause)) : Inert (b.addAll slot cs) := by
  induction cs generalizing b with
  | nil => exact .pure b
  | cons c cs ih => exact .bind (b.inert_add c) ih

theorem inert_apply (b : BoolClause) (call : Call) : Inert (b.apply call) := by
  cases call with
  | add slot c => exact b.inert_add c
  | addAll slot cs => exact b.inert_addAll cs
  | set s => exact .pure _

theorem inert_run (b : BoolClause) (calls : List Call) : Inert (b.run calls) :=
  .foldlM inert_apply b calls

end BoolClause

theorem Joint.inert_run (j : Joint p q) (s : p.State) (a : q.State) : Inert (j.run s a) := by
  cases j with
  | add slot => exact BoolClause.inert_apply s (.add slot (Offer.clause? a))
  | addAll slot => exact BoolClause.inert_apply s (.addAll slot (a.map Offer.clause?))
  | _ => exact .pure _

theorem Expression.inert_eval (e : Expression p) : Inert e.eval := by
  induction e with
  | origin o => exact .pure _
  | change c e ih => exact ih.bind fun _ => .pure _
  | hold h e ih => exact ih.bind fun _ => .pure _
  | join j e arg ihe iha => exact ihe.bind fun s => iha.bind fun a => j.inert_run s a

/-! ## Encoders -/

namespace Envelope

variable (e : Envelope) (config : EncoderConfig)

theorem inert_encode : Inert (e.encode config) := by
  unfold encode
  split
  · exact .bind (.report ..) fun _ => .pure _
  · exact .bind (.report ..) fun _ => .pure _

theorem inert_writeTo {ω : Type} [Writer ω] (w : ω) : Inert (e.writeTo config w) := by
  unfold writeTo
  split
  · exact .bind (.report ..) fun _ => .pure _
  · split
    · exact .bind (.report ..) fun _ => .pure _
    · exact .pure _

end Envelope

/-- Under any two loggers, whatever their settings, an expression builds the same builder with the
same documents, and encoding what it built gives the same text or error, and leaves the same bytes
in a writer of any kind. Afterwards a logger has the settings that it had before. -/
theorem Expression.logging_changes_nothing :
    (∀ (p : Part) (e : Expression p) (l l' : Logger),
      e.eval.result l = e.eval.result l' ∧
      p.documents (e.eval.result l) = p.documents (e.eval.result l') ∧
      (e.eval.logger l).settings = l.settings) ∧
    (∀ (b : BoolClause) (calls : List BoolClause.Call), Inert (b.run calls)) ∧
    ∀ (e : Expression .envelope) (config : EncoderConfig),
      Inert (e.eval >>= (Envelope.encode · config)) ∧
      Inert (e.eval >>= Envelope.compactText) ∧
      Inert (e.eval >>= Envelope.prettyText) ∧
      ∀ (ω : Type) [Writer ω] (w : ω), Inert (e.eval >>= (Envelope.writeTo · config w)) := by
  refine ⟨?_, BoolClause.inert_run, ?_⟩
  · intro p e l l'
    have h := e.inert_eval
    exact ⟨h.result l l', congrArg p.documents (h.result l l'), h.settings l⟩
  · intro e config
    have h := e.inert_eval
    exact ⟨h.bind fun a => a.inert_encode config, h.bind fun a => a.inert_encode _,
      h.bind fun a => a.inert_encode _, fun ω _ w => h.bind fun a => a.inert_writeTo config w⟩

end SearchRequest
