import SearchRequest.Logging.Record
import SearchRequest.Proofs.KeyOrder
import SearchRequest.Proofs.Objects

/-! # The JSON line of a record

The line is the text of an object that lists the time, the level, the target and the message. No
control character is left in it, whatever the record holds, and reading it gives back all four.
-/

namespace SearchRequest

/-! ## Texts without control characters -/

/-- No control character stands in the text, so no line break either. -/
def ControlFree (s : List Char) : Prop :=
  ∀ c ∈ s, 0x20 ≤ c.toNat

instance (s : List Char) : Decidable (ControlFree s) :=
  List.decidableBAll (fun c : Char => 0x20 ≤ c.toNat) s

namespace ControlFree

variable {s t : List Char}

theorem append (h : ControlFree s) (h' : ControlFree t) : ControlFree (s ++ t) := by
  intro c hc
  rcases List.mem_append.mp hc with hc | hc
  · exact h c hc
  · exact h' c hc

theorem hex {c : Char} (h : Grammar.Hex c) : 0x20 ≤ c.toNat := by
  have hd : ControlFree "0123456789abcdefABCDEF".toList := by decide
  exact hd c h

theorem letter (h : Grammar.Letter s) : ControlFree s := by
  intro c hc
  cases h with
  | plain h _ _ =>
    rw [List.mem_singleton.mp hc]
    exact h
  | short h =>
    have hs : ControlFree ['"', '\\', '/', 'b', 'f', 'n', 'r', 't'] := by decide
    rcases List.mem_cons.mp hc with rfl | hc
    · decide
    · rw [List.mem_singleton.mp hc]
      exact hs _ h
  | code ha hb hc' hd =>
    simp only [List.mem_cons, List.not_mem_nil, or_false] at hc
    rcases hc with rfl | rfl | rfl | rfl | rfl | rfl
    · decide
    · decide
    · exact hex ha
    · exact hex hb
    · exact hex hc'
    · exact hex hd

theorem inside (h : Grammar.Inside s) : ControlFree s := by
  induction h with
  | nil => exact List.forall_mem_nil _
  | cons hu _ ih => exact (letter hu).append ih

theorem quote (s : String) : ControlFree (Json.quote s).toList := by
  have hq : ControlFree ['"'] := by decide
  rw [Json.quote_toList]
  exact hq.append ((inside (Grammar.inside_escape s.toList)).append hq)

end ControlFree

/-! ## The line as an object -/

theorem Level.name_injective {a b : Level} (h : a.name = b.name) : a = b := by
  cases a <;> cases b <;> first | rfl | exact absurd h (by decide)

namespace Record

variable (stamp : String) (r : Record)

/-- What the line lists, in order. -/
def entries : List (String × Value) :=
  [("timestamp", .str stamp), ("level", .str r.level.name), ("target", .str r.target),
    ("message", .str r.message)]

theorem jsonLine_eq :
    r.jsonLine stamp = (Json.obj ((r.entries stamp).map Value.under)).text .compact := by
  have ht : "\x7b\"timestamp\":" = "\x7b" ++ Json.quote "timestamp" ++ ":" := by decide
  have hl : ",\"level\":" = "," ++ Json.quote "level" ++ ":" := by decide
  have hg : ",\"target\":" = "," ++ Json.quote "target" ++ ":" := by decide
  have hm : ",\"message\":" = "," ++ Json.quote "message" ++ ":" := by decide
  unfold jsonLine Json.text
  rw [ht, hl, hg, hm, ← String.toList_inj, String.toList_join]
  simp [entries, Value.under, Value.str, Json.pieces, Json.entryPieces, Layout.line, Layout.colon]

theorem controlFree_jsonLine : ControlFree (r.jsonLine stamp).toList := by
  have ht : ControlFree "\x7b\"timestamp\":".toList := by decide
  have hl : ControlFree ",\"level\":".toList := by decide
  have hg : ControlFree ",\"target\":".toList := by decide
  have hm : ControlFree ",\"message\":".toList := by decide
  have hc : ControlFree "\x7d".toList := by decide
  unfold jsonLine
  simp only [String.toList_append]
  have hstamp := ht.append (.quote stamp)
  have hlevel := (hstamp.append hl).append (.quote r.level.name)
  have htarget := (hlevel.append hg).append (.quote r.target)
  have hmessage := (htarget.append hm).append (.quote r.message)
  exact hmessage.append hc

theorem keysOf_jsonLine :
    KeyScan.keysOf (r.jsonLine stamp) = [["timestamp", "level", "target", "message"]] := by
  rw [jsonLine_eq, Json.keysOf_text]
  rfl

theorem read?_jsonLine :
    Value.read? (r.jsonLine stamp) = some (.obj (.ofList (r.entries stamp))) := by
  rw [jsonLine_eq, Value.read?_text_entries]

theorem get?_ofList_entries (k : String) : (Object.ofList (r.entries stamp)).get? k =
    if k = "message" then some (.str r.message)
    else if k = "target" then some (.str r.target)
    else if k = "level" then some (.str r.level.name)
    else if k = "timestamp" then some (.str stamp) else none := by
  simp [Object.ofList, entries, Value.str, Object.get?_empty]

/-- The object that is read tells apart what the lines list. -/
theorem eq_of_ofList_entries_eq {stamp stamp' : String} {r r' : Record}
    (h : Object.ofList (r'.entries stamp') = Object.ofList (r.entries stamp)) :
    stamp' = stamp ∧ r' = r := by
  have hk (k : String) := congrArg (·.get? k) h
  simp only [get?_ofList_entries] at hk
  have hstamp : stamp' = stamp := by simpa using hk "timestamp"
  have hname : r'.level.name = r.level.name := by simpa using hk "level"
  have htarget : r'.target = r.target := by simpa using hk "target"
  have hmessage : r'.message = r.message := by simpa using hk "message"
  obtain ⟨level, target, message⟩ := r
  obtain ⟨level', target', message'⟩ := r'
  obtain rfl : level' = level := Level.name_injective hname
  obtain rfl : target' = target := htarget
  obtain rfl : message' = message := hmessage
  exact ⟨hstamp, rfl⟩

/-- The line of any record is one line of well-formed JSON, an object that lists its four keys in
this order. It reads back as the time, the name of the level, the target and the message, so lines
of different records differ even at the same time. -/
theorem jsonLine_reads_back (stamp : String) (r : Record) :
    ControlFree (r.jsonLine stamp).toList ∧
    Grammar.Text (r.jsonLine stamp).toList ∧
    KeyScan.keysOf (r.jsonLine stamp) = [["timestamp", "level", "target", "message"]] ∧
    Value.read? (r.jsonLine stamp) = some (.obj (.ofList (r.entries stamp))) ∧
    ∀ (stamp' : String) (r' : Record),
      r'.jsonLine stamp' = r.jsonLine stamp ↔ stamp' = stamp ∧ r' = r := by
  refine ⟨r.controlFree_jsonLine stamp, ?_, r.keysOf_jsonLine stamp, r.read?_jsonLine stamp, ?_⟩
  · rw [jsonLine_eq]
    exact Grammar.text_json _ _
  · intro stamp' r'
    constructor
    · intro h
      have hr := r'.read?_jsonLine stamp'
      rw [h, r.read?_jsonLine stamp] at hr
      refine eq_of_ofList_entries_eq (Object.ext ?_)
      have hv := congrArg Value.json (Option.some.inj hr)
      exact (Json.obj.inj hv).symm
    · rintro ⟨rfl, rfl⟩
      rfl

example : jsonLine "now" ⟨.warn, "t", "a\n\"b\x01"⟩ = "\x7b\"timestamp\":\"now\"," ++
    "\"level\":\"WARN\",\"target\":\"t\",\"message\":\"a\\n\\\"b\\u0001\"\x7d" := by
  decide

end Record

end SearchRequest
