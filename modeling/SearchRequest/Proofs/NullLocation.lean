import Mathlib.Data.List.DropRight
import Mathlib.Data.List.Lex
import SearchRequest.Proofs.Objects
import SearchRequest.Proofs.Verdict

/-! # The place of the first null

A path leads down a tree by the keys of objects and the places in arrays. The search for a null ends
on the path that comes before all others to a null, in the order in which entries and items are
encoded. Its steps are reported with dots between them, but empty keys at the end of it get lost.
-/

namespace SearchRequest

/-- A step down a tree: to the entry of a key, or to an item. -/
inductive Step
  | key (k : String)
  | index (i : Nat)
  deriving DecidableEq

namespace Step

def text : Step → String
  | key k => k
  | index i => i.repr

/-- The order in which entries and items are encoded. -/
inductive Before : Step → Step → Prop
  | key {k l : String} : k < l → Before (key k) (key l)
  | index {i j : Nat} : i < j → Before (index i) (index j)

instance : Std.Asymm Before where
  asymm s t h h' := by
    cases h with
    | key h => cases h' with | key h' => exact String.lt_irrefl _ (String.lt_trans h h')
    | index h => cases h' with | index h' => exact Nat.lt_asymm h h'

/-- All steps, with dots between them. -/
def dotted (path : List Step) : String :=
  ".".intercalate (path.map text)

theorem text_isEmpty_iff (s : Step) : s.text.isEmpty = true ↔ s = key "" := by
  cases s with
  | key k => simp [text]
  | index i => simp [text, Nat.repr]

end Step

namespace Json

variable {x : Json} {xs : List Json} {es : List (String × Json)} {path : List Step}

def child? : Json → Step → Option Json
  | obj es, .key k => Keyed.get? k es
  | arr xs, .index i => xs[i]?
  | _, _ => none

/-- What stands at the end of a path. -/
def follow? (x : Json) (path : List Step) : Option Json :=
  path.foldlM child? x

/-- The path leads to a null, and comes before all others that do. -/
structure FirstNull (x : Json) (path : List Step) : Prop where
  null : x.follow? path = some null
  first (other : List Step) : x.follow? other = some .null →
    other = path ∨ List.Lex Step.Before path other

theorem follow?_cons (x : Json) (s : Step) (path : List Step) :
    x.follow? (s :: path) = (x.child? s).bind (·.follow? path) :=
  List.foldlM_cons

theorem holdsNull_of_follow? (h : x.follow? path = some null) : x.HoldsNull := by
  induction path generalizing x with
  | nil =>
    cases h
    exact .here
  | cons s path ih =>
    rw [follow?_cons, Option.bind_eq_some_iff] at h
    obtain ⟨y, hy, h⟩ := h
    cases x with
    | arr xs =>
      cases s with
      | index i => exact .item (List.mem_of_getElem? hy) (ih h)
      | key k => cases hy
    | obj es =>
      cases s with
      | key k => exact .entry (Keyed.mem_of_get? hy) (ih h)
      | index i => cases hy
    | _ => cases hy

/-! ## Where the search ends -/

/-- Everything before the item that the search goes into is free of nulls. -/
theorem itemNullSteps?_eq_some {i : Nat} {steps : List String}
    (h : itemNullSteps? i xs = some steps) :
    ∃ (before : List Json) (x : Json) (after : List Json) (rest : List String),
      xs = before ++ x :: after ∧ (∀ y ∈ before, ¬ y.HoldsNull) ∧ x.nullSteps? = some rest ∧
        steps = (i + before.length).repr :: rest := by
  induction xs generalizing i with
  | nil => cases h
  | cons x xs ih =>
    rw [itemNullSteps?] at h
    cases hx : x.nullSteps? with
    | some rest =>
      rw [hx] at h
      exact ⟨[], x, xs, rest, rfl, List.forall_mem_nil _, hx, (Option.some.inj h).symm⟩
    | none =>
      rw [hx] at h
      obtain ⟨before, y, after, rest, rfl, hb, hy, rfl⟩ := ih h
      refine ⟨x :: before, y, after, rest, rfl, ?_, hy, ?_⟩
      · exact List.forall_mem_cons.mpr ⟨x.nullSteps?_eq_none_iff.mp hx, hb⟩
      · rw [List.length_cons, Nat.add_assoc, Nat.add_comm 1]

theorem entryNullSteps?_eq_some {steps : List String} (h : entryNullSteps? es = some steps) :
    ∃ (before : List (String × Json)) (k : String) (x : Json) (after : List (String × Json))
      (rest : List String), es = before ++ (k, x) :: after ∧ (∀ e ∈ before, ¬ e.2.HoldsNull) ∧
        x.nullSteps? = some rest ∧ steps = k :: rest := by
  induction es with
  | nil => cases h
  | cons e es ih =>
    rw [entryNullSteps?] at h
    cases hx : e.2.nullSteps? with
    | some rest =>
      rw [hx] at h
      exact ⟨[], e.1, e.2, es, rest, rfl, List.forall_mem_nil _, hx, (Option.some.inj h).symm⟩
    | none =>
      rw [hx] at h
      obtain ⟨before, k, y, after, rest, rfl, hb, hy, rfl⟩ := ih h
      refine ⟨e :: before, k, y, after, rest, rfl, ?_, hy, rfl⟩
      exact List.forall_mem_cons.mpr ⟨e.2.nullSteps?_eq_none_iff.mp hx, hb⟩

/-! ## First paths -/

theorem firstNull_null : FirstNull null [] where
  null := rfl
  first other h := by
    cases other with
    | nil => exact .inl rfl
    | cons s path => rw [follow?_cons] at h; cases h

/-- A null in an item before would have been found; a path into an item after comes later. -/
theorem firstNull_arr {before after : List Json} (hb : ∀ y ∈ before, ¬ y.HoldsNull)
    (h : x.FirstNull path) :
    FirstNull (arr (before ++ x :: after)) (.index before.length :: path) where
  null := by
    rw [follow?_cons, child?, List.getElem?_append_right le_rfl, Nat.sub_self]
    exact h.null
  first other ho := by
    cases other with
    | nil => cases ho
    | cons s other =>
      rw [follow?_cons, Option.bind_eq_some_iff] at ho
      obtain ⟨y, hy, ho⟩ := ho
      cases s with
      | key k => cases hy
      | index i =>
        rw [child?] at hy
        rcases Nat.lt_trichotomy i before.length with hi | rfl | hi
        · rw [List.getElem?_append_left hi] at hy
          exact absurd (holdsNull_of_follow? ho) (hb y (List.mem_of_getElem? hy))
        · rw [List.getElem?_append_right le_rfl, Nat.sub_self] at hy
          cases hy
          exact (h.first other ho).imp (congrArg _) .cons
        · exact .inr (.rel (.index hi))

theorem firstNull_obj {k : String} {before after : List (String × Json)}
    (hk : Keyed.Ascending (before ++ (k, x) :: after)) (hb : ∀ e ∈ before, ¬ e.2.HoldsNull)
    (h : x.FirstNull path) :
    FirstNull (obj (before ++ (k, x) :: after)) (.key k :: path) where
  null := by
    rw [follow?_cons, child?, Keyed.get?_of_mem hk (List.mem_append_cons_self)]
    exact h.null
  first other ho := by
    cases other with
    | nil => cases ho
    | cons s other =>
      rw [follow?_cons, Option.bind_eq_some_iff] at ho
      obtain ⟨y, hy, ho⟩ := ho
      cases s with
      | index i => cases hy
      | key l =>
        rcases List.mem_append.mp (Keyed.mem_of_get? hy) with hm | hm
        · exact absurd (holdsNull_of_follow? ho) (hb _ hm)
        · rcases List.mem_cons.mp hm with hm | hm
          · cases hm
            exact (h.first other ho).imp (congrArg _) .cons
          · obtain ⟨-, hfrom, -⟩ := List.pairwise_append.mp hk
            obtain ⟨hafter, -⟩ := List.pairwise_cons.mp hfrom
            exact .inr (.rel (.key (hafter _ hm)))

theorem firstNull_singleton {k : String} (h : x.FirstNull path) :
    FirstNull (obj [(k, x)]) (.key k :: path) := by
  have hk : Keyed.Ascending [(k, x)] := List.pairwise_singleton _ _
  exact @firstNull_obj _ _ k [] [] hk (List.forall_mem_nil _) h

theorem firstNull_of_nullSteps? {steps : List String} (ho : x.Ordered)
    (h : x.nullSteps? = some steps) : ∃ path, x.FirstNull path ∧ path.map Step.text = steps := by
  induction ho generalizing steps with
  | null =>
    cases h
    exact ⟨[], firstNull_null, rfl⟩
  | arr items ih =>
    rw [nullSteps?] at h
    obtain ⟨before, x, after, rest, rfl, hb, hx, rfl⟩ := itemNullSteps?_eq_some h
    obtain ⟨path, hp, rfl⟩ := ih x List.mem_append_cons_self hx
    exact ⟨_, firstNull_arr hb hp, by simp [Step.text]⟩
  | obj keys values ih =>
    rw [nullSteps?] at h
    obtain ⟨before, k, x, after, rest, rfl, hb, hx, rfl⟩ := entryNullSteps?_eq_some h
    obtain ⟨path, hp, rfl⟩ := ih (k, x) List.mem_append_cons_self hx
    exact ⟨_, firstNull_obj keys hb hp, rfl⟩
  | _ => cases h

theorem FirstNull.unique {other : List Step} (h : x.FirstNull path) (h' : x.FirstNull other) :
    other = path := by
  rcases h.first other h'.null with he | hlt
  · exact he
  · rcases h'.first path h.null with he | hgt
    · exact he.symm
    · exact absurd hgt (asymm hlt)

theorem exists_nullSteps? (h : x.HoldsNull) : ∃ steps, x.nullSteps? = some steps :=
  Option.ne_none_iff_exists'.mp fun hn => x.nullSteps?_eq_none_iff.mp hn h

theorem exists_firstNull_iff (ho : x.Ordered) : (∃ path, x.FirstNull path) ↔ x.HoldsNull := by
  constructor
  · rintro ⟨path, h⟩
    exact holdsNull_of_follow? h.null
  · intro h
    obtain ⟨steps, hs⟩ := exists_nullSteps? h
    obtain ⟨path, hp, _⟩ := firstNull_of_nullSteps? ho hs
    exact ⟨path, hp⟩

/-- The search ends where the first path does. -/
theorem FirstNull.nullSteps?_eq (h : x.FirstNull path) (ho : x.Ordered) :
    x.nullSteps? = some (path.map Step.text) := by
  obtain ⟨steps, hs⟩ := exists_nullSteps? (holdsNull_of_follow? h.null)
  obtain ⟨other, hp, rfl⟩ := firstNull_of_nullSteps? ho hs
  rw [hs, h.unique hp]

end Json

/-! ## The text of a path -/

section Text

variable {s : String} (steps : List String)

/-- A path that ends on a step with a name is written in full. -/
theorem foldr_joinStep (h : s ≠ "") :
    steps.foldr joinStep s = ".".intercalate (steps ++ [s]) ∧ steps.foldr joinStep s ≠ "" := by
  induction steps with
  | nil => simpa using h
  | cons t steps ih =>
    have hne : (steps.foldr joinStep s).isEmpty = false := by simpa using ih.2
    rw [List.foldr_cons, joinStep, hne, if_neg Bool.false_ne_true, ih.1, List.cons_append,
      String.intercalate_cons_of_ne_nil (by simp)]
    simp

theorem pathText_concat (h : s ≠ "") :
    pathText (steps ++ [s]) = ".".intercalate (steps ++ [s]) := by
  rw [← (foldr_joinStep steps h).1, pathText, List.foldr_append]
  rfl

theorem pathText_concat_empty : pathText (steps ++ [""]) = pathText steps := by
  rw [pathText, List.foldr_append]
  rfl

theorem pathText_eq :
    pathText steps = ".".intercalate (steps.rdropWhile String.isEmpty) := by
  induction steps using List.reverseRecOn with
  | nil => rfl
  | append_singleton steps s ih =>
    by_cases h : s = ""
    · rw [h, pathText_concat_empty, ih, List.rdropWhile_concat_pos _ _ _ rfl]
    · rw [pathText_concat steps h, List.rdropWhile_concat_neg _ _ _ (by simpa using h)]

theorem length_dot : ".".length = 1 := rfl

theorem length_pathText_le : (pathText steps).length ≤ (".".intercalate steps).length := by
  induction steps with
  | nil => simp [pathText]
  | cons s steps ih =>
    cases steps with
    | nil => simp [pathText, joinStep]
    | cons t steps =>
      have hj : (joinStep s (pathText (t :: steps))).length ≤
          s.length + 1 + (pathText (t :: steps)).length := by
        rw [joinStep]
        split
        · omega
        · rw [String.length_append, String.length_append, length_dot]
      rw [String.intercalate_cons_cons, String.length_append, String.length_append]
      exact hj.trans (Nat.add_le_add_left ih _)

/-- Only an empty key that follows another step is left out. -/
theorem pathText_eq_intercalate_iff : pathText steps = ".".intercalate steps ↔
    ¬ (2 ≤ steps.length ∧ steps.getLast? = some "") := by
  rcases List.eq_nil_or_concat' steps with rfl | ⟨steps, s, rfl⟩
  · simp [pathText]
  · by_cases h : s = ""
    · subst h
      rw [pathText_concat_empty]
      cases steps with
      | nil => simp [pathText]
      | cons t steps =>
        have hle := length_pathText_le (t :: steps)
        refine iff_of_false (fun he => ?_) (not_not_intro ⟨by simp, List.getLast?_concat⟩)
        rw [he, String.intercalate_append_of_ne_nil (by simp) (by simp),
          String.intercalate_singleton, String.length_append, String.length_append,
          length_dot] at hle
        omega
    · refine iff_of_true (pathText_concat steps h) ?_
      simp [h]

end Text

/-! ## The path that is reported -/

namespace Step

variable (path : List Step)

theorem pathText_map : pathText (path.map text) = dotted (path.rdropWhile (· = key "")) := by
  have h : path.rdropWhile (String.isEmpty ∘ text) = path.rdropWhile (· = key "") := by
    congr 1
    funext s
    rw [Bool.eq_iff_iff, Function.comp_apply, text_isEmpty_iff, decide_eq_true_eq]
  rw [pathText_eq, dotted, ← h, List.rdropWhile, List.rdropWhile, ← List.map_reverse,
    List.dropWhile_map, List.map_reverse]

theorem pathText_map_eq_dotted_iff : pathText (path.map text) = dotted path ↔
    ¬ (2 ≤ path.length ∧ path.getLast? = some (key "")) := by
  have h : (path.map text).getLast? = some "" ↔ path.getLast? = some (key "") := by
    rw [List.getLast?_map, Option.map_eq_some_iff]
    constructor
    · rintro ⟨s, hs, ht⟩
      rw [hs, (text_isEmpty_iff s).mp (by rw [ht]; rfl)]
    · exact fun hs => ⟨_, hs, rfl⟩
  rw [dotted, pathText_eq_intercalate_iff, List.length_map, h]

end Step

theorem Json.FirstNull.nullPath?_eq {v : Value} {path : List Step} (h : v.json.FirstNull path) :
    v.nullPath? = some (pathText (path.map Step.text)) := by
  rw [Value.nullPath?, h.nullSteps?_eq v.ordered, Option.map_some]

/-- A document that holds a null has a first one. The path that is reported, and quoted in the error
of every encoding, has all the steps on the way to it, except that empty keys at the end of the way
are lost. So it is the whole way just if that does not end on an empty key below another step. -/
theorem first_null_located (v : Value) (e : Envelope) (config : EncoderConfig) (l : Logger) :
    ((∃ path, v.json.FirstNull path) ↔ v.json.HoldsNull) ∧
    (∀ path, v.json.FirstNull path →
      v.nullPath? = some (Step.dotted (path.rdropWhile (· = .key ""))) ∧
      (v.nullPath? = some (Step.dotted path) ↔
        ¬ (2 ≤ path.length ∧ path.getLast? = some (.key "")))) ∧
    ∀ path, e.document.json.FirstNull path →
      ∃ error, (e.encode config).result l = .error error ∧
        error.message = "Serialization error: " ++ ("unsupported value at `" ++
          Step.dotted (path.rdropWhile (· = .key "")) ++ "`: null or non-finite number") := by
  refine ⟨Json.exists_firstNull_iff v.ordered, fun path h => ?_, fun path h => ?_⟩
  · rw [h.nullPath?_eq, Option.some.injEq, Option.some.injEq]
    exact ⟨Step.pathText_map path, Step.pathText_map_eq_dotted_iff path⟩
  · have hp : e.document.nullPath? = some (Step.dotted (path.rdropWhile (· = .key ""))) := by
      rw [h.nullPath?_eq, Step.pathText_map]
    exact ⟨.encoding (.null _), Envelope.encode_rejected hp config l, rfl⟩

/-- A raw clause with a null under an empty key. -/
def unnamedNull : Envelope :=
  .around (some (.raw (.entry "" .null)))

/-- The way to the null has two steps, of which one is reported. -/
theorem unnamed_step_lost : unnamedNull.document.json.FirstNull [.key "query", .key ""] ∧
    Step.dotted [.key "query", .key ""] = "query." ∧
    unnamedNull.document.nullPath? = some "query" := by
  have h : Json.FirstNull (.obj [("query", .obj [("", .null)])]) [.key "query", .key ""] :=
    @Json.firstNull_obj _ _ "query" [] [] (List.pairwise_singleton ..) nofun
      (@Json.firstNull_obj _ _ "" [] [] (List.pairwise_singleton ..) nofun Json.firstNull_null)
  exact ⟨h, rfl, rfl⟩

end SearchRequest
