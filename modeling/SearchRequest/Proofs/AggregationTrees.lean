import SearchRequest.Proofs.AggregationRuns

/-! # Trees of aggregations

A tree of aggregations is drafted by constructors and calls, at every level in any number of calls.
What stands under a path of names in its document is the aggregation that was attached last under
each name on the way. Nothing else about the calls matters.
-/

namespace SearchRequest

namespace Json

/-- What an object holds under a key. -/
def key? (k : String) : Json → Option Json
  | obj es => Keyed.get? k es
  | _ => none

/-- What stands at the end of a path of keys. -/
def at? (x : Json) (path : List String) : Option Json :=
  path.foldlM (fun x k => x.key? k) x

theorem at?_cons (x : Json) (k : String) (path : List String) :
    x.at? (k :: path) = (x.key? k).bind (·.at? path) :=
  List.foldlM_cons

end Json

namespace Aggregation

/-! ## Children under their names -/

section Named

variable {named named' : List (String × Aggregation)}

theorem ascending_attach : Keyed.Ascending (attach [] named) := by
  refine List.foldlRecOn named _ Keyed.ascending_nil fun children h c _ => ?_
  exact Keyed.ascending_insert h

/-- Neither the order nor the replaced aggregations matter. -/
theorem attach_eq_attach (h : ∀ name, Keyed.last? name named = Keyed.last? name named') :
    attach [] named = attach [] named' := by
  refine Keyed.ext_get? ascending_attach ascending_attach fun name => ?_
  rw [get?_attach_nil, get?_attach_nil, h]

end Named

/-- The path to an aggregation in a document. Each name stands among the children of a node. -/
def childPath (names : List String) : List String :=
  names.flatMap fun name => ["aggs", name]

/-! ## Drafts -/

/-- An aggregation as it is written down: a constructor that names its kind, and calls after it. -/
inductive Draft where
  | onField (kind : FieldKind) (name : String)
  | multiTerms (sources : List TermSource)
  | set (d : Draft) (s : AggregationSetting)
  | metadata (d : Draft) (key : String) (value : Value)
  | children (d : Draft) (named : List (String × Draft))

namespace Draft

mutual

def build : Draft → Aggregation
  | onField kind name => .onField kind name
  | multiTerms sources => .multiTerms sources
  | set d s => d.build.apply (.set s)
  | metadata d key value => d.build.apply (.metadata key value)
  | children d named => d.build.apply (.children (buildAll named))

def buildAll : List (String × Draft) → List (String × Aggregation)
  | [] => []
  | (name, d) :: named => (name, d.build) :: buildAll named

end

/-- The drafts attached to a node by all of its calls, in order. -/
def attached : Draft → List (String × Draft)
  | onField _ _ | multiTerms _ => []
  | set d _ | metadata d _ _ => d.attached
  | children d named => d.attached ++ named

/-- The draft without its children. -/
def bare : Draft → Draft
  | onField kind name => onField kind name
  | multiTerms sources => multiTerms sources
  | set d s => set d.bare s
  | metadata d key value => metadata d.bare key value
  | children d _ => d.bare

/-- The draft that finally stands under a path of names: the last one attached under each name to the
one before it. -/
def final? (d : Draft) (path : List String) : Option Draft :=
  path.foldlM (fun d name => Keyed.last? name d.attached) d

theorem final?_cons (d : Draft) (name : String) (path : List String) :
    d.final? (name :: path) = (Keyed.last? name d.attached).bind (·.final? path) :=
  List.foldlM_cons

theorem buildAll_eq (named : List (String × Draft)) :
    buildAll named = named.map fun e => (e.1, e.2.build) := by
  induction named with
  | nil => rfl
  | cons e named ih => rw [buildAll, ih, List.map_cons]

theorem last?_buildAll (name : String) (named : List (String × Draft)) :
    Keyed.last? name (buildAll named) = (Keyed.last? name named).map build := by
  rw [buildAll_eq, Keyed.last?_map]

theorem buildAll_append (named named' : List (String × Draft)) :
    buildAll (named ++ named') = buildAll named ++ buildAll named' := by
  rw [buildAll_eq, buildAll_eq, buildAll_eq, List.map_append]

theorem kind_build (d : Draft) : d.build.kind ∈ Json.aggregationKinds := by
  induction d using attached.induct with
  | case1 kind name => exact name_mem_aggregationKinds kind
  | case2 sources => exact show "multi_terms" ∈ Json.aggregationKinds by decide
  | case3 d s ih => exact ih
  | case4 d key value ih => exact ih
  | case5 d named ih => exact ih

/-- The calls that attach children only add these to what the others give. -/
theorem build_eq (d : Draft) :
    d.build = { d.bare.build with children := attach [] (buildAll d.attached) } := by
  induction d using attached.induct with
  | case1 kind name => rfl
  | case2 sources => rfl
  | case3 d s ih => rw [build, ih]; rfl
  | case4 d key value ih => rw [build, ih]; rfl
  | case5 d named ih =>
    -- attaching in two calls is attaching all in one
    rw [build, ih, attached, buildAll_append, ← attach_attach]
    rfl

end Draft

/-! ## What stands under a path -/

theorem at?_childPath (x : Json) (name : String) (path : List String) :
    x.at? (childPath (name :: path)) =
      ((x.key? "aggs").bind (·.key? name)).bind (·.at? (childPath path)) := by
  have outer : x.at? (childPath (name :: path)) =
      (x.key? "aggs").bind (·.at? (name :: childPath path)) := x.at?_cons "aggs" _
  have inner (y : Json) : y.at? (name :: childPath path) =
      (y.key? name).bind (·.at? (childPath path)) := y.at?_cons name _
  rw [outer, Option.bind_assoc]
  simp only [inner]

theorem key?_shown (children : List (String × Aggregation)) (name : String) :
    (if children = [] then none
      else some (Json.obj (childObject children).entries)).bind (·.key? name) =
      (Keyed.get? name children).map fun a => a.document.json := by
  rw [← get?_childObject]
  split
  · next h => rw [h, childObject]; rfl
  · rfl

/-- What stands under names among children, from what stands under the rest of them in each child. -/
theorem at?_shown {x : Json} {named : List (String × Draft)} {name : String} {path : List String}
    (h : x.key? "aggs" = if attach [] (Draft.buildAll named) = [] then none
      else some (.obj (childObject (attach [] (Draft.buildAll named))).entries))
    (ih : ∀ d : Draft, d.build.document.json.at? (childPath path) =
      (d.final? path).map fun f => f.build.document.json) :
    x.at? (childPath (name :: path)) =
      ((Keyed.last? name named).bind (·.final? path)).map fun f => f.build.document.json := by
  rw [at?_childPath, h, key?_shown, get?_attach_nil, Draft.last?_buildAll]
  cases Keyed.last? name named with
  | none => rfl
  | some d => exact ih d

namespace Draft

theorem at?_build (d : Draft) (path : List String) :
    d.build.document.json.at? (childPath path) =
      (d.final? path).map fun f => f.build.document.json := by
  -- on the path, for every node: what the first name leads to is a node built from a draft again
  induction path generalizing d with
  | nil => rfl
  | cons name path ih =>
    rw [final?_cons]
    refine at?_shown ?_ ih
    have hc : d.build.children = attach [] (buildAll d.attached) := by rw [build_eq]
    rw [← hc, ← obj?_childObject, ← get?_node_aggs (kind_ne d.kind_build), document_eq]
    rfl

/-- Drafts that differ only in how their children were attached build the same tree. -/
theorem build_eq_build {d d' : Draft} (hb : d.bare.build = d'.bare.build)
    (h : ∀ name, Keyed.last? name (buildAll d.attached) = Keyed.last? name (buildAll d'.attached)) :
    d.build = d'.build := by
  rw [build_eq d, build_eq d', hb, attach_eq_attach h]

end Draft

theorem at?_envelope {start : Envelope.Start} {calls : List Envelope.Call}
    {named : List (String × Draft)} (h : start.allNamed calls = Draft.buildAll named)
    (name : String) (path : List String) :
    (start.envelope.run calls).document.json.at? (childPath (name :: path)) =
      ((Keyed.last? name named).bind (·.final? path)).map fun f => f.build.document.json := by
  refine at?_shown ?_ fun d => d.at?_build path
  rw [← h, ← Envelope.aggs_of_run, ← Envelope.get?_body_aggs]
  rfl

/-- Under a path of names stands the last aggregation attached under the last name, to the node that
finally stands under the others, and nothing stands there if some name was never attached at its
level. This holds from a node and from an envelope. All aggregations with the same last attachment
under each name give the same tree, in whatever order and in however many calls. -/
theorem tree_of_attached :
    (∀ (d : Draft) (path : List String), d.build.document.json.at? (childPath path) =
      (d.final? path).map fun f => f.build.document.json) ∧
    (∀ (start : Envelope.Start) (calls : List Envelope.Call) (named : List (String × Draft)),
      start.allNamed calls = Draft.buildAll named → ∀ (name : String) (path : List String),
      (start.envelope.run calls).document.json.at? (childPath (name :: path)) =
        ((Keyed.last? name named).bind (·.final? path)).map fun f => f.build.document.json) ∧
    (∀ d d' : Draft, d.bare.build = d'.bare.build →
      (∀ name, Keyed.last? name (Draft.buildAll d.attached) =
        Keyed.last? name (Draft.buildAll d'.attached)) → d.build = d'.build) ∧
    ∀ (start start' : Envelope.Start) (calls calls' : List Envelope.Call),
      (∀ name, Keyed.last? name (start.allNamed calls) =
        Keyed.last? name (start'.allNamed calls')) →
      (start.envelope.run calls).aggs = (start'.envelope.run calls').aggs := by
  refine ⟨Draft.at?_build, ?_, ?_, ?_⟩
  · exact fun start calls named h => at?_envelope h
  · exact fun d d' => Draft.build_eq_build
  · intro start start' calls calls' h
    rw [Envelope.aggs_of_run, Envelope.aggs_of_run, attach_eq_attach h]

/-- A child with a child of its own. -/
def priceByBrand : Draft :=
  .children (.onField .terms "brand") [("price", .onField .avg "price")]

/-- The child is attached, and another takes its place in a second call. -/
def twoCalls : Draft :=
  .children (.children (.onField .terms "category") [("low", priceByBrand)])
    [("high", .onField .max "price"), ("low", .onField .min "price")]

/-- The other is attached in its place, and all in one call. -/
def oneCall : Draft :=
  .children (.onField .terms "category")
    [("low", .onField .min "price"), ("high", .onField .max "price")]

/-- A child that is replaced leaves nothing of its tree behind, neither in a node nor in an envelope,
whether the calls of the envelope replace the whole node or build it anew. -/
theorem tree_of_attached_replaced :
    twoCalls.build.document.json.at? (childPath ["low", "price"]) = none ∧
    ((Envelope.Start.ofAggs [("all", priceByBrand.build)]).envelope.run
      [.aggs [("all", twoCalls.build)]]).document.json.at? (childPath ["all", "low"]) =
        some (onField .min "price").document.json ∧
    twoCalls.build = oneCall.build ∧
    ((Envelope.Start.ofAggs [("all", priceByBrand.build)]).envelope.run
      [.aggs [("all", twoCalls.build)]]).aggs =
        (Envelope.Start.empty.envelope.run [.aggs [("all", twoCalls.build)]]).aggs := by
  obtain ⟨node, envelope, same, sameAggs⟩ := tree_of_attached
  refine ⟨?_, ?_, ?_, ?_⟩
  · exact node twoCalls ["low", "price"]
  · exact envelope (.ofAggs [("all", priceByBrand.build)]) [.aggs [("all", twoCalls.build)]]
      [("all", priceByBrand), ("all", twoCalls)] rfl "all" ["low"]
  · refine same twoCalls oneCall rfl fun name => ?_
    by_cases hl : name = "low" <;> by_cases hh : name = "high" <;>
      simp [Keyed.last?, twoCalls, oneCall, Draft.attached, Draft.buildAll, hl, hh]
  · refine sameAggs _ _ _ _ fun name => ?_
    by_cases h : name = "all" <;>
      simp [Keyed.last?, Envelope.Start.allNamed, Envelope.Start.named, Envelope.Call.named, h]

end Aggregation

end SearchRequest
