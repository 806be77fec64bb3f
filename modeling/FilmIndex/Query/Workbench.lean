import FilmIndex.Query.Request

/-!
Queries under construction. Their parts are objects that refer to one another, so that a
part may stand in many queries and still be changed. A request shares its list of vectors
with the query that it was made from, and has a copy of that query's parameters. The names
of a step are looked up first; what comes of them is one edit of the objects.
-/

namespace FilmIndex
namespace Workbench

/-- The place of an object among those of its kind, in the order of their making. -/
abbrev Ref := Nat

/-- A vector query, whose vectors and parameters are objects that it refers to. -/
structure VectorPart where
  field : VectorField
  vectors : Ref
  metric : String
  limit : Value
  params : Ref

/-- A part of a query, with vector queries of type `ν`. Clauses are other parts. -/
inductive Part (ν : Type) where
  | vector (q : ν)
  | filter (f : Filter)
  | must (clauses : List Ref)
  | should (clauses : List Ref)
  | mustNot (clause : Ref)
  | whole (clause : Ref)
  | value (v : Value)

def Part.map {ν μ : Type} (f : ν → μ) : Part ν → Part μ
  | vector q => vector (f q)
  | filter p => filter p
  | must rs => must rs
  | should rs => should rs
  | mustNot r => mustNot r
  | whole r => whole r
  | value v => value v

/-- A search request, whose vectors and parameters are objects that it refers to. -/
structure Request where
  vectors : Ref
  field : String
  metric : String
  params : Ref
  limit : Value
  condition? : Option Condition

inductive Error where
  | query (e : QueryError)
  | unknownName (name : String)
  | wrongPart (name : String)
  | cyclic

end Workbench

structure Workbench where
  parts : List (Workbench.Part Workbench.VectorPart) := []
  vectorLists : List (List (List Value)) := []
  tables : List Fields := []
  requests : List Workbench.Request := []
  names : List (String × Workbench.Ref) := []
  kept : List (String × Workbench.Ref) := []

namespace Workbench

/-! ## Objects as they are now -/

def vectorsAt (w : Workbench) (r : Ref) : List (List Value) := w.vectorLists[r]?.getD []

def tableAt (w : Workbench) (r : Ref) : Fields := w.tables[r]?.getD []

def query (w : Workbench) (q : VectorPart) : VectorQuery :=
  { field := q.field, vectors := w.vectorsAt q.vectors, metric := q.metric, limit := q.limit,
    params := w.tableAt q.params }

def request (w : Workbench) (r : Request) : SearchRequest :=
  { vectors := w.vectorsAt r.vectors, field := r.field, metric := r.metric,
    params := w.tableAt r.params, limit := r.limit, condition? := r.condition? }

def partAt? (w : Workbench) (r : Ref) : Option (Part VectorQuery) :=
  w.parts[r]?.map (Part.map w.query)

def requestAt? (w : Workbench) (k : Ref) : Option SearchRequest := w.requests[k]?.map w.request

/-! ## New objects -/

def add (w : Workbench) (p : Part VectorPart) : Workbench × Ref :=
  ({ w with parts := w.parts ++ [p] }, w.parts.length)

def addQuery (w : Workbench) (q : VectorQuery) : Workbench × Ref :=
  let part := ⟨q.field, w.vectorLists.length, q.metric, q.limit, w.tables.length⟩
  { w with vectorLists := w.vectorLists ++ [q.vectors], tables := w.tables ++ [q.params] }.add
    (.vector part)

mutual

/-- A whole tree added part by part. -/
def addTree (w : Workbench) : Clause VectorQuery → Workbench × Ref
  | .vector q => w.addQuery q
  | .filter f => w.add (.filter f)
  | .must cs => let (w, rs) := addTrees w cs; w.add (.must rs)
  | .should cs => let (w, rs) := addTrees w cs; w.add (.should rs)
  | .mustNot c => let (w, r) := addTree w c; w.add (.mustNot r)
  | .whole c => let (w, r) := addTree w c; w.add (.whole r)
  | .value v => w.add (.value v)

def addTrees (w : Workbench) : List (Clause VectorQuery) → Workbench × List Ref
  | [] => (w, [])
  | c :: cs =>
    let (w, r) := addTree w c
    let (w, rs) := addTrees w cs
    (w, r :: rs)

end

def addRequest (w : Workbench) (q : VectorPart) (condition? : Option Condition) :
    Workbench × Ref :=
  let request := ⟨q.vectors, q.field.name, q.metric, w.tables.length, q.limit, condition?⟩
  ({ w with tables := w.tables ++ [w.tableAt q.params], requests := w.requests ++ [request] },
    w.requests.length)

/-! ## Edits -/

def withVectors (w : Workbench) (r : Ref) (vectors : List (List Value)) : Workbench :=
  { w with vectorLists := w.vectorLists.set r vectors }

def withTable (w : Workbench) (r : Ref) (table : Fields) : Workbench :=
  { w with tables := w.tables.set r table }

inductive Edit where
  | nothing
  | define (name : String) (tree : Clause VectorQuery)
  | build (name : String) (p : Part VectorPart)
  | alter (r : Ref) (p : Part VectorPart)
  | addVector (list : Ref) (vector : List Value)
  | putParam (table : Ref) (key : String) (v : Value)
  | request (q : VectorPart) (condition? : Option Condition) (keepAs? : Option String)

def label (name : String) (made : Workbench × Ref) : Workbench :=
  { made.1 with names := Keyed.put name made.2 made.1.names }

def keep (name? : Option String) (made : Workbench × Ref) : Workbench :=
  match name? with
  | some name => { made.1 with kept := Keyed.put name made.2 made.1.kept }
  | none => made.1

def apply (w : Workbench) : Edit → Workbench
  | .nothing => w
  | .define name tree => label name (w.addTree tree)
  | .build name p => label name (w.add p)
  | .alter r p => { w with parts := w.parts.set r p }
  | .addVector list vector => w.withVectors list (w.vectorsAt list ++ [vector])
  | .putParam table key v => w.withTable table (Keyed.put key v (w.tableAt table))
  | .request q condition? keepAs? => keep keepAs? (w.addRequest q condition?)

/-! ## Compilation -/

/-- The tree below a part, no deeper than `depth`, with each vector query and its place.
Without a cycle no tree is deeper than there are parts. -/
def tree? (parts : List (Part VectorPart)) : Nat → Ref → Option (Clause (Ref × VectorPart))
  | 0, _ => none
  | depth + 1, r =>
    match parts[r]? with
    | none => none
    | some (.vector q) => some (.vector (r, q))
    | some (.filter f) => some (.filter f)
    | some (.must rs) => (rs.mapM (tree? parts depth)).map .must
    | some (.should rs) => (rs.mapM (tree? parts depth)).map .should
    | some (.mustNot r) => (tree? parts depth r).map .mustNot
    | some (.whole r) => (tree? parts depth r).map .whole
    | some (.value v) => some (.value v)

/-- What a query is compiled to: its vector query, with the place of it, and its condition. -/
structure Compiled where
  source : Ref
  query : VectorPart
  condition? : Option Condition

def compile (w : Workbench) (r : Ref) : Except Error Compiled :=
  match tree? w.parts (w.parts.length + 1) r with
  | none => .error .cyclic
  | some tree =>
    match tree.theVector with
    | .error e => .error (.query e)
    | .ok (source, q) =>
      match (w.query q).fault? with
      | some e => .error (.query e)
      | none => .ok ⟨source, q, tree.condition?⟩

/-! ## Steps -/

inductive Step where
  | define (name : String) (tree : Clause VectorQuery)
  | must (name : String) (of : List String)
  | should (name : String) (of : List String)
  | mustNot (name of : String)
  | whole (name of : String)
  | metricType (on : String) (metric : String)
  | top (on : String) (k : Value)
  | param (on key : String) (v : Value)
  | addClause (on clause : String)
  | addValue (on : String) (v : Value)
  | addVector (on : String) (vector : List Value)
  | compile (of : String) (keepAs? : Option String)
  | look (name : String)
  | setParam (on key : String) (v : Value)

/-- What the answer to a step shows. -/
inductive Shown where
  | nothing
  | part (r : Ref)
  | request (k : Ref)

def find (w : Workbench) (name : String) : Except Error Ref :=
  match Keyed.get? name w.names with
  | some r => .ok r
  | none => .error (.unknownName name)

/-- The edit of a named part, or an error where the edit does not apply to it. -/
def onPart (w : Workbench) (name : String)
    (edit? : Ref → Part VectorPart → Option (Edit × Shown)) : Except Error (Edit × Shown) :=
  match w.find name with
  | .error e => .error e
  | .ok r =>
    match w.parts[r]?.bind (edit? r) with
    | some edit => .ok edit
    | none => .error (.wrongPart name)

/-- The edit of a named vector query, which is shown then. -/
def onVector (w : Workbench) (name : String) (edit : Ref → VectorPart → Edit) :
    Except Error (Edit × Shown) :=
  w.onPart name fun r p =>
    match p with
    | .vector q => some (edit r q, .part r)
    | _ => none

def extendValues (v : Value) : Part VectorPart → Option (Part VectorPart)
  | .filter (.isIn field values) => some (.filter (.isIn field (values ++ [v])))
  | _ => none

def extendClauses (r : Ref) : Part VectorPart → Option (Part VectorPart)
  | .must rs => some (.must (rs ++ [r]))
  | .should rs => some (.should (rs ++ [r]))
  | _ => none

def showKept (w : Workbench) (name : String) : Shown :=
  match Keyed.get? name w.kept with
  | some k => .request k
  | none => .nothing

/-- The edit that a step comes to. -/
def resolve (w : Workbench) : Step → Except Error (Edit × Shown)
  | .define name tree =>
    let shown := match tree with
      | .vector _ => .part w.parts.length
      | _ => .nothing
    .ok (.define name tree, shown)
  | .must name of => do
    let rs ← of.mapM w.find
    return (.build name (.must rs), .nothing)
  | .should name of => do
    let rs ← of.mapM w.find
    return (.build name (.should rs), .nothing)
  | .mustNot name of => do
    let r ← w.find of
    return (.build name (.mustNot r), .nothing)
  | .whole name of => do
    let r ← w.find of
    return (.build name (.whole r), .nothing)
  | .metricType on metric =>
    w.onVector on fun r q => .alter r (.vector { q with metric := Text.upper metric })
  | .top on k => w.onVector on fun r q => .alter r (.vector { q with limit := k })
  | .param on key v => w.onVector on fun _ q => .putParam q.params key v
  | .addClause on clause => do
    let c ← w.find clause
    w.onPart on fun r p => (extendClauses c p).map fun p => (.alter r p, .nothing)
  | .addValue on v =>
    w.onPart on fun r p => (extendValues v p).map fun p => (.alter r p, .part r)
  | .addVector on vector => w.onVector on fun _ q => .addVector q.vectors vector
  | .compile of keepAs? => do
    let r ← w.find of
    let c ← w.compile r
    return (.request c.query c.condition? keepAs?, .request w.requests.length)
  | .look name => .ok (.nothing, w.showKept name)
  | .setParam name key v =>
    match (Keyed.get? name w.kept).bind (w.requests[·]?) with
    | some r => .ok (.putParam r.params key v, w.showKept name)
    | none => .ok (.nothing, .nothing)

inductive Answer where
  | nothing
  | vector (q : VectorQuery)
  | filter (f : Filter)
  | request (r : SearchRequest)

def answer (w : Workbench) : Shown → Answer
  | .nothing => .nothing
  | .part r =>
    match w.partAt? r with
    | some (.vector q) => .vector q
    | some (.filter f) => .filter f
    | _ => .nothing
  | .request k =>
    match w.requestAt? k with
    | some r => .request r
    | none => .nothing

/-- A step that fails changes nothing. -/
def step (w : Workbench) (s : Step) : Except Error Answer × Workbench :=
  match w.resolve s with
  | .error e => (.error e, w)
  | .ok (edit, shown) =>
    let w := w.apply edit
    (.ok (w.answer shown), w)

/-- What some steps leave. -/
def after (w : Workbench) (steps : List Step) : Workbench :=
  steps.foldl (fun w s => (w.step s).2) w

end Workbench
end FilmIndex
