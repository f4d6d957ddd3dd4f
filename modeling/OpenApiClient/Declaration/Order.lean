import OpenApiClient.Expr.References
import OpenApiClient.Log

/-!
# The order of declarations

A declaration has to stand after those that it refers to directly. Of those that could come next,
the one that was registered first does.

The number of unmet references is kept for every name, which is ready when it gets to zero. Names
that never become ready refer to each other in a circle.
-/

namespace OpenApiClient.Declaration

/-- To every name those it refers to directly and those it refers to lazily. -/
structure Graph where
  names : List String
  edges : List (String × List String)
  lazyEdges : List (String × List String)
  deriving Repr

namespace Graph

/-- The known names that an expression refers to, each once. -/
def targets (names : List String) (mode : ReferenceMode) (expr : Expr) : List String :=
  ((expr.references mode).filter names.contains).eraseDups

/-- The graph of declarations; nothing if a name is not declared. -/
def ofDeclarations? (names : List String) (declarations : List (String × Expr)) :
    Option Graph := do
  let declared ← names.mapM fun name => do return (name, ← declarations.lookup name)
  return { names
           edges := declared.map fun (name, expr) => (name, targets names .named expr)
           lazyEdges := declared.map fun (name, expr) => (name, targets names .lazy expr) }

/-- The names that a name refers to directly. -/
def dependencies (graph : Graph) (name : String) : List String := (graph.edges.lookup name).getD []

def lazyTargets (graph : Graph) (name : String) : List String :=
  (graph.lazyEdges.lookup name).getD []

def dependents (graph : Graph) (name : String) : List String :=
  (graph.names.filter fun other => (graph.dependencies other).contains name).eraseDups

def lazyCount (graph : Graph) : Nat :=
  graph.names.eraseDups.foldl (fun count name => count + (graph.lazyTargets name).length) 0

/-! ### Ordering -/

def lastPlace (names : List String) (name : String) : Nat :=
  names.length - 1 - (names.reverse.idxOf name)

/-- Puts a place into a list of places in ascending order. -/
def insertPlace (place : Nat) : List Nat → List Nat
  | [] => [place]
  | other :: rest =>
    if other < place then other :: insertPlace place rest else place :: other :: rest

/-- The places of the names that are ready, in ascending order, the number of unmet references of
every name, and the names ordered so far. -/
structure Ordering where
  ready : List Nat
  unmet : List (String × Int)
  order : List String

def start (graph : Graph) : Ordering where
  ready := (graph.names.filter fun name => (graph.dependencies name).isEmpty).foldl
    (fun ready name => insertPlace (lastPlace graph.names name) ready) []
  unmet := graph.names.eraseDups.map fun name => (name, (graph.dependencies name).length)
  order := []

/-- One reference of a name is met; after the last one it is ready. -/
def meet (graph : Graph) (ordering : Ordering) (name : String) : Ordering :=
  let remaining := (ordering.unmet.lookup name).getD 0 - 1
  { ordering with
    ready :=
      if remaining = 0 then insertPlace (lastPlace graph.names name) ordering.ready
      else ordering.ready
    unmet := ordering.unmet.map fun entry => if entry.1 = name then (name, remaining) else entry }

/-- Orders the names that are ready, and those that get ready by it. A name is ready at the start
once for each time it is listed. -/
def run (graph : Graph) : (fuel : Nat) → Ordering → Ordering
  | 0, ordering => ordering
  | fuel + 1, ordering =>
    match ordering.ready with
    | [] => ordering
    | place :: ready =>
      match graph.names[place]? with
      | none => run graph fuel { ordering with ready }
      | some name =>
        run graph fuel ((graph.dependents name).foldl graph.meet
          { ordering with ready, order := ordering.order ++ [name] })

/-- Follows references until a name comes up again; `path` are the names passed. -/
def findCycle (graph : Graph) (stuck : List String) :
    (fuel : Nat) → (path : List String) → (name : String) → List String
  | 0, path, _ => path
  | fuel + 1, path, name =>
    if path.contains name then path.dropWhile (· ≠ name) ++ [name]
    else
      let candidates := (graph.dependencies name).filter stuck.contains
      match graph.names.find? candidates.contains with
      | some next => findCycle graph stuck fuel (path ++ [name]) next
      | none => path ++ [name]

/-- The names, each after those that it refers to. -/
def order (graph : Graph) : Except Failure (List String) :=
  let ordering := run graph (2 * graph.names.length) (start graph)
  if ordering.order.length = graph.names.length then .ok ordering.order
  else
    -- the names that are left wait for each other
    let stuck := graph.names.filter fun name => 0 < (ordering.unmet.lookup name).getD 0
    match stuck with
    | [] => .error (.unexpected .noSuchItem)
    | first :: _ =>
      .error (.compile (.unbrokenCycle (findCycle graph stuck (graph.names.length + 1) [] first)))

end Graph

def order (names : List String) (declarations : List (String × Expr)) : Run (List String) := do
  match Graph.ofDeclarations? names declarations with
  | none => throw (.unexpected .noSuchKey)
  | some graph =>
    let order ← Run.of graph.order
    if graph.lazyCount ≠ 0 then
      Run.log .debug ("Ordered " ++ toString order.length ++ " declarations (" ++
        toString graph.lazyCount ++ " lazy edges)")
    return order

end OpenApiClient.Declaration
