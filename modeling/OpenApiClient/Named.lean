/-!
# Tables in the order of their names

A list of named values in which every name stands once, where it first appeared.
-/

namespace OpenApiClient.Named

variable {α : Type}

/-- The table with a value under a name, which keeps its place. -/
def insert : List (String × α) → String → α → List (String × α)
  | [], name, value => [(name, value)]
  | entry :: rest, name, value =>
    if entry.1 = name then (name, value) :: rest else entry :: insert rest name value

/-- The table of pairs that are added one after the other. -/
def ofPairs (pairs : List (String × α)) : List (String × α) :=
  pairs.foldl (fun table pair => insert table pair.1 pair.2) []

end OpenApiClient.Named
