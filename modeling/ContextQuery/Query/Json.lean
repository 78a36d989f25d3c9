import ContextQuery.Json.Value
import ContextQuery.Query.Basic

/-!
# Queries as JSON

The tree of a query as a JSON value. Members that would be empty are left out, and the members of a
node come in a fixed order, its type first.
-/

namespace ContextQuery

/-- A modifier as JSON. -/
def Modifier.toJson (m : Modifier) : Json :=
  .obj <|
    [("name", .str m.name)] ++ (m.comparison.map fun c => ("comparison", Json.str c)).toList ++
      (m.value.map fun v => ("value", Json.str v)).toList

/-- The member for modifiers, left out where there are none. -/
def modifiersMember (ms : List Modifier) : List (String × Json) :=
  if ms.isEmpty then [] else [("modifiers", .arr (ms.map Modifier.toJson))]

/-- A relation as JSON. -/
def Relation.toJson (r : Relation) : Json :=
  .obj ([("base", .str r.base)] ++ modifiersMember r.modifiers)

/-- A sort key as JSON. -/
def SortKey.toJson (k : SortKey) : Json :=
  .obj ([("base", .str k.base)] ++ modifiersMember k.modifiers)

/-- A query as JSON. -/
def Query.toJson : Query → Json
  | .clause c =>
    .obj [("type", .str "term"), ("index", .str c.index), ("relation", c.relation.toJson),
      ("term", .str c.term)]
  | .boolean op ms left right =>
    .obj <|
      [("type", .str "boolean"), ("op", .str op.keyword)] ++ modifiersMember ms ++
        [("left", left.toJson), ("right", right.toJson)]
  | .sorted subtree keys =>
    .obj [("type", .str "sort"), ("subtree", subtree.toJson), ("keys", .arr (keys.map SortKey.toJson))]
  | .scoped name uri subtree =>
    .obj <|
      [("type", .str "prefix")] ++ (name.map fun n => ("name", Json.str n)).toList ++
        [("uri", .str uri), ("subtree", subtree.toJson)]

end ContextQuery
