import ReachMixture.NumberText

/-!
# Documents

A small language of documents: naturals, numbers, lists, and records with named
fields. A document is written over several lines, two blanks further in at every
level; an empty list or record stays on its line.
-/

namespace ReachMixture

/-- A JSON document over numbers of type `α`. -/
inductive Json (α : Type) where
  /-- A natural number. -/
  | nat (n : Nat)
  /-- A number. -/
  | number (x : α)
  /-- A list. -/
  | list (items : List (Json α))
  /-- A record. Field names need no escapes. -/
  | object (fields : List (String × Json α))

namespace Json

variable {α : Type}

/-- A line break and the indentation of level `depth`, two spaces each. -/
def newline (depth : Nat) : String :=
  "\n" ++ String.ofList (List.replicate (2 * depth) ' ')

/-- Items between brackets, one on a line; nothing between them if there are
none. -/
def enclose (opening closing : String) (depth : Nat) (items : List String) : String :=
  if items.isEmpty then opening ++ closing
  else opening ++ newline (depth + 1) ++
    String.intercalate ("," ++ newline (depth + 1)) items ++ newline depth ++ closing

mutual

/-- The text of a document at level `depth`. -/
def render [NumberText α] (depth : Nat) : Json α → String
  | .nat n => toString n
  | .number x => NumberText.value x
  | .list items => enclose "[" "]" depth (renderItems (depth + 1) items)
  | .object fields => enclose "\x7b" "\x7d" depth (renderFields (depth + 1) fields)

/-- `render` of the items of a list. -/
def renderItems [NumberText α] (depth : Nat) : List (Json α) → List String
  | [] => []
  | item :: rest => render depth item :: renderItems depth rest

/-- The fields of a record, each as `"name": value`. -/
def renderFields [NumberText α] (depth : Nat) : List (String × Json α) → List String
  | [] => []
  | (name, value) :: rest =>
    ("\"" ++ name ++ "\": " ++ render depth value) :: renderFields depth rest

end

end Json

end ReachMixture
