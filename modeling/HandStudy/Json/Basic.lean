import HandStudy.Ordered

/-!
# JSON values

A value keeps what its text says: whole numbers and floats are told apart, and an
object has its fields in the order of the text, repeated keys included. The
canonical form (`Json.canonical`) has the keys of every object in increasing
order, each once, with the value that was given last.
-/

namespace HandStudy

/-- A JSON value. -/
inductive Json where
  | null
  | bool (b : Bool)
  /-- A whole number, from -2 ^ 63 up to 2 ^ 64 - 1. -/
  | int (n : Int)
  | float (x : Float)
  | str (s : String)
  | arr (items : List Json)
  | obj (fields : List (String × Json))
  /-- What is well-formed text and yet has no value: a number beyond the floats, a
      text with half of a surrogate pair, a list or object nested too deep. It may
      stand where nobody looks at it. -/
  | void
deriving Inhabited

namespace Json

/-- The fields with one more in front, in order of the keys. A field of the same
    key that is there already stays: it was given later. -/
def insertField (key : String) (value : Json) : List (String × Json) → List (String × Json)
  | [] => [(key, value)]
  | (k, v) :: fields =>
    if key < k then (key, value) :: (k, v) :: fields
    else if key = k then (k, v) :: fields
    else (k, v) :: insertField key value fields

mutual

/-- The value with its objects' keys in increasing order, the last value of a
    repeated key standing for all. -/
def canonical : Json → Json
  | .arr items => .arr (canonicalItems items)
  | .obj fields => .obj (canonicalFields fields)
  | v => v

/-- The canonical forms of the items of a list. -/
def canonicalItems : List Json → List Json
  | [] => []
  | v :: items => canonical v :: canonicalItems items

/-- The canonical forms of the fields of an object. -/
def canonicalFields : List (String × Json) → List (String × Json)
  | [] => []
  | (key, v) :: fields => insertField key (canonical v) (canonicalFields fields)

end

mutual

/-- Has every part of the text a value? -/
def isWhole : Json → Bool
  | .arr items => itemsWhole items
  | .obj fields => fieldsWhole fields
  | .void => false
  | _ => true

/-- Have all items of a list a value? -/
def itemsWhole : List Json → Bool
  | [] => true
  | v :: items => isWhole v && itemsWhole items

/-- Have all fields of an object a value? -/
def fieldsWhole : List (String × Json) → Bool
  | [] => true
  | (_, v) :: fields => isWhole v && fieldsWhole fields

end

/-- The value of the first field with the given key. -/
def field? (key : String) : Json → Option Json
  | .obj fields => fields.lookup key
  | _ => none

/-- A list of values, each written as JSON. -/
def ofList {α : Type} (write : α → Json) (l : List α) : Json :=
  .arr (l.map write)

/-- A float. One that is not finite has no value of its own and is null. -/
def ofFloat (x : Float) : Json :=
  if x.isFinite then .float x else .null

/-- A value that may be missing. -/
def ofOption {α : Type} (write : α → Json) : Option α → Json
  | none => .null
  | some a => write a

end Json

end HandStudy
