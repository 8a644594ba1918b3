/-!
JSON values.
-/

namespace ParamTypes

/-- A JSON value. A string whose escapes leave a surrogate without its partner
is no text; it is held as `none`. Numbers are held as they are written, and the
members of an object in their order, repeated keys included. -/
inductive Json
  | null
  | bool (value : Bool)
  | number (literal : List Char)
  | string (value : Option String)
  | array (items : List Json)
  | object (members : List (Option String × Json))

end ParamTypes
