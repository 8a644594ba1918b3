import ParamTypes.Json.Basic
import ParamTypes.Json.Token

/-!
Reading JSON values from tokens, one token at a time.

The containers that are not closed yet are held in a stack, so a value may be
nested to any depth.
-/

namespace ParamTypes.Json

inductive Frame
  | array (items : List Json)
  | object (members : List (Option String × Json)) (key : Option String)

/-- What has been read, and with it what may come next. -/
inductive Reader
  | value (stack : List Frame)
  | firstItem (stack : List Frame)
  | firstKey (stack : List Frame)
  | key (members : List (Option String × Json)) (stack : List Frame)
  | colon (members : List (Option String × Json)) (key : Option String)
      (stack : List Frame)
  | done (value : Json) (stack : List Frame)

namespace Reader

def beginValue? (stack : List Frame) : Token → Option Reader
  | .null => some (done .null stack)
  | .bool truth => some (done (.bool truth) stack)
  | .number literal => some (done (.number literal) stack)
  | .string content => some (done (.string content) stack)
  | .beginArray => some (firstItem stack)
  | .beginObject => some (firstKey stack)
  | _ => none

def step? : Reader → Token → Option Reader
  | value stack, token => beginValue? stack token
  | firstItem stack, .endArray => some (done (.array []) stack)
  | firstItem stack, token => beginValue? (.array [] :: stack) token
  | firstKey stack, .endObject => some (done (.object []) stack)
  | firstKey stack, .string name => some (colon [] name stack)
  | key members stack, .string name => some (colon members name stack)
  | colon members name stack, .colon => some (value (.object members name :: stack))
  | done item (.array items :: stack), .comma =>
      some (value (.array (items ++ [item]) :: stack))
  | done item (.array items :: stack), .endArray =>
      some (done (.array (items ++ [item])) stack)
  | done item (.object members name :: stack), .comma =>
      some (key (members ++ [(name, item)]) stack)
  | done item (.object members name :: stack), .endObject =>
      some (done (.object (members ++ [(name, item)])) stack)
  | _, _ => none

def result? : Reader → Option Json
  | done result [] => some result
  | _ => none

end Reader

def ofTokens? (tokens : List Token) : Option Json :=
  (tokens.foldlM Reader.step? (.value [])).bind Reader.result?

def parse? (text : String) : Option Json :=
  (Token.scan? text.toList).bind ofTokens?

end ParamTypes.Json
