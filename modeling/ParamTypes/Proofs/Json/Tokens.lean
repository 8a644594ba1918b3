import ParamTypes.Json.Read

/-!
The tokens of a JSON value. Reading them gives back the value (`ofTokens?_tokens`).
-/

namespace ParamTypes.Json

/-! ## Tokens -/

mutual

def tokens : Json → List Token
  | .null => [.null]
  | .bool truth => [.bool truth]
  | .number literal => [.number literal]
  | .string content => [.string content]
  | .array items => .beginArray :: (itemTokens items ++ [.endArray])
  | .object members => .beginObject :: (memberTokens members ++ [.endObject])

def itemTokens : List Json → List Token
  | [] => []
  | [item] => tokens item
  | item :: next :: others => tokens item ++ .comma :: itemTokens (next :: others)

def memberTokens : List (Option String × Json) → List Token
  | [] => []
  | [(key, value)] => .string key :: .colon :: tokens value
  | (key, value) :: next :: others =>
      .string key :: .colon :: (tokens value ++ .comma :: memberTokens (next :: others))

end

/-! ## Reading -/

/-- What begins a value can also begin the first item of an array. -/
theorem exists_tokens_eq_cons (value : Json) :
    ∃ first rest, tokens value = first :: rest ∧
      ∀ stack, Reader.step? (.firstItem stack) first =
        Reader.step? (.value (.array [] :: stack)) first := by
  cases value with
  | null | bool truth | number literal | string content | array items | object members =>
      rw [tokens]
      exact ⟨_, _, rfl, fun _ => rfl⟩

theorem foldlM_firstItem (item : Json) (items : List Json) (stack : List Frame) :
    (itemTokens (item :: items) ++ [Token.endArray]).foldlM Reader.step? (.firstItem stack) =
      (itemTokens (item :: items) ++ [Token.endArray]).foldlM Reader.step?
        (.value (.array [] :: stack)) := by
  rcases exists_tokens_eq_cons item with ⟨first, rest, parts, same⟩
  cases items with
  | nil => rw [itemTokens, parts, List.cons_append, List.foldlM_cons, List.foldlM_cons, same]
  | cons next others =>
      rw [itemTokens, parts, List.cons_append, List.cons_append, List.foldlM_cons,
        List.foldlM_cons, same]

theorem foldlM_firstKey (member : Option String × Json) (members : List (Option String × Json))
    (stack : List Frame) :
    (memberTokens (member :: members) ++ [Token.endObject]).foldlM Reader.step?
        (.firstKey stack) =
      (memberTokens (member :: members) ++ [Token.endObject]).foldlM Reader.step?
        (.key [] stack) := by
  cases members with
  | nil =>
      rw [memberTokens]
      rfl
  | cons next others =>
      rw [memberTokens]
      rfl

theorem foldlM_key (key : Option String) (tokens : List Token)
    (read : List (Option String × Json)) (stack : List Frame) :
    (Token.string key :: Token.colon :: tokens).foldlM Reader.step? (.key read stack) =
      tokens.foldlM Reader.step? (.value (.object read key :: stack)) :=
  rfl

mutual

/-- The tokens of a value are read as this value, whatever containers are open. -/
theorem foldlM_tokens (value : Json) (stack : List Frame) :
    (tokens value).foldlM Reader.step? (.value stack) = some (.done value stack) := by
  cases value with
  | null | bool truth | number literal | string content =>
      rw [tokens]
      rfl
  | array items =>
      rw [tokens, List.foldlM_cons]
      cases items with
      | nil => rfl
      | cons item items =>
          have read := foldlM_itemTokens (item :: items) (List.cons_ne_nil _ _) [] stack
          exact (foldlM_firstItem item items stack).trans read
  | object members =>
      rw [tokens, List.foldlM_cons]
      cases members with
      | nil => rfl
      | cons member members =>
          have read := foldlM_memberTokens (member :: members) (List.cons_ne_nil _ _) [] stack
          exact (foldlM_firstKey member members stack).trans read

theorem foldlM_itemTokens (items : List Json) (nonempty : items ≠ []) (read : List Json)
    (stack : List Frame) :
    (itemTokens items ++ [Token.endArray]).foldlM Reader.step? (.value (.array read :: stack)) =
      some (.done (.array (read ++ items)) stack) := by
  match items with
  | [] => contradiction
  | [item] =>
      rw [itemTokens, List.foldlM_append, foldlM_tokens item]
      rfl
  | item :: next :: others =>
      have later := foldlM_itemTokens (next :: others) (List.cons_ne_nil _ _) (read ++ [item])
        stack
      rw [List.append_assoc] at later
      rw [itemTokens, List.append_assoc, List.foldlM_append, foldlM_tokens item]
      exact later

theorem foldlM_memberTokens (members : List (Option String × Json)) (nonempty : members ≠ [])
    (read : List (Option String × Json)) (stack : List Frame) :
    (memberTokens members ++ [Token.endObject]).foldlM Reader.step? (.key read stack) =
      some (.done (.object (read ++ members)) stack) := by
  match members with
  | [] => contradiction
  | [(key, value)] =>
      rw [memberTokens, List.cons_append, List.cons_append, foldlM_key, List.foldlM_append,
        foldlM_tokens value]
      rfl
  | (key, value) :: next :: others =>
      have later := foldlM_memberTokens (next :: others) (List.cons_ne_nil _ _)
        (read ++ [(key, value)]) stack
      rw [List.append_assoc] at later
      rw [memberTokens, List.cons_append, List.cons_append, foldlM_key, List.append_assoc,
        List.foldlM_append, foldlM_tokens value]
      exact later

end

theorem ofTokens?_tokens (value : Json) : ofTokens? (tokens value) = some value := by
  rw [ofTokens?, foldlM_tokens value []]
  rfl

end ParamTypes.Json
