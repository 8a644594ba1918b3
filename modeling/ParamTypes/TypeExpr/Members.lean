import ParamTypes.TypeExpr.Base
import ParamTypes.TypeExpr.Pieces

/-!
Reading the members of a type expression, and the expression as a whole.

An expression names a list of atoms, from left to right; its type is the set of
them. Of an array type only the array is kept, of a generic type only the name.
-/

namespace ParamTypes

namespace TypeExpr

open Text

def grouped? : List Char → Option (List Char)
  | '(' :: rest => stripEnd? [')'] rest
  | _ => none

theorem length_of_grouped? {text inner : List Char} (group : grouped? text = some inner) :
    text.length = inner.length + 2 := by
  unfold grouped? at group
  split at group
  · rw [stripEnd?_eq_some_iff] at group
    simp [group]
  · contradiction

mutual

def memberAtoms (text : List Char) : Except Fault (List Atom) :=
  match text with
  | [] => .error .emptyMember
  | '?' :: rest => do
      let others ← memberAtoms (trim rest)
      return .keyword .null :: others
  | first :: rest =>
      if (stripEnd? ['[', ']'] (first :: rest)).isSome then
        .ok [.keyword .array]
      else
        match _group : grouped? (first :: rest) with
        | some inner =>
            match _cut : pieces? inner with
            | some pieces => pieceAtoms pieces
            | none => .error .unbalancedBrackets
        | none => do
            let atom ← genericBase (first :: rest) >>= nameAtom
            return [atom]
termination_by text.length
decreasing_by
  · have := length_trim_le rest
    simp only [List.length_cons]
    omega
  · have := length_of_grouped? ‹_›
    rw [extent_of_pieces? ‹_›]
    omega

def pieceAtoms (pieces : List (List Char)) : Except Fault (List Atom) :=
  match pieces with
  | [] => .ok []
  | piece :: pieces => do
      let atoms ← memberAtoms (trim piece)
      let others ← pieceAtoms pieces
      return atoms ++ others
termination_by extent pieces
decreasing_by
  · have := length_trim_le piece
    rw [extent]
    omega
  · rw [extent]
    omega

end

def atoms (text : List Char) : Except Fault (List Atom) :=
  if (trim text).isEmpty then
    .error .emptyExpression
  else
    match pieces? (trim text) with
    | some pieces => pieceAtoms pieces
    | none => .error .unbalancedBrackets

end TypeExpr

namespace UnionType

def parse (source : String) : Except TypeExpr.Error UnionType :=
  match TypeExpr.atoms source.toList with
  | .ok atoms => .ok (.ofList atoms)
  | .error fault => .error ⟨source, fault⟩

example :
    parse "?(int|App\\Model[])" =
      .ok (.ofList [.keyword .null, .keyword .int, .keyword .array]) := by
  cbv

example : parse "int|<" = .error ⟨"int|<", .unbalancedBrackets⟩ := by
  cbv

end UnionType

end ParamTypes
