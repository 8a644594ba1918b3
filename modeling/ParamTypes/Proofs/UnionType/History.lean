import ParamTypes.Proofs.OrderedSet
import ParamTypes.Proofs.TypeExpr.Grammar

/-!
Union types through all of their histories: whatever operations a type comes from,
and whatever its operands come from, it has the atoms that were supplied on the
way, each at the place of its first arrival.

Every operation adds atoms behind those that are there. One lemma says what a
history makes of the atoms that it is supplied with (`result_eq_ok_iff`).
-/

namespace ParamTypes.UnionType

open Text

/-- How a union type comes to be. It begins as empty, with one atom, with the
atoms of a list or by the reading of an expression, and takes up one atom, the
atoms of a list, or a type that has a history of its own. -/
inductive History
  | empty
  | of (atom : Atom)
  | collect (atoms : List Atom)
  | parse (source : String)
  | add (before : History) (atom : Atom)
  | extend (before : History) (atoms : List Atom)
  | union (before operand : History)

namespace History

def result : History → Except TypeExpr.Error UnionType
  | empty => .ok ∅
  | of atom => .ok (.singleton atom)
  | collect atoms => .ok (.ofList atoms)
  | parse source => UnionType.parse source
  | add before atom => do
      let type ← before.result
      return type.insert atom
  | extend before atoms => do
      let type ← before.result
      return type.insertMany atoms
  | union before operand => do
      let type ← before.result
      let other ← operand.result
      return type ∪ other

/-- The atoms that a history is supplied with, from the first to the last and with
all repetitions. An expression supplies the atoms that it means, and an operand
those that it was supplied with. -/
inductive Supplied : History → List Atom → Prop
  | empty : Supplied .empty []
  | of (atom : Atom) : Supplied (.of atom) [atom]
  | collect (atoms : List Atom) : Supplied (.collect atoms) atoms
  | parse {source : String} {atoms : List Atom}
      (means : TypeExpr.ExpressionMeans (trim source.toList) atoms) :
      Supplied (.parse source) atoms
  | add {before : History} {atoms : List Atom} (supplied : Supplied before atoms)
      (atom : Atom) :
      Supplied (.add before atom) (atoms ++ [atom])
  | extend {before : History} {atoms : List Atom} (supplied : Supplied before atoms)
      (later : List Atom) :
      Supplied (.extend before later) (atoms ++ later)
  | union {before operand : History} {atoms others : List Atom}
      (supplied : Supplied before atoms) (operandSupplied : Supplied operand others) :
      Supplied (.union before operand) (atoms ++ others)

def before? : History → Option History
  | add before _ | extend before _ | union before _ => some before
  | _ => none

/-- The histories that a history has been on its way to what it is. Those of its
operands are not among them. -/
inductive WentThrough : (history earlier : History) → Prop
  | here (history : History) : WentThrough history history
  | before {history before earlier : History} (isBefore : history.before? = some before)
      (wentThrough : WentThrough before earlier) : WentThrough history earlier

/-! ## Results -/

theorem Supplied.result_eq {history : History} {atoms : List Atom}
    (supplied : history.Supplied atoms) : history.result = .ok (.ofList atoms) := by
  induction supplied with
  | empty => rfl
  | of atom => rfl
  | collect atoms => rfl
  | parse means => exact parse_eq_ok_iff_exists.mpr ⟨_, means, rfl⟩
  | add _ atom induction =>
      rw [result, induction, OrderedSet.ofList_append, OrderedSet.union_ofList]
      rfl
  | extend _ later induction =>
      rw [result, induction, OrderedSet.ofList_append, OrderedSet.union_ofList]
      rfl
  | union _ _ induction operandInduction =>
      rw [result, induction, operandInduction, OrderedSet.ofList_append]
      rfl

theorem exists_supplied {history : History} {type : UnionType}
    (ends : history.result = .ok type) : ∃ atoms, history.Supplied atoms := by
  induction history generalizing type with
  | empty => exact ⟨[], .empty⟩
  | of atom => exact ⟨[atom], .of atom⟩
  | collect atoms => exact ⟨atoms, .collect atoms⟩
  | parse source =>
      rcases parse_eq_ok_iff_exists.mp ends with ⟨atoms, means, _⟩
      exact ⟨atoms, .parse means⟩
  | add before atom induction =>
      rcases TypeExpr.bind_eq_ok_iff.mp ends with ⟨old, isOld, _⟩
      rcases induction isOld with ⟨atoms, supplied⟩
      exact ⟨atoms ++ [atom], supplied.add atom⟩
  | extend before later induction =>
      rcases TypeExpr.bind_eq_ok_iff.mp ends with ⟨old, isOld, _⟩
      rcases induction isOld with ⟨atoms, supplied⟩
      exact ⟨atoms ++ later, supplied.extend later⟩
  | union before operand induction operandInduction =>
      rcases TypeExpr.bind_eq_ok_iff.mp ends with ⟨old, isOld, rest⟩
      rcases TypeExpr.bind_eq_ok_iff.mp rest with ⟨other, isOther, _⟩
      rcases induction isOld with ⟨atoms, supplied⟩
      rcases operandInduction isOther with ⟨others, operandSupplied⟩
      exact ⟨atoms ++ others, supplied.union operandSupplied⟩

theorem result_eq_ok_iff {history : History} {type : UnionType} :
    history.result = .ok type ↔
      ∃ atoms, history.Supplied atoms ∧ type = .ofList atoms := by
  constructor
  · intro ends
    rcases exists_supplied ends with ⟨atoms, supplied⟩
    rw [supplied.result_eq] at ends
    exact ⟨atoms, supplied, (Except.ok.inj ends).symm⟩
  · rintro ⟨atoms, supplied, rfl⟩
    exact supplied.result_eq

/-! ## Operations -/

theorem prefix_of_before? {history before : History} {type : UnionType}
    (isBefore : history.before? = some before) (ends : history.result = .ok type) :
    ∃ old, before.result = .ok old ∧ old.toList <+: type.toList := by
  cases history with
  | empty | of | collect | parse => cases isBefore
  | add before atom =>
      cases isBefore
      rcases TypeExpr.bind_eq_ok_iff.mp ends with ⟨old, isOld, ⟨⟩⟩
      exact ⟨old, isOld, old.prefix_insertMany [atom]⟩
  | extend before later =>
      cases isBefore
      rcases TypeExpr.bind_eq_ok_iff.mp ends with ⟨old, isOld, ⟨⟩⟩
      exact ⟨old, isOld, old.prefix_insertMany later⟩
  | union before operand =>
      cases isBefore
      rcases TypeExpr.bind_eq_ok_iff.mp ends with ⟨old, isOld, rest⟩
      rcases TypeExpr.bind_eq_ok_iff.mp rest with ⟨other, _, ⟨⟩⟩
      exact ⟨old, isOld, old.prefix_insertMany other.toList⟩

theorem WentThrough.prefix_result {history earlier : History}
    (wentThrough : history.WentThrough earlier) {type : UnionType}
    (ends : history.result = .ok type) :
    ∃ old, earlier.result = .ok old ∧ old.toList <+: type.toList := by
  induction wentThrough generalizing type with
  | here history => exact ⟨type, ends, List.prefix_rfl⟩
  | before isBefore _ induction =>
      rcases prefix_of_before? isBefore ends with ⟨middle, isMiddle, continued⟩
      rcases induction isMiddle with ⟨old, isOld, begins⟩
      exact ⟨old, isOld, begins.trans continued⟩

/-- Whatever its history is, a type has the atoms that it was supplied with, each
once and in the order of their first arrivals; there is a type unless an expression
cannot be read. What it was at any time before are its first atoms, so none of them
has moved. To take up another type is to take up those of its atoms that are
missing, in their order. It makes no difference to do this twice or in another
grouping, and to exchange the two types changes only the order of the atoms. -/
theorem toList_result (history : History) (type : UnionType) :
    (history.result = .ok type ↔
        ∃ supplied, history.Supplied supplied ∧ type.toList = supplied.eraseDups) ∧
      (history.result = .ok type →
        type.toList.Nodup ∧
          ∀ earlier, history.WentThrough earlier →
            ∃ old, earlier.result = .ok old ∧ old.toList <+: type.toList) ∧
      type ∪ type = type ∧
      ∀ other : UnionType,
        (type ∪ other).toList = type.toList ++ other.toList.filter (· ∉ type) ∧
          type ∪ other ∪ other = type ∪ other ∧
          (∀ third, type ∪ other ∪ third = type ∪ (other ∪ third)) ∧
          (type ∪ other).sameMembers (other ∪ type) = true := by
  refine ⟨?_, ?_, ?_, fun other => ⟨type.toList_union other, ?_, type.union_assoc other, ?_⟩⟩
  · simp only [result_eq_ok_iff, OrderedSet.eq_ofList_iff]
  · exact fun ends => ⟨type.nodup, fun _ wentThrough => wentThrough.prefix_result ends⟩
  · exact OrderedSet.union_of_subset fun _ isMember => isMember
  · apply OrderedSet.union_of_subset
    intro atom isMember
    exact OrderedSet.mem_union.mpr (.inr isMember)
  · apply OrderedSet.sameMembers_iff.mpr
    intro atom
    rw [OrderedSet.mem_union, OrderedSet.mem_union, or_comm]

theorem toList_result_of_expressions :
    let start := History.add (.parse "?(int|integer)") (.named "A")
    let history := start.union (.extend (.parse "A|float") [.keyword .float, .keyword .null])
    let type : UnionType :=
      .ofList [.keyword .null, .keyword .int, .named "A", .keyword .float]
    history.result = .ok type ∧ history.WentThrough start ∧
      (∃ supplied, history.Supplied supplied ∧ type.toList = supplied.eraseDups) ∧
      ∃ old, start.result = .ok old ∧ old.toList <+: type.toList := by
  intro start history type
  have ends : history.result = .ok type := by decide +kernel
  have wentThrough : history.WentThrough start := .before rfl (.here start)
  have facts := toList_result history type
  exact ⟨ends, wentThrough, facts.1.mp ends, (facts.2.1 ends).2 start wentThrough⟩

end History

end ParamTypes.UnionType
