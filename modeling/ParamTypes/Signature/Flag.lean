/-!
Flags of a declaration and the machine words that hold them.
-/

namespace ParamTypes

/-! # Masks -/

namespace Mask

def isIn (mask word : UInt32) : Bool :=
  word &&& mask == mask

def write (mask : UInt32) (value : Bool) (word : UInt32) : UInt32 :=
  if value then word ||| mask else word &&& ~~~mask

theorem eq_iff_bits {first second : UInt32} :
    first = second ↔ ∀ position : Fin 32,
      first.toBitVec[position] = second.toBitVec[position] := by
  rw [← UInt32.toBitVec_inj]
  constructor
  · intro same position
    rw [same]
  · intro same
    refine BitVec.eq_of_getElem_eq fun position inWord => ?_
    exact same ⟨position, inWord⟩

theorem isIn_iff_bits {mask word : UInt32} :
    isIn mask word = true ↔ ∀ position : Fin 32,
      mask.toBitVec[position] = true → word.toBitVec[position] = true := by
  simp only [isIn, beq_iff_eq, eq_iff_bits, UInt32.toBitVec_and]
  simp

theorem and_eq_zero_iff_bits {first second : UInt32} :
    first &&& second = 0 ↔ ∀ position : Fin 32,
      first.toBitVec[position] = true → second.toBitVec[position] = false := by
  simp only [eq_iff_bits, UInt32.toBitVec_and]
  simp

theorem isIn_write_same {mask : UInt32} (nonzero : mask ≠ 0) (value : Bool)
    (word : UInt32) : isIn mask (write mask value word) = value := by
  cases value with
  | false =>
      rw [← Bool.not_eq_true, isIn_iff_bits]
      intro contained
      refine nonzero (eq_iff_bits.2 fun position => ?_)
      have cleared := contained position
      simp only [write, Bool.false_eq_true, if_false, UInt32.toBitVec_and,
        UInt32.toBitVec_not] at cleared
      simp at cleared ⊢
      grind
  | true =>
      rw [isIn_iff_bits]
      simp +contextual [write]

theorem isIn_write_other {mask other : UInt32} (apart : other &&& mask = 0)
    (value : Bool) (word : UInt32) :
    isIn other (write mask value word) = isIn other word := by
  rw [Bool.eq_iff_iff, isIn_iff_bits, isIn_iff_bits]
  refine forall_congr' fun position => ?_
  have unshared := and_eq_zero_iff_bits.1 apart position
  cases value <;> simp [write] <;> grind

/-! ## Disjoint masks -/

/-- Whether masks have bits, and none that another one or `seen` has. -/
def areDisjointFrom (seen : UInt32) : List UInt32 → Bool
  | [] => true
  | mask :: masks =>
      if mask == 0 || seen &&& mask != 0 then
        false
      else
        areDisjointFrom (seen ||| mask) masks

def areDisjoint (masks : List UInt32) : Bool :=
  areDisjointFrom 0 masks

example : areDisjoint [1, 6, 8] = true := by decide

example : areDisjoint [1, 6, 4] = false := by decide

end Mask

/-! # Flags -/

inductive Flag
  /-- Neither the declaration nor its comment gives a return type. -/
  | returnTypeUndefined
  | hasReturn
  | hasYield
deriving DecidableEq, Repr

namespace Flag

def all : List Flag :=
  [returnTypeUndefined, hasReturn, hasYield]

def mask : Flag → UInt32
  | returnTypeUndefined => 1
  | hasReturn => 2
  | hasYield => 4

theorem areDisjoint_masks : Mask.areDisjoint (all.map mask) = true := by
  decide

end Flag

structure FlagSet where
  bits : UInt32
deriving DecidableEq, Repr

namespace FlagSet

instance : EmptyCollection FlagSet := ⟨⟨0⟩⟩

def has (flags : FlagSet) (flag : Flag) : Bool :=
  Mask.isIn flag.mask flags.bits

def set (flags : FlagSet) (flag : Flag) (value : Bool) : FlagSet :=
  ⟨Mask.write flag.mask value flags.bits⟩

@[simp] theorem has_set_same (flags : FlagSet) (flag : Flag) (value : Bool) :
    (flags.set flag value).has flag = value :=
  Mask.isIn_write_same (by cases flag <;> decide) value flags.bits

theorem has_set_other (flags : FlagSet) {flag other : Flag} (differs : other ≠ flag)
    (value : Bool) : (flags.set flag value).has other = flags.has other :=
  Mask.isIn_write_other (by revert differs; cases flag <;> cases other <;> decide) value
    flags.bits

/-! ## The three flags -/

def isReturnTypeUndefined (flags : FlagSet) : Bool :=
  flags.has .returnTypeUndefined

def setIsReturnTypeUndefined (flags : FlagSet) (value : Bool) : FlagSet :=
  flags.set .returnTypeUndefined value

def hasReturn (flags : FlagSet) : Bool :=
  flags.has .hasReturn

def setHasReturn (flags : FlagSet) (value : Bool) : FlagSet :=
  flags.set .hasReturn value

def hasYield (flags : FlagSet) : Bool :=
  flags.has .hasYield

def setHasYield (flags : FlagSet) (value : Bool) : FlagSet :=
  flags.set .hasYield value

example : ((∅ : FlagSet).setHasYield true).bits = 4 := by decide

end FlagSet

end ParamTypes
