import ParamTypes.Proofs.Declaration.History
import ParamTypes.Proofs.Reconciliation.Frame

/-!
The components of a declaration: each of its flags, its parameters and its two counts.
Every call acts on one of them, so each goes its own way through a history.
-/

namespace ParamTypes

/-! ## Flags -/

namespace FlagSet

variable {flags : FlagSet}

/-- Whether the bits of a set are those of the flags in it, and no others. -/
def IsExact (flags : FlagSet) : Prop :=
  ∀ position : Nat, flags.bits.toBitVec.getLsbD position = true ↔
    ∃ flag : Flag, flags.has flag = true ∧ flag.mask.toBitVec.getLsbD position = true

theorem has_iff_bits {flag : Flag} :
    flags.has flag = true ↔ ∀ position : Nat,
      flag.mask.toBitVec.getLsbD position = true →
        flags.bits.toBitVec.getLsbD position = true := by
  rw [has, Mask.isIn_iff_bits]
  constructor
  · intro contained position ofFlag
    have inWord : position < 32 := BitVec.lt_of_getLsbD ofFlag
    rw [BitVec.getLsbD_eq_getElem inWord] at ofFlag ⊢
    exact contained ⟨position, inWord⟩ ofFlag
  · intro contained position ofFlag
    have isSet := contained position
    rw [BitVec.getLsbD_eq_getElem position.isLt, BitVec.getLsbD_eq_getElem position.isLt] at isSet
    exact isSet ofFlag

/-- The bits of the flags in a set are always there, so only further ones matter. -/
theorem isExact_iff :
    flags.IsExact ↔ ∀ position : Nat, flags.bits.toBitVec.getLsbD position = true →
      ∃ flag : Flag, flags.has flag = true ∧
        flag.mask.toBitVec.getLsbD position = true := by
  refine forall_congr' fun position => ⟨Iff.mp, fun further => ⟨further, ?_⟩⟩
  rintro ⟨flag, held, ofFlag⟩
  exact has_iff_bits.mp held position ofFlag

theorem getLsbD_bits_set (flags : FlagSet) (flag : Flag) (value : Bool) (position : Nat) :
    (flags.set flag value).bits.toBitVec.getLsbD position =
      if flag.mask.toBitVec.getLsbD position = true then value
      else flags.bits.toBitVec.getLsbD position := by
  cases inMask : flag.mask.toBitVec.getLsbD position with
  | true =>
      have inWord : position < 32 := BitVec.lt_of_getLsbD inMask
      cases value <;> simp [set, Mask.write, inMask, inWord]
  | false =>
      cases value with
      | true => simp [set, Mask.write, inMask]
      | false => simpa [set, Mask.write, inMask] using BitVec.lt_of_getLsbD

theorem IsExact.set (exact : flags.IsExact) (flag : Flag) (value : Bool) :
    (flags.set flag value).IsExact := by
  rw [isExact_iff] at exact ⊢
  intro position isSet
  rw [getLsbD_bits_set] at isSet
  split at isSet
  · rename_i inMask
    exact ⟨flag, by rw [has_set_same, isSet], inMask⟩
  · rename_i outside
    rcases exact position isSet with ⟨other, held, inMask⟩
    have differs : other ≠ flag := by
      rintro rfl
      exact outside inMask
    exact ⟨other, by rw [has_set_other flags differs, held], inMask⟩

end FlagSet

namespace Declaration

/-! ## Components -/

inductive Component
  | flag (flag : Flag)
  | parameters
  | required
  | optional
deriving DecidableEq

def Component.Value : Component → Type
  | flag _ => Bool
  | parameters => List Parameter
  | required => Nat
  | optional => Nat

end Declaration

end ParamTypes
