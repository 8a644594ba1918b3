import ParamTypes.Diagnostic.Finding

/-!
Destinations of findings.
-/

namespace ParamTypes

/-- A state that takes up findings one by one. -/
class Sink (σ : Type u) where
  emit : σ → Finding → σ

export Sink (emit)

instance : Sink (List Finding) where
  emit findings finding := findings ++ [finding]

@[simp] theorem emit_list (findings : List Finding) (finding : Finding) :
    emit findings finding = findings ++ [finding] := rfl

end ParamTypes
