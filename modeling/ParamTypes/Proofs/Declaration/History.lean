import Mathlib.Data.List.DropRight
import Mathlib.Data.List.Induction
import ParamTypes.Reconciliation

/-!
Declarations through their histories. While a declaration is read its parameters are
appended one by one or exchanged, and what was given last counts.
-/

namespace ParamTypes.Declaration

inductive Call
  | append (parameter : Parameter)
  | setParameters (parameters : List Parameter)
  | setRequired (count : Nat)
  | setOptional (count : Nat)
  | setFlag (flag : Flag) (value : Bool)
  | reconcile (comment : Comment) (site : Span)
  | forCaller (index : Nat)

/-- The declaration behind a call. What a call reports or answers is left aside. -/
def after (declaration : Declaration) : Call → Declaration
  | .append parameter => declaration.append parameter
  | .setParameters parameters => declaration.setParameters parameters
  | .setRequired count => declaration.setRequired count
  | .setOptional count => declaration.setOptional count
  | .setFlag flag value => declaration.setFlag flag value
  | .reconcile comment site => (declaration.reconcile comment site ([] : List Finding)).1
  | .forCaller _ => declaration

def run (start : Declaration) (calls : List Call) : Declaration :=
  calls.foldl after start

@[simp] theorem run_nil (start : Declaration) : start.run [] = start := rfl

@[simp] theorem run_append_singleton (start : Declaration) (calls : List Call) (call : Call) :
    start.run (calls ++ [call]) = (start.run calls).after call := by
  simp [run]

/-! ## Questions -/

namespace Call

def isQuestion : Call → Bool
  | forCaller _ => true
  | _ => false

def isReconcile : Call → Bool
  | reconcile _ _ => true
  | _ => false

end Call

theorem run_filter_isQuestion (start : Declaration) (calls : List Call) :
    start.run (calls.filter (!·.isQuestion)) = start.run calls := by
  induction calls using List.reverseRecOn with
  | nil => rfl
  | append_singleton calls call induction =>
      rw [List.filter_append, run_append_singleton, ← induction]
      cases call with
      | forCaller index => simp [Call.isQuestion, after]
      | _ => simp [Call.isQuestion]

/-! ## Declared parameters -/

namespace Call

def given? : Call → Option (List Parameter)
  | setParameters parameters => some parameters
  | _ => none

def appended? : Call → Option Parameter
  | append parameter => some parameter
  | _ => none

/-- The list that was given last, or the initial one if none was, and behind it what
was appended since. -/
def declared (initial : List Parameter) (calls : List Call) : List Parameter :=
  (calls.filterMap given?).getLast?.getD initial ++
    (calls.rtakeWhile (·.given?.isNone)).filterMap appended?

example (first second third : Parameter) :
    declared [] [append first, setParameters [second], append third] = [second, third] := rfl

theorem declared_append_setParameters (initial : List Parameter) (calls : List Call)
    (parameters : List Parameter) :
    declared initial (calls ++ [setParameters parameters]) = parameters := by
  rw [declared, List.rtakeWhile_concat_neg _ _ _ (by simp [given?]), List.filterMap_append]
  simp [given?]

theorem declared_append_of_not_given (initial : List Parameter) (calls : List Call) {call : Call}
    (notGiven : call.given? = none) :
    declared initial (calls ++ [call]) = declared initial calls ++ call.appended?.toList := by
  rw [declared, List.rtakeWhile_concat_pos _ _ _ (by simp [notGiven]), List.filterMap_append,
    List.filterMap_append]
  cases isAppended : call.appended? <;> simp [declared, notGiven, isAppended]

end Call

theorem parameters_run (start : Declaration) {calls : List Call}
    (unmerged : ∀ call ∈ calls, call.isReconcile = false) :
    (start.run calls).parameters = Call.declared start.parameters calls := by
  -- What was given last counts, so the history is taken apart at its end.
  induction calls using List.reverseRecOn with
  | nil => simp [Call.declared]
  | append_singleton calls call induction =>
      have before := induction fun other isOther =>
        unmerged other (List.mem_append_left [call] isOther)
      rw [run_append_singleton]
      cases call with
      | append parameter =>
          rw [after, parameters_append, before, Call.declared_append_of_not_given _ _ rfl]
          rfl
      | setParameters parameters =>
          rw [after, parameters_setParameters, Call.declared_append_setParameters]
      | reconcile comment site => cases unmerged _ List.mem_concat_self
      | setRequired | setOptional | setFlag | forCaller =>
          rw [Call.declared_append_of_not_given _ _ rfl, ← before]
          exact (List.append_nil _).symm

end ParamTypes.Declaration
