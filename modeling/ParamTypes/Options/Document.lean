import ParamTypes.Json.Read
import ParamTypes.Options.Basic

/-!
Options documents: JSON texts that name the suppressed issues and the least
severity.

A document is an object, or an array of its two values by position. Either
value may be missing, and unknown members of an object are ignored.
-/

namespace ParamTypes.Options

inductive Reference
  | code (code : Code)
  | name (name : String)
deriving DecidableEq, Repr

structure Document where
  references : List Reference := []
  minimum : Option Severity := none
deriving DecidableEq, Repr

/-! ## Decoding -/

def Reference.ofJson? : Json → Option Reference
  | .number literal =>
      match Json.Number.natural? literal with
      | some value => if value < UInt32.size then some (.code (.ofNat value)) else none
      | none => none
  | .string (some written) => some (.name written)
  | _ => none

namespace Document

def referencesOfJson? : Json → Option (List Reference)
  | .array items => items.mapM Reference.ofJson?
  | _ => none

/-- Null for no minimum, or the name of a severity, by itself or as the only
key of an object with the value null. -/
def minimumOfJson? : Json → Option (Option Severity)
  | .null => some none
  | .string (some name) => (Severity.ofText? name).map some
  | .object [(some name, .null)] => (Severity.ofText? name).map some
  | _ => none

def valuesOf (key : String) (members : List (Option String × Json)) : List Json :=
  (members.filter (·.1 == some key)).map Prod.snd

/-- What the members of an object say. All keys are texts, and a known key does
not occur twice. -/
def ofMembers? (members : List (Option String × Json)) : Option Document :=
  if members.all (·.1.isSome) then do
    let references ←
      match valuesOf "suppressIssueTypes" members with
      | [] => some []
      | [value] => referencesOfJson? value
      | _ => none
    let minimum ←
      match valuesOf "minimumSeverity" members with
      | [] => some none
      | [value] => minimumOfJson? value
      | _ => none
    return { references, minimum }
  else
    none

def ofJson? : Json → Option Document
  | .object members => ofMembers? members
  | .array [] => some {}
  | .array [references] => do
      return { references := ← referencesOfJson? references }
  | .array [references, minimum] => do
      return {
        references := ← referencesOfJson? references
        minimum := ← minimumOfJson? minimum }
  | _ => none

end Document

/-! ## Errors -/

inductive Error
  /-- The text is no JSON, or not of the shape of a document. -/
  | malformed
  | unknownCode (code : Code)
  | unknownName (name : String)
deriving DecidableEq, Repr

def Error.message : Error → String
  | .malformed => "failed to parse analyzer options JSON"
  | .unknownCode code =>
      "unknown issue code " ++ toString code.toNat ++ " in suppressIssueTypes"
  | .unknownName name => "unknown issue type '" ++ name ++ "' in suppressIssueTypes"

inductive LoadError
  /-- There is no such file, or it is not UTF-8. -/
  | unreadable (path : String)
  | invalid (path : String) (error : Error)
deriving DecidableEq, Repr

def LoadError.message : LoadError → String
  | .unreadable path => "failed to read analyzer options: " ++ path
  | .invalid path error =>
      "failed to parse analyzer options: " ++ path ++ ": " ++ error.message

/-! ## Options -/

def Reference.resolve : Reference → Except Error Code
  | .code given =>
      match Issue.ofCode? given with
      | some issue => .ok issue.code
      | none => .error (.unknownCode given)
  | .name given =>
      match Issue.ofName? given with
      | some issue => .ok issue.code
      | none => .error (.unknownName given)

/-- The options of a document, unless one of its references is unknown; the
first such one is reported. -/
def Document.resolve (document : Document) : Except Error Options := do
  let codes ← document.references.mapM Reference.resolve
  return { suppressed := .ofList codes, minimum := document.minimum }

def parse (source : String) : Except Error Options :=
  match (Json.parse? source).bind Document.ofJson? with
  | some document => document.resolve
  | none => .error .malformed

/-- The options that a file describes, given by its path and, if there is such
a file, its bytes. -/
def load (path : String) (bytes? : Option ByteArray) : Except LoadError Options :=
  match bytes?.bind String.fromUTF8? with
  | some source => (parse source).mapError (.invalid path)
  | none => .error (.unreadable path)

end ParamTypes.Options
