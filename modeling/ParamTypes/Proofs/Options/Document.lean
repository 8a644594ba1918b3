import ParamTypes.Proofs.Json.Written
import ParamTypes.Proofs.Options.Reference

/-!
Options documents as they are written: objects that give a list of references and a
minimum, in any order and among members with other keys. The options of such a document
depend on the issues that it refers to, and only a failure depends on their order
(`parse_written`).
-/

namespace ParamTypes.Options

namespace Document

/-! ## Members -/

/-- The value that lists references. An empty list need not be given. -/
inductive ListsReferences : List Reference → Option Json → Prop
  | absent : ListsReferences [] none
  | given (references : List Reference) :
      ListsReferences references (some (.array (references.map Reference.json)))

/-- The value that gives a minimum, null or nothing for none. -/
inductive GivesMinimum : Option Severity → Option Json → Prop
  | absent : GivesMinimum none none
  | null : GivesMinimum none (some .null)
  | name (severity : Severity) :
      GivesMinimum (some severity) (some (.string (some severity.text)))
  | object (severity : Severity) :
      GivesMinimum (some severity) (some (.object [(some severity.text, .null)]))

def keyed (key : String) (value? : Option Json) : List (Option String × Json) :=
  value?.toList.map (some key, ·)

/-- The members of an object that says what a document does: in any order, and among
members with other keys, whatever their values are. -/
inductive HasMembers (document : Document) (members : List (Option String × Json)) : Prop
  | intro {listed given : Option Json} {others : List (Option String × Json)}
      (lists : ListsReferences document.references listed)
      (gives : GivesMinimum document.minimum given)
      (areOther : ∀ member ∈ others, ∃ key, member.1 = some key ∧
        key ≠ "suppressIssueTypes" ∧ key ≠ "minimumSeverity")
      (arranged : members.Perm
        (keyed "suppressIssueTypes" listed ++ (keyed "minimumSeverity" given ++ others)))

inductive IsWritten (document : Document) (source : String) : Prop
  | intro {item : Json.Item} {members : List (Option String × Json)}
      (same : source = String.ofList item.padded) (writes : Json.Writes item.text item.value)
      (isObject : item.value = .object members) (has : document.HasMembers members)

/-! ## Writing -/

def referenceText : Reference → List Char
  | .code given => Nat.toDigits 10 given.toNat
  | .name given => Json.quoted given

theorem writes_referenceText (reference : Reference) :
    Json.Writes (referenceText reference) reference.json := by
  cases reference with
  | code given =>
      have writes := Json.Writes.number (.ofNat given.toNat)
      rwa [Json.Number.Literal.text_ofNat] at writes
  | name given => exact Json.writes_quoted given

theorem writes_references {references : List Reference} (nonempty : references ≠ []) :
    Json.Writes ('[' :: ([','].intercalate (references.map referenceText) ++ [']']))
      (.array (references.map Reference.json)) := by
  let item (reference : Reference) : Json.Item := .bare (referenceText reference) reference.json
  have texts : (references.map item).map Json.Item.padded = references.map referenceText := by
    rw [List.map_map]
    exact List.map_congr_left fun reference _ => List.append_nil _
  have values : (references.map item).map Json.Item.value = references.map Reference.json :=
    List.map_map
  rw [← texts, ← values]
  apply Json.Writes.array (List.map_eq_nil_iff.not.mpr nonempty)
  intro written isItem
  rcases List.mem_map.mp isItem with ⟨reference, _, rfl⟩
  exact writes_referenceText reference

theorem exists_writes_references (references : List Reference) :
    ∃ text, Json.Writes text (.array (references.map Reference.json)) := by
  cases references with
  | nil => exact ⟨_, .emptyArray (List.forall_mem_nil _)⟩
  | cons reference references => exact ⟨_, writes_references (List.cons_ne_nil _ _)⟩

theorem exists_writes_minimum (minimum : Option Severity) :
    ∃ text value, GivesMinimum minimum (some value) ∧ Json.Writes text value := by
  cases minimum with
  | none => exact ⟨_, _, .null, .null⟩
  | some severity => exact ⟨_, _, .name severity, Json.writes_quoted severity.text⟩

theorem exists_isWritten (document : Document) : ∃ source, document.IsWritten source := by
  rcases exists_writes_references document.references with ⟨listText, writesList⟩
  rcases exists_writes_minimum document.minimum with ⟨minimumText, value, gives, writesMinimum⟩
  let members := [
    Json.Member.labelled "suppressIssueTypes"
      (.bare listText (.array (document.references.map Reference.json))),
    Json.Member.labelled "minimumSeverity" (.bare minimumText value)]
  have writes : ∀ member ∈ members, Json.Writes member.item.text member.item.value :=
    List.forall_mem_cons.mpr ⟨writesList, List.forall_mem_singleton.mpr writesMinimum⟩
  have written := Json.Writes.object (List.cons_ne_nil _ _) writes
  refine ⟨_, @IsWritten.intro _ _ (.bare _ _) _ rfl written rfl ?_⟩
  refine .intro (.given document.references) gives (List.forall_mem_nil _) ?_
  simp only [List.map_cons, Json.Member.key_labelled]
  exact List.Perm.refl _

theorem isWritten_among_others :
    IsWritten ⟨[.name "TypeMismatchDefault", .code 10021, .code 10005], some .warning⟩
      ("\x7b\"minimumSeverity\": \"warning\",\"note\":[true, null],\n" ++
        "\"suppressIssueTypes\":[\"TypeMismatchDefault\",10021,10005]\x7d") := by
  have space : Json.AreBlanks [' '] := List.forall_mem_singleton.mpr (by simp)
  have newline : Json.AreBlanks ['\n'] := List.forall_mem_singleton.mpr (by simp)
  let spaced (text : List Char) (value : Json) : Json.Item :=
    { Json.Item.bare text value with before := [' '], blanksBefore := space }
  let items : List Json.Item := [.bare "true".toList (.bool true), spaced "null".toList .null]
  let references : List Reference := [.name "TypeMismatchDefault", .code 10021, .code 10005]
  let members : List Json.Member := [
    .labelled "minimumSeverity" (spaced (Json.quoted "warning") (.string (some "warning"))),
    .labelled "note" (.bare ('[' :: ([','].intercalate (items.map Json.Item.padded) ++ [']']))
      (.array (items.map Json.Item.value))),
    { Json.Member.labelled "suppressIssueTypes"
        (.bare ('[' :: ([','].intercalate (references.map referenceText) ++ [']']))
          (.array (references.map Reference.json))) with
      before := ['\n'], blanksBefore := newline }]
  have writesItems : ∀ item ∈ items, Json.Writes item.text item.value :=
    List.forall_mem_cons.mpr ⟨.literalTrue, List.forall_mem_singleton.mpr .null⟩
  have writes : ∀ member ∈ members, Json.Writes member.item.text member.item.value :=
    List.forall_mem_cons.mpr ⟨Json.writes_quoted "warning",
      List.forall_mem_cons.mpr ⟨.array (List.cons_ne_nil _ _) writesItems,
        List.forall_mem_singleton.mpr (writes_references (List.cons_ne_nil _ _))⟩⟩
  have has : HasMembers ⟨references, some .warning⟩
      (members.map fun member => (member.key, member.item.value)) := by
    refine @HasMembers.intro _ _ _ _ [(some "note", .array [.bool true, .null])]
      (.given references) (.name .warning) ?_ ?_
    · exact List.forall_mem_singleton.mpr ⟨"note", rfl, by decide, by decide⟩
    · simp only [members, List.map_cons, Json.Member.key_labelled]
      exact (List.reverse_perm [_, _, _]).trans (.cons _ (.swap _ _ _))
  have object := Json.Writes.object (List.cons_ne_nil _ _) writes
  exact @IsWritten.intro _ _ (.bare _ _) _ rfl object rfl has

/-! ## Decoding -/

theorem key_of_mem_keyed {key : String} {value? : Option Json} {member : Option String × Json}
    (isMember : member ∈ keyed key value?) : member.1 = some key := by
  rcases List.mem_map.mp isMember with ⟨value, _, rfl⟩
  rfl

theorem key_ne {member : Option String × Json} {key other : String}
    (isKey : member.1 = some key) (different : key ≠ other) : member.1 ≠ some other := by
  rw [isKey]
  exact fun same => different (Option.some.inj same)

theorem valuesOf_of_perm {key : String} {value? : Option Json}
    {members others : List (Option String × Json)}
    (arranged : members.Perm (keyed key value? ++ others))
    (noKey : ∀ member ∈ others, member.1 ≠ some key) :
    valuesOf key members = value?.toList := by
  have kept : (keyed key value?).filter (·.1 == some key) = keyed key value? :=
    List.filter_eq_self.mpr fun _ isMember => beq_iff_eq.mpr (key_of_mem_keyed isMember)
  have dropped : others.filter (·.1 == some key) = [] :=
    List.filter_eq_nil_iff.mpr fun member isMember same =>
      noKey member isMember (beq_iff_eq.mp same)
  have filtered := arranged.filter (·.1 == some key)
  rw [List.filter_append, kept, dropped, List.append_nil] at filtered
  rw [valuesOf]
  cases value? with
  | none =>
      rw [filtered.eq_nil]
      rfl
  | some value =>
      rw [List.perm_singleton.mp filtered]
      rfl

theorem referencesOfJson?_array (references : List Reference) :
    referencesOfJson? (.array (references.map Reference.json)) = some references := by
  rw [referencesOfJson?]
  induction references with
  | nil => rfl
  | cons reference references induction =>
      rw [List.map_cons, List.mapM_cons, Reference.ofJson?_json, induction]
      rfl

theorem ofMembers?_of_hasMembers {document : Document} {members : List (Option String × Json)}
    (has : document.HasMembers members) : ofMembers? members = some document := by
  rcases has with @⟨listed, given, others, lists, gives, areOther, arranged⟩
  have isText : members.all (·.1.isSome) = true := by
    apply List.all_eq_true.mpr
    intro member isMember
    have placed := arranged.subset isMember
    rw [List.mem_append, List.mem_append] at placed
    rcases placed with isListed | isGiven | isOther
    · rw [key_of_mem_keyed isListed, Option.isSome_some]
    · rw [key_of_mem_keyed isGiven, Option.isSome_some]
    · rcases areOther member isOther with ⟨key, isKey, _⟩
      rw [isKey, Option.isSome_some]
  have references : valuesOf "suppressIssueTypes" members = listed.toList := by
    apply valuesOf_of_perm arranged
    rw [List.forall_mem_append]
    constructor
    · exact fun _ isGiven => key_ne (key_of_mem_keyed isGiven) (by decide)
    · intro member isOther
      rcases areOther member isOther with ⟨key, isKey, noReferences, _⟩
      exact key_ne isKey noReferences
  have minimum : valuesOf "minimumSeverity" members = given.toList := by
    apply valuesOf_of_perm (arranged.trans (List.perm_append_comm_assoc _ _ _))
    rw [List.forall_mem_append]
    constructor
    · exact fun _ isListed => key_ne (key_of_mem_keyed isListed) (by decide)
    · intro member isOther
      rcases areOther member isOther with ⟨key, isKey, _, noMinimum⟩
      exact key_ne isKey noMinimum
  rcases document with ⟨documentReferences, documentMinimum⟩
  rw [ofMembers?, if_pos isText, references, minimum]
  cases lists <;> cases gives <;> simp [referencesOfJson?_array, minimumOfJson?]

theorem parse_of_isWritten {document : Document} {source : String}
    (written : document.IsWritten source) : parse source = document.resolve := by
  rcases written with ⟨rfl, writes, isObject, has⟩
  have decoded := ofMembers?_of_hasMembers has
  rw [parse, Json.parse?_of_writes writes, Option.bind_some, isObject, ofJson?, decoded]

/-! ## Resolving -/

theorem resolve_eq_ok_iff {document : Document} {options : Options} :
    document.resolve = .ok options ↔ ∃ codes,
      List.Forall₂ Reference.RefersTo document.references codes ∧
        options = { suppressed := .ofList codes, minimum := document.minimum } := by
  simp only [← Reference.mapM_resolve_eq_ok_iff]
  rw [resolve]
  cases document.references.mapM Reference.resolve with
  | error error => simp [bind, Except.bind]
  | ok codes => simp [bind, Except.bind, pure, Except.pure, eq_comm]

theorem exists_resolve_eq_ok_iff {document : Document} :
    (∃ options, document.resolve = .ok options) ↔
      ∀ reference ∈ document.references, reference.IsKnown := by
  rw [← Reference.exists_forall₂_refersTo_iff]
  constructor
  · intro succeeds
    rcases succeeds with ⟨options, resolved⟩
    rcases resolve_eq_ok_iff.mp resolved with ⟨codes, refer, _⟩
    exact ⟨codes, refer⟩
  · intro referred
    rcases referred with ⟨codes, refer⟩
    exact ⟨_, resolve_eq_ok_iff.mpr ⟨codes, refer, rfl⟩⟩

theorem resolve_of_unknown {document : Document} {before after : List Reference}
    {reference : Reference} (parts : document.references = before ++ reference :: after)
    (known : ∀ earlier ∈ before, earlier.IsKnown) (unnamed : ¬ reference.IsKnown) :
    document.resolve = .error reference.unknown := by
  rw [resolve, parts, Reference.mapM_resolve_of_unknown known unnamed]
  rfl

theorem resolve_eq_error_iff {document : Document} {error : Error} :
    document.resolve = .error error ↔ ∃ before reference after,
      document.references = before ++ reference :: after ∧
        (∀ earlier ∈ before, earlier.IsKnown) ∧ ¬ reference.IsKnown ∧
          error = reference.unknown := by
  constructor
  · intro failed
    have notAll : ¬ ∀ reference ∈ document.references, reference.IsKnown := by
      intro all
      rcases exists_resolve_eq_ok_iff.mpr all with ⟨options, resolved⟩
      rw [failed] at resolved
      cases resolved
    rcases Reference.exists_first_unknown notAll with
      ⟨before, reference, after, parts, known, unnamed⟩
    rw [resolve_of_unknown parts known unnamed] at failed
    exact ⟨before, reference, after, parts, known, unnamed, (Except.error.inj failed).symm⟩
  · intro isReport
    rcases isReport with ⟨before, reference, after, parts, known, unnamed, rfl⟩
    exact resolve_of_unknown parts known unnamed

/-- Whether a document is one of some options: it refers to the codes that they suppress,
in whatever order and however often, and has their minimum. -/
structure Describes (document : Document) (options : Options) : Prop where
  known : ∀ reference ∈ document.references, reference.IsKnown
  isSuppressed_iff : ∀ code, options.isSuppressed code = true ↔
    ∃ reference ∈ document.references, reference.RefersTo code
  minimum_eq : options.minimum = document.minimum

theorem describes_of_resolve {document : Document} {options : Options}
    (resolved : document.resolve = .ok options) : document.Describes options where
  known := exists_resolve_eq_ok_iff.mp ⟨options, resolved⟩
  isSuppressed_iff := by
    intro code
    rcases resolve_eq_ok_iff.mp resolved with ⟨codes, refer, rfl⟩
    rw [isSuppressed, decide_eq_true_iff, OrderedSet.mem_ofList]
    exact Reference.mem_iff_of_forall₂_refersTo refer code
  minimum_eq := by
    rcases resolve_eq_ok_iff.mp resolved with ⟨codes, _, rfl⟩
    rfl

end Document

structure Agrees (options other : Options) : Prop where
  isSuppressed_eq : ∀ code, options.isSuppressed code = other.isSuppressed code
  minimum_eq : options.minimum = other.minimum

namespace Document

theorem Describes.agrees {document : Document} {options other : Options}
    (describes : document.Describes options) (describesToo : document.Describes other) :
    options.Agrees other where
  isSuppressed_eq code := by
    rw [Bool.eq_iff_iff, describes.isSuppressed_iff, describesToo.isSuppressed_iff]
  minimum_eq := by rw [describes.minimum_eq, describesToo.minimum_eq]

theorem Describes.exists_resolve {document : Document} {options : Options}
    (describes : document.Describes options) :
    ∃ read, document.resolve = .ok read ∧ read.Agrees options := by
  rcases exists_resolve_eq_ok_iff.mpr describes.known with ⟨read, resolved⟩
  exact ⟨read, resolved, (describes_of_resolve resolved).agrees describes⟩

def Covers (others references : List Reference) : Prop :=
  ∀ reference ∈ references, ∃ other ∈ others, reference.SameIssue other

theorem covers_of_subset {others references : List Reference} (subset : references ⊆ others) :
    Covers others references :=
  fun reference isReference => ⟨reference, subset isReference, .inl rfl⟩

theorem Describes.of_covers {document other : Document} {options : Options}
    (describes : document.Describes options) (covers : Covers other.references document.references)
    (covered : Covers document.references other.references)
    (sameMinimum : other.minimum = document.minimum) : other.Describes options where
  known := by
    intro reference isReference
    rcases covered reference isReference with ⟨original, isOriginal, same⟩
    exact same.isKnown_iff.mpr (describes.known original isOriginal)
  isSuppressed_iff code := by
    rw [describes.isSuppressed_iff]
    constructor
    · intro referred
      rcases referred with ⟨reference, isReference, refers⟩
      rcases covers reference isReference with ⟨replaced, isReplaced, same⟩
      exact ⟨replaced, isReplaced, (same.refersTo_iff code).mp refers⟩
    · intro referred
      rcases referred with ⟨reference, isReference, refers⟩
      rcases covered reference isReference with ⟨original, isOriginal, same⟩
      exact ⟨original, isOriginal, (same.refersTo_iff code).mp refers⟩
  minimum_eq := by rw [describes.minimum_eq, sameMinimum]

theorem resolve_of_sameIssue {document other : Document}
    (same : List.Forall₂ Reference.SameIssue document.references other.references)
    (sameMinimum : other.minimum = document.minimum) : other.resolve = document.resolve := by
  rw [resolve, resolve, Reference.mapM_resolve_of_sameIssue same, sameMinimum]

end Document

/-! ## Written documents -/

/-- A document succeeds if and only if all its references name issues. Its options then
suppress exactly the codes that are referred to; so options are read back from each document
of them, and a change in the order, the number or the form of the references makes no
difference. Else the first reference that names no issue is reported, by its text. -/
theorem parse_written {document : Document} {source : String}
    (written : document.IsWritten source) :
    ((∃ options, parse source = .ok options) ↔
      ∀ reference ∈ document.references, reference.IsKnown) ∧
    (∀ options, parse source = .ok options →
      (∀ code, options.isSuppressed code = true ↔
        ∃ reference ∈ document.references, reference.RefersTo code) ∧
      options.minimum = document.minimum) ∧
    (∀ error, parse source = .error error ↔ ∃ before reference after,
      document.references = before ++ reference :: after ∧
        (∀ earlier ∈ before, earlier.IsKnown) ∧ ¬ reference.IsKnown ∧
          error = reference.unknown ∧ reference.text.toList <:+: error.message.toList) ∧
    (∀ options : Options, document.Describes options →
      ∃ read, parse source = .ok read ∧ read.Agrees options) ∧
    (∀ options : Options,
      List.Forall₂ Reference.RefersTo document.references options.suppressed.toList →
      options.minimum = document.minimum → parse source = .ok options) ∧
    ∀ (other : Document) (otherSource : String), other.IsWritten otherSource →
      other.minimum = document.minimum →
      (List.Forall₂ Reference.SameIssue document.references other.references →
        parse otherSource = parse source) ∧
      (Document.Covers other.references document.references →
        Document.Covers document.references other.references →
        ∀ options, parse source = .ok options →
          ∃ read, parse otherSource = .ok read ∧ read.Agrees options) := by
  rw [Document.parse_of_isWritten written]
  refine ⟨Document.exists_resolve_eq_ok_iff, ?_, ?_, ?_, ?_, ?_⟩
  · intro options resolved
    have describes := Document.describes_of_resolve resolved
    exact ⟨describes.isSuppressed_iff, describes.minimum_eq⟩
  · intro error
    rw [Document.resolve_eq_error_iff]
    constructor
    · intro failed
      rcases failed with ⟨before, reference, after, parts, known, unnamed, rfl⟩
      exact ⟨before, reference, after, parts, known, unnamed, rfl,
        reference.infix_message_unknown⟩
    · intro failed
      rcases failed with ⟨before, reference, after, parts, known, unnamed, isReport, _⟩
      exact ⟨before, reference, after, parts, known, unnamed, isReport⟩
  · exact fun options describes => describes.exists_resolve
  · -- A document of the suppressed codes themselves, which are distinct and in their order.
    intro options refer sameMinimum
    apply Document.resolve_eq_ok_iff.mpr
    refine ⟨options.suppressed.toList, refer, ?_⟩
    rw [OrderedSet.ofList_toList, ← sameMinimum]
  · intro other otherSource otherWritten sameMinimum
    rw [Document.parse_of_isWritten otherWritten]
    constructor
    · exact fun same => Document.resolve_of_sameIssue same sameMinimum
    · intro covers covered options resolved
      have describes := Document.describes_of_resolve resolved
      exact (describes.of_covers covers covered sameMinimum).exists_resolve

theorem parse_written_among_others :
    ∃ source otherSource options read,
      source = "\x7b\"minimumSeverity\": \"warning\",\"note\":[true, null],\n" ++
        "\"suppressIssueTypes\":[\"TypeMismatchDefault\",10021,10005]\x7d" ∧
      parse source = .ok options ∧
      options.isSuppressed 10005 = true ∧ options.minimum = some .warning ∧
      Document.IsWritten ⟨[.code 10021, .code 10005], some .warning⟩ otherSource ∧
      parse otherSource = .ok read ∧ read.Agrees options := by
  let references : List Reference := [.name "TypeMismatchDefault", .code 10021, .code 10005]
  let others : List Reference := [.code 10021, .code 10005]
  have known : ∀ reference ∈ references, reference.IsKnown :=
    List.forall_mem_cons.mpr ⟨⟨.typeMismatchDefault, rfl⟩,
      List.forall_mem_cons.mpr ⟨⟨.typeMismatchVariadicComment, rfl⟩,
        List.forall_mem_singleton.mpr ⟨.typeMismatchDefault, rfl⟩⟩⟩
  have covered : Document.Covers references others :=
    Document.covers_of_subset (List.subset_cons_self _ _)
  have covers : Document.Covers others references :=
    List.forall_mem_cons.mpr
      ⟨⟨.code 10005, by decide, .inr ⟨.typeMismatchDefault, rfl, rfl⟩⟩,
        Document.covers_of_subset (List.Subset.refl others)⟩
  rcases parse_written Document.isWritten_among_others with
    ⟨succeeds, suppresses, _, _, _, rewritten⟩
  rcases succeeds.mpr known with ⟨options, parsed⟩
  rcases suppresses options parsed with ⟨isSuppressed_iff, minimum_eq⟩
  rcases Document.exists_isWritten ⟨others, some .warning⟩ with ⟨otherSource, otherWritten⟩
  rcases (rewritten _ _ otherWritten rfl).2 covers covered options parsed with
    ⟨read, parsedToo, agrees⟩
  have refers : (Reference.code 10005).RefersTo 10005 := ⟨.typeMismatchDefault, rfl, rfl⟩
  exact ⟨_, otherSource, options, read, rfl, parsed,
    (isSuppressed_iff 10005).mpr ⟨.code 10005, by decide, refers⟩, minimum_eq, otherWritten,
    parsedToo, agrees⟩

end ParamTypes.Options
