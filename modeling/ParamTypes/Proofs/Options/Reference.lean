import ParamTypes.Options.Document
import ParamTypes.Proofs.Json.Number
import ParamTypes.Proofs.OrderedSet

/-!
References to issues by code or by name: what they refer to, how they are written, and
what becomes of a list of them. The codes of the list are taken up if every reference
names an issue; else the first one that does not is reported.
-/

namespace ParamTypes

namespace Issue

theorem ofCode?_eq_some_iff {code : Code} {issue : Issue} :
    ofCode? code = some issue ↔ issue.code = code := by
  constructor
  · intro found
    rw [ofCode?] at found
    have same := List.find?_some found
    exact beq_iff_eq.mp same
  · rintro rfl
    exact ofCode?_code issue

theorem ofName?_eq_some_iff {name : String} {issue : Issue} :
    ofName? name = some issue ↔ issue.name = name := by
  constructor
  · intro found
    rw [ofName?] at found
    have same := List.find?_some found
    exact beq_iff_eq.mp same
  · rintro rfl
    exact ofName?_name issue

end Issue

namespace Options.Reference

/-! ## References -/

def Names : Reference → Issue → Prop
  | .code given, issue => issue.code = given
  | .name given, issue => issue.name = given

def RefersTo (reference : Reference) (code : Code) : Prop :=
  ∃ issue, reference.Names issue ∧ issue.code = code

def IsKnown (reference : Reference) : Prop :=
  ∃ issue, reference.Names issue

def unknown : Reference → Error
  | .code given => .unknownCode given
  | .name given => .unknownName given

def text : Reference → String
  | .code given => toString given.toNat
  | .name given => given

theorem infix_message_unknown (reference : Reference) :
    reference.text.toList <:+: reference.unknown.message.toList := by
  cases reference with
  | code given =>
      have parts : (Reference.code given).unknown.message =
          "unknown issue code " ++ toString given.toNat ++ " in suppressIssueTypes" := rfl
      rw [parts, String.toList_append, String.toList_append, text]
      exact List.infix_append _ _ _
  | name given =>
      have parts : (Reference.name given).unknown.message =
          "unknown issue type '" ++ given ++ "' in suppressIssueTypes" := rfl
      rw [parts, String.toList_append, String.toList_append, text]
      exact List.infix_append _ _ _

def issue? : Reference → Option Issue
  | .code given => Issue.ofCode? given
  | .name given => Issue.ofName? given

theorem issue?_eq_some_iff {reference : Reference} {issue : Issue} :
    reference.issue? = some issue ↔ reference.Names issue := by
  cases reference with
  | code given => exact Issue.ofCode?_eq_some_iff
  | name given => exact Issue.ofName?_eq_some_iff

theorem resolve_eq (reference : Reference) :
    reference.resolve =
      reference.issue?.elim (.error reference.unknown) fun issue => .ok issue.code := by
  cases reference with
  | code given =>
      rw [resolve, issue?]
      cases Issue.ofCode? given <;> rfl
  | name given =>
      rw [resolve, issue?]
      cases Issue.ofName? given <;> rfl

theorem resolve_eq_ok_iff {reference : Reference} {found : Code} :
    reference.resolve = .ok found ↔ reference.RefersTo found := by
  simp only [RefersTo, ← issue?_eq_some_iff]
  rw [resolve_eq]
  cases reference.issue? <;> simp

theorem resolve_of_not_isKnown {reference : Reference} (unnamed : ¬ reference.IsKnown) :
    reference.resolve = .error reference.unknown := by
  have nothing : reference.issue? = none := by
    rw [Option.eq_none_iff_forall_ne_some]
    exact fun issue found => unnamed ⟨issue, issue?_eq_some_iff.mp found⟩
  rw [resolve_eq, nothing, Option.elim_none]

theorem isKnown_iff_exists_refersTo {reference : Reference} :
    reference.IsKnown ↔ ∃ found, reference.RefersTo found := by
  constructor
  · intro known
    rcases known with ⟨issue, names⟩
    exact ⟨issue.code, issue, names, rfl⟩
  · intro referred
    rcases referred with ⟨_, issue, names, _⟩
    exact ⟨issue, names⟩

theorem RefersTo.unique {reference : Reference} {found other : Code}
    (refers : reference.RefersTo found) (refersToo : reference.RefersTo other) :
    found = other := by
  rw [← resolve_eq_ok_iff] at refers refersToo
  exact Except.ok.inj (refers.symm.trans refersToo)

/-- Whether two references are the same or name the same issue, be it by its code or by its
name. -/
def SameIssue (reference other : Reference) : Prop :=
  reference = other ∨ ∃ issue, reference.Names issue ∧ other.Names issue

theorem SameIssue.resolve_eq {reference other : Reference} (same : reference.SameIssue other) :
    reference.resolve = other.resolve := by
  rcases same with rfl | ⟨issue, names, namesToo⟩
  · rfl
  · rw [resolve_eq_ok_iff.mpr ⟨issue, names, rfl⟩, resolve_eq_ok_iff.mpr ⟨issue, namesToo, rfl⟩]

theorem SameIssue.refersTo_iff {reference other : Reference} (same : reference.SameIssue other)
    (found : Code) : reference.RefersTo found ↔ other.RefersTo found := by
  rw [← resolve_eq_ok_iff, ← resolve_eq_ok_iff, same.resolve_eq]

theorem SameIssue.isKnown_iff {reference other : Reference} (same : reference.SameIssue other) :
    reference.IsKnown ↔ other.IsKnown := by
  rw [isKnown_iff_exists_refersTo, isKnown_iff_exists_refersTo]
  exact exists_congr same.refersTo_iff

/-! ## Written references -/

def json : Reference → Json
  | .code given => .number (Nat.toDigits 10 given.toNat)
  | .name given => .string (some given)

theorem ofJson?_json (reference : Reference) : ofJson? reference.json = some reference := by
  cases reference with
  | code given =>
      rw [json, ofJson?, Json.Number.natural?_toDigits]
      simp only [if_pos given.toNat_lt_size, UInt32.ofNat_toNat]
  | name given => rfl

/-! ## Lists of references -/

theorem mapM_resolve_eq_ok_iff {references : List Reference} {codes : List Code} :
    references.mapM resolve = .ok codes ↔ List.Forall₂ RefersTo references codes := by
  induction references generalizing codes with
  | nil =>
      rw [List.mapM_nil, List.forall₂_nil_left_iff]
      exact ⟨fun same => (Except.ok.inj same).symm, fun same => congrArg Except.ok same.symm⟩
  | cons reference references induction =>
      rw [List.mapM_cons, List.forall₂_cons_left_iff]
      constructor
      · intro read
        cases found : reference.resolve with
        | error error =>
            rw [found] at read
            cases read
        | ok code =>
            rw [found] at read
            cases later : references.mapM resolve with
            | error error =>
                rw [later] at read
                cases read
            | ok others =>
                rw [later] at read
                cases read
                exact ⟨code, others, resolve_eq_ok_iff.mp found, induction.mp later, rfl⟩
      · intro parts
        rcases parts with ⟨found, others, refers, later, rfl⟩
        rw [resolve_eq_ok_iff.mpr refers, induction.mpr later]
        rfl

theorem mapM_resolve_of_unknown {before after : List Reference} {reference : Reference}
    (known : ∀ earlier ∈ before, earlier.IsKnown) (unnamed : ¬ reference.IsKnown) :
    (before ++ reference :: after).mapM resolve = .error reference.unknown := by
  induction before with
  | nil =>
      rw [List.nil_append, List.mapM_cons, resolve_of_not_isKnown unnamed]
      rfl
  | cons earlier before induction =>
      rw [List.forall_mem_cons] at known
      rcases isKnown_iff_exists_refersTo.mp known.1 with ⟨found, refers⟩
      rw [List.cons_append, List.mapM_cons, resolve_eq_ok_iff.mpr refers, induction known.2]
      rfl

theorem mapM_resolve_of_sameIssue {references others : List Reference}
    (same : List.Forall₂ SameIssue references others) :
    references.mapM resolve = others.mapM resolve := by
  induction same with
  | nil => rfl
  | cons first _ induction => rw [List.mapM_cons, List.mapM_cons, first.resolve_eq, induction]

theorem exists_forall₂_refersTo_iff {references : List Reference} :
    (∃ codes, List.Forall₂ RefersTo references codes) ↔
      ∀ reference ∈ references, reference.IsKnown := by
  induction references with
  | nil => exact ⟨fun _ => List.forall_mem_nil _, fun _ => ⟨[], .nil⟩⟩
  | cons reference references induction =>
      rw [List.forall_mem_cons, ← induction]
      constructor
      · intro referred
        rcases referred with ⟨codes, refer⟩
        rcases List.forall₂_cons_left_iff.mp refer with ⟨found, others, refers, later, _⟩
        exact ⟨isKnown_iff_exists_refersTo.mpr ⟨found, refers⟩, others, later⟩
      · intro parts
        rcases parts with ⟨known, others, later⟩
        rcases isKnown_iff_exists_refersTo.mp known with ⟨found, refers⟩
        exact ⟨found :: others, .cons refers later⟩

theorem mem_iff_of_forall₂_refersTo {references : List Reference} {codes : List Code}
    (refer : List.Forall₂ RefersTo references codes) (found : Code) :
    found ∈ codes ↔ ∃ reference ∈ references, reference.RefersTo found := by
  induction refer with
  | nil => simp
  | @cons reference code references codes refers _ induction =>
      have first : found = code ↔ reference.RefersTo found := by
        constructor
        · rintro rfl
          exact refers
        · exact fun refersToo => refersToo.unique refers
      rw [List.mem_cons, List.exists_mem_cons_iff, induction, first]

theorem exists_first_unknown {references : List Reference}
    (notAll : ¬ ∀ reference ∈ references, reference.IsKnown) :
    ∃ before reference after, references = before ++ reference :: after ∧
      (∀ earlier ∈ before, earlier.IsKnown) ∧ ¬ reference.IsKnown := by
  induction references with
  | nil => exact absurd (List.forall_mem_nil _) notAll
  | cons reference references induction =>
      by_cases known : reference.IsKnown
      · have later : ¬ ∀ reference ∈ references, reference.IsKnown :=
          fun all => notAll (List.forall_mem_cons.mpr ⟨known, all⟩)
        rcases induction later with ⟨before, unnamed, after, rfl, allKnown, notKnown⟩
        exact ⟨reference :: before, unnamed, after, rfl,
          List.forall_mem_cons.mpr ⟨known, allKnown⟩, notKnown⟩
      · exact ⟨[], reference, references, rfl, List.forall_mem_nil _, known⟩

end Options.Reference

end ParamTypes
