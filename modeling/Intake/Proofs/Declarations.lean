import Intake.Event
import Intake.Proofs.Building
import Mathlib.Data.List.ReduceOption

/-
  This file shows which drafts build, and what building says
  about the others.  A draft builds exactly if it is well-formed.
  Every repeated name and every error of a name, a type or a
  check is found, in the order of the declarations, and the
  first of them is reported.  Which patterns compile is up to
  the library of patterns, whatever it is.

  Key definitions include:
    * `ParameterDraft.WellFormed`
    * `ParameterDraft.Fails`
    * `SchemaDraft.Finds`
    * `SchemaDraft.BuildsExactly`

  The main statements are:
    * `ParameterDraft.wellFormed_iff`
    * `ParameterDraft.mem_problems_iff`
    * `SchemaDraft.finds_problems`
    * `SchemaDraft.buildsExactly`
-/

namespace Intake

------------------------------------------------------------
-- Well-Formed Declarations
------------------------------------------------------------

/- A character that may come first in an identifier. -/
def KeyPolicy.IdentifierStart
    (c : Char) : Prop :=
  ('A' ≤ c ∧ c ≤ 'Z') ∨ ('a' ≤ c ∧ c ≤ 'z') ∨ c = '_'

/- A character that may come later in an identifier. -/
def KeyPolicy.IdentifierPart
    (c : Char) : Prop :=
  IdentifierStart c ∨ ('0' ≤ c ∧ c ≤ '9')

/- A plain ASCII identifier. -/
def KeyPolicy.Identifier
    (name : String) : Prop :=
  ∃ first rest, name.toList = first :: rest ∧
    IdentifierStart first ∧ ∀ c ∈ rest, IdentifierPart c

/-
  A declared type that has a meaning in a table: a type of the
  table or an object, or an array of these.  Arrays of arrays
  may not have objects inside.
-/
inductive TypeExpr.Known
    (types : TypeTable) : TypeExpr Schema → Prop where
  | scalar
      {name : String}
      (defined : types.contains name = true) :
      Known types (.scalar name)
  | nested (schema : Schema) : Known types (.nested schema)
  | arrayOfNested (schema : Schema) : Known types (.arrayOfNested schema)
  | arrayOfSchema (schema : Schema) : Known types (.arrayOf (.nested schema))
  | arrayOf
      {element : TypeExpr Schema}
      (elements : Known types element)
      (noSchema : element.schema? = none) :
      Known types (.arrayOf element)

/-
  A declared check that constrains something, and whose pattern
  compiles if it has one.
-/
def Check.Usable
    (patterns : PatternLibrary) : Check String → Prop
  | .custom _ => True
  | .numericality bounds | .length bounds | .size bounds =>
      ∃ relation bound, bounds.get? relation = some bound
  | .among allowed => allowed ≠ []
  | .format source =>
      ∃ matchesText, patterns.compile source = .ok matchesText

/- A declaration with nothing wrong about it. -/
structure ParameterDraft.WellFormed
    (patterns : PatternLibrary)
    (types : TypeTable)
    (policy : KeyPolicy)
    (declared : ParameterDraft) : Prop where
  named : declared.name ≠ ""
  identifier : policy = .atom → KeyPolicy.Identifier declared.name
  known : declared.type.Known types
  atMostOneCheck : declared.checks.length ≤ 1
  usable : ∀ check ∈ declared.checks, check.Usable patterns

/- Well-formed declarations with distinct names. -/
structure SchemaDraft.WellFormed
    (patterns : PatternLibrary)
    (draft : SchemaDraft) : Prop where
  distinct : (draft.params.map ParameterDraft.name).Nodup
  params :
    ∀ declared ∈ draft.params,
      declared.WellFormed patterns draft.types draft.keyPolicy

------------------------------------------------------------
-- Names
------------------------------------------------------------

/- The letters, by their ranges. -/
theorem KeyPolicy.isAlpha_iff
    (c : Char) :
    c.isAlpha = true ↔ ('A' ≤ c ∧ c ≤ 'Z') ∨ ('a' ≤ c ∧ c ≤ 'z') := by
  have hAlpha : c.isAlpha = (c.isUpper || c.isLower) := rfl
  have hUpper :
      c.isUpper = decide ('A'.val ≤ c.val ∧ c.val ≤ 'Z'.val) := rfl
  have hLower :
      c.isLower =
        (decide ('a'.val ≤ c.val) && decide (c.val ≤ 'z'.val)) := rfl
  rw [hAlpha, hUpper, hLower]
  simp only [Bool.or_eq_true, Bool.and_eq_true, decide_eq_true_eq,
    Char.le_def]

/- The characters at the front of an identifier, by their ranges. -/
theorem KeyPolicy.opensIdentifier_iff
    (c : Char) :
    opensIdentifier c = true ↔ IdentifierStart c := by
  unfold opensIdentifier IdentifierStart
  rw [Bool.or_eq_true, isAlpha_iff, beq_iff_eq, or_assoc]

/- The characters inside an identifier, by their ranges. -/
theorem KeyPolicy.continuesIdentifier_iff
    (c : Char) :
    continuesIdentifier c = true ↔ IdentifierPart c := by
  unfold continuesIdentifier IdentifierPart IdentifierStart
  simp only [Char.isAlphanum, Char.isDigit, Bool.or_eq_true,
    Bool.and_eq_true, isAlpha_iff, decide_eq_true_eq, beq_iff_eq,
    Char.le_def]
  tauto

/- A policy accepts all names, or the identifiers. -/
theorem KeyPolicy.accepts_iff
    (policy : KeyPolicy)
    (name : String) :
    policy.accepts name = true ↔ (policy = .atom → Identifier name) := by
  cases policy with
  | string => simp [accepts]
  | atom =>
      unfold accepts Identifier
      cases name.toList with
      | nil => simp [isIdentifier]
      | cons first rest =>
          simp [isIdentifier, opensIdentifier_iff, continuesIdentifier_iff]

------------------------------------------------------------
-- Types
------------------------------------------------------------

/- A coercer of the table is found exactly if its type is defined. -/
theorem TypeTable.contains_iff
    (types : TypeTable)
    (name : String) :
    types.contains name = true ↔
      ∃ coerce, types.scalar? name = some coerce := by
  rw [← Option.isSome_iff_exists, scalar?, Option.isSome_map]
  exact Bool.eq_iff_iff.mp
    (Fields.contains_eq_isSome_lookup? types.definitions name)

/- The known types are those that resolve. -/
theorem TypeExpr.known_iff
    (types : TypeTable)
    (type : TypeExpr Schema) :
    type.Known types ↔ ∃ resolved, type.resolve types = .ok resolved := by
  constructor
  · intro hKnown
    induction hKnown with
    | scalar defined =>
        rcases (types.contains_iff _).mp defined with ⟨coerce, hFound⟩
        rw [TypeExpr.resolve_scalar, hFound]
        exact ⟨_, rfl⟩
    | nested schema | arrayOfNested schema | arrayOfSchema schema =>
        exact ⟨_, rfl⟩
    | @arrayOf element elements noSchema ih =>
        rcases ih with ⟨resolved, hResolve⟩
        cases element with
        | scalar name =>
            rcases TypeExpr.exists_scalar?_of_resolve hResolve with
              ⟨coerce, hFound, _⟩
            rw [TypeExpr.resolve_arrayOf_scalar, TypeTable.list?_eq_map,
              hFound]
            exact ⟨_, rfl⟩
        | nested schema | arrayOfNested schema => cases noSchema
        | arrayOf inner =>
            rw [TypeExpr.resolve, hResolve]
            have hNone := TypeExpr.schema?_resolve _ _ hResolve
            rw [noSchema] at hNone
            cases resolved with
            | coerced name coerce => exact ⟨_, rfl⟩
            | nested schema | nestedList schema => cases hNone
  · rintro ⟨resolved, hResolve⟩
    fun_induction TypeExpr.resolve types type generalizing resolved with
    | case1 name =>
        rcases TypeExpr.exists_scalar?_of_resolve hResolve with
          ⟨coerce, hFound, _⟩
        exact .scalar ((types.contains_iff name).mpr ⟨coerce, hFound⟩)
    | case2 schema => exact .nested schema
    | case3 schema => exact .arrayOfNested schema
    | case4 name =>
        rcases TypeExpr.exists_scalar?_of_resolve_arrayOf hResolve with
          ⟨coerce, hItem, _⟩
        exact
          .arrayOf
            (.scalar ((types.contains_iff name).mpr ⟨coerce, hItem⟩)) rfl
    | case5 schema => exact .arrayOfSchema schema
    | case8 element name coerce hElement ih =>
        have hNone := TypeExpr.schema?_resolve _ _ hElement
        exact .arrayOf (ih _ hElement) hNone.symm
    | case6 schema | case7 element e hElement ih
    | case9 element other hOther hElement ih => cases hResolve

------------------------------------------------------------
-- Checks
------------------------------------------------------------

/- Every relation may have a bound. -/
theorem Bounds.mem_order
    (relation : Relation) :
    relation ∈ Bounds.order := by
  cases relation <;> simp [order]

/- Bounds are not empty exactly if one of them is set. -/
theorem Bounds.isEmpty_eq_false_iff
    (bounds : Bounds) :
    bounds.isEmpty = false ↔
      ∃ relation bound, bounds.get? relation = some bound := by
  unfold isEmpty entries
  rw [List.isEmpty_eq_false_iff_exists_mem]
  constructor
  · rintro ⟨entry, hEntry⟩
    rcases List.mem_filterMap.mp hEntry with ⟨relation, _, hSet⟩
    rcases Option.map_eq_some_iff.mp hSet with ⟨bound, hBound, _⟩
    exact ⟨relation, bound, hBound⟩
  · rintro ⟨relation, bound, hBound⟩
    refine ⟨(relation, bound), ?_⟩
    rw [List.mem_filterMap]
    exact ⟨relation, mem_order relation, by rw [hBound]; rfl⟩

section Libraries

variable (patterns : PatternLibrary)

/- The usable checks are those that compile. -/
theorem Check.usable_iff
    (check : Check String) :
    check.Usable patterns ↔
      ∃ usable, check.compile patterns = .ok usable := by
  cases check with
  | custom test => simp [Usable, compile]
  | numericality bounds | length bounds | size bounds =>
      simp only [Usable, compile, ← Bounds.isEmpty_eq_false_iff]
      cases bounds.isEmpty <;> simp
  | among allowed => cases allowed <;> simp [Usable, compile]
  | format source =>
      simp only [Usable, compile, PatternLibrary.pattern]
      cases patterns.compile source <;> simp

/-
  What is wrong with a declared check: its pattern does not
  compile, for a reason that the library gives, or the check is
  of another kind and constrains nothing.
-/
inductive Check.Refused
    (patterns : PatternLibrary) : Check String → CheckError → Prop where
  | invalidPattern
      {source reason : String}
      (pattern : patterns.compile source = .error reason) :
      Refused patterns (.format source) (.invalidPattern source reason)
  | emptyConstraint
      {check : Check String}
      (kind : ∀ source, check ≠ .format source)
      (empty : ¬ check.Usable patterns) :
      Refused patterns check (.emptyConstraint check.kind)

/- The errors of compiling checks are what is wrong with them. -/
theorem Check.refused_iff
    (check : Check String)
    (e : CheckError) :
    check.Refused patterns e ↔ check.compile patterns = .error e := by
  have hUsable := check.usable_iff patterns
  constructor
  · intro hRefused
    cases hRefused with
    | invalidPattern pattern =>
        rw [compile, PatternLibrary.pattern, pattern]
    | emptyConstraint kind empty =>
        rw [hUsable] at empty
        cases check with
        | custom test => exact absurd ⟨_, rfl⟩ empty
        | numericality bounds | length bounds | size bounds =>
            simp only [compile] at empty ⊢
            cases hEmpty : bounds.isEmpty <;> simp [hEmpty] at empty ⊢
        | among allowed =>
            cases allowed with
            | nil => rfl
            | cons first rest => exact absurd ⟨_, rfl⟩ empty
        | format source => exact absurd rfl (kind source)
  · intro hCompile
    have hNot : ¬ check.Usable patterns := by
      rw [hUsable, hCompile]
      simp
    cases check with
    | custom test => cases hCompile
    | numericality bounds | length bounds | size bounds
    | among allowed =>
        simp only [compile] at hCompile
        split at hCompile
        · cases hCompile
          exact .emptyConstraint (fun _ hSame => by cases hSame) hNot
        · cases hCompile
    | format source =>
        rw [compile, PatternLibrary.pattern] at hCompile
        cases hPattern : patterns.compile source with
        | ok matchesText =>
            rw [hPattern] at hCompile
            cases hCompile
        | error reason =>
            rw [hPattern] at hCompile
            cases hCompile
            exact .invalidPattern hPattern

------------------------------------------------------------
-- Errors of Parameters
------------------------------------------------------------

/-
  What is wrong with a declaration by itself, whatever else is
  wrong with it.
-/
inductive ParameterDraft.Fails
    (patterns : PatternLibrary)
    (types : TypeTable)
    (policy : KeyPolicy)
    (declared : ParameterDraft) : SchemaError → Prop where
  | unnamed
      (name : declared.name = "") :
      Fails patterns types policy declared
        (.invalidName declared.name .empty)
  | notIdentifier
      (name : declared.name ≠ "")
      (atom : policy = .atom)
      (identifier : ¬ KeyPolicy.Identifier declared.name) :
      Fails patterns types policy declared
        (.invalidName declared.name (.notAccepted policy))
  | type
      {e : TypeError}
      (resolve : declared.type.resolve types = .error e) :
      Fails patterns types policy declared (.ofTypeError declared.name e)
  | conflict
      {first second : Check String}
      {others : List (Check String)}
      (checks : declared.checks = first :: second :: others) :
      Fails patterns types policy declared
        (.conflictingChecks declared.name first.kind second.kind)
  | check
      {check : Check String}
      {e : CheckError}
      (only : declared.checks = [check])
      (refused : check.Refused patterns e) :
      Fails patterns types policy declared (.ofCheckError declared.name e)

/-
  The place of an error among those of one declaration: first
  the name, then the type, then the check.
-/
def SchemaError.stage : SchemaError → Nat
  | .duplicateParam _ | .invalidName _ _ => 0
  | .unresolvedType _ _ | .unsupportedType _ _ => 1
  | .conflictingChecks _ _ _ | .invalidPattern _ _ _
  | .emptyConstraint _ _ => 2

namespace ParameterDraft

/- The errors of a parameter that is not usable. -/
def errorsOf :
    Except (List SchemaError) (Parameter Schema) → List SchemaError
  | .error found => found
  | .ok _ => []

/- The errors that a declaration has by itself. -/
def problems
    (patterns : PatternLibrary)
    (types : TypeTable)
    (policy : KeyPolicy)
    (declared : ParameterDraft) : List SchemaError :=
  errorsOf (declared.resolve patterns types policy)

/- The error of the name of a declaration. -/
def nameProblem?
    (policy : KeyPolicy)
    (declared : ParameterDraft) : Option SchemaError :=
  (nameFault? policy declared.name).map (.invalidName declared.name)

/- The error of the type of a declaration. -/
def typeProblem?
    (types : TypeTable)
    (declared : ParameterDraft) : Option SchemaError :=
  match declared.type.resolve types with
  | .error e => some (.ofTypeError declared.name e)
  | .ok _ => none

/- The error of the checks of a declaration. -/
def checkProblem?
    (patterns : PatternLibrary)
    (declared : ParameterDraft) : Option SchemaError :=
  match compileChecks patterns declared.name declared.checks with
  | .error e => some e
  | .ok _ => none

/- A name is empty, or the key policy does not accept it. -/
theorem nameFault?_eq_some_iff
    (policy : KeyPolicy)
    (name : String)
    (fault : NameFault) :
    nameFault? policy name = some fault ↔
      (name = "" ∧ fault = .empty) ∨
        (name ≠ "" ∧ ¬ policy.accepts name = true ∧
          fault = .notAccepted policy) := by
  unfold nameFault?
  rw [eq_comm (a := fault), eq_comm (a := fault)]
  by_cases hName : name = ""
  · simp [hName]
  · by_cases hAccepts : policy.accepts name = true <;>
      simp [hName, hAccepts]

/- The error of a name is one that a declaration fails with. -/
theorem nameProblem?_eq_some_iff
    (types : TypeTable)
    (policy : KeyPolicy)
    (declared : ParameterDraft)
    (e : SchemaError) :
    declared.nameProblem? policy = some e ↔
      declared.Fails patterns types policy e ∧ e.stage = 0 := by
  unfold nameProblem?
  rw [Option.map_eq_some_iff]
  constructor
  · rintro ⟨fault, hFault, rfl⟩
    refine ⟨?_, rfl⟩
    rcases (nameFault?_eq_some_iff _ _ _).mp hFault with
      ⟨hEmpty, rfl⟩ | ⟨hName, hRefused, rfl⟩
    · exact .unnamed hEmpty
    · rw [policy.accepts_iff, Classical.not_imp] at hRefused
      exact .notIdentifier hName hRefused.1 hRefused.2
  · rintro ⟨hFails, hStage⟩
    cases hFails with
    | unnamed hEmpty =>
        refine ⟨.empty, ?_, rfl⟩
        exact (nameFault?_eq_some_iff _ _ _).mpr (Or.inl ⟨hEmpty, rfl⟩)
    | notIdentifier name atom identifier =>
        refine ⟨.notAccepted policy, ?_, rfl⟩
        apply (nameFault?_eq_some_iff _ _ _).mpr
        refine Or.inr ⟨name, ?_, rfl⟩
        rw [policy.accepts_iff, Classical.not_imp]
        exact ⟨atom, identifier⟩
    | @type e _ => cases e <;> cases hStage
    | conflict _ => cases hStage
    | @check _ e _ _ => cases e <;> cases hStage

/- The error of a type is one that a declaration fails with. -/
theorem typeProblem?_eq_some_iff
    (types : TypeTable)
    (policy : KeyPolicy)
    (declared : ParameterDraft)
    (e : SchemaError) :
    declared.typeProblem? types = some e ↔
      declared.Fails patterns types policy e ∧ e.stage = 1 := by
  unfold typeProblem?
  constructor
  · intro hProblem
    split at hProblem
    · next e hResolve =>
        cases hProblem
        refine ⟨.type hResolve, ?_⟩
        cases e <;> rfl
    · cases hProblem
  · rintro ⟨hFails, hStage⟩
    cases hFails with
    | @type e resolve => rw [resolve]
    | unnamed _ | notIdentifier _ _ _ | conflict _ => cases hStage
    | @check _ e _ _ => cases e <;> cases hStage

/- The error of a check is one that a declaration fails with. -/
theorem checkProblem?_eq_some_iff
    (types : TypeTable)
    (policy : KeyPolicy)
    (declared : ParameterDraft)
    (e : SchemaError) :
    declared.checkProblem? patterns = some e ↔
      declared.Fails patterns types policy e ∧ e.stage = 2 := by
  unfold checkProblem?
  constructor
  · intro hProblem
    cases hChecks : declared.checks with
    | nil =>
        rw [hChecks] at hProblem
        cases hProblem
    | cons first others =>
        cases others with
        | nil =>
            rw [hChecks, compileChecks] at hProblem
            cases hCompile : first.compile patterns with
            | ok usable =>
                rw [hCompile] at hProblem
                cases hProblem
            | error e =>
                rw [hCompile] at hProblem
                cases hProblem
                have hRefused := (first.refused_iff patterns e).mpr hCompile
                refine ⟨.check hChecks hRefused, ?_⟩
                cases e <;> rfl
        | cons second others =>
            rw [hChecks] at hProblem
            cases hProblem
            exact ⟨.conflict hChecks, rfl⟩
  · rintro ⟨hFails, hStage⟩
    cases hFails with
    | unnamed _ | notIdentifier _ _ _ => cases hStage
    | @type e _ => cases e <;> cases hStage
    | conflict checks =>
        rw [checks]
        rfl
    | @check check e only refused =>
        rw [check.refused_iff patterns] at refused
        rw [only, compileChecks, refused]

/-
  The problems of a declaration are the errors of its name, its
  type and its checks, in this order.
-/
theorem problems_eq
    (types : TypeTable)
    (policy : KeyPolicy)
    (declared : ParameterDraft) :
    declared.problems patterns types policy =
      [declared.nameProblem? policy, declared.typeProblem? types,
        declared.checkProblem? patterns].reduceOption := by
  unfold problems errorsOf resolve nameProblem? typeProblem? checkProblem?
  cases nameFault? policy declared.name <;>
    cases declared.type.resolve types <;>
      cases compileChecks patterns declared.name declared.checks <;>
        rfl

/- The problems of a declaration are all that is wrong with it. -/
theorem mem_problems_iff
    (types : TypeTable)
    (policy : KeyPolicy)
    (declared : ParameterDraft)
    (e : SchemaError) :
    e ∈ declared.problems patterns types policy ↔
      declared.Fails patterns types policy e := by
  rw [problems_eq, List.reduceOption_mem_iff]
  simp only [List.mem_cons, List.not_mem_nil, or_false,
    @eq_comm _ (some e)]
  rw [nameProblem?_eq_some_iff patterns types policy declared e,
    typeProblem?_eq_some_iff patterns types policy declared e,
    checkProblem?_eq_some_iff patterns types policy declared e,
    ← and_or_left, ← and_or_left, and_iff_left_iff_imp]
  intro hFails
  cases e <;> simp [SchemaError.stage]

/- The problems of a declaration are in order, one of a stage. -/
theorem pairwise_problems
    (types : TypeTable)
    (policy : KeyPolicy)
    (declared : ParameterDraft) :
    (declared.problems patterns types policy).Pairwise fun first second =>
      first.stage < second.stage := by
  rw [problems_eq, List.reduceOption, List.pairwise_filterMap]
  have hName :
      ∀ e, declared.nameProblem? policy = some e → e.stage = 0 :=
    fun e hFound =>
      ((nameProblem?_eq_some_iff patterns types policy declared e).mp
        hFound).2
  have hType :
      ∀ e, declared.typeProblem? types = some e → e.stage = 1 :=
    fun e hFound =>
      ((typeProblem?_eq_some_iff patterns types policy declared e).mp
        hFound).2
  have hCheck :
      ∀ e, declared.checkProblem? patterns = some e → e.stage = 2 :=
    fun e hFound =>
      ((checkProblem?_eq_some_iff patterns types policy declared e).mp
        hFound).2
  refine .cons ?_ (.cons ?_ (.cons ?_ .nil))
  · intro later hLater first hFirst second hSecond
    rw [hName first hFirst]
    rcases List.mem_pair.mp hLater with rfl | rfl
    · rw [hType second hSecond]
      exact Nat.zero_lt_one
    · rw [hCheck second hSecond]
      exact Nat.zero_lt_two
  · intro later hLater first hFirst second hSecond
    cases List.mem_singleton.mp hLater
    rw [hType first hFirst, hCheck second hSecond]
    exact Nat.one_lt_two
  · exact List.forall_mem_nil _

/- At most one check is compiled, and it has to be usable. -/
theorem compileChecks_iff
    (name : String)
    (checks : List (Check String)) :
    (∃ check, compileChecks patterns name checks = .ok check) ↔
      checks.length ≤ 1 ∧ ∀ check ∈ checks, check.Usable patterns := by
  cases checks with
  | nil => simp [compileChecks]
  | cons first others =>
      cases others with
      | nil =>
          rw [List.forall_mem_singleton, first.usable_iff patterns,
            compileChecks]
          cases first.compile patterns <;> simp
      | cons second others => simp [compileChecks]

/- The well-formed declarations are those that are usable. -/
theorem wellFormed_iff
    (types : TypeTable)
    (policy : KeyPolicy)
    (declared : ParameterDraft) :
    declared.WellFormed patterns types policy ↔
      ∃ param, declared.resolve patterns types policy = .ok param := by
  have hName := nameFault?_eq_none_iff policy declared.name
  rw [policy.accepts_iff] at hName
  have hType := declared.type.known_iff types
  have hChecks :=
    compileChecks_iff patterns declared.name declared.checks
  constructor
  · rintro ⟨named, identifier, known, atMostOneCheck, usable⟩
    rcases hType.mp known with ⟨resolved, hResolved⟩
    rcases hChecks.mpr ⟨atMostOneCheck, usable⟩ with ⟨check, hCheck⟩
    refine
      ⟨⟨declared.name, declared.type, resolved, declared.required,
        declared.source, declared.default, check⟩, ?_⟩
    rw [resolve_eq_ok_iff]
    exact ⟨hName.mpr ⟨named, identifier⟩, hResolved, hCheck, rfl⟩
  · rintro ⟨param, hResolve⟩
    rcases (resolve_eq_ok_iff _ _ _ _ _).mp hResolve with
      ⟨hFault, hResolved, hCheck, _⟩
    rcases hName.mp hFault with ⟨named, identifier⟩
    rcases hChecks.mp ⟨param.check, hCheck⟩ with
      ⟨atMostOneCheck, usable⟩
    exact
      ⟨named, identifier, hType.mpr ⟨param.resolved, hResolved⟩,
        atMostOneCheck, usable⟩

end ParameterDraft

end Libraries

------------------------------------------------------------
-- Errors of Drafts
------------------------------------------------------------

/-
  The errors that are found for each parameter of a draft.  A
  parameter whose name came before has this error only, even if
  nothing could be used of the other one.  All others have what
  is wrong with them, in order.
-/
def SchemaDraft.Finds
    (patterns : PatternLibrary)
    (draft : SchemaDraft)
    (found : List (List SchemaError)) : Prop :=
  found.length = draft.params.length ∧
    ∀ before declared after,
      draft.params = before ++ declared :: after →
        ∃ errors, found[before.length]? = some errors ∧
          if declared.name ∈ before.map ParameterDraft.name then
            errors = [.duplicateParam declared.name]
          else
            (errors.Pairwise fun first second =>
              first.stage < second.stage) ∧
            ∀ e, e ∈ errors ↔
              declared.Fails patterns draft.types draft.keyPolicy e

/- What building keeps of a declaration. -/
structure ParameterDraft.KeptBy
    (declared : ParameterDraft)
    (param : Parameter Schema) : Prop where
  name : param.name = declared.name
  type : param.type = declared.type
  required : param.required = declared.required
  source : param.source = declared.source
  default : param.default = declared.default

/-
  What it means that building accepts exactly the well-formed
  drafts, and reports the first error of all others.  A draft is
  whatever declarations in a row have left behind, so the table
  is the final one, also for parameters declared before it.
-/
structure SchemaDraft.BuildsExactly
    (patterns : PatternLibrary)
    (draft : SchemaDraft) : Prop where
  accepted :
    (∃ schema, draft.build patterns = .ok schema) ↔
      draft.WellFormed patterns
  kept :
    ∀ schema, draft.build patterns = .ok schema →
      schema.name = draft.name ∧
      schema.types = draft.types ∧
      schema.globals = draft.globals ∧
      schema.keyPolicy = draft.keyPolicy ∧
      List.Forall₂ ParameterDraft.KeptBy draft.params schema.params
  logged :
    ∀ schema, draft.build patterns = .ok schema →
      (draft.events patterns).map Event.level = [.debug]
  refused :
    ∀ error, draft.build patterns = .error error →
      ∃ found, draft.Finds patterns found ∧
        found.flatten.head? = some error ∧
        draft.events patterns =
          found.flatten.map (.schemaRefused draft.name) ∧
        ∀ event ∈ draft.events patterns, event.level = .warn

namespace SchemaDraft

variable (patterns : PatternLibrary)

/- Every declared parameter is resolved. -/
theorem length_resolveParams
    (types : TypeTable)
    (policy : KeyPolicy)
    (seen : List String)
    (drafts : List ParameterDraft) :
    (resolveParams patterns types policy seen drafts).length =
      drafts.length := by
  induction drafts generalizing seen with
  | nil => rfl
  | cons declared rest ih =>
      rw [resolveParams, List.length_cons, List.length_cons, ih]

/-
  A parameter is resolved by itself, unless its name is one that
  was seen or came before.  The induction is on the parameters
  before it, whose names are seen one by one.
-/
theorem getElem?_resolveParams
    (types : TypeTable)
    (policy : KeyPolicy)
    (seen : List String)
    (before : List ParameterDraft)
    (declared : ParameterDraft)
    (after : List ParameterDraft) :
    (resolveParams patterns types policy seen
        (before ++ declared :: after))[before.length]? =
      some
        (if declared.name ∈ before.map ParameterDraft.name ∨
            declared.name ∈ seen then
          .error [.duplicateParam declared.name]
        else declared.resolve patterns types policy) := by
  induction before generalizing seen with
  | nil => simp [resolveParams]
  | cons first rest ih =>
      rw [List.cons_append, resolveParams, List.length_cons,
        List.getElem?_cons_succ, ih]
      have hSeen :
          (declared.name ∈ rest.map ParameterDraft.name ∨
              declared.name ∈ first.name :: seen) ↔
            (declared.name ∈ (first :: rest).map ParameterDraft.name ∨
              declared.name ∈ seen) := by
        simp only [List.map_cons, List.mem_cons]
        rw [or_left_comm, or_assoc]
      simp only [hSeen]

/- The errors of each parameter of a draft. -/
def problems
    (draft : SchemaDraft) : List (List SchemaError) :=
  (draft.resolved patterns).map ParameterDraft.errorsOf

/- The errors of a draft are those of its parameters, in order. -/
theorem flatten_problems
    (draft : SchemaDraft) :
    (draft.problems patterns).flatten = draft.errors patterns :=
  rfl

/- Building finds what is wrong with each parameter. -/
theorem finds_problems
    (draft : SchemaDraft) :
    draft.Finds patterns (draft.problems patterns) := by
  constructor
  · rw [problems, List.length_map, resolved, length_resolveParams]
  · intro before declared after hParams
    have hResolved :=
      getElem?_resolveParams patterns draft.types draft.keyPolicy []
        before declared after
    rw [← hParams] at hResolved
    by_cases hRepeated : declared.name ∈ before.map ParameterDraft.name
    · refine ⟨[.duplicateParam declared.name], ?_, ?_⟩
      · rw [problems, List.getElem?_map, resolved, hResolved,
          if_pos (Or.inl hRepeated)]
        rfl
      · rw [if_pos hRepeated]
    · have hNew :
          ¬ (declared.name ∈ before.map ParameterDraft.name ∨
            declared.name ∈ []) := by
        rintro (hBefore | hSeen)
        · exact hRepeated hBefore
        · cases hSeen
      refine
        ⟨declared.problems patterns draft.types draft.keyPolicy, ?_, ?_⟩
      · rw [problems, List.getElem?_map, resolved, hResolved,
          if_neg hNew]
        rfl
      · rw [if_neg hRepeated]
        exact
          ⟨declared.pairwise_problems patterns draft.types
              draft.keyPolicy,
            declared.mem_problems_iff patterns draft.types
              draft.keyPolicy⟩

/- The well-formed drafts are those that build. -/
theorem wellFormed_iff
    (draft : SchemaDraft) :
    draft.WellFormed patterns ↔
      ∃ schema, draft.build patterns = .ok schema := by
  constructor
  · rintro ⟨distinct, params⟩
    have hUsable :
        ∀ declared ∈ draft.params, ∃ param,
          declared.resolve patterns draft.types draft.keyPolicy =
            .ok param := by
      intro declared hDeclared
      exact (declared.wellFormed_iff _ _ _).mp (params declared hDeclared)
    rcases exists_forall₂_of_forall_mem hUsable with ⟨params, hForall⟩
    have hResolved :=
      resolveParams_of_forall₂ patterns draft.types draft.keyPolicy []
        _ _ hForall distinct fun _ _ => List.not_mem_nil
    exact ⟨_, draft.build_of_resolved patterns params hResolved⟩
  · rintro ⟨schema, hBuild⟩
    rcases draft.forall₂_of_build patterns hBuild with ⟨hForall, hNodup⟩
    refine ⟨hNodup, ?_⟩
    intro declared hDeclared
    rcases exists_of_forall₂_of_mem hForall.flip hDeclared with
      ⟨param, _, hResolve⟩
    exact (declared.wellFormed_iff _ _ _).mpr ⟨param, hResolve⟩

/- A draft that does not build reports its first error. -/
theorem build_eq_error_iff
    (draft : SchemaDraft)
    (error : SchemaError) :
    draft.build patterns = .error error ↔
      (draft.errors patterns).head? = some error := by
  unfold build
  cases draft.errors patterns <;> simp

/-
  Building accepts exactly the well-formed drafts, keeps what
  they declare, and reports the first error of all others.
-/
theorem buildsExactly
    (draft : SchemaDraft) :
    draft.BuildsExactly patterns := by
  constructor
  case accepted => exact (draft.wellFormed_iff patterns).symm
  case kept =>
    intro schema hBuild
    have hForall := (draft.forall₂_of_build patterns hBuild).1
    rw [(draft.build_eq_ok patterns hBuild).2]
    refine ⟨rfl, rfl, rfl, rfl, ?_⟩
    apply hForall.imp
    intro declared param hResolve
    rw [((ParameterDraft.resolve_eq_ok_iff _ _ _ _ _).mp
      hResolve).2.2.2]
    exact ⟨rfl, rfl, rfl, rfl, rfl⟩
  case logged =>
    intro schema hBuild
    unfold build at hBuild
    cases hErrors : draft.errors patterns with
    | nil =>
        unfold events
        rw [hErrors]
        rfl
    | cons first others =>
        rw [hErrors] at hBuild
        cases hBuild
  case refused =>
    intro error hBuild
    have hFirst := (draft.build_eq_error_iff patterns error).mp hBuild
    have hEvents :
        draft.events patterns =
          (draft.errors patterns).map (.schemaRefused draft.name) := by
      unfold events
      split
      · next hNone =>
          rw [hNone] at hFirst
          cases hFirst
      · rfl
    refine ⟨draft.problems patterns, draft.finds_problems patterns, ?_⟩
    rw [flatten_problems]
    refine ⟨hFirst, hEvents, ?_⟩
    intro event hEvent
    rw [hEvents] at hEvent
    rcases List.mem_map.mp hEvent with ⟨e, _, rfl⟩
    rfl

end SchemaDraft

end Intake
