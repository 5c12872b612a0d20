import Intake.Proofs.Running

/-
  This file shows what halting does to the checks of a whole
  schema.  The reasons that are reported are those of the
  checks that fail, in order, up to the first one that fails
  and halts.  So halting only cuts off reasons at the end, and
  never decides whether values are accepted.

  Key definitions include:
    * `GlobalCheck.reason?`
    * `GlobalCheck.stops`
    * `GlobalCheck.unhalting`
    * `GlobalCheck.HaltsInOrder`

  The main statements are:
    * `GlobalCheck.failures_cons`
    * `GlobalCheck.failures_append`
    * `GlobalCheck.failures_append_of_stops`
    * `GlobalCheck.haltsInOrder`
-/

namespace Intake

namespace GlobalCheck

variable (params : Params)

------------------------------------------------------------
-- Single Checks
------------------------------------------------------------

/- The reason that a check has against values, if it fails. -/
def reason?
    (check : GlobalCheck) : Option String :=
  match check.test params with
  | .ok () => none
  | .error reason => some reason

/- A check fails and halts. -/
def stops
    (check : GlobalCheck) : Bool :=
  check.halts && (check.reason? params).isSome

/- The same check without halting. -/
def unhalting
    (check : GlobalCheck) : GlobalCheck :=
  { check with halts := false }

/- A check without halting stops nothing. -/
theorem stops_unhalting
    (check : GlobalCheck) :
    check.unhalting.stops params = false :=
  rfl

------------------------------------------------------------
-- Checks in Order
------------------------------------------------------------

/-
  The reason of the first check comes first, and if the check
  stops, no other reason follows.
-/
theorem failures_cons
    (check : GlobalCheck)
    (rest : List GlobalCheck) :
    failures params (check :: rest) =
      (check.reason? params).toList ++
        if check.stops params then [] else failures params rest := by
  unfold stops reason?
  rw [failures]
  cases check.test params with
  | ok _ => simp
  | error reason => cases check.halts <;> simp

/- Checks that do not stop leave the reasons of the others to follow. -/
theorem failures_append
    {before : List GlobalCheck}
    (hBefore : ∀ other ∈ before, other.stops params = false)
    (rest : List GlobalCheck) :
    failures params (before ++ rest) =
      before.filterMap (reason? params) ++ failures params rest := by
  induction before with
  | nil => rfl
  | cons first before ih =>
      rw [List.forall_mem_cons] at hBefore
      rw [List.cons_append, failures_cons, hBefore.1, ih hBefore.2,
        List.filterMap_cons]
      cases first.reason? params <;> rfl

/- Checks of which none stops have all their reasons reported. -/
theorem failures_eq_filterMap
    {checks : List GlobalCheck}
    (hNone : ∀ check ∈ checks, check.stops params = false) :
    failures params checks = checks.filterMap (reason? params) := by
  have hAll := failures_append params hNone []
  rwa [failures, List.append_nil, List.append_nil] at hAll

/- One check has its own reason reported. -/
theorem failures_singleton
    (check : GlobalCheck) :
    failures params [check] = [check].filterMap (reason? params) := by
  rw [failures_cons, List.filterMap_cons]
  cases check.reason? params <;> simp [failures]

/- Behind a check that stops, nothing matters. -/
theorem failures_append_of_stops
    (before : List GlobalCheck)
    {check : GlobalCheck}
    (hStops : check.stops params = true)
    (after : List GlobalCheck) :
    failures params (before ++ check :: after) =
      failures params (before ++ [check]) := by
  induction before with
  | nil =>
      rw [List.nil_append, List.nil_append, failures_cons,
        failures_cons, hStops]
      rfl
  | cons first before ih =>
      rw [List.cons_append, List.cons_append, failures_cons,
        failures_cons, ih]

/- The reasons are the first ones of those without halting. -/
theorem failures_isPrefix_unhalting
    (checks : List GlobalCheck) :
    failures params checks <+:
      failures params (checks.map unhalting) := by
  induction checks with
  | nil => exact List.prefix_rfl
  | cons check rest ih =>
      rw [List.map_cons, failures_cons, failures_cons,
        stops_unhalting]
      have hReason :
          check.unhalting.reason? params = check.reason? params :=
        rfl
      rw [hReason, List.prefix_append_right_inj]
      split
      · exact List.nil_prefix
      · exact ih

/- Checks with the same tests accept the same values. -/
theorem failures_eq_nil_iff_of_tests
    {checks others : List GlobalCheck}
    (hTests : others.map test = checks.map test) :
    failures params others = [] ↔ failures params checks = [] := by
  have hPasses :
      ∀ list : List GlobalCheck,
        failures params list = [] ↔
          ∀ test ∈ list.map GlobalCheck.test, test params = .ok () := by
    intro list
    rw [failures_eq_nil_iff, List.forall_mem_map]
  rw [hPasses, hPasses, hTests]

/- Values without failures are accepted if no check has a reason. -/
theorem conclude_ofValues
    (checks : List GlobalCheck) :
    (ParamResults.ofValues params).conclude checks =
      if failures params checks = [] then .ok params
      else .error ((failures params checks).map .overall) := by
  unfold ParamResults.conclude
  rw [ParamResults.failures_ofValues, ParamResults.values_ofValues]
  cases failures params checks <;> rfl

/-
  What the checks of a whole schema say about values.  They
  accept the values exactly if each of them passes, and else
  report their reasons: those of the checks that fail, in
  order, up to the first one that stops.  Without halting
  there may be more reasons behind these, but never one where
  there was none before.  What comes after a check that stops
  makes no difference.
-/
structure HaltsInOrder
    (checks : List GlobalCheck) : Prop where
  accepts :
    (ParamResults.ofValues params).conclude checks = .ok params ↔
      ∀ check ∈ checks, check.test params = .ok ()
  refuses :
    ∀ records,
      (ParamResults.ofValues params).conclude checks = .error records ↔
        (∃ check ∈ checks, check.test params ≠ .ok ()) ∧
          records = (failures params checks).map .overall
  unstopped :
    (∀ check ∈ checks, check.stops params = false) →
      failures params checks = checks.filterMap (reason? params)
  stopped :
    ∀ before check after, checks = before ++ check :: after →
      (∀ other ∈ before, other.stops params = false) →
        check.stops params = true →
          failures params checks =
            (before ++ [check]).filterMap (reason? params)
  shortened :
    failures params checks <+: failures params (checks.map unhalting)
  nonempty :
    failures params checks = [] ↔
      failures params (checks.map unhalting) = []
  decided :
    ∀ others : List GlobalCheck,
      others.map GlobalCheck.test = checks.map GlobalCheck.test →
        (failures params others = [] ↔ failures params checks = [])
  replaced :
    ∀ before check after others, checks = before ++ check :: after →
      check.stops params = true →
        failures params (before ++ check :: others) =
          failures params checks

/- The checks of a whole schema halt so, whatever they test. -/
theorem haltsInOrder
    (checks : List GlobalCheck) :
    HaltsInOrder params checks := by
  constructor
  case accepts =>
    rw [ParamResults.conclude_eq_ok_iff]
    exact and_iff_right rfl
  case refuses =>
    intro records
    have hFails :
        failures params checks ≠ [] ↔
          ∃ check ∈ checks, check.test params ≠ .ok () := by
      rw [Ne, failures_eq_nil_iff]
      push Not
      rfl
    rw [conclude_ofValues, ← hFails]
    split
    · next hNone => simp [hNone]
    · next hSome => simp [hSome, eq_comm]
  case unstopped => exact failures_eq_filterMap params
  case stopped =>
    rintro before check after rfl hBefore hStops
    rw [failures_append_of_stops params before hStops,
      failures_append params hBefore, failures_singleton,
      List.filterMap_append]
  case shortened => exact failures_isPrefix_unhalting params checks
  case nonempty =>
    apply failures_eq_nil_iff_of_tests
    rw [List.map_map]
    rfl
  case decided => exact fun _ => failures_eq_nil_iff_of_tests params
  case replaced =>
    rintro before check after others rfl hStops
    rw [failures_append_of_stops params before hStops others,
      failures_append_of_stops params before hStops after]

/- A check that passes does not stop the others, even if it halts. -/
example :
    failures []
        [⟨fun _ => .ok (), true⟩, ⟨fun _ => .error "first", false⟩,
          ⟨fun _ => .error "second", true⟩,
          ⟨fun _ => .error "third", true⟩] =
      ["first", "second"] :=
  rfl

end GlobalCheck

end Intake
