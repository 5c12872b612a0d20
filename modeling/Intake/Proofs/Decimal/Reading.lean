import Intake.Proofs.Coercion
import Intake.Proofs.Decimal
import Intake.Proofs.Decimal.Literals

/-
  This file shows which texts the coercer of decimals takes,
  and for which decimals.

  A text is read character by character.  Digits and one point
  make up a plain literal; separators between them are read
  over.  So the separators are taken out first, and what is
  left is split at its point.

  Key definitions include:
    * `Coercer.ReadsDecimal`

  The main statements are:
    * `Decimal.Progress.step_eq_some_iff`
    * `Decimal.Progress.run_eq_some_iff_filter`
    * `Decimal.Progress.run_digits_iff`
    * `Decimal.read?_eq_some_iff`
    * `Coercer.readsDecimal`
-/

namespace Intake

namespace Decimal

------------------------------------------------------------
-- Steps
------------------------------------------------------------

namespace Progress

/-
  Unless there are 28 fraction digits, a digit is read that
  there is room for, a first point, or a separator after a
  digit.
-/
theorem step_eq_some_iff
    (p q : Progress)
    (c : Char) :
    p.step c = some q ↔
      p.fraction ≠ some 28 ∧
        ((c.isDigit = true ∧
            10 * p.coefficient + (c.toNat - '0'.toNat) < twoTo 96 ∧
            q = ⟨10 * p.coefficient + (c.toNat - '0'.toNat),
              p.fraction.map (· + 1), true⟩) ∨
          (c = '.' ∧ p.fraction = none ∧
            q = { p with fraction := some 0 }) ∨
          (c = '_' ∧ p.started = true ∧ q = p)) := by
  unfold step
  rw [Nat.mul_comm]
  by_cases hFull : p.fraction = some 28
  · simp [hFull]
  · simp only [beq_iff_eq, hFull, if_false, ne_eq, not_false_eq_true,
      true_and]
    by_cases hDigit : c.isDigit = true
    · have hPoint : c ≠ '.' := by
        rintro rfl
        cases hDigit
      have hSeparator : c ≠ '_' := by
        rintro rfl
        cases hDigit
      simp only [hDigit, hPoint, hSeparator, if_true, false_and, or_false,
        true_and]
      split
      · next hFits =>
          rw [Option.some.injEq]
          exact ⟨fun hNext => ⟨hFits, hNext.symm⟩, fun hNext => hNext.2.symm⟩
      · next hFull =>
          constructor
          · intro hNext
            cases hNext
          · rintro ⟨hFits, _⟩
            exact absurd hFits hFull
    · rw [Bool.not_eq_true] at hDigit
      simp only [hDigit, Bool.false_eq_true, if_false, false_and, false_or]
      by_cases hPoint : c = '.'
      · subst hPoint
        cases p.fraction <;> simp [@eq_comm _ q]
      · by_cases hSeparator : c = '_'
        · subst hSeparator
          cases p.started <;> simp [@eq_comm _ q]
        · simp [hPoint, hSeparator]

/- Text is read in parts. -/
theorem run_append
    (p : Progress)
    (first second : List Char) :
    p.run (first ++ second) = (p.run first).bind (·.run second) := by
  induction first generalizing p with
  | nil => rfl
  | cons c rest ih =>
      rw [List.cons_append, run, run]
      cases p.step c with
      | none => rfl
      | some next => exact ih next

theorem run_cons_eq_some_iff
    (p q : Progress)
    (c : Char)
    (rest : List Char) :
    p.run (c :: rest) = some q ↔
      ∃ next, p.step c = some next ∧ next.run rest = some q := by
  rw [run, Option.bind_eq_some_iff]

/- After 28 fraction digits nothing is read. -/
theorem run_eq_some_of_full
    {p q : Progress}
    {text : List Char}
    (hFull : p.fraction = some 28)
    (hRun : p.run text = some q) :
    text = [] := by
  cases text with
  | nil => rfl
  | cons c rest =>
      rcases (run_cons_eq_some_iff p q c rest).mp hRun with
        ⟨next, hStep, _⟩
      exact absurd hFull ((step_eq_some_iff p next c).mp hStep).1

/- A separator is read over after a digit, if there is room. -/
theorem run_separator_iff
    (p q : Progress)
    (rest : List Char) :
    p.run ('_' :: rest) = some q ↔
      p.fraction ≠ some 28 ∧ p.started = true ∧ p.run rest = some q := by
  rw [run_cons_eq_some_iff]
  constructor
  · rintro ⟨next, hStep, hRest⟩
    rcases (step_eq_some_iff p next '_').mp hStep with
      ⟨hRoom, ⟨hDigit, _⟩ | ⟨hPoint, _⟩ | ⟨_, hStarted, rfl⟩⟩
    · cases hDigit
    · cases hPoint
    · exact ⟨hRoom, hStarted, hRest⟩
  · rintro ⟨hRoom, hStarted, hRest⟩
    exact
      ⟨p, (step_eq_some_iff p p '_').mpr
        ⟨hRoom, Or.inr (Or.inr ⟨rfl, hStarted, rfl⟩)⟩, hRest⟩

/- Another character counts as a start if it is a digit. -/
theorem started_of_step
    {p next : Progress}
    {c : Char}
    (hOther : c ≠ '_')
    (hStep : p.step c = some next) :
    next.started = (p.started || c.isDigit) := by
  rcases (step_eq_some_iff p next c).mp hStep with
    ⟨_, ⟨hDigit, _, rfl⟩ | ⟨rfl, _, rfl⟩ | ⟨hSame, _⟩⟩
  · rw [hDigit, Bool.or_true]
  · exact (Bool.or_false _).symm
  · exact absurd hSame hOther

/-
  If all is read, there was room for a separator in front
  exactly if the text with it does not end with a separator
  behind 28 fraction digits.
-/
theorem room_iff_getLast?
    {p q : Progress}
    {rest : List Char}
    (hPlain : p.run (withoutSeparators rest) = some q) :
    (p.fraction ≠ some 28 ∧
        (q.fraction = some 28 → rest.getLast? ≠ some '_')) ↔
      (q.fraction = some 28 → ('_' :: rest).getLast? ≠ some '_') := by
  constructor
  · rintro ⟨hRoom, hLast⟩ hFull
    cases rest with
    | nil =>
        cases hPlain
        exact absurd hFull hRoom
    | cons other rest =>
        rw [List.getLast?_cons_cons]
        exact hLast hFull
  · intro hLast
    constructor
    · -- Only separators could come behind 28 fraction digits.
      intro hFull
      have hOnly := run_eq_some_of_full hFull hPlain
      rw [hOnly] at hPlain
      cases hPlain
      apply hLast hFull
      apply getLast?_of_withoutSeparators_eq_nil _ (List.cons_ne_nil _ _)
      rw [withoutSeparators_cons_separator, hOnly]
    · intro hFull hEnd
      apply hLast hFull
      cases rest with
      | nil => cases hEnd
      | cons other rest =>
          rw [List.getLast?_cons_cons]
          exact hEnd

/-
  Separators are read over, if they come after a digit and not
  after 28 fraction digits.
-/
theorem run_eq_some_iff_filter
    (p q : Progress)
    (text : List Char) :
    p.run text = some q ↔
      p.run (withoutSeparators text) = some q ∧
        SeparatorsAfter p.started text ∧
        (q.fraction = some 28 → text.getLast? ≠ some '_') := by
  induction text generalizing p with
  | nil =>
      simp [withoutSeparators, SeparatorsAfter]
  | cons c rest ih =>
      by_cases hSeparator : c = '_'
      · subst hSeparator
        rw [withoutSeparators_cons_separator, separatorsAfter_cons_separator,
          run_separator_iff, ih]
        constructor
        · rintro ⟨hRoom, hStarted, hPlain, _, hLast⟩
          exact
            ⟨hPlain, hStarted, (room_iff_getLast? hPlain).mp ⟨hRoom, hLast⟩⟩
        · rintro ⟨hPlain, hStarted, hEnd⟩
          rcases (room_iff_getLast? hPlain).mpr hEnd with ⟨hRoom, hLast⟩
          exact
            ⟨hRoom, hStarted, hPlain, fun _ _ _ => Or.inl hStarted, hLast⟩
      · rw [withoutSeparators_cons hSeparator,
          separatorsAfter_cons p.started hSeparator,
          run_cons_eq_some_iff, run_cons_eq_some_iff, Ne,
          getLast?_cons_eq_separator_iff hSeparator]
        constructor
        · rintro ⟨next, hStep, hRest⟩
          rcases (ih next).mp hRest with ⟨hPlain, hAfter, hLast⟩
          rw [started_of_step hSeparator hStep] at hAfter
          exact ⟨⟨next, hStep, hPlain⟩, hAfter, hLast⟩
        · rintro ⟨⟨next, hStep, hPlain⟩, hAfter, hLast⟩
          rw [← started_of_step hSeparator hStep] at hAfter
          exact ⟨next, hStep, (ih next).mpr ⟨hPlain, hAfter, hLast⟩⟩

------------------------------------------------------------
-- Literals Without Separators
------------------------------------------------------------

/-
  Text without separators, and without a point unless there
  was one before, is read if it consists of digits that there
  is room for.
-/
theorem run_digits_iff
    (p q : Progress)
    (text : List Char)
    (hPlain : '_' ∉ text)
    (hPoint : p.fraction = none → '.' ∉ text)
    (hPlaces : ∀ places, p.fraction = some places → places ≤ 28)
    (hFits : p.coefficient < twoTo 96) :
    p.run text = some q ↔
      (∀ c ∈ text, c.isDigit = true) ∧
        (∀ places, p.fraction = some places →
          places + text.length ≤ 28) ∧
        Nat.ofDigitChars 10 text p.coefficient < twoTo 96 ∧
        q =
          ⟨Nat.ofDigitChars 10 text p.coefficient,
            p.fraction.map (· + text.length),
            p.started || !text.isEmpty⟩ := by
  constructor
  · intro hRun
    induction text generalizing p with
    | nil =>
        cases hRun
        refine ⟨fun c hMem => absurd hMem List.not_mem_nil, hPlaces, hFits, ?_⟩
        simp
    | cons c rest ih =>
        rcases (run_cons_eq_some_iff p q c rest).mp hRun with
          ⟨next, hStep, hRest⟩
        rcases (step_eq_some_iff p next c).mp hStep with
          ⟨hRoom, ⟨hDigit, hNext, rfl⟩ | ⟨rfl, hNone, _⟩ | ⟨rfl, _⟩⟩
        · have hLater :=
            ih _ (fun hMem => hPlain (List.mem_cons_of_mem c hMem))
              (fun hNone hMem =>
                hPoint (Option.map_eq_none_iff.mp hNone)
                  (List.mem_cons_of_mem c hMem))
              (by
                intro places hSome
                rcases Option.map_eq_some_iff.mp hSome with
                  ⟨before, hBefore, rfl⟩
                have hLess := hPlaces before hBefore
                have hOther : before ≠ 28 := by
                  rintro rfl
                  exact hRoom hBefore
                omega)
              hNext hRest
          rcases hLater with ⟨hDigits, hLength, hValue, rfl⟩
          rw [← Nat.ofDigitChars_cons] at hValue
          refine ⟨List.forall_mem_cons.mpr ⟨hDigit, hDigits⟩, ?_, hValue, ?_⟩
          · intro places hSome
            have hBelow := hLength (places + 1) (by rw [hSome]; rfl)
            rw [List.length_cons]
            omega
          · simp [Nat.ofDigitChars_cons, Option.map_map, Function.comp_def,
              Nat.add_assoc, Nat.add_comm 1]
        · exact absurd List.mem_cons_self (hPoint hNone)
        · exact absurd List.mem_cons_self hPlain
  · rintro ⟨hDigits, hLength, hValue, rfl⟩
    have hRun := run_digits text [] p hDigits hLength hValue
    rw [List.append_nil] at hRun
    exact hRun

/- The progress before anything is read. -/
def start : Progress :=
  ⟨0, none, false⟩

/- What is read with a digit is digits with at most one point. -/
theorem isUnsigned_of_run
    {q : Progress}
    {body : List Char}
    (hPlain : '_' ∉ body)
    (hRun : start.run body = some q)
    (hStarted : q.started = true) :
    IsUnsigned body q.coefficient (q.fraction.getD 0) := by
  have hNoPlaces : ∀ places, start.fraction = some places → places ≤ 28 := by
    intro places hSome
    cases hSome
  by_cases hPoint : '.' ∈ body
  · rcases List.eq_append_cons_of_mem hPoint with
      ⟨whole, fraction, rfl, hFirst⟩
    rw [List.mem_append, List.mem_cons, not_or, not_or] at hPlain
    rcases hPlain with ⟨hWholePlain, _, hFractionPlain⟩
    rw [run_append, Option.bind_eq_some_iff] at hRun
    rcases hRun with ⟨middle, hWhole, hRest⟩
    rcases (run_digits_iff start middle whole hWholePlain
        (fun _ => hFirst) hNoPlaces (twoTo_pos 96)).mp hWhole with
      ⟨hWholeDigits, _, hWholeValue, rfl⟩
    rcases (run_cons_eq_some_iff _ q '.' fraction).mp hRest with
      ⟨next, hStep, hFraction⟩
    rw [start, Option.map_none, step_point, Option.some.injEq] at hStep
    subst hStep
    rcases (run_digits_iff _ q fraction hFractionPlain
        (fun hNone => absurd hNone (Option.some_ne_none 0))
        (fun places hSome => by cases hSome; exact Nat.zero_le 28)
        hWholeValue).mp hFraction with
      ⟨hFractionDigits, _, _, rfl⟩
    have hWritten :
        Text.IsDigits (whole ++ fraction)
          (Nat.ofDigitChars 10 fraction (Nat.ofDigitChars 10 whole 0)) := by
      refine ⟨?_, ?_, Nat.ofDigitChars_append 0⟩
      · rintro hEmpty
        rcases List.append_eq_nil_iff.mp hEmpty with ⟨rfl, rfl⟩
        cases hStarted
      · intro c hMem
        rcases List.mem_append.mp hMem with hMem | hMem
        · exact hWholeDigits c hMem
        · exact hFractionDigits c hMem
    have hBody := IsUnsigned.pointed hWritten
    simpa using hBody
  · rcases (run_digits_iff start q body hPlain (fun _ => hPoint) hNoPlaces
        (twoTo_pos 96)).mp hRun with
      ⟨hDigits, _, _, rfl⟩
    refine .whole ⟨?_, hDigits, rfl⟩
    rintro rfl
    cases hStarted

/- Digits with at most one point are read, if there is room for them. -/
theorem exists_run_of_isUnsigned
    {body : List Char}
    {n places : Nat}
    (hBody : IsUnsigned body n places)
    (hFits : n < twoTo 96)
    (hPlaces : places ≤ 28) :
    ∃ q, start.run body = some q ∧ q.started = true ∧
      q.coefficient = n ∧ q.fraction.getD 0 = places := by
  cases hBody with
  | whole written =>
      have hRun :=
        run_digits body [] start written.digits
          (fun places hSome => by cases hSome)
          (by rw [start, written.value]; exact hFits)
      rw [List.append_nil] at hRun
      exact
        ⟨_, hRun, by simp [written.nonempty], written.value, rfl⟩
  | @pointed whole fraction n written =>
      have hValue := written.value
      rw [Nat.ofDigitChars_append] at hValue
      have hWholeFits : Nat.ofDigitChars 10 whole 0 < twoTo 96 := by
        have hLess :=
          le_ofDigitChars fraction (Nat.ofDigitChars 10 whole 0)
        omega
      have hWhole :=
        run_digits whole ('.' :: fraction) start
          (fun c hMem => written.digits c (List.mem_append_left _ hMem))
          (fun places hSome => by cases hSome) hWholeFits
      have hFraction :=
        run_digits fraction []
          ⟨Nat.ofDigitChars 10 whole 0, some 0, !whole.isEmpty⟩
          (fun c hMem => written.digits c (List.mem_append_right _ hMem))
          (by
            rintro places ⟨⟩
            omega)
          (by rw [hValue]; exact hFits)
      rw [List.append_nil] at hFraction
      have hRun :
          start.run (whole ++ '.' :: fraction) =
            some ⟨n, some fraction.length,
              !whole.isEmpty || !fraction.isEmpty⟩ := by
        rw [hWhole, start, run, Option.map_none, step_point,
          Option.bind_some, Bool.false_or, hFraction, hValue]
        simp [run]
      refine ⟨_, hRun, ?_, rfl, rfl⟩
      have hSome := written.nonempty
      cases whole with
      | nil => simpa using hSome
      | cons c rest => rfl

end Progress

------------------------------------------------------------
-- Decimals
------------------------------------------------------------

/- A decimal is given by its coefficient and its scale. -/
theorem ofParts?_eq_some_iff
    (coefficient : Int)
    (scale : Nat)
    (d : Decimal) :
    ofParts? coefficient scale = some d ↔
      d.coefficient = coefficient ∧ d.scale = scale := by
  unfold ofParts?
  split
  · constructor
    · rintro ⟨⟩
      exact ⟨rfl, rfl⟩
    · rcases d with ⟨_, _, _, _⟩
      rintro ⟨rfl, rfl⟩
      rfl
  · next hOutside =>
      constructor
      · intro hSome
        cases hSome
      · rintro ⟨rfl, rfl⟩
        exact absurd ⟨d.coefficient_lt, d.scale_le⟩ hOutside

/- The body of a text is read after its sign. -/
theorem read?_eq
    (text : String) :
    read? text =
      (Progress.start.run (Text.splitSign text.toList).2).bind fun p =>
        if p.started then
          ofParts?
            (if (Text.splitSign text.toList).1 then -(p.coefficient : Int)
              else p.coefficient)
            (p.fraction.getD 0)
        else
          none :=
  rfl

/- What is read as a decimal spells it. -/
theorem spelledBy_of_read?
    {text : String}
    {d : Decimal}
    (hRead : read? text = some d) :
    d.SpelledBy text.toList := by
  rw [read?_eq] at hRead
  rcases Option.bind_eq_some_iff.mp hRead with ⟨p, hRun, hParts⟩
  rcases Text.exists_sign text.toList with
    ⟨sign, factor, hSign, hText, hValue⟩
  rcases withoutSeparators_sign_append hSign
      (Text.splitSign text.toList).2 with
    ⟨hWithout, hAfterIff, hLastIff⟩
  rw [← hText] at hWithout hAfterIff hLastIff
  split at hParts
  · next hStarted =>
      rw [hValue, ofParts?_eq_some_iff] at hParts
      rcases hParts with ⟨hCoefficient, hScale⟩
      rcases (Progress.run_eq_some_iff_filter _ p _).mp hRun with
        ⟨hPlain, hAfter, hLast⟩
      refine ⟨?_, hAfterIff.mpr hAfter, ?_⟩
      · rw [hWithout, hCoefficient, hScale]
        exact
          ⟨sign, factor, _, p.coefficient, rfl, hSign,
            Progress.isUnsigned_of_run (not_mem_withoutSeparators _) hPlain
              hStarted,
            rfl⟩
      · intro hFull
        rw [Ne, hLastIff]
        apply hLast
        rw [hScale] at hFull
        cases hFraction : p.fraction with
        | none =>
            rw [hFraction] at hFull
            cases hFull
        | some places =>
            rw [hFraction] at hFull
            exact congrArg some hFull
  · cases hParts

/- A text that spells a decimal is read as it. -/
theorem SpelledBy.read?_eq
    {text : String}
    {d : Decimal}
    (hSpelled : d.SpelledBy text.toList) :
    read? text = some d := by
  rcases hSpelled with
    ⟨⟨sign, factor, body, n, hPlain, hSign, hBody, hCoefficient⟩, hAfter,
      hRoom⟩
  rcases exists_eq_sign_append hSign hAfter hPlain with
    ⟨rest, hText, hRest⟩
  rw [Decimal.read?_eq]
  rw [hText] at hAfter hRoom ⊢
  rcases withoutSeparators_sign_append hSign rest with
    ⟨_, hAfterIff, hLastIff⟩
  rw [hAfterIff] at hAfter
  rw [Ne, hLastIff] at hRoom
  have hHead : ∀ c, rest.head? = some c → ¬ Text.IsSignChar c := by
    rw [← head?_withoutSeparators hAfter, hRest]
    exact hBody.not_isSignChar
  rcases Text.splitSign_append hSign hHead with ⟨hBehind, hValue⟩
  have hFits : n < twoTo 96 := by
    have hBound := d.coefficient_lt
    rw [hCoefficient] at hBound
    cases hSign <;> simpa using hBound
  rcases Progress.exists_run_of_isUnsigned hBody hFits d.scale_le with
    ⟨q, hRun, hStarted, hNumber, hScale⟩
  rw [← hRest] at hRun
  have hSeparated :=
    (Progress.run_eq_some_iff_filter Progress.start q rest).mpr
      ⟨hRun, hAfter, by
        intro hFull
        apply hRoom
        rw [← hScale, hFull]
        rfl⟩
  rw [hBehind, hSeparated, Option.bind_some, if_pos hStarted, hValue,
    ofParts?_eq_some_iff, hNumber, hScale]
  exact ⟨hCoefficient, rfl⟩

/- Exactly the texts that spell a decimal are read as it. -/
theorem read?_eq_some_iff
    (text : String)
    (d : Decimal) :
    read? text = some d ↔ d.SpelledBy text.toList :=
  ⟨spelledBy_of_read?, SpelledBy.read?_eq⟩

end Decimal

------------------------------------------------------------
-- The Coercer of Decimals
------------------------------------------------------------

namespace Coercer

/-
  How the coercer of decimals reads a text.  It takes exactly
  the texts that spell a decimal, and gives this decimal.  Of
  the texts without separators these are the plain literals
  whose coefficient has 96 bits and that have 28 fraction
  digits at most.  A text with separators is taken as well if
  it spells a decimal, although it is no literal.
-/
structure ReadsDecimal
    (s : String) : Prop where
  accepts :
    ∀ v, decimal (.string s) = .ok v ↔
      ∃ d : Decimal, v = .decimal d ∧ d.SpelledBy s.toList
  refuses :
    ∀ reason, decimal (.string s) = .error reason ↔
      reason = "not a decimal" ∧ ¬ ∃ d : Decimal, d.SpelledBy s.toList
  plain :
    '_' ∉ s.toList →
      ∀ v, decimal (.string s) = .ok v ↔
        ∃ d : Decimal, v = .decimal d ∧
          Decimal.IsLiteral s.toList d.coefficient d.scale
  bounded :
    '_' ∉ s.toList →
      ((∃ v, decimal (.string s) = .ok v) ↔
        ∃ coefficient places,
          Decimal.IsLiteral s.toList coefficient places ∧
            places ≤ 28 ∧ coefficient.natAbs < twoTo 96)
  separated :
    '_' ∈ s.toList →
      ∀ coefficient places,
        ¬ Decimal.IsLiteral s.toList coefficient places

/- Decimals are read so from all texts. -/
theorem readsDecimal
    (s : String) :
    ReadsDecimal s := by
  have hAccepts :
      ∀ v, decimal (.string s) = .ok v ↔
        ∃ d : Decimal, v = .decimal d ∧ d.SpelledBy s.toList := by
    intro v
    simp only [decimal, orReason_eq_ok_iff, Option.map_eq_some_iff,
      Decimal.read?_eq_some_iff, and_comm, @eq_comm _ v]
  constructor
  case accepts => exact hAccepts
  case refuses =>
    intro reason
    have hReason :
        ∀ other, decimal (.string s) = .error other →
          other = "not a decimal" :=
      fun _ hError => reason_of_orReason hError
    rw [eq_error_iff_of_reason hReason]
    simp only [hAccepts, exists_comm (α := Value), exists_eq_left]
  case plain =>
    intro hNone v
    simp only [hAccepts, Decimal.spelledBy_iff_isLiteral hNone]
  case bounded =>
    intro hNone
    simp only [hAccepts, Decimal.spelledBy_iff_isLiteral hNone]
    constructor
    · rintro ⟨_, d, rfl, hLiteral⟩
      exact
        ⟨d.coefficient, d.scale, hLiteral, d.scale_le, d.coefficient_lt⟩
    · rintro ⟨coefficient, places, hLiteral, hPlaces, hFits⟩
      exact ⟨_, ⟨coefficient, places, hFits, hPlaces⟩, rfl, hLiteral⟩
  case separated =>
    intro hSeparator coefficient places hLiteral
    exact hLiteral.not_mem hSeparator

/-
  A separator is read over in a decimal, although the text is
  no literal and the other numbers do not have separators.
-/
theorem separator_accepted :
    (∃ d : Decimal,
        d.coefficient = 1000 ∧ d.scale = 0 ∧
          decimal (.string "1_000") = .ok (.decimal d)) ∧
      (∀ coefficient places,
        ¬ Decimal.IsLiteral "1_000".toList coefficient places) ∧
      integer (.string "1_000") = .error "not an integer" ∧
      float (.string "1_000") = .error "not a float" := by
  refine ⟨⟨⟨1000, 0, by decide, by decide⟩, rfl, rfl, ?_⟩, ?_, ?_, ?_⟩
  · rfl
  · intro coefficient places hLiteral
    exact hLiteral.not_mem (by decide +kernel)
  · rfl
  · rfl

end Coercer

end Intake

