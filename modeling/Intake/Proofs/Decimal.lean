import Intake.Decimal
import Intake.Proofs.Text.Digits

/-
  This file shows that every decimal can be read back from
  its text, with its scale.

  The digits before the point and those after it are read by
  the same steps; a step that reads a digit only counts it if
  it comes after the point.

  The main statements are:
    * `Decimal.Progress.run_digits`
    * `Decimal.read?_write`
-/

namespace Intake

/- Text that starts with a digit has no sign. -/
theorem Text.splitSign_of_isDigit
    {c : Char}
    (rest : List Char)
    (hDigit : c.isDigit = true) :
    splitSign (c :: rest) = (false, c :: rest) := by
  unfold splitSign
  split
  · next h =>
      cases h
      cases hDigit
  · next h =>
      cases h
      cases hDigit
  · rfl

namespace Decimal

------------------------------------------------------------
-- Reading Digits
------------------------------------------------------------

namespace Progress

/- A digit is read if there is room for it. -/
theorem step_digit
    (p : Progress)
    {c : Char}
    (hDigit : c.isDigit = true)
    (hRoom : p.fraction ≠ some 28)
    (hFits :
      p.coefficient * 10 + (c.toNat - '0'.toNat) < twoTo 96) :
    p.step c =
      some
        ⟨p.coefficient * 10 + (c.toNat - '0'.toNat),
          p.fraction.map (· + 1), true⟩ := by
  simp only [step, beq_iff_eq, hRoom, hDigit, hFits, if_true,
    if_false]

/- Digits do not make a number smaller. -/
theorem le_ofDigitChars
    (digits : List Char)
    (n : Nat) :
    n ≤ Nat.ofDigitChars 10 digits n := by
  induction digits generalizing n with
  | nil => exact Nat.le_refl n
  | cons c rest ih =>
      rw [Nat.ofDigitChars_cons]
      have hRest := ih (10 * n + (c.toNat - '0'.toNat))
      omega

/-
  Digits are read one after the other if the number that they
  end in fits, and if there is room for those after a point.
-/
theorem run_digits
    (digits rest : List Char)
    (p : Progress)
    (hDigits : ∀ c ∈ digits, c.isDigit = true)
    (hRoom :
      ∀ places, p.fraction = some places →
        places + digits.length ≤ 28)
    (hFits :
      Nat.ofDigitChars 10 digits p.coefficient < twoTo 96) :
    p.run (digits ++ rest) =
      run
        ⟨Nat.ofDigitChars 10 digits p.coefficient,
          p.fraction.map (· + digits.length),
          p.started || !digits.isEmpty⟩
        rest := by
  induction digits generalizing p with
  | nil =>
      rcases p with ⟨coefficient, fraction, started⟩
      simp
  | cons c digits ih =>
      have hOpen : p.fraction ≠ some 28 := by
        intro hFull
        have hLess := hRoom 28 hFull
        simp only [List.length_cons] at hLess
        omega
      rw [Nat.ofDigitChars_cons] at hFits ⊢
      rw [Nat.mul_comm 10] at hFits ⊢
      have hStep :=
        p.step_digit (hDigits c (by simp)) hOpen
          (Nat.lt_of_le_of_lt (le_ofDigitChars digits _) hFits)
      rw [List.cons_append, run, hStep, Option.bind_some, ih]
      · simp [Option.map_map, Function.comp_def, Nat.add_assoc,
          Nat.add_comm 1]
      · exact fun other hOther => hDigits other (by simp [hOther])
      · intro places hPlaces
        rcases Option.map_eq_some_iff.mp hPlaces with
          ⟨before, hBefore, rfl⟩
        have hLess := hRoom before hBefore
        simp only [List.length_cons] at hLess
        omega
      · exact hFits

/- A first point starts the fraction digits. -/
theorem step_point
    (coefficient : Nat)
    (started : Bool) :
    step ⟨coefficient, none, started⟩ '.' =
      some ⟨coefficient, some 0, started⟩ :=
  rfl

end Progress

------------------------------------------------------------
-- Reading Back
------------------------------------------------------------

/- The digits of a decimal before and after the point. -/
def digits
    (d : Decimal) : List Char :=
  Text.padDigits (d.scale + 1) d.coefficient.natAbs

/- The digits before the point. -/
def wholeDigits
    (d : Decimal) : List Char :=
  d.digits.take (d.digits.length - d.scale)

/- The digits after the point. -/
def fractionDigits
    (d : Decimal) : List Char :=
  d.digits.drop (d.digits.length - d.scale)

/- The text of a decimal without its sign. -/
def body
    (d : Decimal) : List Char :=
  d.wholeDigits ++
    if d.fractionDigits.isEmpty then [] else '.' :: d.fractionDigits

/- The text of a decimal is its sign and its digits. -/
theorem toList_write
    (d : Decimal) :
    d.write.toList =
      (if d.coefficient < 0 then ['-'] else []) ++ d.body := by
  unfold write body
  rw [String.toList_ofList, List.append_assoc]
  rfl

theorem isDigit_of_mem_digits
    (d : Decimal)
    {c : Char}
    (hMem : c ∈ d.digits) :
    c.isDigit = true :=
  Text.isDigit_of_mem_padDigits hMem

/- There is a digit for each place of the scale, and one more. -/
theorem scale_lt_length_digits
    (d : Decimal) :
    d.scale < d.digits.length := by
  simp only [digits, Text.padDigits, List.length_append,
    List.length_replicate]
  omega

/- There is a digit before the point. -/
theorem wholeDigits_ne_nil
    (d : Decimal) :
    d.wholeDigits ≠ [] := by
  have hLength := d.scale_lt_length_digits
  apply List.ne_nil_of_length_pos
  rw [wholeDigits, List.length_take]
  omega

/- There are as many digits after the point as the scale says. -/
theorem length_fractionDigits
    (d : Decimal) :
    d.fractionDigits.length = d.scale := by
  have hLength := d.scale_lt_length_digits
  rw [fractionDigits, List.length_drop]
  omega

/- The digits around the point write the coefficient. -/
theorem ofDigitChars_fractionDigits
    (d : Decimal) :
    Nat.ofDigitChars 10 d.fractionDigits
        (Nat.ofDigitChars 10 d.wholeDigits 0) =
      d.coefficient.natAbs := by
  rw [← Nat.ofDigitChars_append, wholeDigits, fractionDigits,
    List.take_append_drop]
  exact Text.digitsValue_padDigits _ _

/- The text without its sign is read in full. -/
theorem run_body
    (d : Decimal) :
    Progress.run ⟨0, none, false⟩ d.body =
      some
        ⟨d.coefficient.natAbs,
          if d.scale = 0 then none else some d.scale, true⟩ := by
  have hWhole : d.wholeDigits.isEmpty = false := by
    simp [d.wholeDigits_ne_nil]
  have hFraction := d.length_fractionDigits
  have hValue := d.ofDigitChars_fractionDigits
  have hFits :
      Nat.ofDigitChars 10 d.wholeDigits 0 < twoTo 96 := by
    have hLess :=
      Progress.le_ofDigitChars d.fractionDigits
        (Nat.ofDigitChars 10 d.wholeDigits 0)
    have hBound := d.coefficient_lt
    omega
  rw [body, Progress.run_digits _ _ _ _ (by simp) hFits]
  · by_cases hScale : d.scale = 0
    · rw [hScale] at hFraction
      rw [List.eq_nil_of_length_eq_zero hFraction] at hValue ⊢
      simp only [Nat.ofDigitChars_nil] at hValue
      simp [Progress.run, hValue, hWhole, hScale]
    · have hSome : d.fractionDigits ≠ [] := by
        intro hNone
        rw [hNone] at hFraction
        exact hScale hFraction.symm
      have hRun :=
        Progress.run_digits d.fractionDigits []
          ⟨Nat.ofDigitChars 10 d.wholeDigits 0, some 0, true⟩
          (fun c hMem =>
            d.isDigit_of_mem_digits (List.mem_of_mem_drop hMem))
          (by
            rintro places ⟨⟩
            have hScaleLe := d.scale_le
            omega)
          (by
            rw [hValue]
            exact d.coefficient_lt)
      rw [List.append_nil, hValue, hFraction] at hRun
      simp [Progress.run, Progress.step_point, hWhole, hSome, hScale,
        hRun]
  · intro c hMem
    exact d.isDigit_of_mem_digits (List.mem_of_mem_take hMem)

/- A decimal is read back from its text. -/
theorem read?_write
    (d : Decimal) :
    read? d.write = some d := by
  have hSplit :
      Text.splitSign d.write.toList =
        (decide (d.coefficient < 0), d.body) := by
    rw [d.toList_write]
    by_cases hNegative : d.coefficient < 0
    · simp [hNegative, Text.splitSign]
    · rcases List.exists_cons_of_ne_nil d.wholeDigits_ne_nil with
        ⟨c, rest, hDigits⟩
      have hDigit : c.isDigit = true := by
        apply d.isDigit_of_mem_digits
        apply List.mem_of_mem_take
        rw [← wholeDigits, hDigits]
        exact List.mem_cons_self
      simp [hNegative, body, hDigits,
        Text.splitSign_of_isDigit _ hDigit]
  have hSigned :
      (if decide (d.coefficient < 0) = true then
          -(d.coefficient.natAbs : Int)
        else d.coefficient.natAbs) = d.coefficient := by
    simp only [decide_eq_true_eq]
    split <;> omega
  have hScale :
      (if d.scale = 0 then none else some d.scale).getD 0 =
        d.scale := by
    by_cases hZero : d.scale = 0 <;> simp [hZero]
  unfold read?
  simp only [hSplit, d.run_body, hSigned, hScale, Option.bind_eq_bind,
    Option.bind_some, if_true]
  simp [ofParts?, d.coefficient_lt, d.scale_le]

end Decimal

end Intake
