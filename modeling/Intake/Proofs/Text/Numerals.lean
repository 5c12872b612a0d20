import Intake.Proofs.Text.Digits

/-
  This file says which texts are read as whole numbers: those
  of a sign, if any, and one digit or more.

  Key definitions include:
    * `Text.Sign`
    * `Text.IsDigits`
    * `Text.IsNumeral`

  The main statements are:
    * `Text.readDigits?_eq_some_iff`
    * `Text.readInteger?_eq_some_iff`
    * `Text.IsDigits.padDigits_eq`
    * `Text.isNumeral_toString`
-/

namespace Intake

namespace Text

------------------------------------------------------------
-- Numerals
------------------------------------------------------------

/- A sign in front of digits, or none, and the factor it stands for. -/
inductive Sign : List Char → Int → Prop where
  | none : Sign [] 1
  | plus : Sign ['+'] 1
  | minus : Sign ['-'] (-1)

/- A text is one ASCII digit or more, and writes a number. -/
structure IsDigits
    (text : List Char)
    (n : Nat) : Prop where
  nonempty : text ≠ []
  digits : ∀ c ∈ text, c.isDigit = true
  value : Nat.ofDigitChars 10 text 0 = n

/- A text is a sign, if any, and digits, and writes an integer. -/
def IsNumeral
    (text : List Char)
    (k : Int) : Prop :=
  ∃ sign factor digits n,
    text = sign ++ digits ∧ Sign sign factor ∧ IsDigits digits n ∧
      k = factor * n

------------------------------------------------------------
-- Signs
------------------------------------------------------------

/- What is split off a text is its sign. -/
theorem exists_sign
    (text : List Char) :
    ∃ sign factor, Sign sign factor ∧
      text = sign ++ (splitSign text).2 ∧
      ∀ n : Int,
        (if (splitSign text).1 then -n else n) = factor * n := by
  unfold splitSign
  split
  · exact ⟨['-'], -1, .minus, rfl, fun n => (Int.neg_one_mul n).symm⟩
  · exact ⟨['+'], 1, .plus, rfl, fun n => (Int.one_mul n).symm⟩
  · exact ⟨[], 1, .none, rfl, fun n => (Int.one_mul n).symm⟩

/- A character that is a sign in front of a number. -/
def IsSignChar
    (c : Char) : Prop :=
  c = '-' ∨ c = '+'

/- A sign is split off a text that goes on without another one. -/
theorem splitSign_append
    {sign : List Char}
    {factor : Int}
    {rest : List Char}
    (hSign : Sign sign factor)
    (hRest : ∀ c, rest.head? = some c → ¬ IsSignChar c) :
    (splitSign (sign ++ rest)).2 = rest ∧
      ∀ n : Int,
        (if (splitSign (sign ++ rest)).1 then -n else n) =
          factor * n := by
  cases hSign with
  | plus => exact ⟨rfl, fun n => (Int.one_mul n).symm⟩
  | minus => exact ⟨rfl, fun n => (Int.neg_one_mul n).symm⟩
  | none =>
      have hSplit : splitSign rest = (false, rest) := by
        unfold splitSign
        split
        · exact absurd (Or.inl rfl) (hRest '-' rfl)
        · exact absurd (Or.inr rfl) (hRest '+' rfl)
        · rfl
      rw [List.nil_append, hSplit]
      exact ⟨rfl, fun n => (Int.one_mul n).symm⟩

/- A digit is no sign. -/
theorem not_isSignChar_of_isDigit
    {c : Char}
    (hDigit : c.isDigit = true) :
    ¬ IsSignChar c := by
  rintro (rfl | rfl) <;> cases hDigit

------------------------------------------------------------
-- Whole Numbers
------------------------------------------------------------

/- Digits are read as the number that they write. -/
theorem readDigits?_eq_some_iff
    (text : List Char)
    (n : Nat) :
    readDigits? text = some n ↔ IsDigits text n := by
  unfold readDigits?
  split
  · next hRefused =>
      simp only [Bool.or_eq_true, List.isEmpty_iff, Bool.not_eq_true',
        List.all_eq_false] at hRefused
      constructor
      · intro hRead
        cases hRead
      · intro hText
        rcases hRefused with hEmpty | ⟨c, hMem, hOther⟩
        · exact absurd hEmpty hText.nonempty
        · exact absurd (hText.digits c hMem) hOther
  · next hAccepted =>
      simp only [Bool.or_eq_true, List.isEmpty_iff, Bool.not_eq_true',
        List.all_eq_false, not_or, not_exists, not_and, not_not]
        at hAccepted
      rw [Option.some.injEq, digitsValue_eq_ofDigitChars]
      exact
        ⟨fun hValue => ⟨hAccepted.1, hAccepted.2, hValue⟩,
          fun hText => hText.value⟩

/- A number that is read in digits begins with a digit. -/
theorem IsDigits.not_isSignChar
    {text : List Char}
    {n : Nat}
    (hText : IsDigits text n)
    (c : Char)
    (hHead : text.head? = some c) :
    ¬ IsSignChar c :=
  not_isSignChar_of_isDigit (hText.digits c (List.mem_of_head? hHead))

/- An integer is read from the digits behind its sign. -/
theorem readInteger?_eq
    (text : String) :
    readInteger? text =
      (readDigits? (splitSign text.toList).2).map fun n : Nat =>
        if (splitSign text.toList).1 then -(n : Int) else n := by
  unfold readInteger?
  rcases splitSign text.toList with ⟨negative, digits⟩
  show Option.map _ (readDigits? digits >>= fun n => pure (n : Int)) = _
  cases readDigits? digits <;> rfl

/- Exactly the numerals are read as integers. -/
theorem readInteger?_eq_some_iff
    (text : String)
    (k : Int) :
    readInteger? text = some k ↔ IsNumeral text.toList k := by
  simp only [readInteger?_eq, Option.map_eq_some_iff,
    readDigits?_eq_some_iff]
  constructor
  · rintro ⟨n, hDigits, rfl⟩
    rcases exists_sign text.toList with ⟨sign, factor, hSign, hText, hValue⟩
    exact ⟨sign, factor, _, n, hText, hSign, hDigits, hValue n⟩
  · rintro ⟨sign, factor, digits, n, hText, hSign, hDigits, rfl⟩
    rcases splitSign_append hSign hDigits.not_isSignChar with
      ⟨hRest, hValue⟩
    rw [hText]
    exact ⟨n, by rw [hRest]; exact hDigits, hValue n⟩

/- A numeral that does not begin with a sign is digits only. -/
theorem IsNumeral.isDigits
    {text : List Char}
    {k : Int}
    (hText : IsNumeral text k)
    (hHead : ∀ c, text.head? = some c → ¬ IsSignChar c) :
    ∃ n : Nat, IsDigits text n ∧ k = n := by
  rcases hText with ⟨sign, factor, digits, n, rfl, hSign, hDigits, rfl⟩
  cases hSign with
  | none => exact ⟨n, hDigits, Int.one_mul n⟩
  | plus => exact absurd (Or.inr rfl) (hHead '+' rfl)
  | minus => exact absurd (Or.inl rfl) (hHead '-' rfl)

------------------------------------------------------------
-- Digits of Numbers
------------------------------------------------------------

/- As many digits write different numbers. -/
theorem eq_of_digitsValue_eq
    {first second : List Char}
    (hFirst : ∀ c ∈ first, c.isDigit = true)
    (hSecond : ∀ c ∈ second, c.isDigit = true)
    (hLength : first.length = second.length)
    (hValue : digitsValue first = digitsValue second) :
    first = second := by
  induction first using List.reverseRecOn generalizing second with
  | nil => exact (List.eq_nil_of_length_eq_zero hLength.symm).symm
  | append_singleton digits c ih =>
      rcases List.eq_nil_or_concat second with rfl | ⟨others, x, rfl⟩
      · simp at hLength
      · rw [List.concat_eq_append] at hSecond hLength hValue ⊢
        have hDigit := Char.isDigit_iff_toNat.mp (hFirst c (by simp))
        have hOther := Char.isDigit_iff_toNat.mp (hSecond x (by simp))
        have hZero : '0'.toNat = 48 := rfl
        have hNine : '9'.toNat = 57 := rfl
        rw [digitsValue_append_singleton, digitsValue_append_singleton]
          at hValue
        have hLast : c = x := by
          apply Char.toNat_inj.mp
          omega
        have hFront : digits = others := by
          refine ih ?_ ?_ ?_ ?_
          · exact fun y hMem => hFirst y (List.mem_append_left _ hMem)
          · exact fun y hMem => hSecond y (List.mem_append_left _ hMem)
          · simpa using hLength
          · omega
        rw [hLast, hFront]

/- Digits are the digits of their number, padded to their length. -/
theorem IsDigits.padDigits_eq
    {digits : List Char}
    {n : Nat}
    (hDigits : IsDigits digits n) :
    padDigits digits.length n = digits := by
  have hValue : digitsValue digits = n := hDigits.value
  have hFits := digitsValue_lt digits hDigits.digits
  have hSome := List.length_pos_iff.mpr hDigits.nonempty
  rw [hValue] at hFits
  apply eq_of_digitsValue_eq (fun c => isDigit_of_mem_padDigits)
    hDigits.digits (length_padDigits hSome hFits)
  rw [digitsValue_padDigits, hValue]

/- The padded digits of a number write it. -/
theorem isDigits_padDigits
    (width n : Nat) :
    IsDigits (padDigits width n) n := by
  refine ⟨?_, fun c => isDigit_of_mem_padDigits,
    digitsValue_padDigits width n⟩
  rcases exists_cons_padDigits width n with ⟨c, rest, hCons, _⟩
  rw [hCons]
  exact List.cons_ne_nil c rest

/- The digits of a number write it. -/
theorem isDigits_toDigits
    (n : Nat) :
    IsDigits (Nat.toDigits 10 n) n :=
  ⟨Nat.toDigits_ne_nil, fun _ => isDigit_of_mem_toDigits,
    Nat.ofDigitChars_ten_toDigits⟩

/- The usual text of an integer is a numeral of it. -/
theorem isNumeral_toString
    (k : Int) :
    IsNumeral (toString k).toList k := by
  rw [Int.toString_eq_repr, Int.repr_eq_if]
  split
  · next hPositive =>
      refine
        ⟨[], 1, Nat.toDigits 10 k.toNat, k.toNat, ?_, .none,
          isDigits_toDigits _, ?_⟩
      · simp
      · omega
  · next hNegative =>
      refine
        ⟨['-'], -1, Nat.toDigits 10 (-k).toNat, (-k).toNat, ?_, .minus,
          isDigits_toDigits _, ?_⟩
      · simp
      · omega

end Text

end Intake
