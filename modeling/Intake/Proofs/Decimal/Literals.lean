import Intake.Decimal
import Intake.Proofs.Text.Numerals

/-
  This file defines the plain literals of decimals, and the
  texts that spell a decimal because separators are read over
  in them.

  Key definitions include:
    * `Decimal.IsUnsigned`
    * `Decimal.IsLiteral`
    * `Decimal.SeparatorsAfter`
    * `Decimal.SpelledBy`

  The main statements are:
    * `Decimal.IsLiteral.not_mem`
    * `Decimal.spelledBy_iff_isLiteral`
    * `Decimal.exists_eq_sign_append`
-/

namespace Intake

namespace Decimal

------------------------------------------------------------
-- Literals
------------------------------------------------------------

/-
  A text is digits with one point before, between or after
  them, or without one: the number that the digits write, and
  how many of them come after the point.
-/
inductive IsUnsigned : List Char → Nat → Nat → Prop where
  | whole
      {digits : List Char}
      {n : Nat}
      (written : Text.IsDigits digits n) :
      IsUnsigned digits n 0
  | pointed
      {whole fraction : List Char}
      {n : Nat}
      (written : Text.IsDigits (whole ++ fraction) n) :
      IsUnsigned (whole ++ '.' :: fraction) n fraction.length

/-
  A text is a plain literal with a coefficient and a number
  of fraction digits: a sign, if any, and digits with at most
  one point.
-/
def IsLiteral
    (text : List Char)
    (coefficient : Int)
    (places : Nat) : Prop :=
  ∃ sign factor body n,
    text = sign ++ body ∧ Text.Sign sign factor ∧
      IsUnsigned body n places ∧ coefficient = factor * n

/- The character that may stand between digits. -/
def isSeparator
    (c : Char) : Bool :=
  c == '_'

/- The text without its separators. -/
def withoutSeparators
    (text : List Char) : List Char :=
  text.filter (!isSeparator ·)

/-
  Every separator of a text comes after a digit, be it in the
  text or before it.
-/
def SeparatorsAfter
    (started : Bool)
    (text : List Char) : Prop :=
  ∀ before after, text = before ++ '_' :: after →
    started = true ∨ ∃ c ∈ before, c.isDigit = true

/-
  A text spells a decimal: without its separators it is a
  literal of the coefficient and the scale, every separator
  comes after a digit, and none after the last digit that
  there is room for.
-/
structure SpelledBy
    (d : Decimal)
    (text : List Char) : Prop where
  literal : IsLiteral (withoutSeparators text) d.coefficient d.scale
  separators : SeparatorsAfter false text
  room : d.scale = 28 → text.getLast? ≠ some '_'

------------------------------------------------------------
-- Separators
------------------------------------------------------------

theorem withoutSeparators_cons
    {c : Char}
    (hOther : c ≠ '_')
    (rest : List Char) :
    withoutSeparators (c :: rest) = c :: withoutSeparators rest := by
  simp [withoutSeparators, isSeparator, hOther]

theorem withoutSeparators_cons_separator
    (rest : List Char) :
    withoutSeparators ('_' :: rest) = withoutSeparators rest := by
  simp [withoutSeparators, isSeparator]

/- A text without separators stays as it is. -/
theorem withoutSeparators_eq_self
    {text : List Char}
    (hNone : '_' ∉ text) :
    withoutSeparators text = text := by
  unfold withoutSeparators isSeparator
  rw [List.filter_eq_self]
  intro c hMem
  have hOther : c ≠ '_' := fun hSame => hNone (hSame ▸ hMem)
  simpa using hOther

/- A separator in front needs a digit before the text. -/
theorem separatorsAfter_cons_separator
    (started : Bool)
    (rest : List Char) :
    SeparatorsAfter started ('_' :: rest) ↔ started = true := by
  constructor
  · intro hAfter
    rcases hAfter [] rest rfl with hStarted | ⟨c, hMem, _⟩
    · exact hStarted
    · cases hMem
  · intro hStarted before after _
    exact Or.inl hStarted

/- Another character in front counts if it is a digit. -/
theorem separatorsAfter_cons
    (started : Bool)
    {c : Char}
    (hOther : c ≠ '_')
    (rest : List Char) :
    SeparatorsAfter started (c :: rest) ↔
      SeparatorsAfter (started || c.isDigit) rest := by
  constructor
  · rintro hAfter before after rfl
    rcases hAfter (c :: before) after rfl with hStarted | ⟨x, hMem, hDigit⟩
    · exact Or.inl (by rw [hStarted, Bool.true_or])
    · rcases List.mem_cons.mp hMem with rfl | hMem
      · exact Or.inl (by rw [hDigit, Bool.or_true])
      · exact Or.inr ⟨x, hMem, hDigit⟩
  · intro hAfter before after hSplit
    cases before with
    | nil => exact absurd (List.cons.inj hSplit).1 hOther
    | cons first before =>
        rcases List.cons.inj hSplit with ⟨rfl, rfl⟩
        rcases hAfter before after rfl with hStarted | ⟨x, hMem, hDigit⟩
        · rcases Bool.or_eq_true_iff.mp hStarted with hBefore | hDigit
          · exact Or.inl hBefore
          · exact Or.inr ⟨c, List.mem_cons_self, hDigit⟩
        · exact Or.inr ⟨x, List.mem_cons_of_mem c hMem, hDigit⟩

/- Another character in front does not make the end a separator. -/
theorem getLast?_cons_eq_separator_iff
    {c : Char}
    (hOther : c ≠ '_')
    (rest : List Char) :
    (c :: rest).getLast? = some '_' ↔ rest.getLast? = some '_' := by
  cases rest with
  | nil => simp [hOther]
  | cons next rest => simp [List.getLast?_cons_cons]

/- A text of separators only has one at its end. -/
theorem getLast?_of_withoutSeparators_eq_nil
    {text : List Char}
    (hOnly : withoutSeparators text = [])
    (hSome : text ≠ []) :
    text.getLast? = some '_' := by
  have hLast := List.getLast_mem hSome
  unfold withoutSeparators at hOnly
  rw [List.filter_eq_nil_iff] at hOnly
  have hSeparator := hOnly _ hLast
  rw [List.getLast?_eq_some_getLast hSome, Option.some.injEq]
  simpa [isSeparator] using hSeparator

/- A text without its separators has none. -/
theorem not_mem_withoutSeparators
    (text : List Char) :
    '_' ∉ withoutSeparators text := by
  simp [withoutSeparators, isSeparator]

/- A literal has no separators. -/
theorem IsLiteral.not_mem
    {text : List Char}
    {coefficient : Int}
    {places : Nat}
    (hLiteral : IsLiteral text coefficient places) :
    '_' ∉ text := by
  rcases hLiteral with ⟨sign, factor, body, n, rfl, hSign, hBody, _⟩
  have hNoDigit : ∀ digits : List Char,
      (∀ c ∈ digits, c.isDigit = true) → '_' ∉ digits := by
    intro digits hDigits hMem
    cases hDigits '_' hMem
  rw [List.mem_append, not_or]
  constructor
  · cases hSign <;> decide
  · cases hBody with
    | whole written => exact hNoDigit body written.digits
    | @pointed whole fraction n written =>
        rw [List.mem_append, List.mem_cons]
        rintro (hMem | hSame | hMem)
        · exact hNoDigit _ written.digits (List.mem_append_left _ hMem)
        · cases hSame
        · exact hNoDigit _ written.digits (List.mem_append_right _ hMem)

/- A text without separators spells a decimal if it is a literal of it. -/
theorem spelledBy_iff_isLiteral
    {text : List Char}
    (hNone : '_' ∉ text)
    (d : Decimal) :
    d.SpelledBy text ↔ IsLiteral text d.coefficient d.scale := by
  constructor
  · intro hSpelled
    have hLiteral := hSpelled.literal
    rw [withoutSeparators_eq_self hNone] at hLiteral
    exact hLiteral
  · intro hLiteral
    refine ⟨?_, ?_, ?_⟩
    · rw [withoutSeparators_eq_self hNone]
      exact hLiteral
    · rintro before after rfl
      exact absurd (List.mem_append_right _ List.mem_cons_self) hNone
    · intro _ hLast
      exact hNone (List.mem_of_getLast? hLast)

------------------------------------------------------------
-- Signs
------------------------------------------------------------

/- Digits with at most one point do not begin with a sign. -/
theorem IsUnsigned.not_isSignChar
    {body : List Char}
    {n places : Nat}
    (hBody : IsUnsigned body n places)
    (c : Char)
    (hHead : body.head? = some c) :
    ¬ Text.IsSignChar c := by
  cases hBody with
  | whole written => exact written.not_isSignChar c hHead
  | @pointed whole fraction n written =>
      cases whole with
      | nil =>
          cases hHead
          rintro (hMinus | hPlus)
          · cases hMinus
          · cases hPlus
      | cons first rest =>
          cases hHead
          exact
            Text.not_isSignChar_of_isDigit
              (written.digits c (List.mem_append_left _ List.mem_cons_self))

variable {sign : List Char}
variable {factor : Int}

/- A sign in front is no separator, and no digit either. -/
theorem withoutSeparators_sign_append
    (hSign : Text.Sign sign factor)
    (rest : List Char) :
    withoutSeparators (sign ++ rest) = sign ++ withoutSeparators rest ∧
      (SeparatorsAfter false (sign ++ rest) ↔ SeparatorsAfter false rest) ∧
      ((sign ++ rest).getLast? = some '_' ↔ rest.getLast? = some '_') := by
  cases hSign with
  | none => exact ⟨rfl, Iff.rfl, Iff.rfl⟩
  | plus =>
      have hOther : '+' ≠ '_' := by decide
      exact
        ⟨withoutSeparators_cons hOther rest,
          separatorsAfter_cons false hOther rest,
          getLast?_cons_eq_separator_iff hOther rest⟩
  | minus =>
      have hOther : '-' ≠ '_' := by decide
      exact
        ⟨withoutSeparators_cons hOther rest,
          separatorsAfter_cons false hOther rest,
          getLast?_cons_eq_separator_iff hOther rest⟩

/- No separator stands in front of a text, and so it begins as before. -/
theorem head?_withoutSeparators
    {text : List Char}
    (hAfter : SeparatorsAfter false text) :
    (withoutSeparators text).head? = text.head? := by
  cases text with
  | nil => rfl
  | cons c rest =>
      by_cases hSeparator : c = '_'
      · subst hSeparator
        rw [separatorsAfter_cons_separator] at hAfter
        cases hAfter
      · rw [withoutSeparators_cons hSeparator, List.head?_cons,
          List.head?_cons]

/- A sign that is left without separators was there before. -/
theorem exists_eq_sign_append
    {text body : List Char}
    (hSign : Text.Sign sign factor)
    (hAfter : SeparatorsAfter false text)
    (hText : withoutSeparators text = sign ++ body) :
    ∃ rest, text = sign ++ rest ∧ withoutSeparators rest = body := by
  have hHead := head?_withoutSeparators hAfter
  rw [hText] at hHead
  cases hSign with
  | none => exact ⟨text, rfl, hText⟩
  | plus =>
      rcases List.head?_eq_some_iff.mp hHead.symm with ⟨rest, rfl⟩
      rw [withoutSeparators_cons (by decide)] at hText
      exact ⟨rest, rfl, (List.cons.inj hText).2⟩
  | minus =>
      rcases List.head?_eq_some_iff.mp hHead.symm with ⟨rest, rfl⟩
      rw [withoutSeparators_cons (by decide)] at hText
      exact ⟨rest, rfl, (List.cons.inj hText).2⟩

end Decimal

end Intake
