import Intake.Proofs.Calendar.Reading
import Intake.Proofs.Coercion
import Intake.Value.Text

/-
  This file compares the texts that the coercer of days takes
  with the strict ones, of four, two and two digits.

  A strict text spells a day, and the day is written as this
  text.  The other texts that spell a day have a blank, or a
  sign in front, and their days are written otherwise.

  Key definitions include:
    * `Date.StrictlySpelledBy`
    * `Coercer.ReadsDate`

  The main statements are:
    * `Date.strictlySpelledBy_iff`
    * `Date.SpelledBy.writeChars_eq_iff`
    * `Coercer.readsDate`
-/

namespace Intake

namespace Date

------------------------------------------------------------
-- Strict Texts
------------------------------------------------------------

namespace Parts

/- The parts are four, two and two digits of a day. -/
structure StrictlyName
    (parts : Parts)
    (d : Date) : Prop where
  year : ∃ n : Nat, Text.IsDigits parts.year n ∧ d.year = n
  month : Text.IsDigits parts.month d.month
  day : Text.IsDigits parts.day d.day
  year_length : parts.year.length = 4
  month_length : parts.month.length = 2
  day_length : parts.day.length = 2

variable {parts : Parts}
variable {d : Date}

/- Digits of the right number make up parts of the right size. -/
theorem StrictlyName.aligned
    (hStrict : parts.StrictlyName d) :
    parts.Aligned := by
  rcases hStrict.year with ⟨n, hYear, _⟩
  constructor
  · rw [hYear.byteSize_eq, hStrict.year_length]
  · rw [hStrict.month.byteSize_eq, hStrict.month_length]
  · rw [hStrict.day.byteSize_eq, hStrict.day_length]

/- Neither blanks nor a sign are needed. -/
theorem StrictlyName.name
    (hStrict : parts.StrictlyName d) :
    parts.Name d := by
  have hNoBlanks : ∀ c ∈ ([] : List Char), Text.isBlank c = true :=
    fun c hMem => absurd hMem List.not_mem_nil
  rcases hStrict.year with ⟨n, hYear, hValue⟩
  constructor
  case year =>
    refine ⟨[], parts.year, rfl, hNoBlanks, [], 1, _, n, rfl, .none, hYear, ?_⟩
    rw [hValue, Int.one_mul]
  case month => exact ⟨[], parts.month, rfl, hNoBlanks, hStrict.month⟩
  case day => exact ⟨[], parts.day, rfl, hNoBlanks, hStrict.day⟩

/- A day is written as its strict parts. -/
theorem StrictlyName.join_eq
    (hStrict : parts.StrictlyName d) :
    parts.join = d.writeChars := by
  rcases hStrict.year with ⟨n, hYear, hValue⟩
  have hFits := Text.digitsValue_lt parts.year hYear.digits
  rw [Text.digitsValue_eq_ofDigitChars, hYear.value, hStrict.year_length]
    at hFits
  have hFour : tenTo 4 = 10000 := rfl
  have hPlain : d.HasPlainYear := by
    constructor <;> omega
  have hYearDigits := hYear.padDigits_eq
  have hMonthDigits := hStrict.month.padDigits_eq
  have hDayDigits := hStrict.day.padDigits_eq
  rw [hStrict.year_length] at hYearDigits
  rw [hStrict.month_length] at hMonthDigits
  rw [hStrict.day_length] at hDayDigits
  rw [d.writeChars_eq hPlain, hValue, Int.natAbs_natCast, hYearDigits,
    hMonthDigits, hDayDigits, join]

end Parts

/-
  A text spells a day strictly: four digits, two digits and
  two digits, joined by hyphens.
-/
def StrictlySpelledBy
    (d : Date)
    (text : List Char) : Prop :=
  ∃ parts : Parts, text = parts.join ∧ parts.StrictlyName d

/- What is spelled strictly is spelled. -/
theorem StrictlySpelledBy.spelledBy
    {d : Date}
    {text : List Char}
    (hStrict : d.StrictlySpelledBy text) :
    d.SpelledBy text := by
  rcases hStrict with ⟨parts, hText, hName⟩
  exact ⟨parts, hText, hName.aligned, hName.name⟩

/-
  A text spells a day strictly exactly if it spells the day,
  has no blanks and does not begin with a sign.
-/
theorem strictlySpelledBy_iff
    (d : Date)
    (text : List Char) :
    d.StrictlySpelledBy text ↔
      d.SpelledBy text ∧ (∀ c ∈ text, Text.isBlank c = false) ∧
        ∀ c, text.head? = some c → ¬ Text.IsSignChar c := by
  constructor
  · intro hStrict
    refine ⟨hStrict.spelledBy, ?_, ?_⟩
    · rcases hStrict with ⟨parts, rfl, hName⟩
      rcases hName.year with ⟨n, hYear, _⟩
      intro c hMem
      simp only [Parts.join, List.mem_append, List.mem_cons] at hMem
      rcases hMem with hMem | rfl | hMem | rfl | hMem
      · exact Text.not_isBlank_of_isDigit (hYear.digits c hMem)
      · decide
      · exact Text.not_isBlank_of_isDigit (hName.month.digits c hMem)
      · decide
      · exact Text.not_isBlank_of_isDigit (hName.day.digits c hMem)
    · rcases hStrict with ⟨parts, rfl, hName⟩
      rcases hName.year with ⟨n, hYear, _⟩
      rw [Parts.join, List.head?_append_of_ne_nil _ hYear.nonempty]
      exact hYear.not_isSignChar
  · rintro ⟨⟨parts, rfl, hAligned, hName⟩, hNone, hHead⟩
    have hYearSome : parts.year ≠ [] := by
      intro hEmpty
      have hSize := hAligned.year
      rw [hEmpty] at hSize
      cases hSize
    rw [Parts.join, List.head?_append_of_ne_nil _ hYearSome] at hHead
    have hYear : Text.IsNumeral parts.year d.year := by
      apply hName.year.of_not_isBlank
      intro c hMem
      apply hNone c
      simp [Parts.join, hMem]
    have hMonth : Text.IsDigits parts.month d.month := by
      apply hName.month.of_not_isBlank
      intro c hMem
      apply hNone c
      simp [Parts.join, hMem]
    have hDay : Text.IsDigits parts.day d.day := by
      apply hName.day.of_not_isBlank
      intro c hMem
      apply hNone c
      simp [Parts.join, hMem]
    rcases hYear.isDigits hHead with ⟨n, hYear, hValue⟩
    refine ⟨parts, rfl, ⟨n, hYear, hValue⟩, hMonth, hDay, ?_, ?_, ?_⟩
    · rw [← hYear.byteSize_eq, hAligned.year]
    · rw [← hMonth.byteSize_eq, hAligned.month]
    · rw [← hDay.byteSize_eq, hAligned.day]

/- The year of a text that spells a day has four digits at most. -/
theorem SpelledBy.natAbs_year_lt
    {d : Date}
    {text : List Char}
    (hSpelled : d.SpelledBy text) :
    d.year.natAbs < tenTo 4 := by
  rcases hSpelled with ⟨parts, _, hAligned, hName⟩
  rcases hName.year with
    ⟨blanks, _, hField, _, sign, factor, digits, n, rfl, hSign, hDigits,
      hValue⟩
  have hSize := hAligned.year
  rw [hField, Text.byteSize_append, Text.byteSize_append,
    hDigits.byteSize_eq] at hSize
  have hNumber := Text.digitsValue_lt digits hDigits.digits
  rw [Text.digitsValue_eq_ofDigitChars, hDigits.value] at hNumber
  have hFits : n < tenTo 4 :=
    Nat.lt_of_lt_of_le hNumber (Nat.pow_le_pow_right (by decide) (by omega))
  rw [hValue]
  cases hSign <;> simpa using hFits

/- A text that spells a day has ten bytes. -/
theorem SpelledBy.byteSize_eq
    {d : Date}
    {text : List Char}
    (hSpelled : d.SpelledBy text) :
    Text.byteSize text = 10 := by
  rcases hSpelled with ⟨parts, rfl, hAligned, hName⟩
  exact ((Parts.aligned_iff hName).mp hAligned).1

/- A negative year is written with a sign as well as four digits. -/
theorem length_writeChars_of_neg
    (d : Date)
    (hNegative : d.year < 0)
    (hFits : d.year.natAbs < tenTo 4) :
    d.writeChars.length = 11 := by
  have hTwo : tenTo 2 = 100 := rfl
  have hMonth : d.month < tenTo 2 := by
    have hBound := d.month_mem.2
    omega
  have hDay : d.day < tenTo 2 := by
    have hBound := d.day_le
    omega
  simp only [writeChars, writeYear, if_pos hNegative, List.length_append,
    List.length_cons, Text.length_padDigits (by decide) hFits,
    Text.length_padDigits (by decide) hMonth,
    Text.length_padDigits (by decide) hDay]

/-
  A day is written as a text that spells it exactly if the text
  is strict.
-/
theorem SpelledBy.writeChars_eq_iff
    {d : Date}
    {text : List Char}
    (hSpelled : d.SpelledBy text) :
    d.writeChars = text ↔ d.StrictlySpelledBy text := by
  constructor
  · rintro rfl
    have hFits := hSpelled.natAbs_year_lt
    have hFour : tenTo 4 = 10000 := rfl
    by_cases hPlain : d.HasPlainYear
    · rcases d.fields_fit hPlain with ⟨_, hMonth, hDay⟩
      refine
        ⟨⟨Text.padDigits 4 d.year.natAbs, Text.padDigits 2 d.month,
          Text.padDigits 2 d.day⟩, d.writeChars_eq hPlain, ?_⟩
      exact
        ⟨⟨d.year.natAbs, Text.isDigits_padDigits _ _,
            (Int.natAbs_of_nonneg hPlain.1).symm⟩,
          Text.isDigits_padDigits _ _, Text.isDigits_padDigits _ _,
          Text.length_padDigits (by decide) hFits,
          Text.length_padDigits (by decide) hMonth,
          Text.length_padDigits (by decide) hDay⟩
    · have hNegative : d.year < 0 := by
        unfold HasPlainYear at hPlain
        omega
      have hLength := d.length_writeChars_of_neg hNegative hFits
      have hBytes := Text.length_le_byteSize d.writeChars
      rw [hLength, hSpelled.byteSize_eq] at hBytes
      omega
  · rintro ⟨parts, rfl, hName⟩
    exact hName.join_eq.symm

end Date

------------------------------------------------------------
-- The Coercer of Days
------------------------------------------------------------

namespace Coercer

/-
  How the coercer of days reads raw data.  It takes exactly the
  texts that spell a day, and gives this day.  All strict texts
  are among them, and these are the ones whose day is written
  as the text itself.  A text that is not strict is taken as
  well if it spells a day: it has a sign or a blank in front,
  or a blank inside.
-/
structure ReadsDate
    (raw : Raw) : Prop where
  accepts :
    ∀ v, date raw = .ok v ↔
      ∃ s d, raw = .string s ∧ v = .date d ∧ d.SpelledBy s.toList
  refuses :
    ∀ reason, date raw = .error reason ↔
      reason = "invalid date" ∧
        ¬ ∃ s d, raw = .string s ∧ Date.SpelledBy d s.toList
  strict :
    ∀ s d, raw = .string s → d.StrictlySpelledBy s.toList →
      date raw = .ok (.date d) ∧ (Value.date d).write = s
  written :
    ∀ s d, raw = .string s → date raw = .ok (.date d) →
      ((Value.date d).write = s ↔ d.StrictlySpelledBy s.toList)
  loose :
    ∀ s d, raw = .string s → date raw = .ok (.date d) →
      (¬ d.StrictlySpelledBy s.toList ↔
        (∃ c ∈ s.toList, Text.isBlank c = true) ∨
          ∃ c, s.toList.head? = some c ∧ Text.IsSignChar c)

/- Days are read so from all raw data. -/
theorem readsDate
    (raw : Raw) :
    ReadsDate raw := by
  have hAccepts :
      ∀ v, date raw = .ok v ↔
        ∃ s d, raw = .string s ∧ v = .date d ∧ d.SpelledBy s.toList := by
    intro v
    constructor
    · intro hOk
      rcases eq_of_date_eq_ok hOk with ⟨s, d, hRaw, hRead, hValue⟩
      exact ⟨s, d, hRaw, hValue, (Date.read?_eq_some_iff s d).mp hRead⟩
    · rintro ⟨s, d, rfl, rfl, hSpelled⟩
      rw [date, orReason_eq_ok_iff,
        (Date.read?_eq_some_iff s d).mpr hSpelled, Option.map_some]
  have hSpelled :
      ∀ s d, raw = .string s → date raw = .ok (.date d) →
        d.SpelledBy s.toList := by
    intro s d hRaw hOk
    rcases (hAccepts _).mp hOk with ⟨t, other, hOther, ⟨⟩, hSpelled⟩
    rw [hRaw] at hOther
    cases hOther
    exact hSpelled
  have hWritten :
      ∀ s (d : Date), (Value.date d).write = s ↔ d.writeChars = s.toList := by
    intro s d
    rw [Value.write, Date.write, ← String.toList_inj, String.toList_ofList]
  constructor
  case accepts => exact hAccepts
  case refuses =>
    intro reason
    have hReason :
        ∀ other, date raw = .error other → other = "invalid date" := by
      intro other hError
      cases raw with
      | string s => exact reason_of_orReason hError
      | null | bool | number | array | object =>
          cases hError
          rfl
    rw [eq_error_iff_of_reason hReason]
    apply and_congr_right
    intro _
    rw [not_iff_not]
    constructor
    · rintro ⟨v, hOk⟩
      rcases (hAccepts v).mp hOk with ⟨s, d, hRaw, _, hDay⟩
      exact ⟨s, d, hRaw, hDay⟩
    · rintro ⟨s, d, hRaw, hDay⟩
      exact ⟨_, (hAccepts _).mpr ⟨s, d, hRaw, rfl, hDay⟩⟩
  case strict =>
    intro s d hRaw hStrict
    refine ⟨(hAccepts _).mpr ⟨s, d, hRaw, rfl, hStrict.spelledBy⟩, ?_⟩
    rw [hWritten]
    exact hStrict.spelledBy.writeChars_eq_iff.mpr hStrict
  case written =>
    intro s d hRaw hOk
    rw [hWritten]
    exact (hSpelled s d hRaw hOk).writeChars_eq_iff
  case loose =>
    intro s d hRaw hOk
    have hSpells := hSpelled s d hRaw hOk
    simp only [Date.strictlySpelledBy_iff, hSpells, true_and, not_and_or,
      not_forall, exists_prop, Bool.not_eq_false, not_not]

/-
  A year of three digits is taken with a sign in front, although
  the text is not strict.
-/
theorem signed_year_accepted :
    ∃ d : Date,
      d.year = 123 ∧ d.month = 1 ∧ d.day = 1 ∧
        date (.string "+123-01-01") = .ok (.date d) ∧
        (Value.date d).write ≠ "+123-01-01" ∧
        ∀ other : Date, ¬ other.StrictlySpelledBy "+123-01-01".toList := by
  refine
    ⟨⟨123, 1, 1, by decide, by decide⟩, rfl, rfl, rfl, ?_, ?_, ?_⟩
  · have hRead :
        Date.read? "+123-01-01" =
          some ⟨123, 1, 1, by decide, by decide⟩ := by
      decide +kernel
    rw [date, hRead]
    rfl
  · decide +kernel
  · intro other hStrict
    rcases (Date.strictlySpelledBy_iff other _).mp hStrict with
      ⟨_, _, hHead⟩
    exact hHead '+' (by decide +kernel) (Or.inr rfl)

end Coercer

end Intake
