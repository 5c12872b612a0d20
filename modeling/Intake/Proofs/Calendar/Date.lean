import Intake.Calendar.Date
import Intake.Proofs.Text.Ascii
import Intake.Proofs.Text.Numerals
import Mathlib.Data.List.TakeWhile

/-
  This file shows that a day can be read back from its text,
  if its year has four digits and no sign.

  The main statements are:
    * `Date.readNumber?_append`
    * `Date.read?_write`
-/

namespace Intake

/- Text that starts with a digit does not start with a blank. -/
theorem Text.trimStart_of_isDigit
    {c : Char}
    (rest : List Char)
    (hDigit : c.isDigit = true) :
    trimStart (c :: rest) = c :: rest := by
  have hBounds := Char.isDigit_iff_toNat.mp hDigit
  have hZero : '0'.toNat = 48 := rfl
  have hNine : '9'.toNat = 57 := rfl
  have hBlank : isBlank c = false := by
    simp only [isBlank, blankCodes, List.contains_eq_mem,
      decide_eq_false_iff_not, List.mem_cons, List.not_mem_nil,
      or_false]
    omega
  simp [trimStart, hBlank]

/- Padded digits are ASCII characters. -/
theorem Text.ascii_of_mem_padDigits
    {width n : Nat}
    {c : Char}
    (hMem : c ∈ padDigits width n) :
    c.toNat < 128 :=
  ascii_of_isDigit (isDigit_of_mem_padDigits hMem)

/- The day that consists of the fields of a day is this day. -/
theorem Date.ofParts?_fields
    (d : Date) :
    ofParts? d.year d.month d.day = some d := by
  simp [ofParts?, d.month_mem, d.day_mem]

namespace Date

/- No month has more than 31 days. -/
theorem day_le
    (d : Date) :
    d.day ≤ 31 := by
  have hDay := d.day_mem.2
  unfold daysInMonth at hDay
  grind

------------------------------------------------------------
-- Fields
------------------------------------------------------------

/-
  Digits are read if they are not too many, and if they fill
  the field or no digit comes behind them.
-/
theorem readNumber?_append
    {width n : Nat}
    {digits rest : List Char}
    (hDigits : Text.IsDigits digits n)
    (hWidth : digits.length ≤ width)
    (hRest :
      digits.length < width →
        ∀ c, rest.head? = some c → c.isDigit = false) :
    readNumber? width (digits ++ rest) = some (n, rest) := by
  have hEnd :
      (rest.take (width - digits.length)).takeWhile Char.isDigit = [] := by
    cases rest with
    | nil => rw [List.take_nil, List.takeWhile_nil]
    | cons c rest =>
        cases hRoom : width - digits.length with
        | zero => rfl
        | succ room =>
            have hOther := hRest (by omega) c rfl
            rw [List.take_succ_cons, List.takeWhile_cons, hOther]
            rfl
  have hTaken :
      ((digits ++ rest).take width).takeWhile Char.isDigit = digits := by
    rw [List.take_append, List.take_of_length_le hWidth,
      List.takeWhile_append_of_pos hDigits.digits, hEnd, List.append_nil]
  have hSome : digits.isEmpty = false := by
    rw [List.isEmpty_eq_false_iff]
    exact hDigits.nonempty
  simp only [readNumber?]
  rw [hTaken, hSome, List.drop_left, Text.digitsValue_eq_ofDigitChars,
    hDigits.value]
  rfl

/-
  A number that fits into a field is read back from its
  digits.
-/
theorem readNumber?_padDigits
    {width n : Nat}
    (rest : List Char)
    (hWidth : 0 < width)
    (hFits : n < tenTo width) :
    readNumber? width (Text.padDigits width n ++ rest) =
      some (n, rest) := by
  have hLength := Text.length_padDigits hWidth hFits
  apply readNumber?_append (Text.isDigits_padDigits width n)
    (Nat.le_of_eq hLength)
  intro hShort
  omega

/- A field that is read back has no blanks in front. -/
theorem trimStart_padDigits
    (width n : Nat)
    (rest : List Char) :
    Text.trimStart (Text.padDigits width n ++ rest) =
      Text.padDigits width n ++ rest := by
  rcases Text.exists_cons_padDigits width n with
    ⟨c, others, hCons, hDigit⟩
  rw [hCons, List.cons_append]
  exact Text.trimStart_of_isDigit _ hDigit

/- A year of four digits is read back. -/
theorem readYear?_padDigits
    {n : Nat}
    (rest : List Char)
    (hFits : n < tenTo 4) :
    readYear? (Text.padDigits 4 n ++ rest) =
      some ((n : Int), rest) := by
  have hRead :=
    readNumber?_padDigits rest (by decide) hFits
  unfold readYear?
  rw [trimStart_padDigits]
  rcases Text.exists_cons_padDigits 4 n with
    ⟨c, others, hCons, hDigit⟩
  rw [hCons, List.cons_append] at hRead ⊢
  split
  · next h =>
      cases h
      cases hDigit
  · next h =>
      cases h
      cases hDigit
  · rw [hRead]
    rfl

------------------------------------------------------------
-- Days
------------------------------------------------------------

/- A year of four digits without sign. -/
def HasPlainYear
    (d : Date) : Prop :=
  0 ≤ d.year ∧ d.year ≤ 9999

/- The text of a day with a plain year. -/
theorem writeChars_eq
    (d : Date)
    (hYear : d.HasPlainYear) :
    d.writeChars =
      Text.padDigits 4 d.year.natAbs ++
        '-' :: (Text.padDigits 2 d.month ++
          '-' :: Text.padDigits 2 d.day) := by
  have hNegative : ¬ d.year < 0 := by
    have hBounds := hYear.1
    omega
  simp [writeChars, writeYear, hNegative, hYear.2]

/-
  A day with a plain year is written with ASCII characters
  only.
-/
theorem ascii_of_mem_writeChars
    (d : Date)
    (hYear : d.HasPlainYear)
    {c : Char}
    (hMem : c ∈ d.writeChars) :
    c.toNat < 128 := by
  rw [d.writeChars_eq hYear] at hMem
  simp only [List.mem_append, List.mem_cons] at hMem
  rcases hMem with hDigit | rfl | hDigit | rfl | hDigit
  · exact Text.ascii_of_mem_padDigits hDigit
  · decide
  · exact Text.ascii_of_mem_padDigits hDigit
  · decide
  · exact Text.ascii_of_mem_padDigits hDigit

/-
  The fields of a day with a plain year fit into four, two and
  two digits.
-/
theorem fields_fit
    (d : Date)
    (hYear : d.HasPlainYear) :
    d.year.natAbs < tenTo 4 ∧ d.month < tenTo 2 ∧
      d.day < tenTo 2 := by
  have hBounds := hYear.2
  have hPositive := hYear.1
  have hMonth := d.month_mem.2
  have hDay := d.day_le
  have hFour : tenTo 4 = 10000 := rfl
  have hTwo : tenTo 2 = 100 := rfl
  omega

/-
  A hyphen after ASCII characters stands at the byte that they
  end at.
-/
theorem hyphenAt_length
    (front rest : List Char)
    (hAscii : ∀ c ∈ front ++ '-' :: rest, c.toNat < 128) :
    hyphenAt (String.ofList (front ++ '-' :: rest))
      front.length = true := by
  rw [hyphenAt, Text.data_toUTF8_ofList _ hAscii]
  simp

/- The fields of a day with a plain year are read back. -/
theorem readFields?_writeChars
    (d : Date)
    (hYear : d.HasPlainYear) :
    readFields? d.writeChars = some d := by
  rcases d.fields_fit hYear with ⟨hYearFits, hMonthFits, hDayFits⟩
  have hValue : (d.year.natAbs : Int) = d.year :=
    Int.natAbs_of_nonneg hYear.1
  have hLast := readNumber?_padDigits [] (by decide) hDayFits
  have hLastTrim := trimStart_padDigits 2 d.day []
  rw [List.append_nil] at hLast hLastTrim
  rw [d.writeChars_eq hYear]
  simp [readFields?, readYear?_padDigits _ hYearFits, readHyphen?,
    trimStart_padDigits, readNumber?_padDigits _ _ hMonthFits,
    hLast, hLastTrim, hValue, d.ofParts?_fields]

/- A day with a plain year is read back from its text. -/
theorem read?_write
    (d : Date)
    (hYear : d.HasPlainYear) :
    read? d.write = some d := by
  rcases d.fields_fit hYear with ⟨hYearFits, hMonthFits, hDayFits⟩
  have hYearLength := Text.length_padDigits (by decide) hYearFits
  have hMonthLength := Text.length_padDigits (by decide) hMonthFits
  have hDayLength := Text.length_padDigits (by decide) hDayFits
  have hAscii :
      ∀ c ∈ d.writeChars, c.toNat < 128 :=
    fun c hMem => d.ascii_of_mem_writeChars hYear hMem
  have hSize : d.write.utf8ByteSize = 10 := by
    rw [write, Text.utf8ByteSize_ofList _ hAscii,
      d.writeChars_eq hYear]
    simp [hYearLength, hMonthLength, hDayLength]
  have hFirst : hyphenAt d.write 4 = true := by
    have hHyphen :=
      hyphenAt_length (Text.padDigits 4 d.year.natAbs)
        (Text.padDigits 2 d.month ++ '-' :: Text.padDigits 2 d.day)
    rw [hYearLength, ← d.writeChars_eq hYear] at hHyphen
    exact hHyphen hAscii
  have hSecond : hyphenAt d.write 7 = true := by
    have hSplit :
        d.writeChars =
          (Text.padDigits 4 d.year.natAbs ++
            '-' :: Text.padDigits 2 d.month) ++
            '-' :: Text.padDigits 2 d.day := by
      simp [d.writeChars_eq hYear]
    have hHyphen :=
      hyphenAt_length
        (Text.padDigits 4 d.year.natAbs ++
          '-' :: Text.padDigits 2 d.month)
        (Text.padDigits 2 d.day)
    rw [← hSplit, List.length_append, List.length_cons, hYearLength,
      hMonthLength] at hHyphen
    exact hHyphen hAscii
  rw [read?, hSize, hFirst, hSecond, write, String.toList_ofList,
    d.readFields?_writeChars hYear]
  rfl

end Date

end Intake
