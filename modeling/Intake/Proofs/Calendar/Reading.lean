import Intake.Proofs.Calendar.Date
import Intake.Proofs.Text.Bytes
import Intake.Proofs.Text.Numerals
import Mathlib.Data.List.Basic

/-
  This file shows which texts are read as days, and as which
  days.

  The reader of the fields puts up with blanks in front of
  every number, with a sign in front of the year, and with
  short numbers.  That the text has ten bytes, and hyphens as
  its fifth and eighth byte, fixes the size of every field.
  It does not fix what fills the field.

  Key definitions include:
    * `Text.AfterBlanks`
    * `Date.Parts`
    * `Date.Parts.Name`
    * `Date.SpelledBy`

  The main statements are:
    * `Date.exists_of_readFields?`
    * `Date.Parts.readFields?_join`
    * `Date.Parts.aligned_iff`
    * `Date.read?_eq_some_iff`
-/

namespace Intake

------------------------------------------------------------
-- Blanks
------------------------------------------------------------

namespace Text

/- A text has a property behind the blanks in front of it. -/
def AfterBlanks
    (P : List Char → Prop)
    (text : List Char) : Prop :=
  ∃ blanks rest, text = blanks ++ rest ∧
    (∀ c ∈ blanks, isBlank c = true) ∧ P rest

/- A digit is no blank. -/
theorem not_isBlank_of_isDigit
    {c : Char}
    (hDigit : c.isDigit = true) :
    isBlank c = false := by
  have hTrim := trimStart_of_isDigit [] hDigit
  rw [← Bool.not_eq_true]
  intro hBlank
  simp [trimStart, hBlank] at hTrim

/- A text is trimmed to what comes behind its blanks. -/
theorem trimStart_append
    {blanks rest : List Char}
    (hBlanks : ∀ c ∈ blanks, isBlank c = true)
    (hRest : ∀ c, rest.head? = some c → isBlank c = false) :
    trimStart (blanks ++ rest) = rest := by
  unfold trimStart
  rw [List.dropWhile_append_of_pos hBlanks]
  cases rest with
  | nil => rfl
  | cons c rest =>
      have hHead := hRest c rfl
      rw [List.dropWhile_cons, hHead]
      rfl

/- A text is blanks and what it is trimmed to. -/
theorem exists_blanks
    (text : List Char) :
    ∃ blanks, text = blanks ++ trimStart text ∧
      ∀ c ∈ blanks, isBlank c = true := by
  refine ⟨text.takeWhile isBlank, ?_, ?_⟩
  · exact (List.takeWhile_append_dropWhile).symm
  · intro c hMem
    exact List.mem_takeWhile_imp hMem

/- Without blanks the whole field is the number. -/
theorem AfterBlanks.of_not_isBlank
    {P : List Char → Prop}
    {field : List Char}
    (hField : AfterBlanks P field)
    (hNone : ∀ c ∈ field, isBlank c = false) :
    P field := by
  rcases hField with ⟨blanks, rest, rfl, hBlanks, hRest⟩
  cases blanks with
  | nil => exact hRest
  | cons c blanks =>
      have hBlank := hBlanks c List.mem_cons_self
      rw [hNone c List.mem_cons_self] at hBlank
      cases hBlank

/- Digits have one byte each. -/
theorem IsDigits.byteSize_eq
    {text : List Char}
    {n : Nat}
    (hText : IsDigits text n) :
    byteSize text = text.length :=
  byteSize_of_ascii fun c hMem => ascii_of_isDigit (hText.digits c hMem)

/- There is no hyphen among digits. -/
theorem IsDigits.not_mem_hyphen
    {text : List Char}
    {n : Nat}
    (hText : IsDigits text n) :
    '-' ∉ text := by
  intro hMem
  cases hText.digits '-' hMem

end Text

------------------------------------------------------------
-- Texts of Days
------------------------------------------------------------

namespace Date

/- The parts of the text of a day, which hyphens join. -/
structure Parts where
  year : List Char
  month : List Char
  day : List Char

namespace Parts

/- The text of the parts. -/
def join
    (parts : Parts) : List Char :=
  parts.year ++ '-' :: (parts.month ++ '-' :: parts.day)

/- The parts have four, two and two bytes. -/
structure Aligned
    (parts : Parts) : Prop where
  year : Text.byteSize parts.year = 4
  month : Text.byteSize parts.month = 2
  day : Text.byteSize parts.day = 2

/-
  The parts write the fields of a day.  Blanks may stand in
  front of a number, and a sign in front of that of the year.
-/
structure Name
    (parts : Parts)
    (d : Date) : Prop where
  year : Text.AfterBlanks (Text.IsNumeral · d.year) parts.year
  month : Text.AfterBlanks (Text.IsDigits · d.month) parts.month
  day : Text.AfterBlanks (Text.IsDigits · d.day) parts.day

end Parts

/-
  A text spells a day: its parts have four, two and two bytes
  and write the fields of the day, with blanks and a sign.
-/
def SpelledBy
    (d : Date)
    (text : List Char) : Prop :=
  ∃ parts : Parts, text = parts.join ∧ parts.Aligned ∧ parts.Name d

------------------------------------------------------------
-- Numbers
------------------------------------------------------------

/- A number is read from digits in front of the rest. -/
theorem exists_of_readNumber?
    {width n : Nat}
    {text rest : List Char}
    (hRead : readNumber? width text = some (n, rest)) :
    ∃ digits, text = digits ++ rest ∧ Text.IsDigits digits n := by
  simp only [readNumber?] at hRead
  generalize hDigits : (text.take width).takeWhile Char.isDigit = digits
    at hRead
  have hPrefix : digits <+: text := by
    rw [← hDigits]
    exact
      (List.takeWhile_prefix Char.isDigit).trans (List.take_prefix width text)
  rcases hPrefix with ⟨behind, rfl⟩
  split at hRead
  · cases hRead
  · next hSome =>
      rw [List.drop_left] at hRead
      cases hRead
      refine ⟨digits, rfl, ?_, ?_, rfl⟩
      · rintro rfl
        exact hSome rfl
      · intro c hMem
        rw [← hDigits] at hMem
        exact List.mem_takeWhile_imp hMem

/- The number of a month or day is read from behind its blanks. -/
theorem exists_of_readNumber?_trimStart
    {width n : Nat}
    {text rest : List Char}
    (hRead : readNumber? width (Text.trimStart text) = some (n, rest)) :
    ∃ field, text = field ++ rest ∧
      Text.AfterBlanks (Text.IsDigits · n) field := by
  rcases Text.exists_blanks text with ⟨blanks, hText, hBlanks⟩
  rcases exists_of_readNumber? hRead with ⟨digits, hDigits, hValue⟩
  refine ⟨blanks ++ digits, ?_, blanks, digits, rfl, hBlanks, hValue⟩
  rw [List.append_assoc, ← hDigits]
  exact hText

/- The number of a field is read if the field is short enough. -/
theorem readNumber?_trimStart_append
    {width n : Nat}
    {field rest : List Char}
    (hField : Text.AfterBlanks (Text.IsDigits · n) field)
    (hWidth : Text.byteSize field ≤ width)
    (hRest : ∀ c, rest.head? = some c → c.isDigit = false) :
    readNumber? width (Text.trimStart (field ++ rest)) = some (n, rest) := by
  rcases hField with ⟨blanks, digits, rfl, hBlanks, hDigits⟩
  rw [Text.byteSize_append, hDigits.byteSize_eq] at hWidth
  rw [List.append_assoc, Text.trimStart_append hBlanks]
  · exact readNumber?_append hDigits (by omega) fun _ => hRest
  · intro c hHead
    apply Text.not_isBlank_of_isDigit
    apply hDigits.digits c
    rw [List.head?_append_of_ne_nil _ hDigits.nonempty] at hHead
    exact List.mem_of_head? hHead

/- The year is read from behind its blanks and its sign. -/
theorem exists_of_readYear?
    {text rest : List Char}
    {year : Int}
    (hRead : readYear? text = some (year, rest)) :
    ∃ field, text = field ++ rest ∧
      Text.AfterBlanks (Text.IsNumeral · year) field := by
  rcases Text.exists_blanks text with ⟨blanks, hText, hBlanks⟩
  have hNumeral :
      ∃ numeral, Text.trimStart text = numeral ++ rest ∧
        Text.IsNumeral numeral year := by
    unfold readYear? at hRead
    split at hRead
    · next behind hTrim =>
        rcases Option.map_eq_some_iff.mp hRead with ⟨⟨n, _⟩, hNumber, ⟨⟩⟩
        rcases exists_of_readNumber? hNumber with ⟨digits, rfl, hDigits⟩
        exact
          ⟨'-' :: digits, hTrim, ['-'], -1, digits, n, rfl, .minus, hDigits,
            (Int.neg_one_mul n).symm⟩
    · next behind hTrim =>
        rcases Option.map_eq_some_iff.mp hRead with ⟨⟨n, _⟩, hNumber, ⟨⟩⟩
        rcases exists_of_readNumber? hNumber with ⟨digits, rfl, hDigits⟩
        exact
          ⟨'+' :: digits, hTrim, ['+'], 1, digits, n, rfl, .plus, hDigits,
            (Int.one_mul n).symm⟩
    · rcases Option.map_eq_some_iff.mp hRead with ⟨⟨n, _⟩, hNumber, ⟨⟩⟩
      rcases exists_of_readNumber? hNumber with ⟨digits, hTrim, hDigits⟩
      exact
        ⟨digits, hTrim, [], 1, digits, n, rfl, .none, hDigits,
          (Int.one_mul n).symm⟩
  rcases hNumeral with ⟨numeral, hTrim, hValue⟩
  refine ⟨blanks ++ numeral, ?_, blanks, numeral, rfl, hBlanks, hValue⟩
  rw [List.append_assoc, ← hTrim]
  exact hText

/- The year is read if its field is short enough. -/
theorem readYear?_append
    {field rest : List Char}
    {year : Int}
    (hField : Text.AfterBlanks (Text.IsNumeral · year) field)
    (hWidth : Text.byteSize field ≤ 4)
    (hRest : ∀ c, rest.head? = some c → c.isDigit = false) :
    readYear? (field ++ rest) = some (year, rest) := by
  rcases hField with
    ⟨blanks, _, rfl, hBlanks, sign, factor, digits, n, rfl, hSign, hDigits,
      rfl⟩
  rw [Text.byteSize_append, Text.byteSize_append, hDigits.byteSize_eq]
    at hWidth
  rcases List.exists_cons_of_ne_nil hDigits.nonempty with ⟨c, others, hCons⟩
  have hDigit : c.isDigit = true :=
    hDigits.digits c (hCons ▸ List.mem_cons_self)
  -- Behind a sign any number of digits is read.
  have hSigned :
      readNumber? (digits ++ rest).length (digits ++ rest) =
        some (n, rest) :=
    readNumber?_append hDigits (by simp) fun _ => hRest
  unfold readYear?
  rw [List.append_assoc, List.append_assoc, Text.trimStart_append hBlanks]
  · cases hSign with
    | plus =>
        show
          Option.map _ (readNumber? (digits ++ rest).length (digits ++ rest)) =
            _
        rw [hSigned, Option.map_some, Int.one_mul]
    | minus =>
        show
          Option.map _ (readNumber? (digits ++ rest).length (digits ++ rest)) =
            _
        rw [hSigned, Option.map_some, Int.neg_one_mul]
    | none =>
        have hRead :=
          @readNumber?_append 4 n digits rest hDigits (by omega)
            fun _ => hRest
        rw [List.nil_append, Int.one_mul]
        rw [hCons, List.cons_append] at hRead ⊢
        split
        · next hSame =>
            cases hSame
            cases hDigit
        · next hSame =>
            cases hSame
            cases hDigit
        · rw [hRead]
          rfl
  · intro other hHead
    cases hSign with
    | plus =>
        cases hHead
        decide
    | minus =>
        cases hHead
        decide
    | none =>
        rw [hCons] at hHead
        cases hHead
        exact Text.not_isBlank_of_isDigit hDigit

------------------------------------------------------------
-- Parts
------------------------------------------------------------

/- A hyphen is no digit. -/
theorem not_isDigit_of_head?_hyphen
    (rest : List Char)
    (c : Char)
    (hHead : ('-' :: rest).head? = some c) :
    c.isDigit = false := by
  cases hHead
  rfl

/- A hyphen is read if it stands in front. -/
theorem readHyphen?_eq_some_iff
    (text rest : List Char) :
    readHyphen? text = some rest ↔ text = '-' :: rest := by
  constructor
  · intro hRead
    unfold readHyphen? at hRead
    split at hRead
    · cases hRead
      rfl
    · cases hRead
  · rintro rfl
    rfl

/- A day is given by its year, its month and its day of the month. -/
theorem ofParts?_eq_some_iff
    (year : Int)
    (month day : Nat)
    (d : Date) :
    ofParts? year month day = some d ↔
      d.year = year ∧ d.month = month ∧ d.day = day := by
  constructor
  · intro hParts
    unfold ofParts? at hParts
    split at hParts
    · cases hParts
      exact ⟨rfl, rfl, rfl⟩
    · cases hParts
  · rintro ⟨rfl, rfl, rfl⟩
    exact d.ofParts?_fields

/- What is read as a day has parts that name it. -/
theorem exists_of_readFields?
    {text : List Char}
    {d : Date}
    (hRead : readFields? text = some d) :
    ∃ parts : Parts, text = parts.join ∧ parts.Name d := by
  unfold readFields? at hRead
  simp only [Option.bind_eq_bind, Option.bind_eq_some_iff, Prod.exists,
    readHyphen?_eq_some_iff] at hRead
  rcases hRead with
    ⟨year, _, hYear, behindYear, rfl, month, _, hMonth, behindMonth, rfl,
      day, behindDay, hDay, hParts⟩
  rcases exists_of_readYear? hYear with ⟨yearField, rfl, hYearField⟩
  rcases exists_of_readNumber?_trimStart hMonth with
    ⟨monthField, rfl, hMonthField⟩
  rcases exists_of_readNumber?_trimStart hDay with
    ⟨dayField, rfl, hDayField⟩
  split at hParts
  · next hEnd =>
      rw [List.isEmpty_iff] at hEnd
      rcases (ofParts?_eq_some_iff year month day d).mp hParts with
        ⟨rfl, rfl, rfl⟩
      refine
        ⟨⟨yearField, monthField, dayField⟩, ?_, hYearField, hMonthField,
          hDayField⟩
      rw [hEnd, List.append_nil]
      rfl
  · cases hParts

namespace Parts

variable {parts : Parts}
variable {d : Date}

/- Parts that are short enough are read as the day that they name. -/
theorem readFields?_join
    (hName : parts.Name d)
    (hAligned : parts.Aligned) :
    readFields? parts.join = some d := by
  have hYear :=
    readYear?_append hName.year (Nat.le_of_eq hAligned.year)
      (not_isDigit_of_head?_hyphen
        (parts.month ++ '-' :: parts.day))
  have hMonth :=
    readNumber?_trimStart_append hName.month
      (Nat.le_of_eq hAligned.month)
      (not_isDigit_of_head?_hyphen parts.day)
  have hEnd : ∀ c : Char, [].head? = some c → c.isDigit = false := by
    intro c hHead
    cases hHead
  have hDay :=
    readNumber?_trimStart_append hName.day (Nat.le_of_eq hAligned.day) hEnd
  rw [List.append_nil] at hDay
  simp [readFields?, join, hYear, hMonth, hDay, readHyphen?,
    d.ofParts?_fields]

------------------------------------------------------------
-- Places of Hyphens
------------------------------------------------------------

/- There is no hyphen in a month or a day. -/
theorem not_markAt_of_afterBlanks
    {field : List Char}
    {n position : Nat}
    (hField : Text.AfterBlanks (Text.IsDigits · n) field) :
    ¬ Text.MarkAt '-' field position := by
  rcases hField with ⟨blanks, digits, rfl, hBlanks, hDigits⟩
  intro hMark
  rcases List.mem_append.mp hMark.mem with hMem | hMem
  · cases hBlanks '-' hMem
  · exact hDigits.not_mem_hyphen hMem

/- A hyphen in a year is its sign, and a digit comes behind it. -/
theorem lt_of_markAt_year
    {field : List Char}
    {year : Int}
    {position : Nat}
    (hField : Text.AfterBlanks (Text.IsNumeral · year) field)
    (hMark : Text.MarkAt '-' field position) :
    position + 1 < Text.byteSize field := by
  rcases hField with
    ⟨blanks, _, rfl, hBlanks, sign, factor, digits, n, rfl, hSign, hDigits,
      _⟩
  have hSome := List.length_pos_iff.mpr hDigits.nonempty
  have hSizes :
      Text.byteSize (blanks ++ (sign ++ digits)) =
        Text.byteSize blanks + (Text.byteSize sign + digits.length) := by
    rw [Text.byteSize_append, Text.byteSize_append, hDigits.byteSize_eq]
  rw [hSizes]
  simp only [Text.markAt_append_iff] at hMark
  rcases hMark with hBlank | ⟨_, rfl, hAtSign | ⟨_, _, hDigit⟩⟩
  · cases hBlanks '-' hBlank.mem
  · -- The sign is a hyphen, of one byte.
    cases hSign with
    | none => cases hAtSign
    | plus =>
        cases hAtSign with
        | later behind => cases behind
    | minus =>
        cases hAtSign with
        | here =>
            have hSize : Text.byteSize ['-'] = 1 := rfl
            omega
        | later behind => cases behind
  · exact absurd hDigit.mem hDigits.not_mem_hyphen

/- Every field has a digit. -/
theorem byteSize_pos_of_afterBlanks
    {P : List Char → Prop}
    {field : List Char}
    (hField : Text.AfterBlanks P field)
    (hSome : ∀ text, P text → text ≠ []) :
    0 < Text.byteSize field := by
  rcases hField with ⟨blanks, rest, rfl, _, hRest⟩
  have hLength := List.length_pos_iff.mpr (hSome rest hRest)
  have hSize := Text.length_le_byteSize rest
  rw [Text.byteSize_append]
  omega

/- Hyphens stand between the parts, or as the sign of the year. -/
theorem markAt_join
    (hName : parts.Name d)
    {position : Nat}
    (hMark : Text.MarkAt '-' parts.join position) :
    position + 1 < Text.byteSize parts.year ∨
      position = Text.byteSize parts.year ∨
        position =
          Text.byteSize parts.year + (1 + Text.byteSize parts.month) := by
  have hHyphen : '-'.utf8Size = 1 := rfl
  simp only [join, Text.markAt_append_iff, Text.markAt_cons_iff, hHyphen]
    at hMark
  rcases hMark with
    hYear | ⟨_, rfl, ⟨_, rfl⟩ | ⟨_, rfl, hMonth | ⟨_, rfl, ⟨_, rfl⟩ | hDay⟩⟩⟩
  · exact Or.inl (lt_of_markAt_year hName.year hYear)
  · exact Or.inr (Or.inl rfl)
  · exact absurd hMonth (not_markAt_of_afterBlanks hName.month)
  · exact Or.inr (Or.inr rfl)
  · rcases hDay with ⟨_, _, hDay⟩
    exact absurd hDay (not_markAt_of_afterBlanks hName.day)

/- The parts are joined by hyphens. -/
theorem markAt_join_year
    (parts : Parts) :
    Text.MarkAt '-' parts.join (Text.byteSize parts.year) := by
  rw [join, Text.markAt_append_iff]
  exact Or.inr ⟨0, rfl, .here⟩

theorem markAt_join_month
    (parts : Parts) :
    Text.MarkAt '-' parts.join
      (Text.byteSize parts.year + (1 + Text.byteSize parts.month)) := by
  have hBehind :
      Text.MarkAt '-' (parts.month ++ '-' :: parts.day)
        (Text.byteSize parts.month) := by
    rw [Text.markAt_append_iff]
    exact Or.inr ⟨0, rfl, .here⟩
  rw [join, Text.markAt_append_iff]
  exact Or.inr ⟨_, rfl, .later hBehind⟩

/- The size of the text of the parts. -/
theorem byteSize_join
    (parts : Parts) :
    Text.byteSize parts.join =
      Text.byteSize parts.year +
        (1 + (Text.byteSize parts.month +
          (1 + Text.byteSize parts.day))) := by
  have hHyphen : '-'.utf8Size = 1 := rfl
  simp only [join, Text.byteSize_append, Text.byteSize, hHyphen]

/-
  The sizes of the parts are right exactly if there are ten
  bytes, and hyphens as the fifth and the eighth one.
-/
theorem aligned_iff
    (hName : parts.Name d) :
    parts.Aligned ↔
      Text.byteSize parts.join = 10 ∧
        Text.MarkAt '-' parts.join 4 ∧ Text.MarkAt '-' parts.join 7 := by
  have hSize := parts.byteSize_join
  constructor
  · rintro ⟨hYear, hMonth, hDay⟩
    have hFirst := parts.markAt_join_year
    have hSecond := parts.markAt_join_month
    rw [hYear] at hFirst
    rw [hYear, hMonth] at hSecond
    exact ⟨by omega, hFirst, hSecond⟩
  · rintro ⟨hTen, hFirst, hSecond⟩
    have hMonthSome :=
      byteSize_pos_of_afterBlanks hName.month fun _ hText => hText.nonempty
    have hDaySome :=
      byteSize_pos_of_afterBlanks hName.day fun _ hText => hText.nonempty
    have hAtFourth := markAt_join hName hFirst
    have hAtSeventh := markAt_join hName hSecond
    constructor <;> omega

end Parts

------------------------------------------------------------
-- Days
------------------------------------------------------------

/- A byte is a hyphen where a hyphen stands. -/
theorem hyphenAt_iff
    (text : String)
    (position : Nat) :
    hyphenAt text position = true ↔
      Text.MarkAt '-' text.toList position := by
  rw [hyphenAt, beq_iff_eq,
    Text.getElem?_toUTF8_eq_some_iff text (by decide)]

/- Exactly the texts that spell a day are read as it. -/
theorem read?_eq_some_iff
    (text : String)
    (d : Date) :
    read? text = some d ↔ d.SpelledBy text.toList := by
  have hUnfold :
      read? text = some d ↔
        (Text.byteSize text.toList = 10 ∧
          Text.MarkAt '-' text.toList 4 ∧ Text.MarkAt '-' text.toList 7) ∧
            readFields? text.toList = some d := by
    unfold read?
    simp only [Option.ite_none_right_eq_some, Bool.and_eq_true, beq_iff_eq,
      hyphenAt_iff, Text.utf8ByteSize_eq_byteSize, and_assoc]
  rw [hUnfold]
  constructor
  · rintro ⟨hPlaces, hFields⟩
    rcases exists_of_readFields? hFields with ⟨parts, hText, hName⟩
    rw [hText] at hPlaces
    exact ⟨parts, hText, (Parts.aligned_iff hName).mpr hPlaces, hName⟩
  · rintro ⟨parts, hText, hAligned, hName⟩
    rw [hText]
    exact
      ⟨(Parts.aligned_iff hName).mp hAligned,
        Parts.readFields?_join hName hAligned⟩

end Date

end Intake
