import Intake.Calendar.Timestamp
import Intake.Proofs.Calendar.Date

/-
  This file shows that every timestamp that was read from a
  text can be read back from the text that is written for it.

  Key definitions include:
    * `Timestamp.Readable`

  The main statements are:
    * `Timestamp.readable_of_read?`
    * `Timestamp.read?_write`
    * `Timestamp.read?_writeShort`
-/

namespace Intake

/- A step of a reader that succeeds hands its result on. -/
theorem bind_of_eq_some
    {α β : Type}
    {found : Option α}
    {a : α}
    {next : α → Option β}
    (hFound : found = some a) :
    (found >>= next) = next a := by
  rw [hFound]
  rfl

namespace Timestamp

------------------------------------------------------------
-- Numbers
------------------------------------------------------------

/-
  A number that fits into a field is read back from its
  digits.
-/
theorem readExact?_padDigits
    {width n : Nat}
    (rest : List Char)
    (hWidth : 0 < width)
    (hFits : n < tenTo width) :
    readExact? width (Text.padDigits width n ++ rest) =
      some (n, rest) := by
  have hLength := Text.length_padDigits hWidth hFits
  have hTake :
      (Text.padDigits width n ++ rest).take width =
        Text.padDigits width n :=
    List.take_left' hLength
  have hDigits :
      (Text.padDigits width n).all Char.isDigit = true :=
    List.all_eq_true.mpr fun c hMem =>
      Text.isDigit_of_mem_padDigits hMem
  simp [readExact?, hTake, hDigits, hLength,
    List.drop_left' hLength, Text.digitsValue_padDigits]

/- A number that is read has as many digits as the field. -/
theorem lt_of_readExact?
    {width n : Nat}
    {text rest : List Char}
    (hRead : readExact? width text = some (n, rest)) :
    n < tenTo width := by
  simp only [readExact?] at hRead
  split at hRead
  · next hField =>
      cases hRead
      rw [Bool.and_eq_true, beq_iff_eq] at hField
      have hLess :=
        Text.digitsValue_lt (text.take width)
          (List.all_eq_true.mp hField.2)
      rwa [hField.1] at hLess
  · cases hRead

------------------------------------------------------------
-- Fractions and Offsets
------------------------------------------------------------

variable {c : Char} {rest : List Char}

/- Digits after a point are read as billionths. -/
theorem readFraction?_padDigits
    {width n : Nat}
    (hWidth : 0 < width)
    (hNine : width ≤ 9)
    (hFits : n < tenTo width)
    (hEnd : c.isDigit = false) :
    readFraction? ('.' :: Text.padDigits width n ++ c :: rest) =
      some (n * tenTo (9 - width), c :: rest) := by
  have hLength := Text.length_padDigits hWidth hFits
  have hDigits :
      ∀ d ∈ Text.padDigits width n, d.isDigit = true :=
    fun d hMem => Text.isDigit_of_mem_padDigits hMem
  have hSpan :
      (Text.padDigits width n ++ c :: rest).takeWhile
          Char.isDigit =
        Text.padDigits width n := by
    rw [List.takeWhile_append_of_pos hDigits]
    simp [hEnd]
  have hDrop :
      (Text.padDigits width n ++ c :: rest).dropWhile
          Char.isDigit =
        c :: rest := by
    rw [List.dropWhile_append_of_pos hDigits]
    simp [hEnd]
  have hKept :
      (Text.padDigits width n).take 9 = Text.padDigits width n :=
    List.take_of_length_le (by omega)
  have hSome : (Text.padDigits width n).isEmpty = false := by
    rcases Text.exists_cons_padDigits width n with
      ⟨d, others, hCons, _⟩
    rw [hCons]
    rfl
  simp [readFraction?, hSpan, hDrop, hKept, hSome, hLength,
    Text.digitsValue_padDigits]

/- Nanoseconds are read back from their groups of digits. -/
theorem readFraction?_writeFraction
    {nanosecond : Nat}
    (hLess : nanosecond < tenTo 9)
    (hEnd : c.isDigit = false)
    (hPoint : c ≠ '.') :
    readFraction? (writeFraction nanosecond ++ c :: rest) =
      some (nanosecond, c :: rest) := by
  unfold writeFraction
  split
  · next hZero =>
      subst hZero
      simp [readFraction?, hPoint]
  · split
    · next hMillis =>
        have hFits : nanosecond / tenTo 6 < tenTo 3 :=
          Nat.div_lt_of_lt_mul hLess
        rw [readFraction?_padDigits (by decide) (by decide)
          hFits hEnd]
        have hValue :
            nanosecond / tenTo 6 * tenTo (9 - 3) = nanosecond :=
          Nat.div_mul_cancel (Nat.dvd_of_mod_eq_zero hMillis)
        rw [hValue]
    · split
      · next hMicros =>
          have hFits : nanosecond / tenTo 3 < tenTo 6 :=
            Nat.div_lt_of_lt_mul hLess
          rw [readFraction?_padDigits (by decide) (by decide)
            hFits hEnd]
          have hValue :
              nanosecond / tenTo 3 * tenTo (9 - 6) = nanosecond :=
            Nat.div_mul_cancel (Nat.dvd_of_mod_eq_zero hMicros)
          rw [hValue]
      · rw [readFraction?_padDigits (by decide) (by decide)
          hLess hEnd]
        simp

/- A time of day is read back from hours and minutes. -/
theorem readOffset?_writeOffset
    {offset : Int}
    (hLess : offset.natAbs < 24 * 60) :
    readOffset? (writeOffset offset) = some (offset, []) := by
  have hTwo : tenTo 2 = 100 := rfl
  have hHours :=
    readExact?_padDigits
      (':' :: Text.padDigits 2 (offset.natAbs % 60))
      (by decide : 0 < 2)
      (show offset.natAbs / 60 < tenTo 2 by omega)
  have hMinutes :=
    readExact?_padDigits [] (by decide : 0 < 2)
      (show offset.natAbs % 60 < tenTo 2 by omega)
  rw [List.append_nil] at hMinutes
  have hSixty : offset.natAbs % 60 < 60 :=
    Nat.mod_lt _ (by decide)
  have hColon :
      readChar? (· == ':')
          (':' :: Text.padDigits 2 (offset.natAbs % 60)) =
        some (Text.padDigits 2 (offset.natAbs % 60)) :=
    rfl
  by_cases hNegative : offset < 0
  · have hValue :
        -((offset.natAbs / 60 : Nat) * 60 +
          (offset.natAbs % 60 : Nat) : Int) = offset := by
      omega
    rw [writeOffset, if_pos hNegative]
    refine (bind_of_eq_some hHours).trans ?_
    refine (bind_of_eq_some hColon).trans ?_
    refine (bind_of_eq_some hMinutes).trans ?_
    refine (if_pos hSixty).trans ?_
    exact congrArg (fun size => some (size, [])) hValue
  · have hValue :
        ((offset.natAbs / 60 : Nat) * 60 +
          (offset.natAbs % 60 : Nat) : Int) = offset := by
      omega
    rw [writeOffset, if_neg hNegative]
    refine (bind_of_eq_some hHours).trans ?_
    refine (bind_of_eq_some hColon).trans ?_
    refine (bind_of_eq_some hMinutes).trans ?_
    refine (if_pos hSixty).trans ?_
    exact congrArg (fun size => some (size, [])) hValue

/- What follows the local time is no digit and no point. -/
theorem writeOffset_eq_cons
    (offset : Int) :
    ∃ c rest, writeOffset offset = c :: rest ∧
      c.isDigit = false ∧ c ≠ '.' := by
  unfold writeOffset
  by_cases hNegative : offset < 0 <;> simp [hNegative]

------------------------------------------------------------
-- Local Times
------------------------------------------------------------

/-
  A timestamp that some text writes: its year has four digits,
  and only the last second of a minute is a leap second.
-/
def Readable
    (t : Timestamp) : Prop :=
  t.date.HasPlainYear ∧
    (tenTo 9 ≤ t.nanosecond → t.second = 59)

/-
  The fields of a timestamp give it back, a leap second as
  second 60.
-/
theorem ofFields?_fields
    (t : Timestamp)
    (hReadable : t.Readable) :
    ofFields? t.date t.hour t.minute
        (if tenTo 9 ≤ t.nanosecond then t.second + 1 else t.second)
        (if tenTo 9 ≤ t.nanosecond then t.nanosecond - tenTo 9
          else t.nanosecond)
        t.offset =
      some t := by
  have hLast := hReadable.2
  rcases t with
    ⟨date, hour, minute, second, nanosecond, offset,
      hour_lt, minute_lt, second_lt, nanosecond_lt, offset_lt⟩
  simp only at hLast ⊢
  by_cases hLeap : tenTo 9 ≤ nanosecond
  · have hSecond : second = 59 := hLast hLeap
    subst hSecond
    have hBack : nanosecond - tenTo 9 + tenTo 9 = nanosecond :=
      Nat.sub_add_cancel hLeap
    rw [if_pos hLeap, if_pos hLeap]
    unfold ofFields?
    simp only [beq_self_eq_true, if_true, hBack]
    rw [dif_pos ⟨⟨hour_lt, minute_lt, by decide⟩, nanosecond_lt,
      offset_lt⟩]
  · have hSecond : (second == 60) = false := by
      simp only [beq_eq_false_iff_ne]
      omega
    rw [if_neg hLeap, if_neg hLeap]
    unfold ofFields?
    simp only [hSecond, Bool.false_eq_true, if_false]
    rw [dif_pos ⟨⟨hour_lt, minute_lt, second_lt⟩, nanosecond_lt,
      offset_lt⟩]

/-
  A local time is read back from its text if a text follows
  that is read as the offset.
-/
theorem readChars?_writeLocal
    (t : Timestamp)
    (hReadable : t.Readable)
    (hOffset : readOffset? (c :: rest) = some (t.offset, []))
    (hEnd : c.isDigit = false)
    (hPoint : c ≠ '.') :
    readChars? (t.writeLocal ++ c :: rest) = some t := by
  rcases t.date.fields_fit hReadable.1 with
    ⟨hYear, hMonth, hDay⟩
  have hTwo : tenTo 2 = 100 := rfl
  have hHour : t.hour < tenTo 2 := by
    have hLess := t.hour_lt
    omega
  have hMinute : t.minute < tenTo 2 := by
    have hLess := t.minute_lt
    omega
  have hSecond :
      (if tenTo 9 ≤ t.nanosecond then t.second + 1
        else t.second) < tenTo 2 := by
    have hLess := t.second_lt
    split <;> omega
  have hNanosecond :
      (if tenTo 9 ≤ t.nanosecond then t.nanosecond - tenTo 9
        else t.nanosecond) < tenTo 9 := by
    have hLess := t.nanosecond_lt
    split <;> omega
  have hValue : (t.date.year.natAbs : Int) = t.date.year :=
    Int.natAbs_of_nonneg hReadable.1.1
  have hDate := t.date.ofParts?_fields
  rw [← hValue] at hDate
  simp only [writeLocal, t.date.writeChars_eq hReadable.1,
    decide_eq_true_eq, List.append_assoc, List.cons_append]
  refine (bind_of_eq_some
    (readExact?_padDigits _ (by decide) hYear)).trans ?_
  refine (bind_of_eq_some rfl).trans ?_
  refine (bind_of_eq_some
    (readExact?_padDigits _ (by decide) hMonth)).trans ?_
  refine (bind_of_eq_some rfl).trans ?_
  refine (bind_of_eq_some
    (readExact?_padDigits _ (by decide) hDay)).trans ?_
  refine (bind_of_eq_some rfl).trans ?_
  refine (bind_of_eq_some
    (readExact?_padDigits _ (by decide) hHour)).trans ?_
  refine (bind_of_eq_some rfl).trans ?_
  refine (bind_of_eq_some
    (readExact?_padDigits _ (by decide) hMinute)).trans ?_
  refine (bind_of_eq_some rfl).trans ?_
  refine (bind_of_eq_some
    (readExact?_padDigits _ (by decide) hSecond)).trans ?_
  refine (bind_of_eq_some
    (readFraction?_writeFraction hNanosecond hEnd hPoint)).trans ?_
  refine (bind_of_eq_some hOffset).trans ?_
  refine (bind_of_eq_some hDate).trans ?_
  exact t.ofFields?_fields hReadable

------------------------------------------------------------
-- Texts
------------------------------------------------------------

/- A readable timestamp is read back from its text. -/
theorem read?_write
    (t : Timestamp)
    (hReadable : t.Readable) :
    read? t.write = some t := by
  rcases writeOffset_eq_cons t.offset with
    ⟨c, rest, hCons, hEnd, hPoint⟩
  have hOffset := readOffset?_writeOffset t.offset_lt
  rw [hCons] at hOffset
  rw [read?, write, String.toList_ofList, hCons]
  exact t.readChars?_writeLocal hReadable hOffset hEnd hPoint

/- A readable timestamp is read back from its short text. -/
theorem read?_writeShort
    (t : Timestamp)
    (hReadable : t.Readable) :
    read? t.writeShort = some t := by
  by_cases hUniversal : t.offset = 0
  · have hOffset : readOffset? ['Z'] = some (t.offset, []) := by
      rw [hUniversal]
      rfl
    rw [read?, writeShort, String.toList_ofList, if_pos hUniversal]
    exact
      t.readChars?_writeLocal hReadable hOffset (by decide)
        (by decide)
  · have hSame : t.writeShort = t.write := by
      rw [writeShort, if_neg hUniversal]
      rfl
    rw [hSame]
    exact t.read?_write hReadable

/-
  The fields of a timestamp with a leap second end in second
  59.
-/
theorem second_of_ofFields?
    {date : Date}
    {hour minute second nanosecond : Nat}
    {offset : Int}
    {t : Timestamp}
    (hLess : nanosecond < tenTo 9)
    (hFields :
      ofFields? date hour minute second nanosecond offset =
        some t) :
    t.date = date ∧ (tenTo 9 ≤ t.nanosecond → t.second = 59) := by
  unfold ofFields? at hFields
  by_cases hLeap : (second == 60) = true
  · simp only [hLeap, if_true] at hFields
    split at hFields
    · cases hFields
      exact ⟨rfl, fun _ => rfl⟩
    · cases hFields
  · simp only [hLeap, if_false, Bool.false_eq_true] at hFields
    split at hFields
    · cases hFields
      exact ⟨rfl, fun hLate => absurd hLess (Nat.not_lt.mpr hLate)⟩
    · cases hFields

/- A fraction is less than one second. -/
theorem lt_of_readFraction?
    {text : List Char}
    {nanosecond : Nat}
    (hRead : readFraction? text = some (nanosecond, rest)) :
    nanosecond < tenTo 9 := by
  unfold readFraction? at hRead
  split at hRead
  · next digits =>
      simp only at hRead
      split at hRead
      · cases hRead
      · cases hRead
        have hDigits :
            ∀ d ∈ (digits.takeWhile Char.isDigit).take 9,
              d.isDigit = true := by
          intro d hMem
          exact List.mem_takeWhile_imp (List.mem_of_mem_take hMem)
        have hLength :
            ((digits.takeWhile Char.isDigit).take 9).length ≤ 9 :=
          List.length_take_le _ _
        generalize (digits.takeWhile Char.isDigit).take 9 = kept
          at hDigits hLength ⊢
        calc
          Text.digitsValue kept * tenTo (9 - kept.length) <
              tenTo kept.length * tenTo (9 - kept.length) :=
            Nat.mul_lt_mul_of_pos_right
              (Text.digitsValue_lt kept hDigits) (tenTo_pos _)
          _ = tenTo (kept.length + (9 - kept.length)) :=
            (Nat.pow_add 10 _ _).symm
          _ = tenTo 9 := by rw [Nat.add_sub_cancel' hLength]
  · cases hRead
    decide

/- Every timestamp that is read from a text is readable. -/
theorem readable_of_read?
    {text : String}
    {t : Timestamp}
    (hRead : read? text = some t) :
    t.Readable := by
  unfold read? readChars? at hRead
  rcases Option.bind_eq_some_iff.mp hRead with
    ⟨⟨year, _⟩, hYear, hRead⟩
  rcases Option.bind_eq_some_iff.mp hRead with ⟨_, _, hRead⟩
  rcases Option.bind_eq_some_iff.mp hRead with ⟨⟨month, _⟩, _, hRead⟩
  rcases Option.bind_eq_some_iff.mp hRead with ⟨_, _, hRead⟩
  rcases Option.bind_eq_some_iff.mp hRead with ⟨⟨day, _⟩, _, hRead⟩
  rcases Option.bind_eq_some_iff.mp hRead with ⟨_, _, hRead⟩
  rcases Option.bind_eq_some_iff.mp hRead with ⟨⟨hour, _⟩, _, hRead⟩
  rcases Option.bind_eq_some_iff.mp hRead with ⟨_, _, hRead⟩
  rcases Option.bind_eq_some_iff.mp hRead with ⟨⟨minute, _⟩, _, hRead⟩
  rcases Option.bind_eq_some_iff.mp hRead with ⟨_, _, hRead⟩
  rcases Option.bind_eq_some_iff.mp hRead with ⟨⟨second, _⟩, _, hRead⟩
  rcases Option.bind_eq_some_iff.mp hRead with
    ⟨⟨nanosecond, _⟩, hFraction, hRead⟩
  rcases Option.bind_eq_some_iff.mp hRead with ⟨⟨offset, _⟩, _, hRead⟩
  rcases Option.bind_eq_some_iff.mp hRead with ⟨date, hDate, hRead⟩
  split at hRead
  · rcases second_of_ofFields? (lt_of_readFraction? hFraction) hRead
      with ⟨hSame, hLast⟩
    refine ⟨?_, hLast⟩
    have hLess : year < 10000 := lt_of_readExact? hYear
    unfold Date.ofParts? at hDate
    split at hDate
    · cases hDate
      rw [hSame]
      exact ⟨Int.natCast_nonneg year, by simp only; omega⟩
    · cases hDate
  · cases hRead

end Timestamp

end Intake
