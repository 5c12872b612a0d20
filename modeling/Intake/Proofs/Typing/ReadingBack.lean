import Intake.Proofs.Calendar.Timestamp
import Intake.Proofs.Decimal
import Intake.Proofs.Integers
import Intake.Value.Text

/-
  This file shows that the text of a coerced value is coerced
  to the same value again.

  It is the value itself that comes back, and not just one that
  is equal to it as a number or as a point in time: a decimal
  has the same scale, and a timestamp the same local time and
  the same offset.

  Key definitions include:
    * `Coercer.ReadsBack`

  The main statements are:
    * `Coercer.coerce_write`
-/

namespace Intake

namespace Coercer

/-
  Every value that a coercer gives is given for its text as
  well, if days have years of four digits.
-/
def ReadsBack
    (coerce : Coercer) : Prop :=
  ∀ raw v, coerce raw = .ok v → (∀ d, v = .date d → d.HasPlainYear) →
    coerce (.string v.write) = .ok v

theorem string_readsBack :
    ReadsBack string := by
  intro raw v hCoerce _
  rcases eq_of_string_eq_ok hCoerce with ⟨s, _, rfl⟩
  rfl

theorem boolean_readsBack :
    ReadsBack boolean := by
  intro raw v hCoerce _
  rcases eq_of_boolean_eq_ok hCoerce with ⟨b, rfl⟩
  cases b <;> rfl

theorem integer_readsBack :
    ReadsBack integer := by
  intro raw v hCoerce _
  rcases eq_of_integer_eq_ok hCoerce with ⟨k, inRange, _, rfl⟩
  have hRead : wholeNumber? (.string (toString k)) = some k :=
    (wholeNumber?_eq_some_iff _ _).mpr (.string (Text.isNumeral_toString k))
  have hFits := (ofInt?_eq_some_iff k _).mpr ⟨inRange, rfl⟩
  rw [Value.write, integer, hRead, Option.bind_some, hFits, orReason]

/- A decimal keeps its scale. -/
theorem decimal_readsBack :
    ReadsBack decimal := by
  intro raw v hCoerce _
  rcases eq_of_decimal_eq_ok hCoerce with ⟨d, rfl⟩
  rw [Value.write, decimal, d.read?_write, Option.map_some, orReason]

theorem date_readsBack :
    ReadsBack date := by
  intro raw v hCoerce hYear
  rcases eq_of_date_eq_ok hCoerce with ⟨_, d, _, _, rfl⟩
  rw [Value.write, date, d.read?_write (hYear d rfl), Option.map_some,
    orReason]

/-
  A timestamp keeps its local time, with the fraction of the
  second and a leap second, and its offset.
-/
theorem timestamp_readsBack :
    ReadsBack timestamp := by
  intro raw v hCoerce _
  rcases eq_of_timestamp_eq_ok hCoerce with ⟨_, t, _, hRead, rfl⟩
  have hReadable := Timestamp.readable_of_read? hRead
  rw [Value.write, timestamp, t.read?_write hReadable, Option.map_some,
    orReason]

/-
  A value of a builtin type other than the doubles is coerced
  again from its text, if days have years of four digits.
-/
theorem coerce_write
    {name : String}
    {coerce : Coercer}
    (hFound : TypeTable.builtins.scalar? name = some coerce)
    (hExact : name ≠ "float")
    {raw : Raw}
    {v : Value}
    (hCoerce : coerce raw = .ok v)
    (hYear : ∀ d, v = .date d → d.HasPlainYear) :
    coerce (.string v.write) = .ok v := by
  have hMem := TypeTable.mem_of_scalar?_builtins hFound
  simp only [TypeTable.builtinCoercers, List.mem_cons, Prod.mk.injEq,
    List.not_mem_nil, or_false] at hMem
  rcases hMem with ⟨_, rfl⟩ | ⟨_, rfl⟩ | ⟨rfl, _⟩ |
    ⟨_, rfl⟩ | ⟨_, rfl⟩ | ⟨_, rfl⟩ | ⟨_, rfl⟩
  · exact string_readsBack raw v hCoerce hYear
  · exact integer_readsBack raw v hCoerce hYear
  · exact absurd rfl hExact
  · exact decimal_readsBack raw v hCoerce hYear
  · exact boolean_readsBack raw v hCoerce hYear
  · exact date_readsBack raw v hCoerce hYear
  · exact timestamp_readsBack raw v hCoerce hYear

/-
  A leap second with a fraction and an offset is written with
  three digits more, and comes back as it was.
-/
theorem leap_second_coerced_again :
    TypeTable.builtins.scalar? "datetime" = some timestamp ∧
      "datetime" ≠ "float" ∧
      ∃ t : Timestamp,
        t.second = 59 ∧ t.nanosecond = 1500000000 ∧ t.offset = 120 ∧
          timestamp (.string "2016-12-31T23:59:60.5+02:00") =
            .ok (.timestamp t) ∧
          (∀ d, Value.timestamp t = .date d → d.HasPlainYear) ∧
          (Value.timestamp t).write = "2016-12-31T23:59:60.500+02:00" ∧
          timestamp (.string (Value.timestamp t).write) =
            .ok (.timestamp t) := by
  have hFound :
      TypeTable.builtins.scalar? "datetime" = some timestamp :=
    rfl
  have hRead :
      Timestamp.read? "2016-12-31T23:59:60.5+02:00" =
        some
          ⟨⟨2016, 12, 31, by decide, by decide⟩, 23, 59, 59, 1500000000,
            120, by decide, by decide, by decide, by decide, by decide⟩ := by
    decide +kernel
  have hCoerce :
      timestamp (.string "2016-12-31T23:59:60.5+02:00") =
        .ok (.timestamp
          ⟨⟨2016, 12, 31, by decide, by decide⟩, 23, 59, 59, 1500000000,
            120, by decide, by decide, by decide, by decide, by decide⟩) := by
    rw [timestamp, hRead]
    rfl
  refine
    ⟨hFound, by decide, _, rfl, rfl, rfl, hCoerce, nofun,
      by decide +kernel, ?_⟩
  exact coerce_write hFound (by decide) hCoerce nofun

end Coercer

end Intake
