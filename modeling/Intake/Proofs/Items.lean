import Intake.Constraint
import Intake.Proofs.Lists
import Intake.Proofs.Text.Digits

/-
  This file shows what a test of items one by one says about a
  list.  The test ends at the first item that is rejected, and
  the reason names the place of that item.  Behind another
  list the places are counted on from its length.

  Key definitions include:
    * `EndsAtFirst`

  The main statements are:
    * `elementReason_inj`
    * `firstRejected_eq_error_iff`
    * `firstRejected_append`
    * `firstRejected_add_eq_error_iff`
    * `checkItems_endsAtFirst`
-/

namespace Intake

------------------------------------------------------------
-- Places in Reasons
------------------------------------------------------------

/- The digits of a number end where no digit follows. -/
theorem takeWhile_isDigit_toDigits
    (n : Nat)
    {c : Char}
    (rest : List Char)
    (hOther : c.isDigit = false) :
    (Nat.toDigits 10 n ++ c :: rest).takeWhile Char.isDigit =
      Nat.toDigits 10 n := by
  rw [List.takeWhile_append_of_pos fun d hMem =>
    Text.isDigit_of_mem_toDigits hMem]
  simp [hOther]

/- The digits of the place of an item are followed by a colon. -/
theorem toList_elementReason
    (index : Nat)
    (reason : String) :
    (elementReason index reason).toList =
      "element at index ".toList ++
        (Nat.toDigits 10 index ++ ':' :: ' ' :: reason.toList) := by
  have hDigits : (toString index).toList = Nat.toDigits 10 index :=
    Nat.toList_repr
  have hColon : ": ".toList = [':', ' '] := rfl
  unfold elementReason
  simp only [String.toList_append, hDigits, hColon, List.append_assoc,
    List.cons_append, List.nil_append]

/- The reason of an item tells its place and what is wrong with it. -/
theorem elementReason_inj
    {index other : Nat}
    {reason otherReason : String} :
    elementReason index reason = elementReason other otherReason ↔
      index = other ∧ reason = otherReason := by
  constructor
  · intro hSame
    have hChars := congrArg String.toList hSame
    rw [toList_elementReason, toList_elementReason,
      List.append_cancel_left_eq] at hChars
    have hDigits := congrArg (List.takeWhile Char.isDigit) hChars
    rw [takeWhile_isDigit_toDigits _ _ rfl,
      takeWhile_isDigit_toDigits _ _ rfl] at hDigits
    have hIndex := congrArg Text.digitsValue hDigits
    rw [Text.digitsValue_toDigits, Text.digitsValue_toDigits] at hIndex
    subst hIndex
    rw [List.append_cancel_left_eq] at hChars
    injection hChars with _ hRest
    injection hRest with _ hReason
    exact ⟨rfl, String.toList_inj.mp hReason⟩
  · rintro ⟨rfl, rfl⟩
    rfl

------------------------------------------------------------
-- Tests up to the First Rejection
------------------------------------------------------------

section Tests

variable (test : Value → Except String Unit)

/- Items are accepted as a whole exactly if each of them is. -/
theorem firstRejected_eq_ok_iff
    (start : Nat)
    (items : List Value) :
    firstRejected test start items = .ok () ↔
      ∀ v ∈ items, test v = .ok () := by
  induction items generalizing start with
  | nil => simp [firstRejected]
  | cons v rest ih =>
      rw [firstRejected, List.forall_mem_cons]
      cases hTest : test v with
      | ok _ => simp [ih]
      | error reason => simp

/-
  Items are rejected exactly if one of them is and all before
  it are accepted.
-/
theorem firstRejected_eq_error_iff
    (start : Nat)
    (items : List Value)
    (message : String) :
    firstRejected test start items = .error message ↔
      ∃ before v after, items = before ++ v :: after ∧
        (∀ other ∈ before, test other = .ok ()) ∧
          ∃ reason, test v = .error reason ∧
            message = elementReason (start + before.length) reason := by
  induction items generalizing start with
  | nil => simp [firstRejected]
  | cons v rest ih =>
      rw [exists_append_cons_iff _ fun place found =>
        ∃ reason, test found = .error reason ∧
          message = elementReason (start + place) reason]
      rw [firstRejected]
      cases hTest : test v with
      | ok _ =>
          rw [ih]
          simp [Nat.add_assoc, Nat.add_comm 1]
      | error reason => simp [@eq_comm _ message]

/- Items behind others are only tested if those are accepted. -/
theorem firstRejected_append
    (start : Nat)
    (items others : List Value) :
    firstRejected test start (items ++ others) =
      match firstRejected test start items with
      | .ok () => firstRejected test (start + items.length) others
      | .error message => .error message := by
  induction items generalizing start with
  | nil => rfl
  | cons v rest ih =>
      rw [List.cons_append, firstRejected, firstRejected]
      cases hTest : test v with
      | ok _ =>
          simp only [ih, List.length_cons, Nat.add_assoc,
            Nat.add_comm 1]
      | error reason => rfl

/- To count places from further on adds to the place that is named. -/
theorem firstRejected_add_eq_error_iff
    (start shift index : Nat)
    (items : List Value)
    (reason : String) :
    firstRejected test (shift + start) items =
        .error (elementReason (shift + index) reason) ↔
      firstRejected test start items =
        .error (elementReason index reason) := by
  rw [firstRejected_eq_error_iff, firstRejected_eq_error_iff]
  simp only [elementReason_inj, Nat.add_assoc, Nat.add_left_cancel_iff]

/- Tests that agree on all items agree on the list. -/
theorem firstRejected_congr
    {test other : Value → Except String Unit}
    (start : Nat)
    {items : List Value}
    (hSame : ∀ v ∈ items, other v = test v) :
    firstRejected other start items = firstRejected test start items := by
  induction items generalizing start with
  | nil => rfl
  | cons v rest ih =>
      rw [List.forall_mem_cons] at hSame
      rw [firstRejected, firstRejected, hSame.1]
      cases test v with
      | ok _ => exact ih (start + 1) hSame.2
      | error reason => rfl

/- Behind an item that is rejected, nothing matters. -/
theorem firstRejected_take
    (start : Nat)
    {items : List Value}
    {index : Nat}
    {v : Value}
    (hItem : items[index]? = some v)
    {reason : String}
    (hRejected : test v = .error reason) :
    firstRejected test start (items.take (index + 1)) =
      firstRejected test start items := by
  have hMem : v ∈ items.take (index + 1) := mem_take_of_getElem? hItem
  have hSplit :=
    firstRejected_append test start (items.take (index + 1))
      (items.drop (index + 1))
  rw [List.take_append_drop] at hSplit
  rw [hSplit]
  cases hTaken : firstRejected test start (items.take (index + 1)) with
  | ok _ =>
      have hAccepted :=
        (firstRejected_eq_ok_iff test start _).mp hTaken v hMem
      rw [hRejected] at hAccepted
      cases hAccepted
  | error message => rfl

end Tests

------------------------------------------------------------
-- Items of a List
------------------------------------------------------------

/-
  What a test of items one by one says about a list.  The list
  is accepted exactly if each item is.  Else its reason is the
  one of the first item that is rejected, with the index of
  this item, whatever comes after it.  Of two lists, one behind
  the other, the second one counts if the first is accepted,
  and its indices are moved by the length of the first.
-/
structure EndsAtFirst
    (test : Value → Except String Unit)
    (items : List Value) : Prop where
  accepts :
    checkItems test items = .ok () ↔ ∀ v ∈ items, test v = .ok ()
  rejects :
    ∀ message,
      checkItems test items = .error message ↔
        ∃ index v, items[index]? = some v ∧
          (∀ other ∈ items.take index, test other = .ok ()) ∧
            ∃ reason, test v = .error reason ∧
              message =
                "element at index " ++ toString index ++ ": " ++ reason
  unaffected :
    ∀ index v reason, items[index]? = some v → test v = .error reason →
      ∀ (others : List Value) (otherTest : Value → Except String Unit),
        others.take (index + 1) = items.take (index + 1) →
          (∀ w ∈ items.take (index + 1), otherTest w = test w) →
            checkItems otherTest others = checkItems test items
  rejectedBefore :
    ∀ others message, checkItems test items = .error message →
      checkItems test (items ++ others) = .error message
  acceptedBefore :
    ∀ others, checkItems test items = .ok () →
      (checkItems test (items ++ others) = .ok () ↔
          checkItems test others = .ok ()) ∧
        ∀ index reason,
          checkItems test (items ++ others) =
              .error
                ("element at index " ++ toString (items.length + index) ++
                  ": " ++ reason) ↔
            checkItems test others =
              .error
                ("element at index " ++ toString index ++ ": " ++ reason)

/- Every test of items one by one ends so, on every list. -/
theorem checkItems_endsAtFirst
    (test : Value → Except String Unit)
    (items : List Value) :
    EndsAtFirst test items := by
  constructor
  case accepts => exact firstRejected_eq_ok_iff test 0 items
  case rejects =>
    intro message
    have hRejects :=
      (firstRejected_eq_error_iff test 0 items message).trans
        (exists_append_cons_iff_getElem? _
          (fun place v =>
            ∃ reason, test v = .error reason ∧
              message = elementReason (0 + place) reason)
          items)
    rw [checkItems, hRejects]
    simp only [Nat.zero_add]
    rfl
  case unaffected =>
    intro index v reason hItem hRejected others otherTest hTaken hSame
    have hOther : others[index]? = some v := by
      rw [← List.getElem?_take_of_lt (Nat.lt_succ_self index), hTaken,
        List.getElem?_take_of_lt (Nat.lt_succ_self index), hItem]
    have hOtherRejected : otherTest v = .error reason := by
      rw [hSame v (mem_take_of_getElem? hItem), hRejected]
    calc
      checkItems otherTest others =
          firstRejected otherTest 0 (others.take (index + 1)) :=
        (firstRejected_take otherTest 0 hOther hOtherRejected).symm
      _ = firstRejected otherTest 0 (items.take (index + 1)) := by
        rw [hTaken]
      _ = firstRejected test 0 (items.take (index + 1)) :=
        firstRejected_congr 0 hSame
      _ = checkItems test items :=
        firstRejected_take test 0 hItem hRejected
  case rejectedBefore =>
    intro others message hRejected
    unfold checkItems at hRejected ⊢
    rw [firstRejected_append, hRejected]
  case acceptedBefore =>
    intro others hAccepted
    have hJoined :
        checkItems test (items ++ others) =
          firstRejected test (items.length + 0) others := by
      unfold checkItems at hAccepted ⊢
      rw [firstRejected_append, hAccepted, Nat.zero_add, Nat.add_zero]
    rw [hJoined]
    constructor
    · unfold checkItems
      rw [firstRejected_eq_ok_iff, firstRejected_eq_ok_iff]
    · intro index reason
      have hMoved :=
        firstRejected_add_eq_error_iff test 0 items.length index others
          reason
      unfold elementReason at hMoved
      exact hMoved

/- The second of three items is the first one that is rejected. -/
example :
    checkItems
        (fun v => if v.isNull then .error "empty" else .ok ())
        [.bool true, .null, .null] =
      .error "element at index 1: empty" :=
  rfl

end Intake
