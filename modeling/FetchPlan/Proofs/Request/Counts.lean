import FetchPlan.Proofs.Json.Digits
import FetchPlan.Proofs.Request.Shapes
import Mathlib.Data.List.Induction
import Mathlib.Data.Nat.Digits.Defs

/-!
# Which values are counts

A count is given as an integer or as a text of decimal digits of any length. What such a
text stands for is told place by place, without a bound; it is a count exactly when it is
below `2 ^ 64`. The values that are refused are listed one kind after the other, so that
nothing is left between the two.
-/

namespace FetchPlan

open Json (Value Pointer)

/-! ## Runs of digits -/

/-- The number that a run of decimal digits stands for: the last digit counts ones, the one
before it tens, and so on. -/
def placeValue (ds : List Char) : Nat :=
  Nat.ofDigits 10 (ds.reverse.map fun c => c.toNat - '0'.toNat)

/-- Reading from the left gives what the places say. -/
theorem Json.digitsValue_eq_placeValue (ds : List Char) : digitsValue ds = placeValue ds := by
  induction ds using List.reverseRecOn with
  | nil => rfl
  | append_singleton ds d ih =>
    rw [digitsValue_append_singleton, ih, placeValue, placeValue, List.reverse_append,
      List.reverse_singleton, List.singleton_append, List.map_cons, Nat.ofDigits_cons,
      Nat.add_comm]

namespace Count

/-! ## Values that are accepted and refused -/

/-- The values that give the number `n`, which may be of any size. -/
inductive Gives (n : Nat) : Value → Prop
  | integer : Gives n (.ofNat n)
  | digits {s : String} (nonempty : s ≠ "") (all : ∀ c ∈ s.toList, c.isDigit)
      (value : placeValue s.toList = n) : Gives n (.string s)

/-- The values that are no count and do not clear one. -/
inductive Refused : Value → Prop
  | negative {i : Int} (negative : i < 0) : Refused (.number (.integer i))
  | tooGreat {n : Nat} {v : Value} (gives : Gives n v) (great : 2 ^ 64 ≤ n) : Refused v
  | float (x : Decimal.Binary64) : Refused (.number (.float x))
  | text {s : String} {c : Char} (mem : c ∈ s.toList) (other : ¬ c.isDigit) :
    Refused (.string s)
  | bool (b : Bool) : Refused (.bool b)
  | array (items : List Value) : Refused (.array items)
  | object (members : Json.Members) : Refused (.object members)

theorem Gives.unique {m n : Nat} {v : Value} (hm : Gives m v) (hn : Gives n v) : m = n := by
  cases hm with
  | integer =>
    cases hn with
    | integer => rfl
  | digits _ _ hvalue =>
    cases hn with
    | digits _ _ hvalue' => exact hvalue.symm.trans hvalue'

/-- Some count stands for each number below `2 ^ 64`. -/
theorem exists_toNat_eq {n : Nat} (h : n < 2 ^ 64) : ∃ c : Count, c.toNat = n :=
  ⟨UInt64.ofNatLT n h, UInt64.toNat_ofNatLT⟩

theorem form_none_iff {v : Value} : Form none v ↔ v = .null ∨ v = .string "" := by
  constructor
  · rintro (_ | _)
    · exact .inl rfl
    · exact .inr rfl
  · rintro (rfl | rfl)
    · exact .null
    · exact .empty

theorem form_some_iff {c : Count} {v : Value} : Form (some c) v ↔ Gives c.toNat v := by
  constructor
  · intro h
    cases h with
    | number => exact .integer
    | digits _ hne hall hvalue =>
      exact .digits hne (List.all_eq_true.1 hall)
        (Json.digitsValue_eq_placeValue _ ▸ hvalue)
  · intro h
    cases h with
    | integer => exact .number c
    | digits hne hall hvalue =>
      exact .digits c hne (List.all_eq_true.2 hall)
        (Json.digitsValue_eq_placeValue _ ▸ hvalue)

/-- A value that gives a number is a form of a count, unless the number is too great. -/
theorem Gives.form_or_refused {n : Nat} {v : Value} (h : Gives n v) :
    (∃ c, Form c v) ∨ Refused v := by
  by_cases hlt : n < 2 ^ 64
  · obtain ⟨c, rfl⟩ := exists_toNat_eq hlt
    exact .inl ⟨some c, form_some_iff.2 h⟩
  · exact .inr (.tooGreat h (Nat.le_of_not_lt hlt))

/-- Every value is a form of a count or refused. -/
theorem form_or_refused (v : Value) : (∃ c, Form c v) ∨ Refused v := by
  cases v with
  | null => exact .inl ⟨none, .null⟩
  | number number =>
    cases number with
    | integer i =>
      cases i with
      | ofNat n => exact Gives.form_or_refused (n := n) .integer
      | negSucc n => exact .inr (.negative (Int.negSucc_lt_zero n))
    | float x => exact .inr (.float x)
  | string s =>
    by_cases hempty : s = ""
    · exact .inl ⟨none, hempty ▸ .empty⟩
    · by_cases hall : ∀ c ∈ s.toList, c.isDigit
      · exact Gives.form_or_refused (.digits hempty hall rfl)
      · simp only [not_forall] at hall
        obtain ⟨c, hmem, hother⟩ := hall
        exact .inr (.text hmem hother)
  | bool b => exact .inr (.bool b)
  | array items => exact .inr (.array items)
  | object members => exact .inr (.object members)

/-- No form of a count is refused. -/
theorem Form.not_refused {c : Option Count} {v : Value} (h : Form c v) : ¬ Refused v := by
  intro hrefused
  cases hrefused with
  | negative hnegative =>
    cases h with
    | number n => exact absurd hnegative (Int.not_lt.2 (Int.natCast_nonneg _))
  | tooGreat hgives hgreat =>
    cases h with
    | null => cases hgives
    | empty =>
      cases hgives with
      | digits hne => exact hne rfl
    | number n =>
      rw [hgives.unique .integer] at hgreat
      exact absurd n.toNat_lt (Nat.not_lt.2 hgreat)
    | digits n hne hall hvalue =>
      have hn := form_some_iff.1 (.digits n hne hall hvalue)
      rw [hgives.unique hn] at hgreat
      exact absurd n.toNat_lt (Nat.not_lt.2 hgreat)
  | text hmem hother =>
    cases h with
    | empty => simp at hmem
    | digits _ _ hall => exact hother (List.all_eq_true.1 hall _ hmem)
  | float | bool | array | object => cases h

/-- The text of a count as it is written, with zeros in front of it. -/
theorem gives_text (n : Count) (zeros : Nat) :
    Gives n.toNat
      (.string (String.ofList (Decimal.zeros zeros ++ Json.Number.text (.integer n.toNat)))) := by
  have htext : Json.Number.text (.integer n.toNat) = Decimal.digits n.toNat := rfl
  rw [htext]
  refine .digits ?_ ?_ ?_
  · intro hempty
    have hnil := String.ofList_eq_empty_iff.1 hempty
    exact Json.digits_ne_nil _ (List.append_eq_nil_iff.1 hnil).2
  · intro c hc
    rw [String.toList_ofList] at hc
    rcases List.mem_append.1 hc with hc | hc
    · rw [List.eq_of_mem_replicate hc]
      rfl
    · exact Json.isDigit_of_mem_digits hc
  · rw [String.toList_ofList, ← Json.digitsValue_eq_placeValue, Json.digitsValue_zeros_append,
      Json.digitsValue_digits]

end Count

/-! ## Reading counts -/

theorem Shape.text_eq_count_iff {s : Shape} : s.text = "non-negative integer" ↔ s = .count := by
  cases s <;> decide

namespace Decode

variable {path : Pointer} {v : Value}

theorem count_eq_ok_iff {n : Option Count} : count path v = .ok n ↔ Count.Form n v := by
  rw [← countOf?_eq_some_iff]
  unfold count
  cases countOf? v <;> simp

theorem count_eq_error_iff {m : Mismatch} :
    count path v = .error m ↔ Count.Refused v ∧ m = .ofValue path .count v := by
  constructor
  · intro h
    have hrefused : Count.Refused v := by
      refine (Count.form_or_refused v).resolve_left ?_
      rintro ⟨n, hform⟩
      rw [count_eq_ok_iff.2 hform] at h
      cases h
    unfold count at h
    split at h
    · cases h
    · cases h
      exact ⟨hrefused, rfl⟩
  · rintro ⟨hrefused, rfl⟩
    unfold count
    split
    · next n hn => exact absurd hrefused (countOf?_eq_some_iff.1 hn).not_refused
    · rfl

end Decode

/-- **Counts.** A count is cleared by null and the empty text, and given by an integer or a
text of digits below `2 ^ 64`, of any length and with any number of zeros in front; so the
number that is read is never another one than the one that is given. Every other value is
refused where it stands, and described. A count that is written as a text is read like the
number. -/
theorem count_accepts_exactly (path : Pointer) :
    (∀ v : Value,
      (Decode.count path v = .ok none ↔ v = .null ∨ v = .string "") ∧
      (∀ n : Count, Decode.count path v = .ok (some n) ↔ Count.Gives n.toNat v) ∧
      ∀ m : Mismatch, Decode.count path v = .error m ↔
        Count.Refused v ∧ m.path = path ∧ m.expected.text = "non-negative integer" ∧
          m.found = .ofValue v ∧ m.found.text = v.description) ∧
      ∀ (n : Count) (zeros : Nat),
        Decode.count path (.ofNat n.toNat) = .ok (some n) ∧
        Decode.count path (.string (String.ofList
          (Decimal.zeros zeros ++ Json.Number.text (.integer n.toNat)))) = .ok (some n) := by
  constructor
  · intro v
    refine ⟨?_, ?_, ?_⟩
    · rw [Decode.count_eq_ok_iff, Count.form_none_iff]
    · intro n
      rw [Decode.count_eq_ok_iff, Count.form_some_iff]
    · intro m
      rw [Decode.count_eq_error_iff, Shape.text_eq_count_iff]
      obtain ⟨at_path, expected, found⟩ := m
      simp only [Mismatch.ofValue, Mismatch.mk.injEq]
      constructor
      · rintro ⟨hrefused, rfl, rfl, rfl⟩
        exact ⟨hrefused, rfl, rfl, rfl, Found.text_ofValue v⟩
      · rintro ⟨hrefused, rfl, rfl, rfl, -⟩
        exact ⟨hrefused, rfl, rfl, rfl⟩
  · intro n zeros
    constructor
    · exact Decode.count_eq_ok_iff.2 (.number n)
    · exact Decode.count_eq_ok_iff.2 (Count.form_some_iff.2 (Count.gives_text n zeros))

example : Decode.count [] (.string "00018446744073709551615") =
    .ok (some 18446744073709551615) := by decide +kernel

example : Decode.count [] (.string "18446744073709551616") =
    .error ⟨[], .count, .string "18446744073709551616"⟩ := by decide +kernel

end FetchPlan
