import FetchPlan.Request.Decode

/-!
# Values that have a shape

Which values a reader of a single value takes, and for what they stand, is said here without
the readers: a count and a flag each have several forms. Every other value is refused, and
described in words that are written out here.
-/

namespace FetchPlan

open Json (Value Pointer)

/-! ## Counts and flags -/

/-- The values that stand for a count, or for none. -/
inductive Count.Form : Option Count → Value → Prop
  | null : Form none .null
  | empty : Form none (.string "")
  | number (n : Count) : Form (some n) (.ofNat n.toNat)
  | digits (n : Count) {s : String} (nonempty : s ≠ "") (all : s.toList.all Char.isDigit)
      (value : Json.digitsValue s.toList = n.toNat) : Form (some n) (.string s)

/-- The values that stand for a flag. -/
def flagForms : Bool → List Value
  | true => [.bool true, .ofNat 1, .string "true", .string "1"]
  | false => [.bool false, .ofNat 0, .string "false", .string "0"]

theorem Count.ofNat?_eq_some_iff {n : Nat} {c : Count} :
    ofNat? n = some c ↔ c.toNat = n := by
  constructor
  · exact toNat_of_ofNat?
  · rintro rfl
    exact ofNat?_toNat c

theorem Count.ofInt?_eq_some_iff {i : Int} {c : Count} :
    ofInt? i = some c ↔ i = (c.toNat : Int) := by
  cases i with
  | ofNat n =>
    rw [ofInt?, ofNat?_eq_some_iff, Int.ofNat_eq_natCast, Int.natCast_inj]
    exact eq_comm
  | negSucc n => simp [ofInt?]

theorem Count.ofDigits?_eq_some_iff {s : String} {c : Count} :
    ofDigits? s = some c ↔ s.toList.all Char.isDigit ∧ Json.digitsValue s.toList = c.toNat := by
  unfold ofDigits?
  split
  · next h =>
    rw [ofNat?_eq_some_iff]
    simp [h, eq_comm]
  · next h => simp [h]

theorem Decode.countOf?_eq_some_iff {v : Value} {n : Option Count} :
    countOf? v = some n ↔ Count.Form n v := by
  constructor
  · intro h
    cases v with
    | null =>
      cases h
      exact .null
    | number number =>
      cases number with
      | integer i =>
        obtain ⟨c, hc, rfl⟩ := Option.map_eq_some_iff.1 h
        rw [Count.ofInt?_eq_some_iff.1 hc]
        exact .number c
      | float x => cases h
    | string s =>
      rw [countOf?] at h
      split at h
      · next hs =>
        cases h
        rw [hs]
        exact .empty
      · next hs =>
        obtain ⟨c, hc, rfl⟩ := Option.map_eq_some_iff.1 h
        obtain ⟨hall, hvalue⟩ := Count.ofDigits?_eq_some_iff.1 hc
        exact .digits c hs hall hvalue
    | bool b => cases h
    | array items => cases h
    | object members => cases h
  · intro h
    cases h with
    | null => rfl
    | empty => rfl
    | number n =>
      rw [Value.ofNat, countOf?, Count.ofInt?_eq_some_iff.2 rfl]
      rfl
    | digits n hne hall hvalue =>
      rw [countOf?, if_neg hne, Count.ofDigits?_eq_some_iff.2 ⟨hall, hvalue⟩]
      rfl

theorem Decode.flagOf?_eq_some_iff {v : Value} {b : Bool} :
    flagOf? v = some b ↔ v ∈ flagForms b := by
  cases v with
  | bool b' => cases b <;> cases b' <;> decide
  | number n =>
    rw [flagOf?]
    split
    · next h => cases b <;> simp [h, flagForms, Value.ofNat]
    · split
      · next h => cases b <;> simp [h, flagForms, Value.ofNat]
      · next h₀ h₁ => cases b <;> simp [flagForms, Value.ofNat] <;> assumption
  | string s =>
    rw [flagOf?]
    split
    · next h => rcases h with rfl | rfl <;> cases b <;> decide
    · next htrue =>
      split
      · next h => rcases h with rfl | rfl <;> cases b <;> decide
      · next hfalse =>
        rw [not_or] at htrue hfalse
        cases b
        · simp [flagForms, Value.ofNat, hfalse]
        · simp [flagForms, Value.ofNat, htrue]
  | null => cases b <;> decide
  | array items => cases b <;> simp [flagOf?, flagForms, Value.ofNat]
  | object members => cases b <;> simp [flagOf?, flagForms, Value.ofNat]

theorem Decode.flagForm_ne_null {b : Bool} {v : Value} (h : v ∈ flagForms b) : v ≠ .null := by
  rintro rfl
  revert h
  cases b <;> decide

/-! ## Descriptions -/

/-- The names of the types of values. -/
def Json.Value.typeName : Value → String
  | .null => "null"
  | .bool _ => "boolean"
  | .number _ => "number"
  | .string _ => "string"
  | .array _ => "array"
  | .object _ => "object"

/-- How a value is described: numbers as they are written and strings in quotes, both with
the names of their types, and of any other value the name alone. -/
def Json.Value.description : Value → String
  | .number n => "number " ++ String.ofList n.text
  | .string s => "string " ++ Text.quoted s
  | v => v.typeName

theorem Json.Value.name_kind (v : Value) : v.kind.name = v.typeName := by
  cases v <;> rfl

theorem Found.text_ofValue (v : Value) : (ofValue v).text = v.description := by
  cases v <;> rfl

/-! ## Shapes -/

/-- The values of a shape. Of an array or object only the outer form is asked for; its parts
have shapes of their own. -/
def Shape.Admits : Shape → Value → Prop
  | .strings, v => v.kind = .string ∨ v.kind = .array
  | .string, v => v.kind = .string
  | .sortItems, v | .filterGroups, v | .filters, v => v.kind = .array
  | .object, v => v.kind = .object
  | .count, v => ∃ n, Count.Form n v
  | .flag, v => ∃ b, v ∈ flagForms b

/-- The shapes of arrays other than the list of include tokens. -/
def Shape.IsList : Shape → Prop
  | .sortItems | .filterGroups | .filters => True
  | _ => False

namespace Decode

/-- The reader refuses only values that do not have the shape, and reports them so. -/
def Demands {α : Type} (read : Pointer → Value → Except Mismatch α) (s : Shape) : Prop :=
  ∀ path v m, read path v = .error m → ¬ s.Admits v ∧ m = .ofValue path s v

theorem demands_string : Demands string .string := by
  intro path v m h
  cases v <;> cases h <;> exact ⟨nofun, rfl⟩

theorem demands_members : Demands members .object := by
  intro path v m h
  cases v <;> cases h <;> exact ⟨nofun, rfl⟩

theorem demands_items {s : Shape} (hs : s.IsList) : Demands (items · s) s := by
  intro path v m h
  cases s <;> cases hs <;> cases v <;> cases h <;> exact ⟨nofun, rfl⟩

theorem demands_count : Demands count .count := by
  intro path v m h
  unfold count at h
  split at h
  · cases h
  · next hnone =>
    cases h
    refine ⟨?_, rfl⟩
    rintro ⟨n, hn⟩
    rw [countOf?_eq_some_iff.2 hn] at hnone
    cases hnone

theorem demands_flag : Demands flag .flag := by
  intro path v m h
  unfold flag at h
  split at h
  · cases h
  · next hnone =>
    cases h
    refine ⟨?_, rfl⟩
    rintro ⟨b, hb⟩
    rw [flagOf?_eq_some_iff.2 hb] at hnone
    cases hnone

end Decode

end FetchPlan
