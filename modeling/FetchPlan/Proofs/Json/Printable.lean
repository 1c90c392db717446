import FetchPlan.Document.Load
import FetchPlan.Proofs.Json.ReadValues

/-!
# Printable values

A value that a text can give and whose numbers are integers comes back from its printed
forms, with its members in their order. Writers build such values around given ones.
-/

namespace FetchPlan

open Json (Value Members Tree)

/-- A value that comes back when it is printed and read, inside `level` arrays and
objects. -/
structure Json.Value.Printable (limit level : Nat) (v : Value) : Prop where
  readable : v.Readable limit level
  integral : v.Integral

namespace Json.Value

variable {limit level : Nat}

/-! ## Printable values by their parts -/

theorem printable_null : (Value.null).Printable limit level := ⟨⟨.null, .null level⟩, .null⟩

theorem printable_bool (b : Bool) : (Value.bool b).Printable limit level :=
  ⟨⟨.bool b, .bool level b⟩, .bool b⟩

theorem printable_string (s : String) : (Value.string s).Printable limit level :=
  ⟨⟨.string s, .string level s⟩, .string s⟩

theorem printable_ofNat {n : Nat} (h : n < 18446744073709551616) :
    (Value.ofNat n).Printable limit level := by
  have hrange : Number.inRange n := by
    rw [Number.inRange, decide_eq_true_eq]
    omega
  exact ⟨⟨.number hrange, .number level _⟩, .integer n⟩

/-- A list is printable where there is room for it, when each item is one level further
inside. -/
theorem printable_array {α : Type} {write : α → Value} {xs : List α} (room : level < limit)
    (h : ∀ x ∈ xs, (write x).Printable limit (level + 1)) :
    (Value.array (xs.map write)).Printable limit level := by
  have hitems : ∀ v ∈ xs.map write, v.Printable limit (level + 1) := by
    intro v hv
    obtain ⟨x, hx, rfl⟩ := List.mem_map.1 hv
    exact h x hx
  exact ⟨⟨.array fun v hv => (hitems v hv).readable.wellFormed,
    .array room fun v hv => (hitems v hv).readable.fits⟩,
    .array fun v hv => (hitems v hv).integral⟩

theorem printable_object {ms : Members} (room : level < limit) (distinct : ms.keys.Nodup)
    (h : ∀ m ∈ ms, m.2.Printable limit (level + 1)) :
    (Value.object ms).Printable limit level :=
  ⟨⟨.object distinct fun m hm => (h m hm).readable.wellFormed,
    .object room fun m hm => (h m hm).readable.fits⟩, .object fun m hm => (h m hm).integral⟩

/-! ## Round trips -/

variable {v : Value}

theorem Printable.tree_compact (h : v.Printable limit 0) :
    Tree.ofText? limit v.compact = some v.toTree :=
  Tree.ofText?_compact h.readable.wellFormed h.integral h.readable.fits

theorem Printable.tree_pretty (h : v.Printable limit 0) :
    Tree.ofText? limit v.pretty = some v.toTree :=
  Tree.ofText?_pretty h.readable.wellFormed h.integral h.readable.fits

theorem Printable.ofText?_compact (h : v.Printable limit 0) :
    Value.ofText? limit v.compact = some v :=
  Value.ofText?_eq_some h.readable.wellFormed h.tree_compact

end Json.Value

/-! ## Documents -/

namespace Document

variable {explain : String → String} {text : String} {v : Value}

theorem ofText_eq_ok_iff :
    ofText explain text = .ok v ↔ Value.ofText? Json.nestingLimit text = some v := by
  unfold ofText
  cases Value.ofText? Json.nestingLimit text <;> simp

/-- A document whose tree is that of a well-formed value is read as the value. -/
theorem ofText_eq_ok (hv : v.WellFormed)
    (h : Tree.ofText? Json.nestingLimit text = some v.toTree) : ofText explain text = .ok v :=
  ofText_eq_ok_iff.2 (Value.ofText?_eq_some hv h)

/-- What is read from a document may stand in a document again. -/
theorem readable_ofText (h : ofText explain text = .ok v) :
    v.Readable Json.nestingLimit 0 :=
  Value.readable_ofText? (ofText_eq_ok_iff.1 h)

end Document

end FetchPlan
