import FetchPlan.Json.Record
import FetchPlan.Proofs.Json.Printable

/-!
# Parts of record trees

What the strict reader gives comes from the parts of a tree: the items of an array, the
values of the members of an object. A record may be written in either way, and so a part
of it stands one level further inside in both.
-/

namespace FetchPlan.Json

/-! ## Printable trees -/

/-- A tree whose numbers are integers. -/
inductive Tree.Integral : Tree → Prop
  | unreadable : Integral .unreadable
  | null : Integral .null
  | bool (b : Bool) : Integral (.bool b)
  | integer (i : Int) : Integral (.number (.integer i))
  | string (s : String) : Integral (.string s)
  | array {items : List Tree} (h : ∀ t ∈ items, Integral t) : Integral (.array items)
  | object {members : List (Option String × Tree)} (h : ∀ m ∈ members, Integral m.2) :
      Integral (.object members)

theorem Tree.Integral.integral_ofTree? {tree : Tree} (h : tree.Integral) {v : Value}
    (hv : Value.ofTree? tree = some v) : v.Integral := by
  induction h generalizing v with
  | unreadable => cases hv
  | null => cases hv; exact .null
  | bool b => cases hv; exact .bool b
  | integer i => cases hv; exact .integer i
  | string s => cases hv; exact .string s
  | array _ ih =>
    rw [Value.ofTree?] at hv
    obtain ⟨vs, hvs, rfl⟩ := Option.map_eq_some_iff.1 hv
    refine .array fun v hv => ?_
    obtain ⟨t, ht, htv⟩ := exists_of_mem_itemsOfTrees? hvs v hv
    exact ih t ht htv
  | object _ ih =>
    rw [Value.ofTree?] at hv
    obtain ⟨pairs, hpairs, rfl⟩ := Option.map_eq_some_iff.1 hv
    refine .object fun m hm => ?_
    obtain ⟨t, ht, htv⟩ :=
      exists_of_mem_pairsOfTrees? hpairs m ((Members.ofPairs_sound pairs).2 m hm)
    exact ih t ht htv

namespace Tree

/-- A tree inside `level` arrays and objects whose values are printable there. -/
structure Printable (limit level : Nat) (tree : Tree) : Prop where
  sound : tree.Sound limit level
  integral : tree.Integral

/-- The items of an array and the values of the members of an object. -/
def parts : Tree → List Tree
  | .array items => items
  | .object members => members.map Prod.snd
  | _ => []

variable {limit level : Nat} {tree : Tree}

theorem Printable.printable_ofTree? (h : tree.Printable limit level) {v : Value}
    (hv : Value.ofTree? tree = some v) : v.Printable limit level :=
  ⟨h.sound.readable hv, h.integral.integral_ofTree? hv⟩

theorem Printable.part (h : tree.Printable limit level) {t : Tree} (ht : t ∈ tree.parts) :
    t.Printable limit (level + 1) := by
  obtain ⟨hsound, hintegral⟩ := h
  cases hsound with
  | array _ hsound =>
    cases hintegral with
    | array hintegral => exact ⟨hsound t ht, hintegral t ht⟩
  | object _ hsound =>
    cases hintegral with
    | object hintegral =>
      obtain ⟨m, hm, rfl⟩ := List.mem_map.1 ht
      exact ⟨hsound m hm, hintegral m hm⟩
  | unreadable | null | bool | number | string => cases ht

/-! ## What is read from the parts -/

/-- The fields of a record are parts of it. -/
theorem mem_parts_of_fields? {names : List String} {fields : Fields}
    (h : fields? names tree = some fields) : ∀ f ∈ fields, f.2 ∈ tree.parts := by
  intro f hf
  cases tree with
  | object members =>
    obtain ⟨pairs, hpairs, h⟩ := Option.bind_eq_some_iff.1 h
    obtain ⟨-, -, h⟩ := Option.bind_eq_some_iff.1 h
    cases h
    obtain ⟨m, hm, hmf⟩ := exists_of_mem_mapM hpairs f (List.mem_of_mem_filter hf)
    obtain ⟨key, -, rfl⟩ := Option.map_eq_some_iff.1 hmf
    exact List.mem_map_of_mem hm
  | array items =>
    obtain ⟨-, -, h⟩ := Option.bind_eq_some_iff.1 h
    cases h
    exact (List.of_mem_zip hf).2
  | unreadable | null | bool | number | string => cases h

/-- What is read from a tree that stands at `level` satisfies `Q`. -/
def Keeps {α : Type} (limit level : Nat) (read : Tree → Option α) (Q : α → Prop) : Prop :=
  ∀ tree x, tree.Printable limit level → read tree = some x → Q x

theorem keeps_value : Keeps limit level Value.ofTree? (·.Printable limit level) :=
  fun _ _ htree hread => htree.printable_ofTree? hread

section Keeps

variable {α : Type} {read : Tree → Option α} {Q : α → Prop}

theorem keeps_list (h : Keeps limit (level + 1) read Q) :
    Keeps limit level (list? read) fun xs => ∀ x ∈ xs, Q x := by
  intro tree xs htree hread x hx
  cases tree with
  | array items =>
    obtain ⟨t, ht, htx⟩ := exists_of_mem_mapM hread x hx
    exact h t x (htree.part ht) htx
  | unreadable | null | bool | number | string | object => cases hread

variable (h : Keeps limit (level + 1) read Q) {names : List String} {fields : Fields}
  {name : String} (htree : tree.Printable limit level)
  (hfields : fields? names tree = some fields)
include h htree hfields

theorem Keeps.field {t : Tree} {x : α} (hget : fields.lookup name = some t)
    (hread : read t = some x) : Q x :=
  h t x (htree.part (mem_parts_of_fields? hfields _ (Members.mem_of_lookup hget))) hread

theorem Keeps.required {x : α} (hread : required? fields name read = some x) : Q x := by
  obtain ⟨t, hget, hread⟩ := Option.bind_eq_some_iff.1 hread
  exact h.field htree hfields hget hread

theorem Keeps.optional {x : α} (hread : optional? fields name read = some (some x)) : Q x := by
  cases hget : fields.lookup name with
  | none =>
    rw [optional?, hget] at hread
    cases hread
  | some t =>
    have hread : nullable? read t = some (some x) := by rwa [optional?, hget] at hread
    unfold nullable? at hread
    split at hread
    · cases hread
    · obtain ⟨y, hy, heq⟩ := Option.map_eq_some_iff.1 hread
      cases heq
      exact h.field htree hfields hget hy

end Keeps

end Tree

end FetchPlan.Json
