import FetchPlan.Proofs.Json.PointerText
import FetchPlan.Proofs.Request.Contents
import FetchPlan.Proofs.Request.Runs
import FetchPlan.Proofs.Request.Shapes

/-!
# Where mismatches are

Each place of a request or a defaults document has a shape that is expected there. Every
reader keeps one invariant: when it is given the value at a place of a document, the
mismatch that it reports is that of a value that does not have the shape of its place, or
of a key that is missing in an object.
-/

namespace FetchPlan

open Json (Value Members Pointer)

/-- The places, what is expected there, and whether null will do as well. -/
inductive Place : Pointer → Shape → (nullable : Bool) → Prop
  | includes : Place [.key "includes"] .strings false
  | token (i : Nat) : Place [.key "includes", .index i] .string false
  | sort : Place [.key "sort"] .sortItems false
  | sortItem (i : Nat) : Place [.key "sort", .index i] .object false
  | field (i : Nat) : Place [.key "sort", .index i, .key "field"] .string false
  | direction (i : Nat) : Place [.key "sort", .index i, .key "direction"] .string true
  | limit : Place [.key "limit"] .count false
  | page : Place [.key "page"] .count false
  | groups : Place [.key "filter_groups"] .filterGroups false
  | group (i : Nat) : Place [.key "filter_groups", .index i] .object false
  | joining (i : Nat) : Place [.key "filter_groups", .index i, .key "or"] .flag true
  | filters (i : Nat) : Place [.key "filter_groups", .index i, .key "filters"] .filters false
  | filter (i j : Nat) :
    Place [.key "filter_groups", .index i, .key "filters", .index j] .object false
  | filterKey (i j : Nat) :
    Place [.key "filter_groups", .index i, .key "filters", .index j, .key "key"] .string false
  | operator (i j : Nat) :
    Place [.key "filter_groups", .index i, .key "filters", .index j, .key "operator"] .string
      false
  | negation (i j : Nat) :
    Place [.key "filter_groups", .index i, .key "filters", .index j, .key "not"] .flag true
  | groupBy : Place [.key "group_by"] .string false
  | selects : Place [.key "selects"] .string false
  | mode : Place [.key "mode"] .string false

/-- The values that are acceptable at a place. -/
def Shape.Accepts (s : Shape) (nullable : Bool) (v : Value) : Prop :=
  s.Admits v ∨ (nullable ∧ v = .null)

/-- The keys that an object must have. -/
def requiredKeys : List String := ["field", "key", "operator"]

/-- The mismatch is one of the document: of an unacceptable value at its place, or of a
missing key. -/
inductive Mismatch.Located (document : Value) (m : Mismatch) : Prop
  | value {v : Value} {nullable : Bool} (at_path : m.path.resolve? document = some v)
      (found : m.found = .ofValue v) (place : Place m.path m.expected nullable)
      (unacceptable : ¬ m.expected.Accepts nullable v)
  | missing {parent : Pointer} {key : String} {members : Members}
      (path : m.path = parent ++ [.key key])
      (at_parent : parent.resolve? document = some (.object members))
      (absent : members.get? key = none) (required : key ∈ requiredKeys)
      (found : m.found = .nothing) (place : Place m.path m.expected false)

theorem Json.Pointer.resolve?_append (p : Pointer) (s : Pointer.Step) (v : Value) :
    (p ++ [s]).resolve? v = (p.resolve? v).bind s.follow := by
  induction p generalizing v with
  | nil =>
    show (s.follow v).bind some = s.follow v
    cases s.follow v <;> rfl
  | cons t p ih =>
    show (t.follow v).bind _ = ((t.follow v).bind _).bind _
    rw [Option.bind_assoc]
    exact congrArg _ (funext fun w => ih w)

namespace Decode

/-- A reader that is given the value at `path` reports mismatches of the document. -/
def Locates {α : Type} (read : Pointer → Value → Except Mismatch α) (path : Pointer) : Prop :=
  ∀ document v m, path.resolve? document = some v → read path v = .error m →
    m.Located document

/-! ## Single values -/

theorem Demands.locates {α : Type} {read : Pointer → Value → Except Mismatch α} {s : Shape}
    {path : Pointer} (h : Demands read s) (hplace : Place path s false) :
    Locates read path := by
  intro document v m hat hread
  obtain ⟨hnot, rfl⟩ := h path v m hread
  refine .value hat rfl hplace ?_
  rintro (hadmits | ⟨hnull, -⟩)
  · exact hnot hadmits
  · cases hnull

section Fields

variable {document : Value} {path : Pointer} {ms : Members} {key : String} {m : Mismatch}

/-- The value of a key stands one step further. -/
theorem resolve?_member {v : Value} (hat : path.resolve? document = some (.object ms))
    (hget : ms.get? key = some v) :
    Pointer.resolve? (path ++ [.key key]) document = some v := by
  rw [Json.Pointer.resolve?_append, hat]
  exact hget

theorem located_requiredString (hat : path.resolve? document = some (.object ms))
    (hplace : Place (path ++ [.key key]) .string false) (hkey : key ∈ requiredKeys)
    (h : requiredString path ms key = .error m) : m.Located document := by
  unfold requiredString at h
  cases hget : ms.get? key with
  | none =>
    rw [hget] at h
    cases h
    exact .missing rfl hat hget hkey rfl hplace
  | some v =>
    rw [hget] at h
    exact demands_string.locates hplace document v m (resolve?_member hat hget) h

theorem located_optional {α : Type} {read : Pointer → Value → Except Mismatch α} {s : Shape}
    (hread : Demands read s) (hat : path.resolve? document = some (.object ms))
    (hplace : Place (path ++ [.key key]) s true)
    (h : optional read path ms key = .error m) : m.Located document := by
  unfold optional at h
  split at h
  · cases h
  · cases h
  · next v hnull hget =>
    obtain ⟨hnot, rfl⟩ := hread _ v m (map_eq_error_iff.1 h)
    refine .value (resolve?_member hat hget) rfl hplace ?_
    rintro (hadmits | ⟨-, hv⟩)
    · exact hnot hadmits
    · exact hnull hv

end Fields

/-! ## Arrays -/

theorem exists_of_eachFrom_eq_error {α : Type} {read : Pointer → Value → Except Mismatch α}
    {path : Pointer} {m : Mismatch} {vs : List Value} :
    ∀ position, eachFrom read path position vs = .error m →
      ∃ i v, vs[i]? = some v ∧ read (path ++ [.index (position + i)]) v = .error m := by
  induction vs with
  | nil =>
    intro position h
    cases h
  | cons v rest ih =>
    intro position h
    rw [eachFrom] at h
    rcases bind_eq_error_iff.1 h with hv | ⟨x, -, h⟩
    · exact ⟨0, v, rfl, hv⟩
    rcases bind_eq_error_iff.1 h with hrest | ⟨xs, -, h⟩
    · obtain ⟨i, w, hw, hread⟩ := ih (position + 1) hrest
      refine ⟨i + 1, w, hw, ?_⟩
      rwa [Nat.add_right_comm] at hread
    · cases h

/-- Items that are located one by one are located in their array. -/
theorem located_each {α : Type} {read : Pointer → Value → Except Mismatch α} {path : Pointer}
    {document : Value} {vs : List Value} {m : Mismatch}
    (hread : ∀ i, Locates read (path ++ [.index i]))
    (hat : path.resolve? document = some (.array vs)) (h : each read path vs = .error m) :
    m.Located document := by
  obtain ⟨i, v, hv, hm⟩ := exists_of_eachFrom_eq_error 0 h
  rw [Nat.zero_add] at hm
  refine hread i document v m ?_ hm
  rw [Json.Pointer.resolve?_append, hat]
  exact hv

theorem members_eq_ok {path : Pointer} {v : Value} {ms : Members}
    (h : members path v = .ok ms) : v = .object ms := by
  cases v <;> cases h
  rfl

theorem items_eq_ok {path : Pointer} {s : Shape} {v : Value} {vs : List Value}
    (h : items path s v = .ok vs) : v = .array vs := by
  cases v <;> cases h
  rfl

/-- A list whose items are located. -/
theorem locates_list {α : Type} {read : Pointer → Value → Except Mismatch α} {s : Shape}
    {path : Pointer} (hs : s.IsList) (hplace : Place path s false)
    (hread : ∀ i, Locates read (path ++ [.index i])) :
    Locates (fun path v => items path s v >>= each read path) path := by
  intro document v m hat h
  rcases bind_eq_error_iff.1 h with h | ⟨vs, hvs, h⟩
  · exact (demands_items hs).locates hplace document v m hat h
  · rw [items_eq_ok hvs] at hat
    exact located_each hread hat h

/-! ## Parameters -/

theorem locates_includes : Locates includes [.key "includes"] := by
  intro document v m hat h
  cases v with
  | string s => cases h
  | array vs => exact located_each (fun i => demands_string.locates (.token i)) hat h
  | null | bool | number | object =>
    cases h
    exact .value hat rfl .includes nofun

theorem locates_sortItem (i : Nat) : Locates sortItem [.key "sort", .index i] := by
  intro document v m hat h
  rcases bind_eq_error_iff.1 h with h | ⟨ms, hms, h⟩
  · exact demands_members.locates (.sortItem i) document v m hat h
  rw [members_eq_ok hms] at hat
  rcases bind_eq_error_iff.1 h with h | ⟨field, -, h⟩
  · exact located_requiredString hat (.field i) (by decide) h
  rcases bind_eq_error_iff.1 h with h | ⟨direction, -, h⟩
  · exact located_optional demands_string hat (.direction i) h
  · cases h

theorem locates_filter (i j : Nat) :
    Locates filter [.key "filter_groups", .index i, .key "filters", .index j] := by
  intro document v m hat h
  rcases bind_eq_error_iff.1 h with h | ⟨ms, hms, h⟩
  · exact demands_members.locates (.filter i j) document v m hat h
  rw [members_eq_ok hms] at hat
  rcases bind_eq_error_iff.1 h with h | ⟨key, -, h⟩
  · exact located_requiredString hat (.filterKey i j) (by decide) h
  rcases bind_eq_error_iff.1 h with h | ⟨operator, -, h⟩
  · exact located_requiredString hat (.operator i j) (by decide) h
  rcases bind_eq_error_iff.1 h with h | ⟨negated, -, h⟩
  · exact located_optional demands_flag hat (.negation i j) h
  · cases h

theorem located_groupFilters {document : Value} {ms : Members} {m : Mismatch} {i : Nat}
    (hat : Pointer.resolve? [.key "filter_groups", .index i] document = some (.object ms))
    (h : groupFilters [.key "filter_groups", .index i] ms = .error m) :
    m.Located document := by
  unfold groupFilters at h
  cases hget : ms.get? "filters" with
  | none =>
    rw [hget] at h
    cases h
  | some v =>
    rw [hget] at h
    have hlist := locates_list (s := .filters) trivial (.filters i) (locates_filter i)
    refine hlist document v m (resolve?_member hat hget) ?_
    rcases bind_eq_error_iff.1 h with h | ⟨vs, hvs, h⟩
    · exact bind_eq_error_iff.2 (.inl h)
    rcases bind_eq_error_iff.1 h with h | ⟨filters, -, h⟩
    · exact bind_eq_error_iff.2 (.inr ⟨vs, hvs, h⟩)
    · cases h

theorem locates_filterGroup (i : Nat) :
    Locates filterGroup [.key "filter_groups", .index i] := by
  intro document v m hat h
  rcases bind_eq_error_iff.1 h with h | ⟨ms, hms, h⟩
  · exact demands_members.locates (.group i) document v m hat h
  rw [members_eq_ok hms] at hat
  rcases bind_eq_error_iff.1 h with h | ⟨filters, -, h⟩
  · exact located_groupFilters hat h
  rcases bind_eq_error_iff.1 h with h | ⟨disjunctive, -, h⟩
  · exact located_optional demands_flag hat (.joining i) h
  · cases h

end Decode

theorem Param.locates (p : Param) : Decode.Locates p.read p.path := by
  cases p with
  | includes => exact Decode.locates_includes
  | sort => exact Decode.locates_list (s := .sortItems) trivial .sort Decode.locates_sortItem
  | limit => exact Decode.demands_count.locates .limit
  | page => exact Decode.demands_count.locates .page
  | filterGroups =>
    exact Decode.locates_list (s := .filterGroups) trivial .groups Decode.locates_filterGroup
  | groupBy => exact Decode.demands_string.locates .groupBy
  | selects => exact Decode.demands_string.locates .selects

end FetchPlan
