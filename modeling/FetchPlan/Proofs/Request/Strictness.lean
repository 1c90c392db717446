import FetchPlan.Proofs.Json.StrictRecords
import FetchPlan.Proofs.Json.WellFormed
import FetchPlan.Proofs.Request.Records

/-!
# The strict and the lenient reader

Sort items and filter groups have two readers: the strict one of records and the lenient
one of requests. Two things are said of a value. The lenient reader covers the strict one:
whatever is read strictly is read leniently too, and as the same. And the strict reader
gives what the lenient one gives, once the flags are put in their plain form. For sort
items, which have no flags, the two readers are one.

The records that are written as arrays, and null for a list of filters, are strict forms
that the lenient reader does not know.
-/

namespace FetchPlan

open Json (Value Members Pointer Tree)
open Json.Tree (known)

/-! ## Plain forms -/

namespace Json

/-- The members with another value under one key. -/
def Members.mapValue (members : Members) (name : String) (f : Value → Value) : Members :=
  members.map fun m => if m.1 = name then (m.1, f m.2) else m

theorem Members.keys_mapValue (members : Members) (name : String) (f : Value → Value) :
    (members.mapValue name f).keys = members.keys := by
  rw [keys, mapValue, List.map_map]
  apply List.map_congr_left
  intro m _
  by_cases h : m.1 = name
  · simp [h]
  · simp [h]

theorem Members.get?_mapValue (members : Members) (name : String) (f : Value → Value)
    (key : String) :
    (members.mapValue name f).get? key =
      if key = name then (members.get? key).map f else members.get? key := by
  induction members with
  | nil => simp [mapValue, get?]
  | cons m rest ih =>
    obtain ⟨k, v⟩ := m
    rw [mapValue, List.map_cons, ← mapValue]
    by_cases hk : k = name
    · rw [if_pos hk]
      by_cases hkey : key = k
      · rw [if_pos (hkey.trans hk), hkey, get?_cons_self, get?_cons_self]
        rfl
      · rw [get?_cons_of_ne hkey, get?_cons_of_ne hkey, ih]
    · rw [if_neg hk]
      by_cases hkey : key = k
      · rw [if_neg fun h => hk (hkey ▸ h), hkey, get?_cons_self, get?_cons_self]
      · rw [get?_cons_of_ne hkey, get?_cons_of_ne hkey, ih]

/-- The items of an array; other values have none. -/
def Value.items : Value → List Value
  | .array vs => vs
  | _ => []

theorem Value.WellFormed.items {v : Value} (h : v.WellFormed) : ∀ w ∈ v.items, w.WellFormed := by
  cases v with
  | array vs => exact wellFormed_array_iff.1 h
  | null | bool | number | string | object => exact nofun

/-- The array with other items. -/
def Value.mapItems (f : Value → Value) : Value → Value
  | .array vs => .array (vs.map f)
  | v => v

@[simp] theorem Value.mapItems_id (v : Value) : v.mapItems id = v := by
  cases v <;> simp [mapItems]

end Json

/-- A flag as the boolean that it stands for. -/
def plainFlag (v : Value) : Value := ((Decode.flagOf? v).map Value.bool).getD v

/-- A filter with its negation as a boolean. -/
def plainFilter : Value → Value
  | .object ms => .object (Members.mapValue ms "not" plainFlag)
  | v => v

/-- A group with its joining and its filters in plain form. -/
def plainGroup : Value → Value
  | .object ms =>
    .object (Members.mapValue
      (Members.mapValue ms "filters" (Value.mapItems plainFilter)) "or" plainFlag)
  | v => v

/-- Groups with all their flags as booleans. -/
def plainGroups : Value → Value := Value.mapItems plainGroup

/-! ## Records under keys -/

/-- No item is a record that is written as an array. -/
def Keyed (v : Value) : Prop := ∀ item ∈ v.items, item.kind ≠ .array

/-- The filters of a group are not null, and none of them is written as an array. -/
def KeyedFilters (ms : Members) : Prop :=
  ∀ v, ms.get? "filters" = some v → v ≠ .null ∧ Keyed v

/-- No group is written as an array, and neither is a filter in one of them; no list of
filters is null. -/
def KeyedGroups (v : Value) : Prop :=
  Keyed v ∧ ∀ ms, Value.object ms ∈ v.items → KeyedFilters ms

/-! ## Two readers of a value -/

namespace Decode

variable {α : Type}

/-- What the strict reader gives for the value, the lenient one gives, too. -/
def Covers (read : Pointer → Value → Except Mismatch α) (strict : Tree → Option α)
    (v : Value) : Prop :=
  ∀ path x, strict v.toTree = some x → read path v = .ok x

/-- What the lenient reader gives for `v`, the strict one gives for `w`. -/
def Tightens (read : Pointer → Value → Except Mismatch α) (strict : Tree → Option α)
    (v w : Value) : Prop :=
  ∀ path x, read path v = .ok x → strict w.toTree = some x

/-! ### Single values -/

theorem covers_string (v : Value) : Covers string Tree.string? v := by
  intro path s h
  cases v <;> cases h
  rfl

theorem tightens_string (v : Value) : Tightens string Tree.string? v v := by
  intro path s h
  cases v <;> cases h
  rfl

theorem covers_flag (v : Value) : Covers flag Tree.flag? v := by
  intro path b h
  cases v <;> cases h
  rfl

theorem tightens_flag (v : Value) : Tightens flag Tree.flag? v (plainFlag v) := by
  intro path b h
  unfold flag at h
  split at h
  · next b' hflag =>
    cases h
    rw [plainFlag, hflag]
    rfl
  · cases h

/-! ### Lists -/

section Lists

variable {read : Pointer → Value → Except Mismatch α} {strict : Tree → Option α}

theorem covers_eachFrom {vs : List Value} (h : ∀ v ∈ vs, Covers read strict v)
    (path : Pointer) {xs : List α} (hread : (vs.map Value.toTree).mapM strict = some xs) :
    ∀ position, eachFrom read path position vs = .ok xs := by
  induction vs generalizing xs with
  | nil =>
    intro position
    cases hread
    rfl
  | cons v rest ih =>
    intro position
    obtain ⟨hv, hrest⟩ := List.forall_mem_cons.1 h
    rw [List.map_cons, List.mapM_cons] at hread
    obtain ⟨x, hx, hread⟩ := Option.bind_eq_some_iff.1 hread
    obtain ⟨ys, hys, hread⟩ := Option.bind_eq_some_iff.1 hread
    cases hread
    rw [eachFrom, hv _ x hx, ih hrest hys (position + 1)]
    rfl

theorem tightens_eachFrom {g : Value → Value} {vs : List Value}
    (h : ∀ v ∈ vs, Tightens read strict v (g v)) {path : Pointer} {xs : List α} :
    ∀ {position}, eachFrom read path position vs = .ok xs →
      ((vs.map g).map Value.toTree).mapM strict = some xs := by
  induction vs generalizing xs with
  | nil =>
    intro position hread
    cases hread
    rfl
  | cons v rest ih =>
    intro position hread
    obtain ⟨hv, hrest⟩ := List.forall_mem_cons.1 h
    obtain ⟨x, hx, hread⟩ := bind_eq_ok_iff.1 hread
    obtain ⟨ys, hys, hread⟩ := bind_eq_ok_iff.1 hread
    cases hread
    rw [List.map_cons, List.map_cons, List.mapM_cons, hv _ x hx, ih hrest hys]
    rfl

/-- Lists are covered when their items are. -/
theorem covers_list (s : Shape) {v : Value} (h : ∀ item ∈ v.items, Covers read strict item) :
    Covers (fun path v => items path s v >>= each read path) (Tree.list? strict) v := by
  intro path xs hread
  cases v with
  | array vs =>
    rw [Value.toTree, Json.itemsToTrees_eq_map] at hread
    exact covers_eachFrom h path hread 0
  | null | bool | number | string | object => cases hread

theorem tightens_list (s : Shape) {v : Value} {g : Value → Value}
    (h : ∀ item ∈ v.items, Tightens read strict item (g item)) :
    Tightens (fun path v => items path s v >>= each read path) (Tree.list? strict) v
      (v.mapItems g) := by
  intro path xs hread
  cases v with
  | array vs =>
    rw [Value.mapItems, Value.toTree, Json.itemsToTrees_eq_map]
    exact tightens_eachFrom h hread
  | null | bool | number | string | object => cases hread

end Lists

/-! ### Fields -/

section Fields

variable {read : Pointer → Value → Except Mismatch α} {strict : Tree → Option α}
  {names : List String} {key : String} (hkey : key ∈ names) {ms ms' : Members}
  (path : Pointer)

include hkey

theorem requiredString_eq_ok_iff (hget : ms'.get? key = ms.get? key) {s : String} :
    requiredString path ms key = .ok s ↔
      Tree.required? (known names ms') key Tree.string? = some s := by
  rw [requiredString, Tree.required?, Tree.lookup_known hkey, hget]
  cases ms.get? key with
  | none => simp
  | some v => exact ⟨tightens_string v _ s, covers_string v _ s⟩

/-- An optional value may be null or left out for both readers. -/
theorem optional_of_strict (h : ∀ v, ms.get? key = some v → Covers read strict v)
    {x : Option α} (hread : Tree.optional? (known names ms) key strict = some x) :
    optional read path ms key = .ok x := by
  rw [Tree.optional?, Tree.lookup_known hkey] at hread
  unfold optional
  cases hget : ms.get? key with
  | none =>
    rw [hget] at hread
    cases hread
    rfl
  | some v =>
    rw [hget] at hread
    cases v with
    | null =>
      cases hread
      rfl
    | bool | number | string | array | object =>
      obtain ⟨y, hy, rfl⟩ := Option.map_eq_some_iff.1 hread
      show (read _ _).map some = _
      rw [h _ hget _ y hy]
      rfl

theorem optional?_of_lenient {g : Value → Value} (hnull : g .null = .null)
    (hstrict : strict .null = none)
    (h : ∀ v, ms.get? key = some v → Tightens read strict v (g v))
    (hget' : ms'.get? key = (ms.get? key).map g) {x : Option α}
    (hread : optional read path ms key = .ok x) :
    Tree.optional? (known names ms') key strict = some x := by
  have hsome : ∀ tree y, strict tree = some y →
      Tree.nullable? strict tree = some (some y) := by
    intro tree y hy
    cases tree with
    | null =>
      rw [hstrict] at hy
      cases hy
    | unreadable | bool | number | string | array | object =>
      rw [Tree.nullable?, hy]
      · rfl
      · nofun
  rw [Tree.optional?, Tree.lookup_known hkey, hget']
  unfold optional at hread
  cases hget : ms.get? key with
  | none =>
    rw [hget] at hread
    cases hread
    rfl
  | some v =>
    rw [hget] at hread
    by_cases hv : v = .null
    · subst hv
      cases hread
      show Tree.nullable? strict (g .null).toTree = _
      rw [hnull]
      rfl
    · have hread : (read (path ++ [.key key]) v).map some = .ok x := by
        cases v with
        | null => exact absurd rfl hv
        | bool | number | string | array | object => exact hread
      obtain ⟨y, hy, rfl⟩ := map_eq_ok_iff.1 hread
      exact hsome _ y (h v hget _ y hy)

end Fields

end Decode

/-! ## Records -/

section Records

variable {ms : Members}

theorem Sort.Draft.ofTree?_object (hdistinct : ms.keys.Nodup) {d : Draft} :
    ofTree? (Value.object ms).toTree = some d ↔
      Tree.required? (known names ms) "field" Tree.string? = some d.field ∧
      Tree.optional? (known names ms) "direction" Tree.string? = some d.direction := by
  obtain ⟨field, direction⟩ := d
  simp [ofTree?, Tree.fields?_toTree names hdistinct, Option.bind_eq_some_iff]

/-- The value of a filter is taken as it is, and a value left out is null. -/
theorem Filter.Draft.ofTree?_object (hdistinct : ms.keys.Nodup)
    (hv : ∀ v, ms.get? "value" = some v → v.WellFormed) {d : Draft} :
    ofTree? (Value.object ms).toTree = some d ↔
      Tree.required? (known names ms) "key" Tree.string? = some d.key ∧
      Tree.required? (known names ms) "operator" Tree.string? = some d.operator ∧
      (ms.get? "value").getD .null = d.value ∧
      Tree.optional? (known names ms) "not" Tree.flag? = some d.negated := by
  have hvalue : (((known names ms).lookup "value").map Value.ofTree?).getD (some .null) =
      some ((ms.get? "value").getD .null) := by
    rw [Tree.lookup_known (by simp [names])]
    cases hget : ms.get? "value" with
    | none => rfl
    | some v => exact Value.ofTree?_toTree (hv v hget)
  obtain ⟨key, operator, value, negated⟩ := d
  simp only [ofTree?, Tree.fields?_toTree names hdistinct, hvalue, Option.bind_eq_bind,
    Option.bind_some, Option.bind_eq_some_iff, Option.pure_def, Option.some.injEq, mk.injEq]
  constructor
  · rintro ⟨_, hkey, _, hoperator, _, hnegated, rfl, rfl, hvalue, rfl⟩
    exact ⟨hkey, hoperator, hvalue, hnegated⟩
  · rintro ⟨hkey, hoperator, hvalue, hnegated⟩
    exact ⟨_, hkey, _, hoperator, _, hnegated, rfl, rfl, hvalue, rfl⟩

theorem Filter.GroupDraft.ofTree?_object (hdistinct : ms.keys.Nodup) {d : GroupDraft} :
    ofTree? (Value.object ms).toTree = some d ↔
      Tree.optional? (known groupNames ms) "filters" (Tree.list? Draft.ofTree?) =
        some d.filters ∧
      Tree.optional? (known groupNames ms) "or" Tree.flag? = some d.disjunctive := by
  obtain ⟨filters, disjunctive⟩ := d
  simp [ofTree?, Tree.fields?_toTree groupNames hdistinct, Option.bind_eq_some_iff]

end Records

namespace Decode

/-- Reads the filters of a group. -/
def filterList (path : Pointer) (v : Value) : Except Mismatch (List Filter.Draft) :=
  items path .filters v >>= each filter path

/-- The filters of a group are an optional list, but null is not passed over. -/
theorem groupFilters_eq_optional {ms : Members} (h : ms.get? "filters" ≠ some .null)
    (path : Pointer) : groupFilters path ms = optional filterList path ms "filters" := by
  unfold groupFilters optional
  cases hget : ms.get? "filters" with
  | none => rfl
  | some v =>
    cases v with
    | null => exact absurd hget h
    | array vs =>
      show (each filter _ vs >>= fun filters => pure (some filters)) =
        (each filter _ vs).map some
      cases each filter (path ++ [.key "filters"]) vs <;> rfl
    | bool | number | string | object => rfl

theorem get?_ne_null_of_groupFilters {ms : Members} {path : Pointer}
    {filters : Option (List Filter.Draft)} (h : groupFilters path ms = .ok filters) :
    ms.get? "filters" ≠ some .null := by
  intro hnull
  unfold groupFilters at h
  rw [hnull] at h
  cases h

/-! ### Sort items -/

variable {v : Value}

theorem covers_sortItem (hv : v.WellFormed) (hkind : v.kind ≠ .array) :
    Covers sortItem Sort.Draft.ofTree? v := by
  intro path d h
  cases v with
  | object ms =>
    obtain ⟨hfield, hdirection⟩ := (Sort.Draft.ofTree?_object hv.distinct).1 h
    refine sortItem_object.2 ⟨?_, ?_⟩
    · exact (requiredString_eq_ok_iff (by simp [Sort.names]) path rfl).2 hfield
    · exact optional_of_strict (by simp [Sort.names]) path (fun v _ => covers_string v)
        hdirection
  | array vs => exact absurd rfl hkind
  | null | bool | number | string => cases h

theorem tightens_sortItem (hv : v.WellFormed) : Tightens sortItem Sort.Draft.ofTree? v v := by
  intro path d h
  cases v with
  | object ms =>
    obtain ⟨hfield, hdirection⟩ := sortItem_object.1 h
    refine (Sort.Draft.ofTree?_object hv.distinct).2 ⟨?_, ?_⟩
    · exact (requiredString_eq_ok_iff (by simp [Sort.names]) path rfl).1 hfield
    · exact optional?_of_lenient (g := id) (by simp [Sort.names]) path rfl rfl
        (fun v _ => tightens_string v) (by simp) hdirection
  | null | bool | number | string | array => cases h

/-! ### Filters -/

theorem covers_filter (hv : v.WellFormed) (hkind : v.kind ≠ .array) :
    Covers filter Filter.Draft.ofTree? v := by
  intro path d h
  cases v with
  | object ms =>
    obtain ⟨hkey, hoperator, hvalue, hnot⟩ :=
      (Filter.Draft.ofTree?_object hv.distinct fun _ => hv.get?).1 h
    refine filter_object.2 ⟨?_, ?_, hvalue, ?_⟩
    · exact (requiredString_eq_ok_iff (by simp [Filter.names]) path rfl).2 hkey
    · exact (requiredString_eq_ok_iff (by simp [Filter.names]) path rfl).2 hoperator
    · exact optional_of_strict (by simp [Filter.names]) path (fun v _ => covers_flag v) hnot
  | array vs => exact absurd rfl hkind
  | null | bool | number | string => cases h

theorem tightens_filter (hv : v.WellFormed) :
    Tightens filter Filter.Draft.ofTree? v (plainFilter v) := by
  intro path d h
  cases v with
  | object ms =>
    obtain ⟨hkey, hoperator, hvalue, hnot⟩ := filter_object.1 h
    -- only what stands under `not` is rewritten
    have hget := Members.get?_mapValue ms "not" plainFlag
    have hdistinct : (Members.mapValue ms "not" plainFlag).keys.Nodup := by
      rw [Members.keys_mapValue]
      exact hv.distinct
    refine (Filter.Draft.ofTree?_object hdistinct ?_).2 ⟨?_, ?_, ?_, ?_⟩
    · intro w hw
      exact hv.get? ((hget "value").symm.trans hw)
    · exact (requiredString_eq_ok_iff (by simp [Filter.names]) path (hget "key")).1 hkey
    · exact (requiredString_eq_ok_iff (by simp [Filter.names]) path (hget "operator")).1
        hoperator
    · rw [hget "value"]
      exact hvalue
    · exact optional?_of_lenient (by simp [Filter.names]) path rfl rfl
        (fun v _ => tightens_flag v) (hget "not") hnot
  | null | bool | number | string | array => cases h

/-! ### Groups -/

theorem covers_filterList (hv : v.WellFormed) (hkeyed : Keyed v) :
    Covers filterList (Tree.list? Filter.Draft.ofTree?) v :=
  covers_list .filters fun f hf => covers_filter (hv.items f hf) (hkeyed f hf)

theorem tightens_filterList (hv : v.WellFormed) :
    Tightens filterList (Tree.list? Filter.Draft.ofTree?) v (v.mapItems plainFilter) :=
  tightens_list .filters fun f hf => tightens_filter (hv.items f hf)

theorem covers_filterGroup (hv : v.WellFormed) (hkind : v.kind ≠ .array)
    (hkeyed : ∀ ms, v = .object ms → KeyedFilters ms) :
    Covers filterGroup Filter.GroupDraft.ofTree? v := by
  intro path d h
  cases v with
  | object ms =>
    have hkeyed := hkeyed ms rfl
    have hnull : Members.get? ms "filters" ≠ some .null := fun hget => (hkeyed _ hget).1 rfl
    obtain ⟨hfilters, hor⟩ := (Filter.GroupDraft.ofTree?_object hv.distinct).1 h
    refine filterGroup_object.2 ⟨?_, ?_⟩
    · rw [groupFilters_eq_optional hnull]
      exact optional_of_strict (by simp [Filter.groupNames]) path
        (fun v hget => covers_filterList (hv.get? hget) (hkeyed v hget).2) hfilters
    · exact optional_of_strict (by simp [Filter.groupNames]) path (fun v _ => covers_flag v) hor
  | array vs => exact absurd rfl hkind
  | null | bool | number | string => cases h

theorem tightens_filterGroup (hv : v.WellFormed) :
    Tightens filterGroup Filter.GroupDraft.ofTree? v (plainGroup v) := by
  intro path d h
  cases v with
  | object ms =>
    obtain ⟨hfilters, hor⟩ := filterGroup_object.1 h
    have hnull := get?_ne_null_of_groupFilters hfilters
    rw [groupFilters_eq_optional hnull] at hfilters
    have hinner := Members.get?_mapValue ms "filters" (Value.mapItems plainFilter)
    have houter := Members.get?_mapValue
      (Members.mapValue ms "filters" (Value.mapItems plainFilter)) "or" plainFlag
    refine (Filter.GroupDraft.ofTree?_object ?_).2 ⟨?_, ?_⟩
    · rw [Members.keys_mapValue, Members.keys_mapValue]
      exact hv.distinct
    · exact optional?_of_lenient (by simp [Filter.groupNames]) path rfl rfl
        (fun v hget => tightens_filterList (hv.get? hget))
        ((houter "filters").trans (hinner "filters")) hfilters
    · exact optional?_of_lenient (by simp [Filter.groupNames]) path rfl rfl
        (fun v _ => tightens_flag v)
        ((houter "or").trans (congrArg (Option.map plainFlag) (hinner "or"))) hor
  | null | bool | number | string | array => cases h

end Decode

/-- **The two readers agree.** Let no record be written as an array. Then sort items are
read strictly exactly as they are read leniently. Filter groups that are read strictly are
read leniently as the same, unless their filters are null; and once their flags are in
plain form, groups that are read leniently are read strictly as the same, without any
condition. -/
theorem strict_reading_agrees (v : Value) (hv : v.WellFormed) (path : Pointer) :
    (Keyed v → ∀ drafts,
      v.toTree.list? Sort.Draft.ofTree? = some drafts ↔ Decode.sort path v = .ok drafts) ∧
      (KeyedGroups v → ∀ groups, v.toTree.list? Filter.GroupDraft.ofTree? = some groups →
        Decode.filterGroups path v = .ok groups) ∧
      ∀ groups, Decode.filterGroups path v = .ok groups →
        (plainGroups v).toTree.list? Filter.GroupDraft.ofTree? = some groups := by
  refine ⟨?_, ?_, ?_⟩
  · intro hkeyed drafts
    have htightens := Decode.tightens_list (g := id) .sortItems
      fun item hitem => Decode.tightens_sortItem (hv.items item hitem)
    rw [Value.mapItems_id] at htightens
    constructor
    · exact Decode.covers_list .sortItems
        (fun item hitem => Decode.covers_sortItem (hv.items item hitem) (hkeyed item hitem))
        path drafts
    · exact htightens path drafts
  · intro hkeyed groups
    refine Decode.covers_list .filterGroups (fun g hg => ?_) path groups
    refine Decode.covers_filterGroup (hv.items g hg) (hkeyed.1 g hg) ?_
    rintro ms rfl
    exact hkeyed.2 ms hg
  · intro groups
    exact Decode.tightens_list .filterGroups
      (fun g hg => Decode.tightens_filterGroup (hv.items g hg)) path groups

namespace Strictness

/-- Sort items with a key that nobody reads and a direction that is null. -/
def sorted : Value := .array [
  .object [("nulls", .array []), ("direction", .null), ("field", .string "id")],
  .object [("field", .string "name"), ("direction", .string "DESC")]]

def drafts : List Sort.Draft := [⟨"id", none⟩, ⟨"name", some "DESC"⟩]

/-- Groups with flags in other forms, a value that nobody looks at, and no filters. -/
def asked : Value := .array [
  .object [("or", .string "1"), ("filters", .array [
    .object [("not", .ofNat 0), ("operator", .string "eq"), ("key", .string "k"),
      ("value", .object [("not", .string "maybe")])]])],
  .object [("or", .null)]]

def groups : List Filter.GroupDraft := [
  ⟨some [⟨"k", "eq", .object [("not", .string "maybe")], some false⟩], some true⟩,
  ⟨none, none⟩]

/-- The same with the flags in plain form. -/
def plain : Value := .array [
  .object [("or", .bool true), ("filters", .array [
    .object [("not", .bool false), ("operator", .string "eq"), ("key", .string "k"),
      ("value", .object [("not", .string "maybe")])]])],
  .object [("or", .null)]]

end Strictness

/-- Only the flags are put in plain form, not what stands in the value of the filter. -/
theorem strict_reading_agrees_coerced :
    (Strictness.sorted.WellFormed ∧ Keyed Strictness.sorted) ∧
      Decode.sort [.key "sort"] Strictness.sorted = .ok Strictness.drafts ∧
      (Strictness.asked.WellFormed ∧ plainGroups Strictness.asked = Strictness.plain) ∧
      Strictness.asked.toTree.list? Filter.GroupDraft.ofTree? = none ∧
      Decode.filterGroups [.key "filter_groups"] Strictness.asked = .ok Strictness.groups ∧
      Strictness.plain.toTree.list? Filter.GroupDraft.ofTree? = some Strictness.groups ∧
      (Strictness.plain.WellFormed ∧ KeyedGroups Strictness.plain) ∧
      Decode.filterGroups [.key "filter_groups"] Strictness.plain = .ok Strictness.groups := by
  have hsorted : Strictness.sorted.WellFormed := by
    simp [Strictness.sorted, Members.keys]
  have hkeyed : Keyed Strictness.sorted := by
    simp [Keyed, Strictness.sorted, Value.items, Value.kind]
  have hstrict : Strictness.sorted.toTree.list? Sort.Draft.ofTree? =
      some Strictness.drafts := by
    decide +kernel
  have hasked : Strictness.asked.WellFormed := by
    simp [Strictness.asked, Members.keys, Value.ofNat, Json.Number.WellFormed,
      Json.Number.inRange]
  have hform : plainGroups Strictness.asked = Strictness.plain := by decide +kernel
  have hread : Decode.filterGroups [.key "filter_groups"] Strictness.asked =
      .ok Strictness.groups := rfl
  have hplain : Strictness.plain.WellFormed := by
    simp [Strictness.plain, Members.keys]
  have hgroups : KeyedGroups Strictness.plain := by
    simp [KeyedGroups, Keyed, KeyedFilters, Strictness.plain, Value.items, Value.kind,
      Members.get?, List.lookup_cons, List.lookup_nil]
  have hagrees := strict_reading_agrees _ hasked [.key "filter_groups"]
  have htight := hagrees.2.2 _ hread
  rw [hform] at htight
  exact ⟨⟨hsorted, hkeyed⟩,
    ((strict_reading_agrees _ hsorted [.key "sort"]).1 hkeyed _).1 hstrict,
    ⟨hasked, hform⟩, by decide +kernel, hread, htight, ⟨hplain, hgroups⟩,
    (strict_reading_agrees _ hplain _).2.1 hgroups _ htight⟩

end FetchPlan
