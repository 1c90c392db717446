import FetchPlan.Proofs.Plan.Settings
import FetchPlan.Proofs.Request.Records
import Mathlib.Data.List.Forall2

/-!
# The places of filters

Filter groups are read from a request and then settled. What comes out stands in the place
of what it was made from and says the same: no group and no filter is lost, moved or
changed, and the flags that are not given say no.
-/

namespace FetchPlan

open Json (Value Members Pointer)

/-! ## What an object says -/

/-- The flag under a key: what the value there stands for, or no when it is null or left
out. -/
inductive HasFlag (ms : Members) (key : String) : Bool → Prop
  | unset (h : ms.get? key = none ∨ ms.get? key = some .null) : HasFlag ms key false
  | given {v : Value} {b : Bool} (h : ms.get? key = some v) (form : v ∈ flagForms b) :
    HasFlag ms key b

namespace Filter

/-- The value is a filter that says what the test says. -/
inductive Test.SaidBy : Value → Test → Prop
  | object {ms : Members} {t : Test} (key : ms.get? "key" = some (.string t.key))
      (operator : ms.get? "operator" = some (.string t.operator))
      (value : (ms.get? "value").getD .null = t.value) (negated : HasFlag ms "not" t.negated) :
    SaidBy (.object ms) t

/-- The value is a group that says what the settled group says, filter by filter. -/
inductive Group.SaidBy : Value → Group → Prop
  | object {ms : Members} {vs : List Value} {g : Group}
      (filters : ms.get? "filters" = some (.array vs))
      (each : List.Forall₂ Test.SaidBy vs g.filters)
      (disjunctive : HasFlag ms "or" g.disjunctive) :
    SaidBy (.object ms) g

/-! ## Settling -/

theorem forall₂_settle {drafts : List Draft} {tests : List Test} :
    List.Forall₂ (fun d t => d.settle = t) drafts tests ↔ drafts.map Draft.settle = tests := by
  rw [← List.forall₂_map_left_iff, List.forall₂_eq_eq_eq]

/-- Groups are settled one by one. -/
theorem settleFrom_eq_ok_iff {drafts : List GroupDraft} {groups : List Group} :
    ∀ {position}, settleFrom position drafts = .ok groups ↔
      List.Forall₂ (fun d g => d.settle? = some g) drafts groups := by
  induction drafts generalizing groups with
  | nil =>
    intro position
    cases groups <;> simp [settleFrom]
  | cons d rest ih =>
    intro position
    rw [settleFrom]
    cases hsettle : d.settle? with
    | none => cases groups <;> simp [hsettle]
    | some group => cases groups <;> simp [hsettle, map_eq_ok_iff, ih, and_comm]

theorem settle?_eq_none_iff {d : GroupDraft} : d.settle? = none ↔ d.filters = none :=
  Option.map_eq_none_iff

/-- `g` is the first of the groups that has no filters, with `front` before it. -/
structure FirstMissing (drafts front : List GroupDraft) (g : GroupDraft) : Prop where
  splits : ∃ back, drafts = front ++ g :: back
  missing : g.filters = none
  earlier : ∀ d ∈ front, d.filters ≠ none

theorem settleFrom_of_firstMissing {front : List GroupDraft} {g : GroupDraft} :
    ∀ {drafts position}, FirstMissing drafts front g →
      settleFrom position drafts = .error ⟨position + front.length⟩ := by
  induction front with
  | nil =>
    rintro _ position ⟨⟨back, rfl⟩, hmissing, -⟩
    rw [List.nil_append, settleFrom, settle?_eq_none_iff.2 hmissing]
    rfl
  | cons d front ih =>
    rintro _ position ⟨⟨back, rfl⟩, hmissing, hearlier⟩
    obtain ⟨hd, hfront⟩ := List.forall_mem_cons.1 hearlier
    obtain ⟨group, hgroup⟩ := Option.ne_none_iff_exists'.1 (mt settle?_eq_none_iff.1 hd)
    rw [List.cons_append, settleFrom, hgroup, List.length_cons, Nat.add_comm front.length,
      ← Nat.add_assoc]
    simp only [ih ⟨⟨back, rfl⟩, hmissing, hfront⟩]
    rfl

/-- Settling stops only at a group without filters. -/
theorem exists_firstMissing {drafts : List GroupDraft} {e : MissingFilters} :
    ∀ {position}, settleFrom position drafts = .error e →
      ∃ front g, FirstMissing drafts front g := by
  induction drafts with
  | nil =>
    intro position h
    cases h
  | cons d rest ih =>
    intro position h
    rw [settleFrom] at h
    by_cases hd : d.filters = none
    · exact ⟨[], d, ⟨rest, rfl⟩, hd, by simp⟩
    · obtain ⟨group, hgroup⟩ := Option.ne_none_iff_exists'.1 (mt settle?_eq_none_iff.1 hd)
      rw [hgroup] at h
      obtain ⟨front, g, ⟨back, rfl⟩, hmissing, hearlier⟩ := ih (map_eq_error_iff.1 h)
      exact ⟨d :: front, g, ⟨back, rfl⟩, hmissing, List.forall_mem_cons.2 ⟨hd, hearlier⟩⟩

/-- Settling fails exactly when there is a first group without filters, and tells its
place. -/
theorem settle_eq_error_iff {drafts : List GroupDraft} {e : MissingFilters} :
    settle drafts = .error e ↔ ∃ front g, FirstMissing drafts front g ∧ e.group = front.length := by
  constructor
  · intro h
    obtain ⟨front, g, hfirst⟩ := exists_firstMissing h
    rw [settle, settleFrom_of_firstMissing hfirst, Nat.zero_add] at h
    cases h
    exact ⟨front, g, hfirst, rfl⟩
  · rintro ⟨front, g, hfirst, hgroup⟩
    rw [settle, settleFrom_of_firstMissing hfirst, Nat.zero_add, ← hgroup]

/-- Settling fails exactly when some group has no filters. -/
theorem settle_fails_iff {drafts : List GroupDraft} :
    (∃ e, settle drafts = .error e) ↔ ∃ g ∈ drafts, g.filters = none := by
  constructor
  · rintro ⟨e, h⟩
    obtain ⟨front, g, ⟨back, rfl⟩, hmissing, -⟩ := exists_firstMissing h
    exact ⟨g, by simp, hmissing⟩
  · rintro ⟨g, hg, hmissing⟩
    cases h : settle drafts with
    | error e => exact ⟨e, rfl⟩
    | ok groups =>
      -- had all been settled, then so had the group in the place of `g`
      obtain ⟨hlength, heach⟩ := List.forall₂_iff_get.1 (settleFrom_eq_ok_iff.1 h)
      obtain ⟨i, hi, rfl⟩ := List.getElem_of_mem hg
      have hgroup := heach i hi (hlength ▸ hi)
      rw [List.get_eq_getElem, settle?_eq_none_iff.2 hmissing] at hgroup
      cases hgroup

end Filter

/-! ## Reading and settling -/

namespace Decode

/-- What is read from a value and then turned into `y` by `settled` is what `said` tells of
the value, wherever it stands. -/
def Tells {α β : Type} (read : Pointer → Value → Except Mismatch α) (settled : α → β → Prop)
    (said : Value → β → Prop) : Prop :=
  ∀ path v y, (∃ x, read path v = .ok x ∧ settled x y) ↔ said v y

section

variable {α β : Type} {read : Pointer → Value → Except Mismatch α} {settled : α → β → Prop}
  {said : Value → β → Prop}

/-- Lists are read and settled item by item. -/
theorem tells_eachFrom (h : Tells read settled said) (path : Pointer) (vs : List Value) :
    ∀ (position : Nat) (ys : List β),
      (∃ xs, eachFrom read path position vs = .ok xs ∧ List.Forall₂ settled xs ys) ↔
        List.Forall₂ said vs ys := by
  induction vs with
  | nil =>
    intro position ys
    constructor
    · rintro ⟨xs, hread, hsettled⟩
      cases hread
      cases hsettled
      exact .nil
    · rintro ⟨⟩
      exact ⟨[], rfl, .nil⟩
  | cons v rest ih =>
    intro position ys
    constructor
    · rintro ⟨xs, hread, hsettled⟩
      obtain ⟨x, hx, hread⟩ := bind_eq_ok_iff.1 hread
      obtain ⟨others, hothers, hread⟩ := bind_eq_ok_iff.1 hread
      cases hread
      cases hsettled with
      | cons hy hys => exact .cons ((h _ v _).1 ⟨x, hx, hy⟩) ((ih _ _).1 ⟨others, hothers, hys⟩)
    · rintro (_ | ⟨hv, hrest⟩)
      obtain ⟨x, hx, hy⟩ := (h (path ++ [.index position]) v _).2 hv
      obtain ⟨others, hothers, hys⟩ := (ih (position + 1) _).2 hrest
      refine ⟨x :: others, ?_, .cons hy hys⟩
      rw [eachFrom, hx, ok_bind, hothers]
      rfl

end

theorem tells_flag {ms : Members} {path : Pointer} {key : String} {b : Bool} :
    (∃ x, optional flag path ms key = .ok x ∧ x.getD false = b) ↔ HasFlag ms key b := by
  constructor
  · rintro ⟨x, hx, rfl⟩
    rcases optional_eq_ok.1 hx with ⟨rfl, hunset⟩ | ⟨v, y, hget, -, hflag, rfl⟩
    · exact .unset hunset
    · exact .given hget (flag_eq_ok.1 hflag)
  · rintro (hunset | ⟨hget, hform⟩)
    · exact ⟨none, optional_eq_ok.2 (.inl ⟨rfl, hunset⟩), rfl⟩
    · exact ⟨some b, optional_eq_ok.2
        (.inr ⟨_, b, hget, flagForm_ne_null hform, flag_eq_ok.2 hform, rfl⟩), rfl⟩

theorem tells_filter : Tells filter (fun d t => d.settle = t) Filter.Test.SaidBy := by
  intro path v t
  constructor
  · rintro ⟨d, hread, rfl⟩
    cases v with
    | object ms =>
      obtain ⟨hkey, hoperator, hvalue, hnegated⟩ := filter_object.1 hread
      exact .object (requiredString_eq_ok.1 hkey) (requiredString_eq_ok.1 hoperator) hvalue
        (tells_flag.1 ⟨_, hnegated, rfl⟩)
    | null | bool | number | string | array => cases hread
  · rintro ⟨hkey, hoperator, hvalue, hnegated⟩
    obtain ⟨negated, hread, hflag⟩ := tells_flag.2 hnegated
    refine ⟨⟨t.key, t.operator, t.value, negated⟩, filter_object.2
      ⟨requiredString_eq_ok.2 hkey, requiredString_eq_ok.2 hoperator, hvalue, hread⟩, ?_⟩
    simp only [Filter.Draft.settle, hflag]

theorem tells_filterGroup :
    Tells filterGroup (fun d g => d.settle? = some g) Filter.Group.SaidBy := by
  intro path v g
  constructor
  · rintro ⟨⟨filters, disjunctive⟩, hread, hsettle⟩
    obtain ⟨drafts, rfl, rfl⟩ := Option.map_eq_some_iff.1 hsettle
    cases v with
    | object ms =>
      obtain ⟨hfilters, hdisjunctive⟩ := filterGroup_object.1 hread
      obtain ⟨vs, hvs, heach⟩ := groupFilters_eq_some.1 hfilters
      have htests := (tells_eachFrom tells_filter _ vs 0 (drafts.map Filter.Draft.settle)).1
        ⟨drafts, heach, Filter.forall₂_settle.2 rfl⟩
      exact .object hvs htests (tells_flag.1 ⟨_, hdisjunctive, rfl⟩)
    | null | bool | number | string | array => cases hread
  · rintro ⟨hvs, htests, hdisjunctive⟩
    obtain ⟨drafts, heach, hsettle⟩ :=
      (tells_eachFrom tells_filter (path ++ [.key "filters"]) _ 0 _).2 htests
    obtain ⟨disjunctive, hread, hflag⟩ := tells_flag.2 hdisjunctive
    refine ⟨⟨some drafts, disjunctive⟩,
      filterGroup_object.2 ⟨groupFilters_eq_some.2 ⟨_, hvs, heach⟩, hread⟩, ?_⟩
    simp only [Filter.GroupDraft.settle?, Option.map_some, Filter.forall₂_settle.1 hsettle, hflag]

/-- The groups of a request are said by the items of an array, one by one. -/
theorem tells_filterGroups :
    Tells filterGroups (fun drafts groups => Filter.settle drafts = .ok groups)
      (fun v groups => ∃ vs, v = .array vs ∧ List.Forall₂ Filter.Group.SaidBy vs groups) := by
  intro path v groups
  simp only [Filter.settle, Filter.settleFrom_eq_ok_iff]
  cases v with
  | array vs =>
    have h := tells_eachFrom tells_filterGroup path vs 0 groups
    simpa [filterGroups, items, ok_bind, each] using h
  | null | bool | number | string | object => simp [filterGroups, items, bind, Except.bind]

end Decode

/-! ## Places -/

/-- **Filters keep their places.** A plan has the filter groups that its request gives, group
by group and filter by filter, each with all that the request says of it. The same holds of
every value that can be read as filter groups and settled, and no other value can. Groups as
they are given cannot be settled exactly when one of them has no filters, and the first such
group is told by its place. Settled groups that are given again are settled into themselves. -/
theorem filters_keep_their_places :
    (∀ params d o v, Plan.assemble params d = .ok o → params Param.filterGroups.name = some v →
      ∃ vs, v = .array vs ∧ List.Forall₂ Filter.Group.SaidBy vs o.filterGroups) ∧
    (∀ path v groups,
      (∃ drafts, Decode.filterGroups path v = .ok drafts ∧ Filter.settle drafts = .ok groups) ↔
        ∃ vs, v = .array vs ∧ List.Forall₂ Filter.Group.SaidBy vs groups) ∧
    (∀ drafts, (∃ e, Filter.settle drafts = .error e) ↔ ∃ g ∈ drafts, g.filters = none) ∧
    (∀ drafts e, Filter.settle drafts = .error e ↔
      ∃ front g, Filter.FirstMissing drafts front g ∧ e.group = front.length) ∧
    ∀ drafts groups, Filter.settle drafts = .ok groups →
      Filter.settle (groups.map Filter.Group.toDraft) = .ok groups := by
  refine ⟨?_, Decode.tells_filterGroups, fun _ => Filter.settle_fails_iff,
    fun _ _ => Filter.settle_eq_error_iff, fun _ groups _ => Filter.settle_map_toDraft groups⟩
  intro params d o v hplan hgiven
  obtain ⟨e, hholds, hsettles⟩ := Plan.assemble_eq_ok_iff.1 hplan
  have hread := hholds.values .filterGroups
  rw [Request.effective_of_present hgiven] at hread
  exact (Decode.tells_filterGroups _ v _).1
    ⟨e.filterGroups, mapError_eq_ok_iff.1 hread, hsettles.filterGroups⟩

namespace FilterPlaces

/-- A value with its keys out of order. -/
def nested : Value :=
  .object [("to", .number (.integer 9)), ("from", .array [.string "a", .null])]

/-- Keys in any order, flags as texts and numbers, a flag that is null and a value that is
left out. -/
def given : Value :=
  .array [
    .object [("filters", .array [])],
    .object [
      ("or", .string "1"),
      ("filters", .array [
        .object [("value", nested), ("operator", .string "in"), ("key", .string "age"),
          ("not", .number (.integer 1))],
        .object [("key", .string "name"), ("not", .null), ("operator", .string "set")]])]]

def settled : List Filter.Group :=
  [⟨[], false⟩, ⟨[⟨"age", "in", nested, true⟩, ⟨"name", "set", .null, false⟩], true⟩]

def params : Params := .ofValue (.object [("filter_groups", given)])

end FilterPlaces

/-- What is read of the request says all that it says; of three groups the second one is the
first without filters. -/
theorem filters_keep_their_places_nested :
    (∃ o, Plan.assemble FilterPlaces.params Defaults.base = .ok o ∧
      o.filterGroups = FilterPlaces.settled) ∧
    (∃ vs, FilterPlaces.given = .array vs ∧
      List.Forall₂ Filter.Group.SaidBy vs FilterPlaces.settled) ∧
    Filter.settle (FilterPlaces.settled.map Filter.Group.toDraft) = .ok FilterPlaces.settled ∧
    Filter.settle [⟨some [], none⟩, ⟨none, some true⟩, ⟨none, none⟩] = .error ⟨1⟩ := by
  have hmap : (Plan.assemble FilterPlaces.params Defaults.base).map (·.filterGroups) =
      .ok FilterPlaces.settled := by
    decide +kernel
  obtain ⟨o, hplan, hsettled⟩ := map_eq_ok_iff.1 hmap
  obtain ⟨hplaces, hread, -, hmissing, hagain⟩ := filters_keep_their_places
  have hsaid := hplaces _ _ o FilterPlaces.given hplan rfl
  rw [hsettled] at hsaid
  obtain ⟨drafts, -, hdrafts⟩ := (hread [] _ _).2 hsaid
  refine ⟨⟨o, hplan, hsettled⟩, hsaid, hagain drafts _ hdrafts, (hmissing _ _).2 ?_⟩
  exact ⟨[⟨some [], none⟩], ⟨none, some true⟩, ⟨⟨_, rfl⟩, rfl, by simp⟩, rfl⟩

end FetchPlan
