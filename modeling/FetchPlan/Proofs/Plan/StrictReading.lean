import FetchPlan.Proofs.Include.ModeMap
import FetchPlan.Proofs.Json.StrictRecords
import FetchPlan.Proofs.Json.WellFormed

/-!
# Plans read strictly

A plan is given back by the strict reader from what it is written as, part by part: sort
terms, tests, groups, modes, counts.
-/

namespace FetchPlan

open Json (Value Tree)
open Json.Tree (Restores)

/-- A direction that is left out is not written, and so it is left out again. -/
theorem Sort.Draft.restores (d : Draft) : Restores ofTree? toJson d := by
  obtain ⟨field, direction⟩ := d
  rw [Restores, ofTree?, toJson, Tree.fields?_object]
  · cases direction <;> rfl
  · cases direction <;> simp [Json.Members.keys]
  · cases direction <;> simp [Json.Members.keys, names]

theorem Sort.Term.restores (t : Term) : Restores ofTree? toJson t := by
  rw [Restores, ofTree?, toJson, Tree.fields?_object (by simp [Json.Members.keys])
    (by simp [Json.Members.keys, names])]
  rfl

/-- The value of a filter is written whatever it is, so null is given back too; a negation
that is left out is not written. -/
theorem Filter.Draft.restores {d : Draft} (h : d.value.WellFormed) :
    Restores ofTree? toJson d := by
  have hvalue : Value.ofTree? d.value.toTree = some d.value := Value.ofTree?_toTree h
  obtain ⟨key, operator, value, negated⟩ := d
  rw [Restores, ofTree?, toJson, Tree.fields?_object, Option.bind_eq_bind, Option.bind_some]
  · refine Option.bind_eq_some_iff.2 ⟨key, rfl, ?_⟩
    refine Option.bind_eq_some_iff.2 ⟨operator, rfl, ?_⟩
    refine Option.bind_eq_some_iff.2 ⟨value, hvalue, ?_⟩
    cases negated <;> rfl
  · cases negated <;> simp [Json.Members.keys]
  · cases negated <;> simp [Json.Members.keys, names]

/-- The value of a test is written whatever it is, so null is given back too. -/
theorem Filter.Test.restores {t : Test} (h : t.value.WellFormed) : Restores ofTree? toJson t := by
  have hvalue : Tree.required? [("key", Value.toTree (.string t.key)),
      ("operator", Value.toTree (.string t.operator)), ("value", t.value.toTree),
      ("not", Value.toTree (.bool t.negated))] "value" Value.ofTree? = some t.value :=
    Value.ofTree?_toTree h
  rw [Restores, ofTree?, toJson, Tree.fields?_object (by simp [Json.Members.keys])
    (by simp [Json.Members.keys, names])]
  simp only [List.map_cons, List.map_nil, Option.bind_eq_bind, Option.bind_some, hvalue]
  rfl

theorem Filter.Group.restores {g : Group} (h : ∀ t ∈ g.filters, t.value.WellFormed) :
    Restores ofTree? toJson g := by
  have hfilters : Tree.required? [
      ("filters", Value.toTree (.array (g.filters.map Test.toJson))),
      ("or", Value.toTree (.bool g.disjunctive))] "filters" (Tree.list? Test.ofTree?) =
        some g.filters :=
    Tree.restores_list fun t ht => Test.restores (h t ht)
  rw [Restores, ofTree?, toJson, Tree.fields?_object (by simp [Json.Members.keys])
    (by simp [Json.Members.keys, groupNames])]
  simp only [List.map_cons, List.map_nil, Option.bind_eq_bind, Option.bind_some, hfilters]
  rfl

/-- An empty list of filters is written and no list is not, so the two are told apart. -/
theorem Filter.GroupDraft.restores {g : GroupDraft}
    (h : ∀ filters, g.filters = some filters → ∀ d ∈ filters, d.value.WellFormed) :
    Restores ofTree? toJson g := by
  obtain ⟨filters, disjunctive⟩ := g
  have hfilters : ∀ drafts, filters = some drafts →
      Tree.list? Draft.ofTree? (Value.array (drafts.map Draft.toJson)).toTree = some drafts :=
    fun drafts hgiven => Tree.restores_list fun d hd => Draft.restores (h drafts hgiven d hd)
  rw [Restores, ofTree?, toJson, Tree.fields?_object, Option.bind_eq_bind, Option.bind_some]
  · refine Option.bind_eq_some_iff.2 ⟨filters, ?_, ?_⟩
    · cases filters with
      | none => cases disjunctive <;> rfl
      | some drafts =>
        show (Tree.list? Draft.ofTree? _).map some = _
        rw [hfilters drafts rfl]
        rfl
    · cases filters <;> cases disjunctive <;> rfl
  · cases filters <;> cases disjunctive <;> simp [Json.Members.keys]
  · cases filters <;> cases disjunctive <;> simp [Json.Members.keys, groupNames]

/-- A mode map is given back by its entries. -/
theorem Include.Modes.ofList_entries (modes : Modes) : ofList modes.entries = modes := by
  let mode : String → String := fun key => (modes.get? key).getD ""
  have hmode : ∀ key m, (key, m) ∈ modes.entries → m = mode key := by
    intro key m h
    show m = (modes.get? key).getD ""
    rw [mem_entries_iff.1 h]
    rfl
  have hentries : modes.keys.map (fun key => (key, mode key)) = modes.entries := by
    rw [keys, List.map_map]
    conv => rhs; rw [← List.map_id modes.entries]
    apply List.map_congr_left
    rintro ⟨key, m⟩ h
    exact congrArg (Prod.mk key) (hmode key m h).symm
  have hkeys : modes = ofKeys mode modes.keys := eq_ofKeys (fun _ => Iff.rfl) hmode
  rw [← hentries]
  exact hkeys.symm

theorem Count.restores (count : Option Count) :
    Tree.nullable? Tree.count? (toJson count).toTree = some count := by
  cases count with
  | none => rfl
  | some n =>
    show (ofNat? n.toNat).map some = _
    rw [ofNat?_toNat]
    rfl

theorem Plan.restores {o : Plan} (h : o.WellFormed) : Restores ofTree? toJson o := by
  have hincludes : Restores (Tree.list? Tree.string?) Value.ofStrings o.includes :=
    Tree.restores_list fun _ _ => rfl
  have hmodes := Tree.restores_strings o.modes.entries
  have hsort := Tree.restores_list fun t (_ : t ∈ o.sort) => t.restores
  have hgroups := Tree.restores_list fun g hg => Filter.Group.restores (h g hg)
  rw [Restores, ofTree?, toJson, Tree.fields?_object (by simp [Json.Members.keys])
    (by simp [Json.Members.keys, names])]
  rw [Option.bind_eq_bind, Option.bind_some]
  -- the fields one by one, in the order in which they are read
  refine Option.bind_eq_some_iff.2 ⟨o.includes, hincludes, ?_⟩
  refine Option.bind_eq_some_iff.2 ⟨o.modes.entries, hmodes, ?_⟩
  refine Option.bind_eq_some_iff.2 ⟨o.sort, hsort, ?_⟩
  refine Option.bind_eq_some_iff.2 ⟨o.limit, Count.restores o.limit, ?_⟩
  refine Option.bind_eq_some_iff.2 ⟨o.page, Count.restores o.page, ?_⟩
  refine Option.bind_eq_some_iff.2 ⟨o.filterGroups, hgroups, ?_⟩
  refine Option.bind_eq_some_iff.2 ⟨o.groupBy, rfl, ?_⟩
  refine Option.bind_eq_some_iff.2 ⟨o.selects, rfl, ?_⟩
  rw [Include.Modes.ofList_entries]
  rfl

end FetchPlan
