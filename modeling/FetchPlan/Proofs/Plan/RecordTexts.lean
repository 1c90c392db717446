import FetchPlan.Proofs.Json.RecordTrees
import FetchPlan.Proofs.Plan.PrintedPlans

/-!
# Records in texts

Sort items and terms, filters, groups and plans are written as JSON and read strictly. What
is written is read back as it was, with everything that is left out left out again. A text
may also write a record as an array, or leave out what may be left out, or hold members
that nobody knows; printing what is read from it gives a text that is read as the same.

The values of filters are not looked at, and they stand as deep in the printed text as in
the text that they come from.
-/

namespace FetchPlan

open Json (Value Members Tree nestingLimit)
open Json.Value
open Json.Tree (Keeps Restores)

/-- What is written comes back, for records that are `sound`: from the JSON value, and from
the two texts of it. -/
structure RoundTrips {α : Type} (read : Tree → Option α) (write : α → Value)
    (sound : α → Prop) : Prop where
  value : ∀ x, sound x → Restores read write x
  /-- A text must not nest too deeply, and a binary64 number need not come back. -/
  text : ∀ x, sound x → (write x).Integral → (write x).Fits nestingLimit 0 →
    ∀ text, text = (write x).compact ∨ text = (write x).pretty →
      (Tree.ofText? nestingLimit text).bind read = some x
  /-- Whatever text gives a record, without binary64 numbers in it, the record is printed as
  texts that give the same record, and print the same again. -/
  again : ∀ text tree x, Tree.ofText? nestingLimit text = some tree → tree.Integral →
    read tree = some x →
      ∀ text', text' = (write x).compact ∨ text' = (write x).pretty →
        (Tree.ofText? nestingLimit text').bind read = some x ∧
          ∀ y, (Tree.ofText? nestingLimit text').bind read = some y →
            (write y).compact = (write x).compact ∧ (write y).pretty = (write x).pretty

section Assembled

variable {α : Type} {read : Tree → Option α} {write : α → Value} {sound : α → Prop} {x : α}

/-- A record that is given back from its JSON value is given back from a text of it. -/
theorem bind_read_of_restores (hrestores : Restores read write x)
    (hprintable : (write x).Printable nestingLimit 0) {text : String}
    (htext : text = (write x).compact ∨ text = (write x).pretty) :
    (Tree.ofText? nestingLimit text).bind read = some x := by
  have htree : Tree.ofText? nestingLimit text = some (write x).toTree := by
    rcases htext with rfl | rfl
    · exact hprintable.tree_compact
    · exact hprintable.tree_pretty
  rw [htree]
  exact hrestores

/-- A reader and a writer go together when the writer writes well-formed values that the
reader gives back, and the reader reads nothing that cannot be printed. -/
theorem RoundTrips.of_keeps (hwrites : ∀ x, sound x → (write x).WellFormed)
    (hrestores : ∀ x, sound x → Restores read write x)
    (hkeeps : Keeps nestingLimit 0 read fun x =>
      sound x ∧ (write x).Printable nestingLimit 0) : RoundTrips read write sound where
  value := hrestores
  text x hx hintegral hfits _ htext :=
    bind_read_of_restores (hrestores x hx) ⟨⟨hwrites x hx, hfits⟩, hintegral⟩ htext
  again text tree x hread hintegral hx text' htext' := by
    obtain ⟨hsound, hprintable⟩ := hkeeps tree x ⟨Tree.sound_ofText? hread, hintegral⟩ hx
    have hback := bind_read_of_restores (hrestores x hsound) hprintable htext'
    refine ⟨hback, fun y hy => ?_⟩
    obtain rfl : x = y := Option.some.inj (hback.symm.trans hy)
    exact ⟨rfl, rfl⟩

end Assembled

/-! ## Records are written well-formed -/

theorem Sort.Term.wellFormed_toJson (t : Sort.Term) : t.toJson.WellFormed := by
  simp [toJson, Members.keys]

theorem Filter.Test.wellFormed_toJson {t : Filter.Test} (h : t.value.WellFormed) :
    t.toJson.WellFormed := by
  simp [toJson, Members.keys, h]

theorem Filter.Group.wellFormed_toJson {g : Filter.Group}
    (h : ∀ t ∈ g.filters, t.value.WellFormed) : g.toJson.WellFormed := by
  have hfilters := wellFormed_array_map fun t ht => Filter.Test.wellFormed_toJson (h t ht)
  exact .object (by simp) (by simpa using hfilters)

theorem Include.Modes.wellFormed_members (modes : Modes) :
    (Value.object modes.members).WellFormed := by
  refine wellFormed_object_iff.2 ⟨modes.keys_members ▸ modes.nodup_keys, ?_⟩
  intro m hm
  obtain ⟨e, -, rfl⟩ := List.mem_map.1 hm
  exact .string e.2

theorem Plan.wellFormed_toJson {o : Plan} (h : o.WellFormed) : o.toJson.WellFormed := by
  have hsort := wellFormed_array_map fun t (_ : t ∈ o.sort) => t.wellFormed_toJson
  have hgroups := wellFormed_array_map fun g hg => Filter.Group.wellFormed_toJson (h g hg)
  refine .object (by simp) ?_
  simp only [List.forall_mem_cons]
  exact ⟨wellFormed_ofStrings o.includes, o.modes.wellFormed_members, hsort,
    Count.wellFormed_toJson o.limit, Count.wellFormed_toJson o.page, hgroups,
    .string o.groupBy, .string o.selects, List.forall_mem_nil _⟩

/-! ## Drafts are printable -/

variable {limit level : Nat}

theorem Sort.Draft.printable_toJson (d : Draft) (room : level < limit) :
    d.toJson.Printable limit level := by
  rcases d with ⟨field, _ | direction⟩
  · exact printable_object room (by simp [Members.keys]) (by simp [printable_string])
  · exact printable_object room (by simp [Members.keys]) (by simp [printable_string])

theorem Filter.Draft.printable_toJson {d : Draft} (room : level < limit)
    (h : d.value.Printable limit (level + 1)) : d.toJson.Printable limit level := by
  rcases d with ⟨key, operator, value, _ | negated⟩
  · exact printable_object room (by simp [Members.keys]) (by simpa [printable_string] using h)
  · exact printable_object room (by simp [Members.keys])
      (by simpa [printable_string, printable_bool] using h)

theorem Filter.GroupDraft.printable_toJson {g : GroupDraft} (room : level + 2 < limit)
    (h : g.TestsWith (·.Printable limit (level + 3))) : g.toJson.Printable limit level := by
  have hfilters : ∀ filters, g.filters = some filters →
      (Value.array (filters.map Draft.toJson)).Printable limit (level + 1) :=
    fun filters hgiven =>
      printable_array (by omega) fun d hd => Draft.printable_toJson room (h filters hgiven d hd)
  rcases g with ⟨_ | filters, _ | disjunctive⟩
  · exact printable_object (by omega) (by simp [Members.keys]) (by simp)
  · exact printable_object (by omega) (by simp [Members.keys]) (by simp [printable_bool])
  · exact printable_object (by omega) (by simp [Members.keys]) (by simpa using hfilters _ rfl)
  · exact printable_object (by omega) (by simp [Members.keys])
      (by simpa [printable_bool] using hfilters _ rfl)

/-! ## Filter values in trees -/

namespace Filter

theorem keeps_draft : Keeps limit level Draft.ofTree? fun d =>
    d.value.Printable limit (level + 1) := by
  intro tree d htree hread
  obtain ⟨fields, hfields, hread⟩ := Option.bind_eq_some_iff.1 hread
  obtain ⟨key, -, hread⟩ := Option.bind_eq_some_iff.1 hread
  obtain ⟨operator, -, hread⟩ := Option.bind_eq_some_iff.1 hread
  obtain ⟨value, hvalue, hread⟩ := Option.bind_eq_some_iff.1 hread
  obtain ⟨negated, -, hread⟩ := Option.bind_eq_some_iff.1 hread
  cases hread
  cases hget : fields.lookup "value" with
  | none =>
    rw [hget] at hvalue
    cases hvalue
    exact printable_null
  | some t =>
    rw [hget] at hvalue
    exact Tree.keeps_value.field htree hfields hget hvalue

theorem keeps_test : Keeps limit level Test.ofTree? fun t =>
    t.value.Printable limit (level + 1) := by
  intro tree t htree hread
  obtain ⟨fields, hfields, hread⟩ := Option.bind_eq_some_iff.1 hread
  obtain ⟨key, -, hread⟩ := Option.bind_eq_some_iff.1 hread
  obtain ⟨operator, -, hread⟩ := Option.bind_eq_some_iff.1 hread
  obtain ⟨value, hvalue, hread⟩ := Option.bind_eq_some_iff.1 hread
  obtain ⟨negated, -, hread⟩ := Option.bind_eq_some_iff.1 hread
  cases hread
  exact Tree.keeps_value.required htree hfields hvalue

theorem keeps_groupDraft : Keeps limit level GroupDraft.ofTree? fun g =>
    g.TestsWith (·.Printable limit (level + 3)) := by
  intro tree g htree hread filters hgiven
  obtain ⟨fields, hfields, hread⟩ := Option.bind_eq_some_iff.1 hread
  obtain ⟨read, hfilters, hread⟩ := Option.bind_eq_some_iff.1 hread
  obtain ⟨disjunctive, -, hread⟩ := Option.bind_eq_some_iff.1 hread
  cases hread
  obtain rfl : read = some filters := hgiven
  exact (Tree.keeps_list keeps_draft).optional htree hfields hfilters

theorem keeps_group : Keeps limit level Group.ofTree? fun g =>
    ∀ t ∈ g.filters, t.value.Printable limit (level + 3) := by
  intro tree g htree hread
  obtain ⟨fields, hfields, hread⟩ := Option.bind_eq_some_iff.1 hread
  obtain ⟨filters, hfilters, hread⟩ := Option.bind_eq_some_iff.1 hread
  obtain ⟨disjunctive, -, hread⟩ := Option.bind_eq_some_iff.1 hread
  cases hread
  exact (Tree.keeps_list keeps_test).required htree hfields hfilters

end Filter

theorem Plan.keeps_ofTree? : Keeps limit level ofTree? fun o =>
    o.TestsWith (·.Printable limit (level + 5)) := by
  intro tree o htree hread
  obtain ⟨fields, hfields, hread⟩ := Option.bind_eq_some_iff.1 hread
  obtain ⟨includes, -, hread⟩ := Option.bind_eq_some_iff.1 hread
  obtain ⟨modes, -, hread⟩ := Option.bind_eq_some_iff.1 hread
  obtain ⟨sort, -, hread⟩ := Option.bind_eq_some_iff.1 hread
  obtain ⟨count, -, hread⟩ := Option.bind_eq_some_iff.1 hread
  obtain ⟨page, -, hread⟩ := Option.bind_eq_some_iff.1 hread
  obtain ⟨groups, hgroups, hread⟩ := Option.bind_eq_some_iff.1 hread
  obtain ⟨groupBy, -, hread⟩ := Option.bind_eq_some_iff.1 hread
  obtain ⟨selects, -, hread⟩ := Option.bind_eq_some_iff.1 hread
  cases hread
  exact (Tree.keeps_list Filter.keeps_group).required htree hfields hgroups

/-! ## Round trips -/

theorem Sort.roundTrips_term : RoundTrips Term.ofTree? Term.toJson fun _ => True :=
  .of_keeps (fun t _ => t.wellFormed_toJson) (fun t _ => t.restores)
    fun _ t _ _ => ⟨trivial, t.printable_toJson (by decide)⟩

theorem Sort.roundTrips_draft : RoundTrips Draft.ofTree? Draft.toJson fun _ => True :=
  .of_keeps (fun d _ => d.wellFormed_toJson) (fun d _ => d.restores)
    fun _ d _ _ => ⟨trivial, d.printable_toJson (by decide)⟩

theorem Filter.roundTrips_test :
    RoundTrips Test.ofTree? Test.toJson fun t => t.value.WellFormed := by
  refine .of_keeps (fun _ => Test.wellFormed_toJson) (fun _ => Test.restores) ?_
  intro tree t htree hread
  have hvalue := keeps_test tree t htree hread
  exact ⟨hvalue.readable.wellFormed, Test.printable_toJson (by decide) hvalue⟩

theorem Filter.roundTrips_draft :
    RoundTrips Draft.ofTree? Draft.toJson fun d => d.value.WellFormed := by
  refine .of_keeps (fun _ => Draft.wellFormed_toJson) (fun _ => Draft.restores) ?_
  intro tree d htree hread
  have hvalue := keeps_draft tree d htree hread
  exact ⟨hvalue.readable.wellFormed, Draft.printable_toJson (by decide) hvalue⟩

theorem Filter.roundTrips_group :
    RoundTrips Group.ofTree? Group.toJson fun g => ∀ t ∈ g.filters, t.value.WellFormed := by
  refine .of_keeps (fun _ => Group.wellFormed_toJson) (fun _ => Group.restores) ?_
  intro tree g htree hread
  have hvalues := keeps_group tree g htree hread
  exact ⟨fun t ht => (hvalues t ht).readable.wellFormed,
    Group.printable_toJson (by decide) hvalues⟩

theorem Filter.roundTrips_groupDraft :
    RoundTrips GroupDraft.ofTree? GroupDraft.toJson (·.TestsWith WellFormed) := by
  refine .of_keeps (fun _ => GroupDraft.wellFormed_toJson) (fun _ => GroupDraft.restores) ?_
  intro tree g htree hread
  have hvalues := keeps_groupDraft tree g htree hread
  exact ⟨fun filters hgiven d hd => (hvalues filters hgiven d hd).readable.wellFormed,
    GroupDraft.printable_toJson (by decide) hvalues⟩

theorem Plan.roundTrips : RoundTrips ofTree? toJson Plan.WellFormed := by
  refine .of_keeps (fun _ => wellFormed_toJson) (fun _ => restores) ?_
  intro tree o htree hread
  have hvalues := keeps_ofTree? tree o htree hread
  exact ⟨fun g hg t ht => (hvalues g hg t ht).readable.wellFormed,
    printable_toJson (by decide) hvalues⟩

/-- **Every record comes back.** Sort terms and items, settled and given filters and groups,
and plans are read back from the JSON that they are written as, and from its texts. -/
theorem records_round_trip :
    RoundTrips Sort.Term.ofTree? Sort.Term.toJson (fun _ => True) ∧
      RoundTrips Sort.Draft.ofTree? Sort.Draft.toJson (fun _ => True) ∧
      RoundTrips Filter.Test.ofTree? Filter.Test.toJson (·.value.WellFormed) ∧
      RoundTrips Filter.Draft.ofTree? Filter.Draft.toJson (·.value.WellFormed) ∧
      RoundTrips Filter.Group.ofTree? Filter.Group.toJson
        (fun g => ∀ t ∈ g.filters, t.value.WellFormed) ∧
      RoundTrips Filter.GroupDraft.ofTree? Filter.GroupDraft.toJson (·.TestsWith WellFormed) ∧
      RoundTrips Plan.ofTree? Plan.toJson Plan.WellFormed :=
  ⟨Sort.roundTrips_term, Sort.roundTrips_draft, Filter.roundTrips_test,
    Filter.roundTrips_draft, Filter.roundTrips_group, Filter.roundTrips_groupDraft,
    Plan.roundTrips⟩

namespace Printing

/-- A group whose filter leaves out its value, written as arrays inside of each other. -/
def positional : String := "[[[\"k\", \"eq\"]], false]"

def positionalTree : Tree :=
  .array [.array [.array [.string "k", .string "eq"]], .bool false]

def positionalGroup : Filter.GroupDraft := ⟨some [⟨"k", "eq", .null, none⟩], some false⟩

/-- A plan with a count that is zero, and one that is not there. -/
def zeroPage : Plan := { plan with limit := none, page := some 0, filterGroups := [] }

end Printing

/-- A group without a list and one with an empty list are told apart, and a count that is
zero from no count. The array form comes back as an object, with the value written out. -/
theorem records_round_trip_positional :
    (Filter.GroupDraft.TestsWith WellFormed ⟨some [], none⟩ ∧
      Restores Filter.GroupDraft.ofTree? Filter.GroupDraft.toJson ⟨some [], none⟩ ∧
      Restores Filter.GroupDraft.ofTree? Filter.GroupDraft.toJson ⟨none, some false⟩) ∧
    (Printing.zeroPage.WellFormed ∧ Printing.zeroPage.toJson.Integral ∧
      Printing.zeroPage.toJson.Fits nestingLimit 0 ∧
      (Tree.ofText? nestingLimit Printing.zeroPage.toJson.pretty).bind Plan.ofTree? =
        some Printing.zeroPage) ∧
    Tree.ofText? nestingLimit Printing.positional = some Printing.positionalTree ∧
    Printing.positionalTree.Integral ∧
    Filter.GroupDraft.ofTree? Printing.positionalTree = some Printing.positionalGroup ∧
    Printing.positionalGroup.toJson.compact =
      "\x7b\"filters\":[\x7b\"key\":\"k\",\"operator\":\"eq\",\"value\":null\x7d]," ++
        "\"or\":false\x7d" ∧
    (Tree.ofText? nestingLimit Printing.positionalGroup.toJson.compact).bind
      Filter.GroupDraft.ofTree? = some Printing.positionalGroup := by
  obtain ⟨-, -, -, -, -, hgroup, hplan⟩ := records_round_trip
  have hempty : Filter.GroupDraft.TestsWith WellFormed ⟨some [], none⟩ := by
    rintro filters ⟨⟩
    exact nofun
  have hnone : Filter.GroupDraft.TestsWith WellFormed ⟨none, some false⟩ := nofun
  have hwell : Printing.zeroPage.WellFormed := nofun
  have hprintable : Printing.zeroPage.toJson.Printable nestingLimit 0 :=
    Plan.printable_toJson (by decide) nofun
  have htree : Tree.ofText? nestingLimit Printing.positional =
      some Printing.positionalTree := by
    with_unfolding_all rfl
  have hintegral : Printing.positionalTree.Integral := by
    refine .array (List.forall_mem_cons.2 ⟨.array ?_, List.forall_mem_singleton.2 (.bool false)⟩)
    refine List.forall_mem_singleton.2 (.array ?_)
    exact List.forall_mem_cons.2 ⟨.string "k", List.forall_mem_singleton.2 (.string "eq")⟩
  have hread : Filter.GroupDraft.ofTree? Printing.positionalTree =
      some Printing.positionalGroup := by
    decide +kernel
  refine ⟨⟨hempty, hgroup.value _ hempty, hgroup.value _ hnone⟩,
    ⟨hwell, hprintable.integral, hprintable.readable.fits,
      hplan.text _ hwell hprintable.integral hprintable.readable.fits _ (.inr rfl)⟩,
    htree, hintegral, hread, by decide +kernel, ?_⟩
  exact (hgroup.again _ _ _ htree hintegral hread _ (.inl rfl)).1

end FetchPlan
