import FetchPlan.Proofs.Json.Printable
import FetchPlan.Proofs.Plan.FilterValues
import FetchPlan.Proofs.Plan.StrictReading

/-!
# Printed plans

A plan stands in a text with five levels around each filter value, just as many as in the
request and in the defaults document that the value comes from. So no plan is nested too
deeply to be read back, whatever texts were accepted.
-/

namespace FetchPlan

open Json (Value Members Tree nestingLimit)
open Json.Value

variable {limit level : Nat}

/-! ## Plans are printable -/

theorem printable_ofStrings (texts : List String) (room : level < limit) :
    (ofStrings texts).Printable limit level :=
  printable_array room fun s _ => printable_string s

theorem Count.printable_toJson (count : Option Count) :
    (toJson count).Printable limit level := by
  cases count with
  | none => exact printable_null
  | some n => exact printable_ofNat n.toNat_lt

theorem Sort.Term.printable_toJson (t : Term) (room : level < limit) :
    t.toJson.Printable limit level :=
  printable_object room (by simp [Members.keys]) (by simp [printable_string])

theorem Filter.Test.printable_toJson {t : Test} (room : level < limit)
    (h : t.value.Printable limit (level + 1)) : t.toJson.Printable limit level :=
  printable_object room (by simp [Members.keys])
    (by simp [printable_string, printable_bool, h])

theorem Filter.Group.printable_toJson {g : Group} (room : level + 2 < limit)
    (h : ∀ t ∈ g.filters, t.value.Printable limit (level + 3)) :
    g.toJson.Printable limit level := by
  have hfilters : (Value.array (g.filters.map Test.toJson)).Printable limit (level + 1) :=
    printable_array (by omega) fun t ht => Test.printable_toJson room (h t ht)
  exact printable_object (by omega) (by simp [Members.keys])
    (by simp [printable_bool, hfilters])

theorem Include.Modes.keys_members (modes : Modes) : modes.members.keys = modes.keys := by
  rw [Members.keys, members, List.map_map]
  rfl

theorem Include.Modes.printable_members (modes : Modes) (room : level < limit) :
    (Value.object modes.members).Printable limit level := by
  refine printable_object room (modes.keys_members ▸ modes.nodup_keys) ?_
  intro m hm
  obtain ⟨e, -, rfl⟩ := List.mem_map.1 hm
  exact printable_string e.2

/-- A plan is printable when the values that its filters test with are. -/
theorem Plan.printable_toJson {o : Plan} (room : 4 < limit)
    (h : o.TestsWith (·.Printable limit 5)) : o.toJson.Printable limit 0 := by
  have hsort : (Value.array (o.sort.map Sort.Term.toJson)).Printable limit 1 :=
    printable_array (by omega) fun t _ => t.printable_toJson (by omega)
  have hgroups : (Value.array (o.filterGroups.map Filter.Group.toJson)).Printable limit 1 :=
    printable_array (by omega) fun g hg => Filter.Group.printable_toJson room (h g hg)
  have hmodes : (Value.object o.modes.members).Printable limit 1 :=
    o.modes.printable_members (by omega)
  have hincludes : (ofStrings o.includes).Printable limit 1 :=
    printable_ofStrings o.includes (by omega)
  refine printable_object (by omega) (by simp [Members.keys]) ?_
  simp only [List.forall_mem_cons]
  exact ⟨hincludes, hmodes, hsort, Count.printable_toJson o.limit, Count.printable_toJson o.page,
    hgroups, printable_string o.groupBy, printable_string o.selects, List.forall_mem_nil _⟩

/-! ## Texts -/

/-- The patch of an optional defaults document. -/
inductive Defaults.Patch.Loads (explain : String → String) : Option String → Patch → Prop
  | absent : Loads explain none .empty
  | document {text : String} {v : Value} {patch : Patch}
      (read : Document.ofText explain text = .ok v) (accepted : ofValue v = .ok patch) :
      Loads explain (some text) patch

theorem Defaults.Patch.Loads.testsWith {explain : String → String} {text : Option String}
    {patch : Patch} (h : Loads explain text patch) : patch.TestsWith (·.Readable nestingLimit 5) := by
  cases h with
  | absent => exact nofun
  | document hread haccepted =>
    exact testsWith_ofValue (Document.readable_ofText hread) haccepted

/-- **Printed plans are read back.** Whatever request text and defaults text are accepted,
the plan that they give comes back from both of its printed forms, as a JSON value with all
members in their order, the modes by their keys, and as a plan. The numbers in filter
values must be integers; nothing else about the texts matters, not even how deeply they are
nested. -/
theorem plan_round_trip (explain : String → String) (request : String)
    (defaults : Option String) (v : Value) (patch : Defaults.Patch) (o : Plan)
    (hrequest : Document.ofText explain request = .ok v)
    (hdefaults : patch.Loads explain defaults)
    (hassemble : Plan.assemble (.ofValue v) (Defaults.base.apply patch) = .ok o)
    (hintegral : o.TestsWith Integral) :
    (∀ text, text = o.toJson.compact ∨ text = o.toJson.pretty →
      Document.ofText explain text = .ok o.toJson ∧
        (Tree.ofText? nestingLimit text).bind Plan.ofTree? = some o) ∧
      ∃ modes : Members, o.toJson.members?.bind (·.get? "modes") = some (.object modes) ∧
        modes.keys.Pairwise (· < ·) := by
  have hreadable : o.TestsWith (·.Readable nestingLimit 5) :=
    Plan.testsWith_of_assemble (Document.readable_ofText hrequest)
      (Defaults.testsWith_apply Defaults.testsWith_base hdefaults.testsWith) hassemble
  have hprintable : o.toJson.Printable nestingLimit 0 :=
    Plan.printable_toJson (by decide) fun g hg t ht =>
      ⟨hreadable g hg t ht, hintegral g hg t ht⟩
  have hwell : o.WellFormed := fun g hg t ht => (hreadable g hg t ht).wellFormed
  constructor
  · intro text htext
    have htree : Tree.ofText? nestingLimit text = some o.toJson.toTree := by
      rcases htext with rfl | rfl
      · exact hprintable.tree_compact
      · exact hprintable.tree_pretty
    refine ⟨Document.ofText_eq_ok hprintable.readable.wellFormed htree, ?_⟩
    rw [htree]
    exact Plan.restores hwell
  · refine ⟨o.modes.members, rfl, ?_⟩
    rw [o.modes.keys_members]
    exact o.modes.keys_sorted

namespace Printing

/-- Says nothing about texts that are not JSON. -/
def explain (_ : String) : String := ""

/-- A request with escapes, the integers at both ends of the range, and empty containers. -/
def request : String :=
  "\x7b\"includes\": [\"z\\\"\\n\", \"a:\\u001f\"], \"filter_groups\": [\x7b\"or\": \"1\","
    ++ "\"filters\": [\x7b\"key\": \"k\", \"operator\": \"\", \"value\": [[], \x7b\x7d, \x7b\"é\": null,"
    ++ "\"least\": -9223372036854775808, \"é\": 18446744073709551615\x7d]\x7d]\x7d]\x7d"

def defaults : String := "\x7b\"limit\": 9, \"mode\": \"\\u0000\"\x7d"

/-- The value of the filter: of the repeated key the first place and the last value. -/
def opaqueValue : Value := .array [.array [], .object [], .object [
  ("é", .ofNat 18446744073709551615), ("least", .number (.integer (-9223372036854775808)))]]

def asked : Value := .object [
  ("includes", .ofStrings ["z\"\n", "a:\x1f"]),
  ("filter_groups", .array [.object [("or", .string "1"), ("filters", .array [.object [
    ("key", .string "k"), ("operator", .string ""), ("value", opaqueValue)]])]])]

def patch : Defaults.Patch :=
  { Defaults.Patch.empty with limit := some (some 9), mode := some "\x00" }

def plan : Plan where
  includes := ["z\"\n", "a:\x1f"]
  modes := .ofList [("z\"\n", "\x00"), ("a", "\x00")]
  sort := []
  limit := some 9
  page := none
  filterGroups := [⟨[⟨"k", "", opaqueValue, false⟩], true⟩]
  groupBy := ""
  selects := ""

end Printing

/-- The modes stand in the order of their keys, not in that of the includes. -/
theorem plan_round_trip_opaque :
    Document.ofText Printing.explain Printing.request = .ok Printing.asked ∧
      Printing.patch.Loads Printing.explain (some Printing.defaults) ∧
      Plan.assemble (.ofValue Printing.asked) (Defaults.base.apply Printing.patch) =
        .ok Printing.plan ∧
      Printing.plan.TestsWith Integral ∧
      Document.ofText Printing.explain Printing.plan.toJson.compact = .ok Printing.plan.toJson ∧
      (Tree.ofText? nestingLimit Printing.plan.toJson.pretty).bind Plan.ofTree? =
        some Printing.plan ∧
      Printing.plan.modes.keys = ["a", "z\"\n"] := by
  have hrequest : Document.ofText Printing.explain Printing.request = .ok Printing.asked := by
    decide +kernel
  have hdefaults : Printing.patch.Loads Printing.explain (some Printing.defaults) :=
    .document (v := .object [("limit", .ofNat 9), ("mode", .string "\x00")]) (by decide +kernel)
      (by decide +kernel)
  have hassemble : Plan.assemble (.ofValue Printing.asked)
      (Defaults.base.apply Printing.patch) = .ok Printing.plan := by
    decide +kernel
  have hvalue : Printing.opaqueValue.Integral := by
    refine .array ?_
    simp only [List.forall_mem_cons]
    refine ⟨.array nofun, .object nofun, .object ?_, nofun⟩
    simp only [List.forall_mem_cons]
    exact ⟨.integer _, .integer _, nofun⟩
  have hintegral : Printing.plan.TestsWith Integral := by
    intro g hg t ht
    obtain rfl := List.mem_singleton.1 hg
    obtain rfl := List.mem_singleton.1 ht
    exact hvalue
  have h := (plan_round_trip _ _ _ _ _ _ hrequest hdefaults hassemble hintegral).1
  exact ⟨hrequest, hdefaults, hassemble, hintegral, (h _ (.inl rfl)).1, (h _ (.inr rfl)).2,
    by decide +kernel⟩

end FetchPlan
