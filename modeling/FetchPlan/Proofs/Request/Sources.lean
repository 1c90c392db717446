import FetchPlan.Proofs.Request.Checked
import FetchPlan.Proofs.Request.Rewrites
import Mathlib.Data.List.Induction
import Mathlib.Logic.Relation

/-!
# Requests that cannot be told apart

The members of a request may be handed over in several containers, and each request can be
rewritten in many ways. All requests that such changes lead to, any number of them one
after the other, ask for the same plan or are rejected for the same reason.
-/

namespace FetchPlan

open Json (Value Members)

namespace Request

/-! ## Containers -/

/-- What the members of a request are handed over in. -/
inductive Source where
  | members (members : Members)
  | value (value : Value)
  | hashMap (map : Std.HashMap String Value)
  | treeMap (map : Std.TreeMap String Value)
  | reference (source : Source)

namespace Source

/-- What a container says. -/
def params : Source → Params
  | .members ms => .ofMembers ms
  | .value v => .ofValue v
  | .hashMap map => fun name => map[name]?
  | .treeMap map => fun name => map[name]?
  | .reference source => source.params

/-- The members that are handed over, in some order. A value that is no object hands over
none. -/
def contents : Source → Members
  | .members ms => ms
  | .value v => v.members?.getD []
  | .hashMap map => map.toList
  | .treeMap map => map.toList
  | .reference source => source.contents

/-- The container hands over exactly these members, and distinct ones. -/
structure Carries (s : Source) (ms : Members) : Prop where
  distinct : ms.keys.Nodup
  contents : s.contents.Perm ms

theorem params_eq_get? {s : Source} {ms : Members} (h : s.Carries ms) (name : String) :
    s.params name = ms.get? name := by
  induction s with
  | members ms' =>
    exact (Members.get?_perm h.contents.symm h.distinct name).symm
  | value v =>
    exact (Members.get?_perm h.contents.symm h.distinct name).symm
  | hashMap map =>
    apply Option.ext
    intro v
    rw [Members.get?_eq_some_iff h.distinct, ← h.contents.mem_iff]
    exact Std.HashMap.mem_toList_iff_getElem?_eq_some.symm
  | treeMap map =>
    apply Option.ext
    intro v
    rw [Members.get?_eq_some_iff h.distinct, ← h.contents.mem_iff]
    exact Std.TreeMap.mem_toList_iff_getElem?_eq_some.symm
  | reference source ih => exact ih ⟨h.distinct, h.contents⟩

/-- Another container for the same members, or a rewrite of the members. -/
inductive Step : Source → Source → Prop
  | carried {s s' : Source} {ms : Members} (left : s.Carries ms) (right : s'.Carries ms) :
    Step s s'
  | rewritten {ms ms' : Members} (step : Rewrite.request.Step ms ms') :
    Step (.members ms) (.members ms')

/-- Requests that any number of steps, forth or back, leads from one to the other. -/
def Equivalent (s s' : Source) : Prop := Relation.EqvGen Step s s'

theorem effective_step {s s' : Source} (h : Step s s') (d : Defaults) (p : Param) :
    effective s.params d p = effective s'.params d p := by
  cases h with
  | carried hleft hright =>
    unfold effective given
    rw [params_eq_get? hleft, params_eq_get? hright]
  | rewritten hstep => exact Request.effective_step hstep d p

theorem Equivalent.effective_eq {s s' : Source} (h : s.Equivalent s') (d : Defaults)
    (p : Param) : effective s.params d p = effective s'.params d p := by
  induction h with
  | rel s s' hstep => exact effective_step hstep d p
  | refl s => rfl
  | symm s s' _ ih => exact ih.symm
  | trans s t s' _ _ ih ih' => exact ih.trans ih'

end Source

end Request

/-- **Equivalent requests are indistinguishable.** Whatever the defaults are, and whatever
faults the requests have, equivalent ones ask for the same plan or are rejected for the same
reason. A value that is no object is equivalent to each request that carries none of the
parameters. -/
theorem assemble_equivalent (d : Defaults) :
    (∀ s s' : Request.Source, s.Equivalent s' →
      Plan.assemble s.params d = Plan.assemble s'.params d) ∧
      ∀ (s : Request.Source) (v : Value), v.kind ≠ .object →
        (∀ p : Param, s.params p.name = none) →
        Plan.assemble s.params d = Plan.assemble (.ofValue v) d := by
  constructor
  · intro s s' h
    exact Plan.assemble_congr rfl (h.effective_eq d)
  · intro s v hv habsent
    have hnone : ∀ name, Params.ofValue v name = none := by
      intro name
      cases v with
      | object members => exact absurd rfl hv
      | null | bool | number | string | array => rfl
    apply Plan.assemble_congr rfl
    intro p
    rw [Request.effective_of_absent (habsent p), Request.effective_of_absent (hnone p.name)]

namespace Sources

open Request (Source)

/-- A filter whose value is left out, with some form of a flag. -/
def filter (flag : Value) : Members :=
  [("key", .string "age"), ("operator", .string "exists"), ("not", flag)]

def groups (filter : Members) : Value :=
  .array [.object [("filters", .array [.object filter])]]

/-- A request with a fault in its last parameter. -/
def plain (limit : Value) (filter : Members) : Members :=
  [("limit", limit), ("filter_groups", groups filter), ("selects", .null)]

/-- The same request from a form, in another order, with a member that nobody reads. -/
def form : Source :=
  .reference (.value (.object [
    ("selects", .null), ("trace", .bool true), ("limit", .string "007"),
    ("filter_groups", groups (filter (.string "true")))]))

theorem form_equivalent : form.Equivalent (.members (plain (.ofNat 7) (filter (.ofNat 1)))) := by
  let traced : Members := ("trace", .bool true) :: plain (.string "007") (filter (.string "true"))
  have hform : form.Carries traced := ⟨by decide, by decide +kernel⟩
  have hcarried : Source.Step form (.members traced) := .carried hform ⟨by decide, .refl _⟩
  have htrace : Source.Step (.members (plain (.string "007") (filter (.string "true"))))
      (.members traced) :=
    .rewritten (.unread [] _ (.bool true) (by decide))
  have hlimit : Source.Step (.members (plain (.string "007") (filter (.string "true"))))
      (.members (plain (.ofNat 7) (filter (.string "true")))) :=
    .rewritten (.inside [] _ ⟨.limit, rfl, .limit (.forms
      (.digits 7 (by decide) (by decide +kernel) (by decide +kernel)) (.number 7))⟩)
  have hflag : Rewrite.filter.Step (filter (.string "true")) (filter (.ofNat 1)) :=
    .inside [("key", .string "age"), ("operator", .string "exists")] []
      ⟨rfl, .forms (b := true) (by decide) (by decide)⟩
  have hgroup : Rewrite.group.Step [("filters", .array [.object (filter (.string "true"))])]
      [("filters", .array [.object (filter (.ofNat 1))])] :=
    .inside [] [] (.inl ⟨rfl, .item [] [] (.object hflag)⟩)
  have hgroups : Source.Step (.members (plain (.ofNat 7) (filter (.string "true"))))
      (.members (plain (.ofNat 7) (filter (.ofNat 1)))) :=
    .rewritten (.inside [("limit", .ofNat 7)] [("selects", .null)]
      ⟨.filterGroups, rfl, .groups (.item [] [] (.object hgroup))⟩)
  exact .trans _ _ _ (.rel _ _ hcarried) (.trans _ _ _ (.symm _ _ (.rel _ _ htrace))
    (.trans _ _ _ (.rel _ _ hlimit) (.rel _ _ hgroups)))

end Sources

/-- Both are rejected for the field selection, under the same path. -/
theorem assemble_equivalent_form :
    Sources.form.Equivalent (.members (Sources.plain (.ofNat 7) (Sources.filter (.ofNat 1)))) ∧
      Plan.assemble Sources.form.params .base =
        .error (.mismatch ⟨[.key "selects"], .string, .kind .null⟩) := by
  refine ⟨Sources.form_equivalent, ?_⟩
  rw [(assemble_equivalent .base).1 _ _ Sources.form_equivalent]
  exact stop?_eq_some_iff.1 (by decide +kernel)

end FetchPlan
