import FetchPlan.Proofs.Request.Contents

/-!
# Falling back is filling in

Leaving a parameter out of a request is the same as giving the default for it, written as
JSON. A request that is filled up in this way does not depend on the defaults any more, but
for the default mode; so a default for a parameter that a request carries, even as null, is
never looked at.
-/

namespace FetchPlan

open Json (Value Members)

/-- The members of a request, followed by the defaults for the parameters that are not
among them. -/
def Defaults.fill (d : Defaults) (members : Members) : Members :=
  members ++ (Param.all.filter fun p => (members.get? p.name).isNone).map
    fun p => (p.name, d.written p)

/-! ## What a filled request holds -/

theorem Param.lookup_map_name (f : Param → Value) (ps : List Param) (p : Param) :
    (ps.map fun q => (q.name, f q)).lookup p.name = if p ∈ ps then some (f p) else none := by
  induction ps with
  | nil => rfl
  | cons q ps ih =>
    rw [List.map_cons, List.lookup_cons]
    by_cases h : p = q
    · simp [h]
    · have hname : (p.name == q.name) = false := by
        simpa using fun hname => h (Param.name_injective hname)
      rw [hname, ih]
      simp [h]

/-- What a request carries stays as it is. -/
theorem Defaults.get?_fill_of_present {d : Defaults} {members : Members} {name : String}
    {v : Value} (h : members.get? name = some v) : Members.get? (d.fill members) name = some v := by
  unfold Defaults.fill Members.get? at *
  rw [List.lookup_append, h]
  rfl

/-- What a request leaves out is filled in. -/
theorem Defaults.get?_fill_of_absent {d : Defaults} {members : Members} {p : Param}
    (h : members.get? p.name = none) :
    Members.get? (d.fill members) p.name = some (d.written p) := by
  have hmem : p ∈ Param.all.filter fun p => (members.get? p.name).isNone := by
    simp [Param.mem_all, h]
  -- nothing is found among the members, so the search goes on in what is filled in
  unfold Defaults.fill
  rw [Members.get?, List.lookup_append, Param.lookup_map_name, if_pos hmem]
  rw [show members.lookup p.name = none from h]
  rfl

/-! ## Plans for filled requests -/

/-- The value that holds for a parameter of a filled request is the one that holds in the
request it was filled from. -/
theorem Request.effective_fill (members : Members) (d d₀ : Defaults) (p : Param) :
    effective (.ofMembers (d.fill members)) d₀ p = effective (.ofMembers members) d p := by
  cases h : members.get? p.name with
  | none =>
    have habsent : Params.ofMembers members p.name = none := h
    rw [effective_of_absent habsent]
    exact effective_of_written (Defaults.get?_fill_of_absent h) d₀
  | some v =>
    have hpresent : Params.ofMembers members p.name = some v := h
    rw [effective_of_present hpresent]
    exact effective_of_present (Defaults.get?_fill_of_present h) d₀

/-- In a request that gives every parameter nothing is left to the defaults. -/
theorem Request.effective_fill_nil (e d : Defaults) (p : Param) :
    effective (.ofMembers (e.fill [])) d p = .ok (e.get p) := by
  rw [effective_fill]
  exact effective_of_absent rfl e

/-- Defaults that agree on a parameter, unless the request carries it anyway. -/
theorem Request.effective_eq_of_agree {params : Params} {d d₀ : Defaults} {p : Param}
    (h : params p.name = none → d₀.get p = d.get p) :
    effective params d₀ p = effective params d p := by
  cases hp : params p.name with
  | none => rw [effective_of_absent hp, effective_of_absent hp, h hp]
  | some v => rw [effective_of_present hp, effective_of_present hp]

/-- **Falling back is filling in.** A request with the defaults `d` is treated as the
request that is filled up with `d`, whatever the defaults then are, as long as they have
the same mode. So two defaults with the same mode that agree on the parameters that a
request leaves out cannot be told apart by it, also when a default for one of the others
could not be accepted. -/
theorem assemble_fill (members : Members) (d d₀ : Defaults) (hmode : d₀.mode = d.mode) :
    Plan.assemble (.ofValue (.object (d.fill members))) d₀ =
        Plan.assemble (.ofValue (.object members)) d ∧
      ((∀ p : Param, members.get? p.name = none → d₀.get p = d.get p) →
        Plan.assemble (.ofValue (.object members)) d₀ =
          Plan.assemble (.ofValue (.object members)) d) := by
  constructor
  · exact Plan.assemble_congr hmode (Request.effective_fill members d d₀)
  · intro hagree
    exact Plan.assemble_congr hmode fun p => Request.effective_eq_of_agree (hagree p)

namespace Fallback

/-- A request that clears the limit and asks for no filters. -/
def carried : Members := [("limit", .null), ("page", .string ""), ("filter_groups", .array [])]

/-- Defaults with a group that has no filters and a page. -/
def faulty : Defaults :=
  { Defaults.base with
    includes := ["author,ids:name", "tags"]
    sort := [⟨"id", none⟩]
    page := some 2
    filterGroups := [⟨none, some true⟩]
    selects := "id" }

/-- The same defaults without the group and the page. -/
def mended : Defaults := { faulty with page := none, filterGroups := [] }

end Fallback

/-- The group that could not be accepted is not looked at, neither in the defaults nor when
they are filled in. -/
theorem assemble_fill_faulty :
    Fallback.mended.mode = Fallback.faulty.mode ∧
      (∀ p : Param, Fallback.carried.get? p.name = none →
        Fallback.mended.get p = Fallback.faulty.get p) ∧
      (Plan.assemble (.ofValue (.object Fallback.carried)) Fallback.mended).isOk = true ∧
      Plan.assemble (.ofValue (.object (Fallback.faulty.fill Fallback.carried)))
          Fallback.mended =
        Plan.assemble (.ofValue (.object Fallback.carried)) Fallback.faulty ∧
      Plan.assemble (.ofValue (.object Fallback.carried)) Fallback.mended =
        Plan.assemble (.ofValue (.object Fallback.carried)) Fallback.faulty := by
  have hagree : ∀ p : Param, Fallback.carried.get? p.name = none →
      Fallback.mended.get p = Fallback.faulty.get p := by
    intro p
    cases p <;> decide
  have h := assemble_fill Fallback.carried Fallback.faulty Fallback.mended rfl
  exact ⟨rfl, hagree, by decide +kernel, h.1, h.2 hagree⟩

end FetchPlan
