import FetchPlan.Proofs.Include.Image
import FetchPlan.Proofs.Json.WellFormed
import FetchPlan.Proofs.Plan.Settings
import FetchPlan.Proofs.Request.Fallback

/-!
# Which plans there are

A plan is the plan of some request exactly when its includes and modes are attainable with
the default mode and it has no page without a limit. Nothing else about it is restricted.
A request for such a plan gives every parameter, the includes as tokens that select them.
-/

namespace FetchPlan

open Json (Value Members)
open Include (Selection)

namespace Plan

/-- What a plan includes. -/
def selection (o : Plan) : Selection := ⟨o.includes, o.modes⟩

/-- The plans that requests can have with the defaults `d`. Of the defaults only the mode
matters; sorting, filters, grouping and selected fields are free. -/
structure Attainable (d : Defaults) (o : Plan) : Prop where
  selection : o.selection.Attainable d.mode
  page_has_limit : o.page.isSome → o.limit.isSome

/-- A request for the plan when the default mode is `mode`: all parameters, as JSON. -/
def request (o : Plan) (mode : String) : Members :=
  (o.settings mode o.selection.tokens).fill []

theorem Settles.attainable {d e : Defaults} {o : Plan} (h : Settles e o)
    (hmode : e.mode = d.mode) : o.Attainable d where
  selection := by
    refine Selection.exists_tokens_iff.1 ⟨e.includes, Include.ofTokens_eq_ok_iff.2 ?_⟩
    rw [← hmode, Plan.selection, h.includes, h.modes]
    exact ⟨h.no_token_lacks_mode, rfl⟩
  page_has_limit := h.page_has_limit

variable {d : Defaults} {o : Plan}

theorem Attainable.assemble_request (h : o.Attainable d) :
    assemble (.ofValue (.object (o.request d.mode))) d = .ok o := by
  obtain ⟨hlacks, hselected⟩ := Include.ofTokens_eq_ok_iff.1 h.selection.ofTokens_tokens
  have hsettles := settles_settings h.page_has_limit hlacks
  have hreselect : o.reselect d.mode o.selection.tokens = o := by
    rw [reselect, ← hselected]
    rfl
  rw [hreselect] at hsettles
  exact assemble_eq_ok_iff.2
    ⟨o.settings d.mode o.selection.tokens, ⟨rfl, Request.effective_fill_nil _ d⟩, hsettles⟩

theorem wellFormed_request (h : o.WellFormed) (mode : String) :
    (Value.object (o.request mode)).WellFormed := by
  have hsettings : (o.settings mode o.selection.tokens).WellFormed := by
    intro group hgroup filters hfilters f hf
    obtain ⟨g, hg, rfl⟩ := List.mem_map.1 hgroup
    cases hfilters
    obtain ⟨test, htest, rfl⟩ := List.mem_map.1 hf
    exact h g hg test htest
  apply Value.WellFormed.object
  · show ((Param.all.map fun p => (p.name, _)).map Prod.fst).Nodup
    rw [List.map_map]
    exact (by decide : (Param.all.map Param.name).Nodup)
  · intro m hm
    obtain ⟨p, -, rfl⟩ := List.mem_map.1 hm
    exact Defaults.wellFormed_written hsettings p

end Plan

/-- **Image.** The plans of requests with the defaults `d` are exactly the attainable ones.
An attainable plan with well-formed filter values has a request that is a well-formed JSON
object: no key stands twice in it. -/
theorem assemble_image (d : Defaults) (o : Plan) :
    ((∃ members, Plan.assemble (.ofValue (.object members)) d = .ok o) ↔ o.Attainable d) ∧
      (o.Attainable d → o.WellFormed →
        ∃ members, (Value.object members).WellFormed ∧
          Plan.assemble (.ofValue (.object members)) d = .ok o) := by
  refine ⟨⟨?_, ?_⟩, ?_⟩
  · rintro ⟨members, h⟩
    obtain ⟨e, hholds, hsettles⟩ := Plan.assemble_eq_ok_iff.1 h
    exact hsettles.attainable hholds.mode
  · intro h
    exact ⟨o.request d.mode, h.assemble_request⟩
  · intro h hwell
    exact ⟨o.request d.mode, Plan.wellFormed_request hwell d.mode, h.assemble_request⟩

namespace Image

/-- A plan with two directives and two keys for the same author. -/
def authors : Plan where
  includes := ["author:name", "tags", "author"]
  modes := .ofList [("author", "embed"), ("author,ids", "ids"), ("tags,", "")]
  sort := [⟨"id", "down"⟩]
  limit := some 10
  page := some 2
  filterGroups := [⟨[⟨"age", "gt", .ofNat 30, false⟩], true⟩]
  groupBy := ""
  selects := "id"

/-- A request for it, in part as text. -/
def asked : Members := [
  ("page", .string "02"),
  ("includes", .ofStrings ["author:name", "tags,", "author,ids"]),
  ("sort", .array [.object [("field", .string "id"), ("direction", .string "down")]]),
  ("limit", .ofNat 10),
  ("filter_groups", .array [.object [
    ("or", .ofNat 1),
    ("filters", .array [.object [
      ("value", .ofNat 30), ("operator", .string "gt"), ("key", .string "age")]])]]),
  ("selects", .string "id")]

end Image

/-- The request that is made for a plan is not the only one. -/
theorem assemble_image_authors :
    Image.authors.Attainable .base ∧ Image.authors.request "embed" ≠ Image.asked ∧
      ∃ members, (Value.object members).WellFormed ∧
        Plan.assemble (.ofValue (.object members)) .base = .ok Image.authors := by
  have h := assemble_image .base Image.authors
  have hattainable : Image.authors.Attainable .base :=
    h.1.1 ⟨Image.asked, by decide +kernel⟩
  have hwell : Image.authors.WellFormed := by
    intro group hgroup test htest
    obtain rfl := List.mem_singleton.1 hgroup
    obtain rfl := List.mem_singleton.1 htest
    exact .number rfl
  exact ⟨hattainable, by decide +kernel, h.2 hattainable hwell⟩

end FetchPlan
