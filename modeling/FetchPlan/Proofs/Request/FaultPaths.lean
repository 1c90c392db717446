import FetchPlan.Proofs.Defaults.Documents
import FetchPlan.Proofs.Request.Places

/-!
# Paths of faults

The path in the message of a mismatch, read as a JSON pointer, leads into the document that
was read: to a value that is described in the message and is not acceptable where it
stands, or to an object that lacks the last key of the path. This holds for requests and
for defaults documents, and nothing that is taken from the defaults of a request is ever
reported in this way.
-/

namespace FetchPlan

open Json (Value Members Pointer)

/-- The mismatch is true of the document when its path is read from its text: it describes the
value that stands there, or says that there is nothing. -/
inductive Mismatch.Accurate (document : Value) (m : Mismatch) : Prop
  | value {v : Value} {nullable : Bool} (at_path : Pointer.find? m.path.text document = some v)
      (found : m.found = .ofValue v) (described : m.found.text = v.description)
      (place : Place m.path m.expected nullable) (unacceptable : ¬ m.expected.Accepts nullable v)
  | missing {parent key : String} {members : Members}
      (path : m.path.text = parent ++ "/" ++ key)
      (at_parent : Pointer.find? parent document = some (.object members))
      (absent : members.get? key = none) (required : key ∈ requiredKeys)
      (found : m.found = .nothing) (described : m.found.text = "nothing")
      (place : Place m.path m.expected false)

/-- The text of a path that ends in a required key. -/
theorem text_append_required (parent : Pointer) {key : String} (h : key ∈ requiredKeys) :
    Pointer.text (parent ++ [.key key]) = parent.text ++ "/" ++ key := by
  have hescape : key.toList.flatMap Pointer.escape = key.toList := by
    revert key
    decide
  apply String.toList_injective
  simp [Pointer.text, Pointer.Step.text, hescape]

theorem Mismatch.Located.accurate {document : Value} {m : Mismatch} (h : m.Located document) :
    m.Accurate document := by
  cases h with
  | value hat hfound hplace hnot =>
    refine .value (Pointer.find?_text hat) hfound ?_ hplace hnot
    rw [hfound, Found.text_ofValue]
  | missing hpath hat habsent hkey hfound hplace =>
    refine .missing ?_ (Pointer.find?_text hat) habsent hkey hfound ?_ hplace
    · rw [hpath, text_append_required _ hkey]
    · rw [hfound]
      rfl

/-! ## Requests -/

theorem Request.effective_eq_error {params : Params} {d : Defaults} {p : Param}
    {r : Rejection} (h : effective params d p = .error r) :
    ∃ v m, params p.name = some v ∧ p.read p.path v = .error m ∧ r = .mismatch m := by
  cases hp : params p.name with
  | none =>
    rw [effective_of_absent hp] at h
    cases h
  | some v =>
    rw [effective_of_present hp] at h
    obtain ⟨m, hread, rfl⟩ := mapError_eq_error_iff.1 h
    exact ⟨v, m, rfl, hread, rfl⟩

/-- A mismatch comes from reading a parameter that the request carries. -/
theorem Plan.assemble_eq_mismatch {params : Params} {d : Defaults} {m : Mismatch}
    (h : assemble params d = .error (.mismatch m)) :
    ∃ (p : Param) (v : Value), params p.name = some v ∧ p.read p.path v = .error m := by
  have hread : ∀ p, Request.effective params d p = .error (.mismatch m) →
      ∃ (p : Param) (v : Value), params p.name = some v ∧ p.read p.path v = .error m := by
    intro p hp
    obtain ⟨v, m', hv, hm, heq⟩ := Request.effective_eq_error hp
    cases heq
    exact ⟨p, v, hv, hm⟩
  rw [assemble_eq] at h
  rcases bind_eq_error_iff.1 h with h | ⟨tokens, -, h⟩
  · exact hread .includes h
  rcases bind_eq_error_iff.1 h with h | ⟨selection, -, h⟩
  · obtain ⟨missing, -, heq⟩ := mapError_eq_error_iff.1 h
    cases heq
  rcases bind_eq_error_iff.1 h with h | ⟨sort, -, h⟩
  · exact hread .sort h
  rcases bind_eq_error_iff.1 h with h | ⟨limit, -, h⟩
  · exact hread .limit h
  rcases bind_eq_error_iff.1 h with h | ⟨page, -, h⟩
  · exact hread .page h
  rcases bind_eq_error_iff.1 h with h | ⟨groups, -, h⟩
  · exact hread .filterGroups h
  rcases bind_eq_error_iff.1 h with h | ⟨filterGroups, -, h⟩
  · obtain ⟨missing, -, heq⟩ := mapError_eq_error_iff.1 h
    cases heq
  rcases bind_eq_error_iff.1 h with h | ⟨groupBy, -, h⟩
  · exact hread .groupBy h
  rcases bind_eq_error_iff.1 h with h | ⟨selects, -, h⟩
  · exact hread .selects h
  · -- what is left is the check of the page, which reports no mismatch
    split at h <;> cases h

/-! ## Defaults documents -/

namespace Defaults.Patch

/-- A setting is read as the parameter of its name; the mode is a string. -/
theorem Setting.located {s : Setting} {document v : Value} {m : Mismatch}
    (hat : Pointer.resolve? [.key s.name] document = some v) (h : s.decode v = .error m) :
    m.Located document := by
  cases s with
  | param p => exact p.locates document v m hat h
  | mode => exact Decode.demands_string.locates .mode document v m hat h

theorem located_ofMembers {members : Members} {m : Mismatch}
    (hdistinct : members.keys.Nodup) (h : ofMembers members = .error (.mismatch m)) :
    m.Located (.object members) := by
  obtain ⟨⟨key, v⟩, hmem, hfault⟩ :=
    List.exists_of_findSome?_eq_some (ofValue_eq_error_iff.1 h)
  obtain ⟨s, rfl, hread⟩ := fault?_eq_mismatch hfault
  refine Setting.located ?_ hread
  show (members.get? s.name).bind some = some v
  rw [Members.get?_of_mem hdistinct hmem]
  rfl

end Defaults.Patch

/-- **Faults are where their paths lead.** When a request is rejected for a mismatch, it is
accurate of the request, and it is the mismatch of a parameter that the request carries. So
is the mismatch for which a defaults document is refused, as long as the document is an
object, with distinct keys. Any other document is refused under the empty path, and only
the name of its type is told. -/
theorem mismatch_accurate :
    (∀ (members : Members) (d : Defaults) (m : Mismatch),
      Plan.assemble (.ofValue (.object members)) d = .error (.mismatch m) →
        m.Accurate (.object members) ∧ ∃ (p : Param) (v : Value),
          members.get? p.name = some v ∧ p.read p.path v = .error m) ∧
      (∀ (members : Members) (m : Mismatch), members.keys.Nodup →
        Defaults.Patch.ofValue (.object members) = .error (.mismatch m) →
          m.Accurate (.object members)) ∧
      ∀ v : Value, v.kind ≠ .object → ∃ m : Mismatch,
        Defaults.Patch.ofValue v = .error (.mismatch m) ∧ m.path.text = "" ∧
          m.expected = .object ∧ m.found.text = v.typeName := by
  refine ⟨?_, ?_, ?_⟩
  · intro members d m h
    obtain ⟨p, v, hv, hread⟩ := Plan.assemble_eq_mismatch h
    refine ⟨Mismatch.Located.accurate ?_, p, v, hv, hread⟩
    refine p.locates (.object members) v m ?_ hread
    show (members.get? p.name).bind some = some v
    rw [show members.get? p.name = some v from hv]
    rfl
  · intro members m hdistinct h
    exact (Defaults.Patch.located_ofMembers hdistinct h).accurate
  · intro v hv
    refine ⟨⟨[], .object, .kind v.kind⟩, ?_, rfl, rfl, v.name_kind⟩
    cases v with
    | object members => exact absurd rfl hv
    | null | bool | number | string | array => rfl

namespace FaultPaths

/-- A request with two faults in one filter: it has no operator, and its negation is no
flag. -/
def asked : Members := [
  ("limit", .ofNat 3),
  ("filter_groups", .array [
    .object [("filters", .array [])],
    .object [("filters", .array [
      .object [("key", .string "age"), ("not", .string "maybe")]])]])]

/-- The fault that is met first. -/
def lacksOperator : Mismatch :=
  ⟨[.key "filter_groups", .index 1, .key "filters", .index 0, .key "operator"], .string,
    .nothing⟩

/-- A defaults document with a direction that is no string. -/
def document : Members := [
  ("mode", .string "embed"),
  ("sort", .array [.object [("direction", .ofNat 1), ("field", .string "id")]])]

def directionIsNumber : Mismatch :=
  ⟨[.key "sort", .index 0, .key "direction"], .string, .number (.integer 1)⟩

end FaultPaths

/-- The operator is missing where the path says, and the number stands where it says. -/
theorem mismatch_accurate_operator :
    FaultPaths.lacksOperator.path.text = "/filter_groups/1/filters/0/operator" ∧
      FaultPaths.lacksOperator.Accurate (.object FaultPaths.asked) ∧
      FaultPaths.document.keys.Nodup ∧
      FaultPaths.directionIsNumber.Accurate (.object FaultPaths.document) ∧
      FaultPaths.directionIsNumber.message =
        "invalid parameter at /sort/0/direction: expected string, got number 1" := by
  have hasked : Plan.assemble (.ofValue (.object FaultPaths.asked)) .base =
      .error (.mismatch FaultPaths.lacksOperator) :=
    stop?_eq_some_iff.1 (by decide +kernel)
  have hdocument : Defaults.Patch.ofValue (.object FaultPaths.document) =
      .error (.mismatch FaultPaths.directionIsNumber) :=
    stop?_eq_some_iff.1 (by decide +kernel)
  have hdistinct : FaultPaths.document.keys.Nodup := by decide
  refine ⟨by decide +kernel, ?_, hdistinct, ?_, by decide +kernel⟩
  · exact (mismatch_accurate.1 _ _ _ hasked).1
  · exact mismatch_accurate.2.1 _ _ hdistinct hdocument

end FetchPlan
