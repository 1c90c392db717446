import FetchPlan.Proofs.Plan.Settled
import FetchPlan.Proofs.Request.FaultPaths

/-!
# Defaults documents as requests

A defaults document and a request have the same form, and the document can be taken either
way: as a patch of the defaults under an empty request, or as the request itself. The same
values hold both ways, so the plan or the rejection is the same; only the mode is no
parameter and has to be set apart. The two ways also refuse the same documents, though not
always for the same fault, since one goes by the order of the members and the other by that
of the parameters.
-/

namespace FetchPlan

open Json (Members)
open Defaults (Patch)

variable {members : Members}

/-- What a patch of a document sets holds under an empty request, just as it holds when the
document is the request. -/
theorem Request.effective_apply (hdistinct : members.keys.Nodup) {patch : Patch}
    (h : Patch.ofValue (.object members) = .ok patch) {b d : Defaults} {p : Param}
    (hget : d.get p = b.get p) :
    effective (.ofValue (.object [])) (b.apply patch) p =
      effective (.ofValue (.object members)) d p := by
  have hsets := Patch.sets_of_foldlM hdistinct h
  rw [effective_of_absent rfl, Defaults.get_apply]
  cases hp : Params.ofValue (.object members) p.name with
  | none =>
    have hunset : patch.get? (.param p) = none := by
      rw [hsets.kept (.param p) hp, Patch.get?_empty]
    rw [hunset, effective_of_absent hp, hget]
    rfl
  | some v =>
    obtain ⟨x, hread, hset⟩ := hsets.given (.param p) v hp
    have hread : p.read p.path v = .ok x := hread
    rw [hset, effective_of_present hp, hread]
    rfl

/-- A document without a mode is refused for a parameter that cannot be read. -/
theorem Defaults.Patch.exists_of_ofValue_eq_error (hdistinct : members.keys.Nodup)
    (hparams : ∀ key ∈ members.keys, ∃ p : Param, p.name = key) {e : Error}
    (h : ofValue (.object members) = .error e) :
    ∃ p v m, members.get? (Param.name p) = some v ∧ p.read p.path v = .error m ∧
      e = .mismatch m := by
  obtain ⟨⟨key, v⟩, hmem, hfault⟩ :=
    List.exists_of_findSome?_eq_some (ofValue_eq_error_iff.1 h)
  obtain ⟨p, rfl⟩ := hparams key (List.mem_map_of_mem hmem)
  have hfault : (stop? (p.read p.path v)).map Error.mismatch = some e :=
    (fault?_name (.param p) v).symm.trans hfault
  obtain ⟨m, hstop, rfl⟩ := Option.map_eq_some_iff.1 hfault
  exact ⟨p, v, m, Members.get?_of_mem hdistinct hmem, stop?_eq_some_iff.1 hstop, rfl⟩

/-- A parameter that cannot be read refuses the document that it stands in. -/
theorem Defaults.Patch.exists_ofValue_eq_error {p : Param} {v : Json.Value} {m : Mismatch}
    (hget : members.get? p.name = some v) (hread : p.read p.path v = .error m) :
    ∃ e, ofValue (.object members) = .error e := by
  have hfault : fault? (p.name, v) = some (.mismatch m) := by
    have hname := fault?_name (.param p) v
    have hstop : stop? (Setting.decode (.param p) v) = some m := stop?_eq_some_iff.2 hread
    rw [hstop] at hname
    exact hname
  cases hfirst : members.findSome? fault? with
  | none =>
    have hnone := List.findSome?_eq_none_iff.1 hfirst _ (Members.mem_of_get?_eq_some hget)
    rw [hfault] at hnone
    cases hnone
  | some e => exact ⟨e, ofValue_eq_error_iff.2 hfirst⟩

/-- A request with a parameter that cannot be read has no plan. -/
theorem Plan.exists_assemble_eq_error {p : Param} {v : Json.Value} {m : Mismatch}
    (hget : members.get? p.name = some v) (hread : p.read p.path v = .error m)
    (d : Defaults) : ∃ r, assemble (.ofValue (.object members)) d = .error r := by
  cases hrun : assemble (.ofValue (.object members)) d with
  | error r => exact ⟨r, rfl⟩
  | ok o =>
    obtain ⟨e, hholds, -⟩ := assemble_eq_ok_iff.1 hrun
    have hpresent : Params.ofValue (.object members) p.name = some v := hget
    have hvalue := hholds.values p
    rw [Request.effective_of_present hpresent, hread] at hvalue
    cases hvalue

/-- **A defaults document means what it means as a request.** A document that is accepted
as a patch gives the same under an empty request as it gives when it is sent itself, with
the mode that it sets: the same plan or the same rejection, whatever the defaults. Of the
documents with parameters only, one that is refused as a patch is rejected as a request with
all defaults, and one that is rejected for a mismatch with some defaults is refused for a
mismatch. -/
theorem document_as_request (members : Members) (hdistinct : members.keys.Nodup) :
    (∀ (patch : Patch) (b : Defaults), Patch.ofValue (.object members) = .ok patch →
      Plan.assemble (.ofValue (.object [])) (b.apply patch) =
        Plan.assemble (.ofValue (.object members))
          { b with mode := patch.mode.getD b.mode }) ∧
      ((∀ key ∈ members.keys, ∃ p : Param, p.name = key) →
        (∀ e, Patch.ofValue (.object members) = .error e →
          ∀ b, ∃ r, Plan.assemble (.ofValue (.object members)) b = .error r) ∧
        ∀ b m, Plan.assemble (.ofValue (.object members)) b = .error (.mismatch m) →
          ∃ m', Patch.ofValue (.object members) = .error (.mismatch m')) := by
  constructor
  · intro patch b h
    refine Plan.assemble_congr ?_ fun p => Request.effective_apply hdistinct h ?_
    · rfl
    · cases p <;> rfl
  · intro hparams
    constructor
    · intro e h b
      obtain ⟨p, v, m, hget, hread, -⟩ :=
        Patch.exists_of_ofValue_eq_error hdistinct hparams h
      exact Plan.exists_assemble_eq_error hget hread b
    · intro b m h
      obtain ⟨p, v, hget, hread⟩ := Plan.assemble_eq_mismatch h
      obtain ⟨e, he⟩ := Patch.exists_ofValue_eq_error hget hread
      -- no key is unknown, so the fault that is met first is a mismatch, too
      obtain ⟨_, _, m', -, -, rfl⟩ := Patch.exists_of_ofValue_eq_error hdistinct hparams he
      exact ⟨m', he⟩

namespace AsRequest

/-- A document that sets the mode, clears the limit and leaves a page that the defaults
give. -/
def accepted : Members := [
  ("mode", .string ""),
  ("limit", .string ""),
  ("includes", .ofStrings ["tags,ids:name"]),
  ("filter_groups", .array [.object [("filters", .array []), ("or", .string "1")]])]

def patch : Patch :=
  { Patch.empty with
    includes := some ["tags,ids:name"]
    limit := some none
    mode := some ""
    filterGroups := some [⟨some [], some true⟩] }

def paged : Defaults := { Defaults.base with limit := some 20, page := some 2 }

/-- A document with two faults, the later parameter first. -/
def refused : Members := [("page", .ofStrings []), ("sort", .null)]

end AsRequest

/-- The limit is cleared both ways, so both ways the page has none. Of the two faults the
document is refused for the first member, and the request for the first parameter. -/
theorem document_as_request_paged :
    AsRequest.accepted.keys.Nodup ∧
      Patch.ofValue (.object AsRequest.accepted) = .ok AsRequest.patch ∧
      Plan.assemble (.ofValue (.object [])) (AsRequest.paged.apply AsRequest.patch) =
        Plan.assemble (.ofValue (.object AsRequest.accepted))
          { AsRequest.paged with mode := "" } ∧
      Plan.assemble (.ofValue (.object [])) (AsRequest.paged.apply AsRequest.patch) =
        .error .pageWithoutLimit ∧
      AsRequest.refused.keys.Nodup ∧
      (∀ key ∈ AsRequest.refused.keys, ∃ p : Param, p.name = key) ∧
      Patch.ofValue (.object AsRequest.refused) =
        .error (.mismatch ⟨[.key "page"], .count, .kind .array⟩) ∧
      Plan.assemble (.ofValue (.object AsRequest.refused)) .base =
        .error (.mismatch ⟨[.key "sort"], .sortItems, .kind .null⟩) ∧
      (∃ r, Plan.assemble (.ofValue (.object AsRequest.refused)) AsRequest.paged =
        .error r) ∧
      ∃ m, Patch.ofValue (.object AsRequest.refused) = .error (.mismatch m) := by
  have hdistinct : AsRequest.accepted.keys.Nodup := by decide
  have haccepted : Patch.ofValue (.object AsRequest.accepted) = .ok AsRequest.patch := by
    decide +kernel
  have hsame := (document_as_request _ hdistinct).1 AsRequest.patch AsRequest.paged haccepted
  have hrejected : Plan.assemble (.ofValue (.object []))
      (AsRequest.paged.apply AsRequest.patch) = .error .pageWithoutLimit :=
    stop?_eq_some_iff.1 (by decide +kernel)
  have hdistinct' : AsRequest.refused.keys.Nodup := by decide
  have hparams : ∀ key ∈ AsRequest.refused.keys, ∃ p : Param, p.name = key := by
    intro key hkey
    rcases List.mem_cons.1 hkey with rfl | hkey
    · exact ⟨.page, rfl⟩
    · exact ⟨.sort, (List.mem_singleton.1 hkey).symm⟩
  have hrefused : Patch.ofValue (.object AsRequest.refused) =
      .error (.mismatch ⟨[.key "page"], .count, .kind .array⟩) :=
    stop?_eq_some_iff.1 (by decide +kernel)
  have hmismatch : Plan.assemble (.ofValue (.object AsRequest.refused)) .base =
      .error (.mismatch ⟨[.key "sort"], .sortItems, .kind .null⟩) :=
    stop?_eq_some_iff.1 (by decide +kernel)
  have h := (document_as_request _ hdistinct').2 hparams
  exact ⟨hdistinct, haccepted, hsame, hrejected, hdistinct', hparams, hrefused, hmismatch,
    h.1 _ hrefused _, h.2 _ _ hmismatch⟩

end FetchPlan
