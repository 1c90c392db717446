import FetchPlan.Proofs.Defaults.Outcome
import Mathlib.Data.List.Forall2
import Mathlib.Data.List.Induction

/-!
# Layers of defaults

Defaults may be patched by several documents, one after the other. Each setting then holds
what the last document that has its key says, and what it held before when none has. The
members of the documents, written one after the other into one object, leave under each key
the last one, too. So the object is a document that does in one go what the documents do in
turn.
-/

namespace FetchPlan.Defaults

open Json (Value Members)
open Patch (Setting)

/-! ## Settings of defaults -/

/-- What the defaults hold for a setting. -/
def holds (d : Defaults) : (s : Setting) → s.Content
  | .param p => d.get p
  | .mode => d.mode

/-- Defaults are what they hold for their settings. -/
@[ext] theorem ext_holds {d e : Defaults} (h : ∀ s, d.holds s = e.holds s) : d = e := by
  obtain ⟨includes, sort, limit, page, mode, filterGroups, groupBy, selects⟩ := d
  rw [mk.injEq]
  exact ⟨h (.param .includes), h (.param .sort), h (.param .limit), h (.param .page), h .mode,
    h (.param .filterGroups), h (.param .groupBy), h (.param .selects)⟩

theorem holds_apply (d : Defaults) (patch : Patch) (s : Setting) :
    (d.apply patch).holds s = (patch.get? s).getD (d.holds s) := by
  cases s with
  | param p => exact get_apply d patch p
  | mode => rfl

/-- The same patch again changes nothing. -/
theorem apply_apply_self (d : Defaults) (patch : Patch) :
    (d.apply patch).apply patch = d.apply patch := by
  ext s
  rw [holds_apply, holds_apply]
  cases patch.get? s <;> rfl

/-! ## The last one that says something -/

/-- The defaults after several patches, one after the other. -/
def applyAll (d : Defaults) (patches : List Patch) : Defaults := patches.foldl apply d

/-- A setting holds what the last patch sets that sets it. -/
theorem holds_applyAll (d : Defaults) (patches : List Patch) (s : Setting) :
    (d.applyAll patches).holds s = (patches.reverse.findSome? (·.get? s)).getD (d.holds s) := by
  induction patches using List.reverseRecOn with
  | nil => rfl
  | append_singleton patches patch ih =>
    have hstep : d.applyAll (patches ++ [patch]) = (d.applyAll patches).apply patch :=
      List.foldl_append
    rw [hstep, holds_apply, ih, List.reverse_append, List.reverse_singleton,
      List.singleton_append, List.findSome?_cons]
    cases patch.get? s <;> rfl

/-- `v` is what the last of the documents that have the key says under it. -/
def LastSays (documents : List Members) (key : String) (v : Value) : Prop :=
  ∃ before document after, documents = before ++ document :: after ∧
    document.get? key = some v ∧ ∀ later ∈ after, later.get? key = none

theorem lastSays_iff {documents : List Members} {key : String} {v : Value} :
    LastSays documents key v ↔ documents.reverse.findSome? (·.get? key) = some v := by
  rw [List.findSome?_eq_some_iff]
  constructor
  · rintro ⟨before, document, after, rfl, hget, hafter⟩
    exact ⟨after.reverse, document, before.reverse, by simp, hget, by simpa using hafter⟩
  · rintro ⟨after, document, before, heq, hget, hafter⟩
    refine ⟨before.reverse, document, after.reverse, ?_, hget, by simpa using hafter⟩
    rw [← List.reverse_reverse documents, heq]
    simp

/-- The members of the documents, written one after the other into one object. -/
def overlay (documents : List Members) : Members := .ofPairs documents.flatten

/-- Under each key the object has what the last document says that has the key. -/
theorem get?_overlay {documents : List Members}
    (hdistinct : ∀ document ∈ documents, document.keys.Nodup) (name : String) :
    (overlay documents).get? name = documents.reverse.findSome? (·.get? name) := by
  rw [overlay, Members.get?_ofPairs]
  induction documents using List.reverseRecOn with
  | nil => rfl
  | append_singleton documents document ih =>
    simp only [List.mem_append, List.mem_singleton] at hdistinct
    have hlast := Members.get?_perm document.reverse_perm.symm (hdistinct _ (.inr rfl)) name
    rw [List.flatten_append, List.reverse_append, Members.get?_append,
      ih fun d hd => hdistinct d (.inl hd), List.flatten_singleton, ← hlast,
      List.reverse_append, List.reverse_singleton, List.singleton_append, List.findSome?_cons]
    cases document.get? name <;> rfl

/-! ## Documents and their patches -/

/-- The documents are accepted, and these are their patches. -/
abbrev ReadAs (documents : List Members) (patches : List Patch) : Prop :=
  List.Forall₂ (fun document patch => Patch.ofValue (.object document) = .ok patch)
    documents patches

section

variable {documents : List Members} {patches : List Patch}

/-- Documents that are accepted have sound members only. -/
theorem ReadAs.sound (hread : ReadAs documents patches) :
    ∀ document ∈ documents, ∀ member ∈ document, Patch.Sound member := by
  induction hread with
  | nil => exact nofun
  | cons hpatch _ ih =>
    exact List.forall_mem_cons.2 ⟨Patch.exists_ofValue_eq_ok_iff.1 ⟨_, hpatch⟩, ih⟩

/-- The first patch that sets a setting is that of the first document that has its key. -/
theorem ReadAs.first (hdistinct : ∀ document ∈ documents, document.keys.Nodup)
    (hread : ReadAs documents patches) (s : Setting) :
    (documents.findSome? (·.get? s.name) = none → patches.findSome? (·.get? s) = none) ∧
      ∀ v, documents.findSome? (·.get? s.name) = some v →
        ∃ x, s.decode v = .ok x ∧ patches.findSome? (·.get? s) = some x := by
  induction hread with
  | nil => exact ⟨fun _ => rfl, nofun⟩
  | @cons document patch documents patches hpatch _ ih =>
    obtain ⟨hdocument, hdocuments⟩ := List.forall_mem_cons.1 hdistinct
    have hsets := Patch.sets_of_foldlM hdocument hpatch
    rw [List.findSome?_cons, List.findSome?_cons]
    cases hget : document.get? s.name with
    | none =>
      rw [hsets.kept s hget, Patch.get?_empty]
      exact ih hdocuments
    | some w =>
      obtain ⟨x, hx, hset⟩ := hsets.given s w hget
      rw [hset]
      refine ⟨nofun, ?_⟩
      rintro v ⟨⟩
      exact ⟨x, hx, rfl⟩

/-- The object that the documents are written into is accepted, and its patch does what
their patches do in turn. -/
theorem exists_patch_overlay (hdistinct : ∀ document ∈ documents, document.keys.Nodup)
    (hread : ReadAs documents patches) (b : Defaults) :
    ∃ patch, Patch.ofValue (.object (overlay documents)) = .ok patch ∧
      b.applyAll patches = b.apply patch := by
  obtain ⟨hkeys, hmembers⟩ := Members.ofPairs_sound documents.flatten
  have hsound : ∀ member ∈ overlay documents, Patch.Sound member := by
    intro member hmem
    obtain ⟨document, hdocument, hmem⟩ := List.mem_flatten.1 (hmembers member hmem)
    exact hread.sound document hdocument member hmem
  obtain ⟨patch, hpatch⟩ := Patch.exists_ofValue_eq_ok_iff.2 hsound
  have hsets := Patch.sets_of_foldlM hkeys hpatch
  have hdistinct' : ∀ document ∈ documents.reverse, document.keys.Nodup :=
    fun document hmem => hdistinct document (List.mem_reverse.1 hmem)
  refine ⟨patch, hpatch, ext_holds fun s => ?_⟩
  have hlast := ReadAs.first hdistinct' (List.rel_reverse hread) s
  rw [holds_applyAll, holds_apply]
  rw [← get?_overlay hdistinct] at hlast
  cases hget : (overlay documents).get? s.name with
  | none => rw [hlast.1 hget, hsets.kept s hget, Patch.get?_empty]
  | some v =>
    obtain ⟨x, hx, hset⟩ := hlast.2 v hget
    obtain ⟨y, hy, hset'⟩ := hsets.given s v hget
    rw [hx] at hy
    cases hy
    rw [hset, hset']

/-- Patched by that object, a setting holds what the last document says, and what it held
before where none says anything. -/
theorem holds_apply_overlay (hdistinct : ∀ document ∈ documents, document.keys.Nodup)
    {patch : Patch} (h : Patch.ofValue (.object (overlay documents)) = .ok patch)
    (b : Defaults) (s : Setting) :
    ((∀ document ∈ documents, document.get? s.name = none) →
      (b.apply patch).holds s = b.holds s) ∧
      ∀ v, LastSays documents s.name v →
        ∃ x, s.decode v = .ok x ∧ (b.apply patch).holds s = x := by
  have hsets := Patch.sets_of_foldlM (Members.ofPairs_sound documents.flatten).1 h
  have hget := get?_overlay hdistinct s.name
  rw [holds_apply]
  constructor
  · intro hnone
    have habsent : (overlay documents).get? s.name = none := by
      rw [hget, List.findSome?_eq_none_iff]
      exact fun document hmem => hnone document (List.mem_reverse.1 hmem)
    rw [hsets.kept s habsent, Patch.get?_empty]
    rfl
  · intro v hv
    obtain ⟨x, hx, hset⟩ := hsets.given s v (hget.trans (lastSays_iff.1 hv))
    rw [hset]
    exact ⟨x, hx, rfl⟩

end

/-- **Layers.** Patching defaults by documents in turn is patching them once, by the object
that the members of the documents are written into, one after the other. Each setting
holds what the last document says that has its key; a limit or a page that it says is null
or empty is cleared, and a setting whose key no document has is left alone. A document
that comes twice in a row counts once. -/
theorem layering_overwrites (b : Defaults) {documents : List Members} {patches : List Patch}
    (hdistinct : ∀ document ∈ documents, document.keys.Nodup)
    (hread : ReadAs documents patches) :
    (∃ patch, Patch.ofValue (.object (overlay documents)) = .ok patch ∧
      b.applyAll patches = b.apply patch) ∧
    (∀ s : Setting,
      ((∀ document ∈ documents, document.get? s.name = none) →
        (b.applyAll patches).holds s = b.holds s) ∧
      ∀ v, LastSays documents s.name v →
        ∃ x, s.decode v = .ok x ∧ (b.applyAll patches).holds s = x) ∧
    (∀ v, v = .null ∨ v = .string "" →
      (LastSays documents "limit" v → (b.applyAll patches).limit = none) ∧
      (LastSays documents "page" v → (b.applyAll patches).page = none)) ∧
    ∀ before patch after,
      b.applyAll (before ++ patch :: patch :: after) = b.applyAll (before ++ patch :: after) := by
  obtain ⟨patch, hpatch, honce⟩ := exists_patch_overlay hdistinct hread b
  have hholds := holds_apply_overlay hdistinct hpatch b
  rw [← honce] at hholds
  refine ⟨⟨patch, hpatch, honce⟩, hholds, ?_, ?_⟩
  · intro v hv
    have hcleared : ∀ path, Decode.count path v = .ok none := by
      rcases hv with rfl | rfl
      · exact fun _ => rfl
      · exact fun _ => rfl
    constructor
    · intro hlast
      obtain ⟨x, hx, hlimit⟩ := (hholds (.param .limit)).2 v hlast
      cases (hcleared _).symm.trans hx
      exact hlimit
    · intro hlast
      obtain ⟨x, hx, hpage⟩ := (hholds (.param .page)).2 v hlast
      cases (hcleared _).symm.trans hx
      exact hpage
  · intro before patch after
    simp only [applyAll, List.foldl_append, List.foldl_cons, apply_apply_self]

namespace Layers

/-- Documents of which the second clears a limit, and the third sets a page anew. -/
def documents : List Members := [
  [("limit", .ofNat 20), ("page", .ofNat 2)],
  [("mode", .string "ids"), ("limit", .string "")],
  [("page", .string "03")]]

def patches : List Patch := [
  { Patch.empty with limit := some (some 20), page := some (some 2) },
  { Patch.empty with mode := some "ids", limit := some none },
  { Patch.empty with page := some (some 3) }]

end Layers

/-- In the object the keys stand where they came first. The limit is cleared and stays so,
the page is the last one, and the sorting is left alone. -/
theorem layering_overwrites_cleared :
    (∀ document ∈ Layers.documents, document.keys.Nodup) ∧
      ReadAs Layers.documents Layers.patches ∧
      overlay Layers.documents =
        [("limit", .string ""), ("page", .string "03"), ("mode", .string "ids")] ∧
      (∃ patch, Patch.ofValue (.object (overlay Layers.documents)) = .ok patch ∧
        base.applyAll Layers.patches = base.apply patch) ∧
      (base.applyAll Layers.patches).sort = base.sort ∧
      LastSays Layers.documents "page" (.string "03") ∧
      (∃ x : Option Count, Decode.count [.key "page"] (.string "03") = .ok x ∧
        (base.applyAll Layers.patches).page = x) ∧
      LastSays Layers.documents "limit" (.string "") ∧
      (base.applyAll Layers.patches).limit = none := by
  have hdistinct : ∀ document ∈ Layers.documents, document.keys.Nodup := by decide
  have hread : ReadAs Layers.documents Layers.patches := .cons rfl (.cons rfl (.cons rfl .nil))
  have hunsaid : ∀ document ∈ Layers.documents, document.get? "sort" = none := by decide
  have hpage : LastSays Layers.documents "page" (.string "03") := lastSays_iff.2 rfl
  have hlimit : LastSays Layers.documents "limit" (.string "") := lastSays_iff.2 rfl
  obtain ⟨honce, hholds, hcleared, -⟩ := layering_overwrites base hdistinct hread
  exact ⟨hdistinct, hread, by decide +kernel, honce, (hholds (.param .sort)).1 hunsaid, hpage,
    (hholds (.param .page)).2 _ hpage, hlimit, (hcleared _ (.inr rfl)).1 hlimit⟩

end FetchPlan.Defaults
