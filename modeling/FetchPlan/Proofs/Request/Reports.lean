import FetchPlan.Proofs.Request.Messages

/-!
# What messages tell

A mismatch is reported for the value that its path leads to, or for a key that is missing
there. Its message says which: two strings are never told alike, and no string is told like
anything else, whatever both of them hold. There is one exception. A defaults document that
is no object is told by its kind alone, so documents that are strings all look the same.
-/

namespace FetchPlan

open Json (Value Members Pointer)
open Text (OnOneLine)

/-! ## The parts that paths lead to -/

namespace Place

variable {path : Pointer} {s : Shape} {nullable : Bool}

theorem ne_nil (h : Place path s nullable) : path ≠ [] := by
  cases h <;> nofun

/-- The document itself is not required to have a key. -/
theorem ne_singleton {key : String} (h : Place path s nullable) (hkey : key ∈ requiredKeys) :
    path ≠ [.key key] := by
  rintro rfl
  cases h <;> revert hkey <;> decide

end Place

/-- What is told of the value at a path, or of one that is missing. -/
def Found.ofPart : Option Value → Found
  | some v => .ofValue v
  | none => .nothing

theorem Found.ofPart_eq_string_iff {part : Option Value} {s : String} :
    Found.ofPart part = .string s ↔ part = some (.string s) := by
  cases part with
  | none => simp [ofPart]
  | some v => cases v <;> simp [ofPart, Found.ofValue]

/-- The part of a request that a pointer leads to. -/
def Params.find? (params : Params) : Pointer → Option Value
  | .key name :: rest => (params name).bind (Pointer.resolve? rest)
  | _ => none

namespace Mismatch.Located

variable {m : Mismatch} {document : Value}

theorem place (h : m.Located document) : ∃ nullable, Place m.path m.expected nullable := by
  cases h with
  | value _ _ place _ => exact ⟨_, place⟩
  | missing _ _ _ _ _ place => exact ⟨_, place⟩

/-- What a mismatch tells is what its path leads to. -/
theorem found_eq (h : m.Located document) :
    m.found = .ofPart (m.path.resolve? document) := by
  cases h with
  | value at_path found _ _ =>
    rw [at_path]
    exact found
  | @missing parent key members path at_parent absent _ found _ =>
    have hmissing : (Pointer.Step.key key).follow (.object members) = none := absent
    rw [path, Pointer.resolve?_append, at_parent, Option.bind_some, hmissing]
    exact found

end Mismatch.Located

/-! ## Objects with one member -/

theorem resolve?_single (name : String) (v : Value) :
    Pointer.resolve? [.key name] (.object [(name, v)]) = some v := by
  show (Members.get? [(name, v)] name).bind some = some v
  rw [Members.get?_cons_self]
  rfl

theorem eq_key_of_resolve? {step : Pointer.Step} {rest : Pointer} {name : String} {v w : Value}
    (h : Pointer.resolve? (step :: rest) (.object [(name, v)]) = some w) : step = .key name := by
  obtain ⟨u, hu, -⟩ := Option.bind_eq_some_iff.1 h
  cases step with
  | key key =>
    by_cases hkey : key = name
    · rw [hkey]
    · cases (Members.get?_cons_of_ne hkey v []).symm.trans hu
  | index i => cases hu

/-- A mismatch of an object with one member stands in this member. -/
theorem Mismatch.Located.exists_path_eq {m : Mismatch} {name : String} {v : Value}
    (h : m.Located (.object [(name, v)])) : ∃ rest, m.path = .key name :: rest := by
  cases h with
  | value at_path _ place _ =>
    cases hpath : m.path with
    | nil => exact absurd hpath place.ne_nil
    | cons step rest =>
      rw [hpath] at at_path
      exact ⟨rest, by rw [eq_key_of_resolve? at_path]⟩
  | @missing parent key members path at_parent _ required _ place =>
    cases parent with
    | nil => exact absurd path (place.ne_singleton required)
    | cons step rest =>
      rw [path, eq_key_of_resolve? at_parent]
      exact ⟨rest ++ [.key key], rfl⟩

/-! ## Reported mismatches -/

/-- A request is rejected for one of its parameters. -/
theorem Plan.exists_located_of_assemble {params : Params} {d : Defaults} {m : Mismatch}
    (h : assemble params d = .error (.mismatch m)) :
    ∃ (p : Param) (v : Value), params p.name = some v ∧ m.Located (.object [(p.name, v)]) := by
  obtain ⟨p, v, hv, hread⟩ := assemble_eq_mismatch h
  exact ⟨p, v, hv, p.locates _ v m (resolve?_single p.name v) hread⟩

theorem Params.find?_cons {params : Params} {name : String} {v : Value}
    (h : params name = some v) (rest : Pointer) :
    params.find? (.key name :: rest) =
      Pointer.resolve? (.key name :: rest) (.object [(name, v)]) := by
  show (params name).bind _ = (Members.get? [(name, v)] name).bind _
  rw [h, Members.get?_cons_self]

theorem Plan.found_of_assemble {params : Params} {d : Defaults} {m : Mismatch}
    (h : assemble params d = .error (.mismatch m)) :
    m.found = .ofPart (params.find? m.path) := by
  obtain ⟨p, v, hv, hlocated⟩ := exists_located_of_assemble h
  obtain ⟨rest, hpath⟩ := hlocated.exists_path_eq
  rw [hlocated.found_eq, hpath, Params.find?_cons hv]

namespace Defaults.Patch

/-- A document is refused for one of its members. -/
theorem exists_located_of_ofMembers {members : Members} {m : Mismatch}
    (h : ofMembers members = .error (.mismatch m)) :
    ∃ (s : Setting) (v : Value), m.Located (.object [(s.name, v)]) := by
  obtain ⟨⟨key, v⟩, -, hfault⟩ := List.exists_of_findSome?_eq_some (ofValue_eq_error_iff.1 h)
  obtain ⟨s, -, hread⟩ := fault?_eq_mismatch hfault
  exact ⟨s, v, Setting.located (resolve?_single s.name v) hread⟩

theorem ofValue_of_kind_ne {v : Value} (h : v.kind ≠ .object) :
    ofValue v = .error (.mismatch ⟨[], .object, .kind v.kind⟩) := by
  cases v with
  | object members => exact absurd rfl h
  | null | bool | number | string | array => rfl

theorem plain_of_ofValue {v : Value} {m : Mismatch} (h : ofValue v = .error (.mismatch m)) :
    m.path.Plain := by
  by_cases hkind : v.kind = .object
  · cases v with
    | object members =>
      obtain ⟨s, w, hlocated⟩ := exists_located_of_ofMembers h
      obtain ⟨_, hplace⟩ := hlocated.place
      exact hplace.plain
    | null | bool | number | string | array => cases hkind
  · rw [ofValue_of_kind_ne hkind] at h
    cases h
    have hplain : Pointer.Plain [] := ⟨by decide, by decide⟩
    exact hplain

end Defaults.Patch

namespace Mismatch

/-- The mismatch is reported for a part of a request or of a document: the value that its
path leads to, or none when a key is missing. A document that is itself a string is left
out. -/
inductive Reports (m : Mismatch) : Option Value → Prop
  | request {params : Params} {d : Defaults}
    (rejected : Plan.assemble params d = .error (.mismatch m)) :
    m.Reports (params.find? m.path)
  | document {members : Members} (distinct : members.keys.Nodup)
    (refused : Defaults.Patch.ofValue (.object members) = .error (.mismatch m)) :
    m.Reports (m.path.resolve? (.object members))
  | whole {v : Value} (no_object : v.kind ≠ .object) (no_string : v.kind ≠ .string)
    (refused : Defaults.Patch.ofValue v = .error (.mismatch m)) :
    m.Reports (some v)

namespace Reports

variable {m : Mismatch} {part : Option Value}

theorem plain (h : m.Reports part) : m.path.Plain := by
  cases h with
  | request rejected =>
    obtain ⟨p, v, -, hlocated⟩ := Plan.exists_located_of_assemble rejected
    obtain ⟨_, hplace⟩ := hlocated.place
    exact hplace.plain
  | document _ refused => exact Defaults.Patch.plain_of_ofValue refused
  | whole _ _ refused => exact Defaults.Patch.plain_of_ofValue refused

/-- A string is told exactly when the mismatch is reported for it. -/
theorem found_eq_string_iff (h : m.Reports part) {s : String} :
    m.found = .string s ↔ part = some (.string s) := by
  cases h with
  | request rejected =>
    rw [Plan.found_of_assemble rejected]
    exact Found.ofPart_eq_string_iff
  | document distinct refused =>
    rw [(Defaults.Patch.located_ofMembers distinct refused).found_eq]
    exact Found.ofPart_eq_string_iff
  | @whole v no_object no_string refused =>
    rw [Defaults.Patch.ofValue_of_kind_ne no_object] at refused
    cases refused
    constructor
    · intro hfound
      cases hfound
    · intro hpart
      cases hpart
      exact absurd rfl no_string

end Reports

end Mismatch

/-- **Messages.** The message of a mismatch is one line, for every request and every
defaults document. It determines its path, the shape and what is found, and nothing but the
same string is told as a string is. So the message for a string that is rejected differs
from that for another string, for another value or for a missing key. A document that is
itself a string is not told as one. -/
theorem messages_tell_strings_apart :
    (∀ (params : Params) (d : Defaults) (m : Mismatch),
      Plan.assemble params d = .error (.mismatch m) →
        OnOneLine (Rejection.mismatch m).message) ∧
      (∀ (v : Value) (m : Mismatch), Defaults.Patch.ofValue v = .error (.mismatch m) →
        OnOneLine m.message ∧ OnOneLine (Defaults.Patch.Error.mismatch m).message) ∧
      (∀ (s : String) (f : Found), f.text = (Found.string s).text → f = .string s) ∧
      (∀ (m m' : Mismatch) (part part' : Option Value), m.Reports part → m'.Reports part' →
        m.message = m'.message → m.path.text = m'.path.text ∧ m.expected = m'.expected ∧
          m.found.text = m'.found.text) ∧
      (∀ (m m' : Mismatch) (s : String) (part : Option Value),
        m.Reports (some (.string s)) → m'.Reports part → part ≠ some (.string s) →
          m.found.text ≠ m'.found.text ∧ m.message ≠ m'.message) ∧
      ∀ s : String, ∃ m : Mismatch, Defaults.Patch.ofValue (.string s) = .error (.mismatch m) ∧
        m.path.text = "" ∧ m.found.text = "string" := by
  have hparts : ∀ (m m' : Mismatch) (part part' : Option Value), m.Reports part →
      m'.Reports part' → m.message = m'.message → m.path.text = m'.path.text ∧
        m.expected = m'.expected ∧ m.found.text = m'.found.text :=
    fun m m' _ _ h h' heq => Mismatch.parts_of_message_eq h.plain h'.plain heq
  have hfound : ∀ (m m' : Mismatch) (s : String) (part : Option Value),
      m.Reports (some (.string s)) → m'.Reports part → part ≠ some (.string s) →
        m.found.text ≠ m'.found.text := by
    intro m m' s part h h' hne heq
    rw [h.found_eq_string_iff.2 rfl] at heq
    exact hne (h'.found_eq_string_iff.1 (Found.eq_string_of_text_eq heq.symm))
  refine ⟨?_, ?_, fun s f => Found.eq_string_of_text_eq, hparts, ?_, ?_⟩
  · intro params d m h
    exact Mismatch.onOneLine_message (Mismatch.Reports.request h).plain
  · intro v m h
    have hline := Mismatch.onOneLine_message (Defaults.Patch.plain_of_ofValue h)
    exact ⟨hline, Text.onOneLine_append.2 ⟨by decide, hline⟩⟩
  · intro m m' s part h h' hne
    have htext := hfound m m' s part h h' hne
    exact ⟨htext, fun heq => htext (hparts m m' _ _ h h' heq).2.2⟩
  · intro s
    exact ⟨⟨[], .object, .kind .string⟩, rfl, rfl, rfl⟩

namespace Messages

/-- A limit with a line feed behind it. -/
def request : Members := [("limit", .string "1\n")]

/-- A limit with the escape of a line feed behind it. -/
def document : Members := [("mode", .string "embed"), ("limit", .string "1\\n")]

/-- The mismatch of a limit that is a string. -/
def noCount (s : String) : Mismatch := ⟨[.key "limit"], .count, .string s⟩

end Messages

/-- A line feed and the escape of one are told apart, and both messages are one line. -/
theorem messages_tell_strings_apart_escapes :
    Plan.assemble (.ofMembers Messages.request) .base =
        .error (.mismatch (Messages.noCount "1\n")) ∧
      Messages.document.keys.Nodup ∧
      Defaults.Patch.ofValue (.object Messages.document) =
        .error (.mismatch (Messages.noCount "1\\n")) ∧
      OnOneLine (Messages.noCount "1\n").message ∧
      OnOneLine (Messages.noCount "1\\n").message ∧
      (Messages.noCount "1\n").message ≠ (Messages.noCount "1\\n").message := by
  have hrejected : Plan.assemble (.ofMembers Messages.request) .base =
      .error (.mismatch (Messages.noCount "1\n")) :=
    stop?_eq_some_iff.1 (by decide +kernel)
  have hrefused : Defaults.Patch.ofValue (.object Messages.document) =
      .error (.mismatch (Messages.noCount "1\\n")) :=
    stop?_eq_some_iff.1 (by decide +kernel)
  have hdistinct : Messages.document.keys.Nodup := by decide
  obtain ⟨hrequests, hdocuments, -, -, happart, -⟩ := messages_tell_strings_apart
  refine ⟨hrejected, hdistinct, hrefused, hrequests _ _ _ hrejected,
    (hdocuments _ _ hrefused).1, ?_⟩
  have hfeed : (Messages.noCount "1\n").Reports (some (.string "1\n")) := .request hrejected
  have hescape : (Messages.noCount "1\\n").Reports (some (.string "1\\n")) :=
    .document hdistinct hrefused
  exact (happart _ _ _ _ hfeed hescape (by decide)).2

/-- Two documents that are different strings are refused with the same message, in which
the string is told like a kind of values. -/
theorem string_documents_told_alike :
    ∃ m m' : Mismatch, Defaults.Patch.ofValue (.string "a") = .error (.mismatch m) ∧
      Defaults.Patch.ofValue (.string "b") = .error (.mismatch m') ∧ "a" ≠ "b" ∧
      m.path.text = m'.path.text ∧ m.message = m'.message ∧
      m.found.text = "string" := by
  refine ⟨⟨[], .object, .kind .string⟩, ⟨[], .object, .kind .string⟩, rfl, rfl, ?_, rfl, rfl,
    rfl⟩
  decide

end FetchPlan
