import FetchPlan.Proofs.Request.FaultPaths
import FetchPlan.Proofs.Text.Quoting
import FetchPlan.Proofs.Text.Sides

/-!
# Messages of mismatches

A message is made of a path, which is built from fixed names and positions, of the name of
a shape and of what is found. It stays on one line, whatever a request or a document holds,
and it can be taken apart again: neither of the marks between its parts stands in the part
before it. Strings are told in full, and nothing else is told as they are.
-/

namespace FetchPlan

open Json (Pointer)
open Text (CharClass OnOneLine lineBreaks)

/-! ## Paths -/

/-- The keys on the way to a place. -/
def placeKeys : List String := [
  "includes", "sort", "field", "direction", "limit", "page", "filter_groups", "or", "filters",
  "key", "operator", "not", "group_by", "selects", "mode"]

/-- Positions, and these keys. -/
def Json.Pointer.Step.isFixed : Pointer.Step → Bool
  | .index _ => true
  | .key name => decide (name ∈ placeKeys)

section Places

variable {path : Pointer} {s : Shape} {nullable : Bool}

theorem Place.all_isFixed (h : Place path s nullable) : path.all Pointer.Step.isFixed := by
  cases h <;> rfl

/-- Slashes, digits, underscores and small letters. -/
def pathCharacters : CharClass := [(0x2f, 0x39), (0x5f, 0x5f), (0x61, 0x7a)]

theorem covers_pathCharacters_of_isDigit {c : Char} (h : c.isDigit) :
    pathCharacters.covers c = true := by
  obtain ⟨hlow, hhigh⟩ := Char.isDigit_iff_toNat.1 h
  exact CharClass.covers_of_mem List.mem_cons_self (Nat.le_of_succ_le hlow) hhigh

theorem covers_pathCharacters_of_place (h : Place path s nullable) :
    ∀ c ∈ path.text.toList, pathCharacters.covers c = true := by
  have hkeys : ∀ key ∈ placeKeys,
      (key.toList.flatMap Pointer.escape).all pathCharacters.covers := by
    decide
  intro c hc
  unfold Pointer.text at hc
  rw [String.toList_ofList] at hc
  obtain ⟨step, hstep, hc⟩ := List.mem_flatMap.1 hc
  rcases List.mem_cons.1 hc with rfl | hc
  · decide
  · have hfixed := List.all_eq_true.1 h.all_isFixed step hstep
    cases step with
    | index i => exact covers_pathCharacters_of_isDigit (Json.isDigit_of_mem_digits hc)
    | key key => exact List.all_eq_true.1 (hkeys key (of_decide_eq_true hfixed)) c hc

end Places

/-- A path without anything that breaks the line or ends the path in a message. -/
structure Json.Pointer.Plain (path : Pointer) : Prop where
  onOneLine : OnOneLine path.text
  no_colon : ':' ∉ path.text.toList

theorem Place.plain {path : Pointer} {s : Shape} {nullable : Bool}
    (h : Place path s nullable) : path.Plain := by
  have hcharacters := covers_pathCharacters_of_place h
  constructor
  · intro c hc
    have hcovers := hcharacters c hc
    simp only [pathCharacters, CharClass.covers_cons, CharClass.covers_nil, or_false] at hcovers
    exact Text.covers_lineBreaks_of_printable (by omega) (by omega)
  · intro hcolon
    exact absurd (hcharacters _ hcolon) (by decide)

/-! ## What is found -/

theorem covers_lineBreaks_of_isNumeric {c : Char} (h : Json.isNumeric c = true) :
    lineBreaks.covers c = false := by
  rw [Json.isNumeric, Bool.or_eq_true, decide_eq_true_eq] at h
  rcases h with h | h
  · have hdigit : 0x30 ≤ c.toNat ∧ c.toNat ≤ 0x39 := Char.isDigit_iff_toNat.1 h
    exact Text.covers_lineBreaks_of_printable (by omega) (by omega)
  · simp only [List.mem_cons, List.not_mem_nil, or_false] at h
    rcases h with rfl | rfl | rfl | rfl <;> decide

theorem Found.onOneLine_text (f : Found) : OnOneLine f.text := by
  cases f with
  | nothing => decide
  | kind k => cases k <;> decide
  | number n =>
    refine Text.onOneLine_append.2 ⟨by decide, ?_⟩
    intro c hc
    rw [String.toList_ofList] at hc
    exact covers_lineBreaks_of_isNumeric (Json.numeric_text n c hc)
  | string s => exact Text.onOneLine_append.2 ⟨by decide, Text.onOneLine_quoted s⟩

/-- Nothing else is told as a string is, nor is another string. -/
theorem Found.eq_string_of_text_eq {f : Found} {s : String}
    (h : f.text = (Found.string s).text) : f = .string s := by
  have hlist := congrArg String.toList h
  cases f with
  | nothing => simp [Found.text] at hlist
  | kind k => cases k <;> simp [Found.text, Json.Kind.name, Text.quoted] at hlist
  | number n => simp [Found.text] at hlist
  | string t =>
    unfold Found.text at hlist
    rw [String.toList_append, String.toList_append, List.append_cancel_left_eq] at hlist
    rw [Text.quoted_injective (String.toList_injective hlist)]

/-! ## Messages -/

theorem Shape.text_injective : Function.Injective Shape.text := by
  intro s t h
  cases s <;> cases t <;> simp_all [Shape.text]

namespace Mismatch

variable {m m' : Mismatch}

theorem onOneLine_message (h : m.path.Plain) : OnOneLine m.message := by
  have hshape : ∀ s : Shape, OnOneLine s.text := by
    intro s
    cases s <;> decide
  unfold message
  simp only [Text.onOneLine_append]
  exact ⟨⟨⟨⟨⟨by decide, h.onOneLine⟩, by decide⟩, hshape m.expected⟩, by decide⟩,
    m.found.onOneLine_text⟩

/-- The characters of a message, with the marks that end the path and the shape. -/
theorem toList_message (m : Mismatch) :
    m.message.toList = "invalid parameter at ".toList ++
      (m.path.text.toList ++ ':' :: (" expected ".toList ++
        (m.expected.text.toList ++ ',' :: (" got ".toList ++ m.found.text.toList)))) := by
  have hcolon : ": expected ".toList = ':' :: " expected ".toList := by decide
  have hcomma : ", got ".toList = ',' :: " got ".toList := by decide
  unfold message
  rw [String.toList_append, String.toList_append, String.toList_append, String.toList_append,
    String.toList_append, hcolon, hcomma]
  simp only [List.append_assoc, List.cons_append]

/-- A message tells its parts apart. -/
theorem parts_of_message_eq (hm : m.path.Plain) (hm' : m'.path.Plain)
    (h : m.message = m'.message) :
    m.path.text = m'.path.text ∧ m.expected = m'.expected ∧ m.found.text = m'.found.text := by
  have hcomma : ∀ s : Shape, ',' ∉ s.text.toList := by
    intro s
    cases s <;> decide
  have hlist := congrArg String.toList h
  rw [toList_message, toList_message, List.append_cancel_left_eq] at hlist
  obtain ⟨hpath, hrest⟩ := Text.eq_of_append_cons_eq hm.no_colon hm'.no_colon hlist
  rw [List.append_cancel_left_eq] at hrest
  obtain ⟨hshape, hfound⟩ := Text.eq_of_append_cons_eq (hcomma _) (hcomma _) hrest
  rw [List.append_cancel_left_eq] at hfound
  exact ⟨String.toList_injective hpath, Shape.text_injective (String.toList_injective hshape),
    String.toList_injective hfound⟩

end Mismatch

end FetchPlan
