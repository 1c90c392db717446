import FetchPlan.Include.Selection
import FetchPlan.Proofs.Include.ModeMap
import FetchPlan.Proofs.Include.Parts

/-!
# What a list of tokens selects

The selection is read off the list of tokens: the directives are the first occurrences
among the directives of the tokens, and the modes depend on the heads alone, since the
mode of a token is a function of its head. One step of the loop keeps this, so the whole
run gives it, or stops at the first token that lacks a mode.
-/

namespace FetchPlan.Include

/-! ## First occurrences -/

theorem eraseDups_append_singleton (xs : List String) (x : String) :
    (xs ++ [x]).eraseDups = if x ∈ xs then xs.eraseDups else xs.eraseDups ++ [x] := by
  rw [List.eraseDups_append]
  by_cases h : x ∈ xs
  · simp [List.removeAll, h]
  · simp [List.removeAll, h, List.eraseDups_cons]

theorem nodup_eraseDups (xs : List String) : xs.eraseDups.Nodup := by
  induction xs using List.reverseRecOn with
  | nil => exact List.nodup_nil
  | append_singleton xs x ih =>
    rw [eraseDups_append_singleton]
    split
    · exact ih
    · next h =>
      apply List.nodup_append.2
      refine ⟨ih, List.nodup_singleton x, ?_⟩
      intro a ha b hb
      rw [List.mem_eraseDups] at ha
      rw [List.mem_singleton] at hb
      rintro rfl
      exact h (hb ▸ ha)

/-- A list without repetitions is its own list of first occurrences. -/
theorem eraseDups_eq_self {xs : List String} (h : xs.Nodup) : xs.eraseDups = xs := by
  induction xs using List.reverseRecOn with
  | nil => rfl
  | append_singleton xs x ih =>
    obtain ⟨hxs, -, hx⟩ := List.nodup_append.1 h
    have hnot : x ∉ xs := fun hmem => hx x hmem x (List.mem_singleton_self x) rfl
    rw [eraseDups_append_singleton, if_neg hnot, ih hxs]

/-! ## The selection as a function of the tokens -/

/-- The mode that goes with a head: the one it names, else the fallback. -/
def modeWith (fallback head : String) : String := (modeOf head).getD fallback

/-- A token that names no mode while there is no fallback. -/
def LacksMode (fallback text : String) : Prop :=
  fallback = "" ∧ modeOf (headOf text) = none

instance (fallback text : String) : Decidable (LacksMode fallback text) := by
  unfold LacksMode
  infer_instance

/-- What the tokens select when none of them lacks a mode. -/
def selected (fallback : String) (tokens : List String) : Selection where
  directives := (tokens.map directiveOf).eraseDups
  modes := .ofKeys (modeWith fallback) (tokens.map headOf)

theorem mem_directives_selected {fallback text : String} {tokens : List String} :
    text ∈ (selected fallback tokens).directives ↔ ∃ t ∈ tokens, directiveOf t = text := by
  simp [selected, List.mem_eraseDups]

theorem mem_keys_selected {fallback key : String} {tokens : List String} :
    key ∈ (selected fallback tokens).modes.keys ↔ ∃ t ∈ tokens, headOf t = key := by
  simp [selected, Modes.mem_keys_ofKeys]

theorem mem_entries_selected {fallback key mode : String} {tokens : List String} :
    (key, mode) ∈ (selected fallback tokens).modes.entries ↔
      (∃ t ∈ tokens, headOf t = key) ∧ mode = modeWith fallback key := by
  simp [selected, Modes.mem_entries_ofKeys]

theorem modeOr_of_lacksMode {fallback text : String} (h : LacksMode fallback text) :
    (Token.ofString text).modeOr fallback = none := by
  unfold Token.modeOr
  rw [mode_ofString, h.2]
  exact if_pos h.1

theorem modeOr_of_not_lacksMode {fallback text : String} (h : ¬ LacksMode fallback text) :
    (Token.ofString text).modeOr fallback = some (modeWith fallback (headOf text)) := by
  unfold Token.modeOr modeWith
  rw [mode_ofString]
  cases hmode : modeOf (headOf text) with
  | some mode => rfl
  | none => exact if_neg fun hfallback => h ⟨hfallback, hmode⟩

theorem selected_append_singleton (fallback : String) (tokens : List String) (t : String) :
    selected fallback (tokens ++ [t]) =
      { directives :=
          if directiveOf t ∈ (selected fallback tokens).directives then
            (selected fallback tokens).directives
          else (selected fallback tokens).directives ++ [directiveOf t]
        modes := (selected fallback tokens).modes.insert (headOf t)
          (modeWith fallback (headOf t)) } := by
  unfold selected
  simp only [List.map_append, List.map_cons, List.map_nil, eraseDups_append_singleton,
    Modes.ofKeys_append_singleton, List.mem_eraseDups]

/-- **Step.** Adding a token to what the earlier tokens select gives what they select
together. -/
theorem add_selected (fallback : String) (tokens : List String) (t : String) :
    (selected fallback tokens).add fallback t =
      if LacksMode fallback t then .error ⟨t⟩ else .ok (selected fallback (tokens ++ [t])) := by
  unfold Selection.add
  by_cases h : LacksMode fallback t
  · rw [if_pos h]
    simp only [modeOr_of_lacksMode h]
  · rw [if_neg h, selected_append_singleton]
    simp only [modeOr_of_not_lacksMode h, directive_ofString, head_ofString]

/-- **Run.** A list of tokens is refused for the first one that lacks a mode, and selects
what is read off it otherwise. -/
theorem ofTokens_eq (fallback : String) (tokens : List String) :
    Selection.ofTokens fallback tokens =
      match tokens.find? (LacksMode fallback ·) with
      | some t => .error ⟨t⟩
      | none => .ok (selected fallback tokens) := by
  -- from the end: the loop has gone through the earlier tokens and takes one more step,
  -- unless one of them has stopped it
  induction tokens using List.reverseRecOn with
  | nil => rfl
  | append_singleton tokens t ih =>
    unfold Selection.ofTokens at ih ⊢
    rw [List.foldlM_append, ih, List.find?_append]
    cases tokens.find? (LacksMode fallback ·) with
    | some first => rfl
    | none =>
      simp only [List.foldlM_cons, List.foldlM_nil, bind_pure, Option.none_or]
      simp only [bind, Except.bind, add_selected]
      by_cases h : LacksMode fallback t <;> simp [h]

theorem ofTokens_eq_ok_iff {fallback : String} {tokens : List String} {s : Selection} :
    Selection.ofTokens fallback tokens = .ok s ↔
      (∀ t ∈ tokens, ¬ LacksMode fallback t) ∧ s = selected fallback tokens := by
  have hnone : tokens.find? (LacksMode fallback ·) = none ↔
      ∀ t ∈ tokens, ¬ LacksMode fallback t := by
    simp
  rw [ofTokens_eq, ← hnone]
  cases tokens.find? (LacksMode fallback ·) with
  | some t => simp
  | none => simp [eq_comm]

end FetchPlan.Include
