import FetchPlan.Json.Printer
import FetchPlan.Proofs.Include.Selected
import FetchPlan.Proofs.Text.ByteOrder

/-!
# The outcome of a list of tokens

What comes of a list of tokens is said without the loop: which token it is refused for, and
else which directives and which modes it selects. It follows that only the set of the
tokens decides whether they are refused and which modes they select; their order decides
no more than the order of the directives.
-/

namespace FetchPlan.Include

open FetchPlan.Text (bytes)
open FetchPlan.Json (Value)

/-! ## The outcome in full -/

/-- A token without a comma before its first colon, or without one anywhere when it has no
colon. -/
def NamesNoMode (token : String) : Prop := ',' ∉ (headOf token).toList

/-- The selection `s` is read off the tokens. -/
structure Selection.ReadOff (fallback : String) (tokens : List String) (s : Selection) :
    Prop where
  /-- The directives of the tokens, each only where it comes first. -/
  directives : s.directives = (tokens.map directiveOf).eraseDups
  /-- The keys are the heads of the tokens. -/
  keys : ∀ key, key ∈ s.modes.keys ↔ ∃ token ∈ tokens, headOf token = key
  /-- The keys stand in the order of their bytes, each once. -/
  increasing : s.modes.keys.Pairwise (fun a b => bytes a < bytes b)
  /-- A key has the mode that stands in it after its first comma, else the fallback. -/
  mode : ∀ key mode, (key, mode) ∈ s.modes.entries → mode = (modeOf key).getD fallback

theorem lacksMode_iff {fallback token : String} :
    LacksMode fallback token ↔ fallback = "" ∧ NamesNoMode token := by
  rw [LacksMode, modeOf_eq_none_iff, NamesNoMode]

theorem readOff_selected (fallback : String) (tokens : List String) :
    (selected fallback tokens).ReadOff fallback tokens where
  directives := rfl
  keys _ := mem_keys_selected
  increasing := (selected fallback tokens).modes.keys_sorted.imp Text.bytes_lt_iff.2
  mode _ _ hmem := (mem_entries_selected.1 hmem).2

/-- What is read off the tokens is determined by them. -/
theorem Selection.ReadOff.eq_selected {fallback : String} {tokens : List String}
    {s : Selection} (h : s.ReadOff fallback tokens) : s = selected fallback tokens := by
  have hkeys : ∀ key, key ∈ s.modes.keys ↔ key ∈ tokens.map headOf := by
    intro key
    rw [h.keys, List.mem_map]
  have hmodes : s.modes = (selected fallback tokens).modes := Modes.eq_ofKeys hkeys h.mode
  obtain ⟨directives, modes⟩ := s
  cases hmodes
  cases h.directives
  rfl

section

variable {fallback : String} {tokens : List String}

/-- A list of tokens is refused for the first one that lacks a mode. -/
theorem ofTokens_eq_error_iff {missing : MissingMode} :
    Selection.ofTokens fallback tokens = .error missing ↔
      ∃ front back, tokens = front ++ missing.token :: back ∧
        LacksMode fallback missing.token ∧ ∀ token ∈ front, ¬ LacksMode fallback token := by
  have hfirst : Selection.ofTokens fallback tokens = .error missing ↔
      tokens.find? (LacksMode fallback ·) = some missing.token := by
    rw [ofTokens_eq]
    obtain ⟨token⟩ := missing
    cases tokens.find? (LacksMode fallback ·) <;> simp
  rw [hfirst, List.find?_eq_some_iff_append]
  simp only [decide_eq_true_eq, Bool.not_eq_true', decide_eq_false_iff_not]
  constructor
  · rintro ⟨hlacks, front, back, heq, hfront⟩
    exact ⟨front, back, heq, hlacks, hfront⟩
  · rintro ⟨front, back, heq, hlacks, hfront⟩
    exact ⟨hlacks, front, back, heq, hfront⟩

/-- A list of tokens is refused when one of them lacks a mode. -/
theorem ofTokens_fails_iff :
    (∃ missing, Selection.ofTokens fallback tokens = .error missing) ↔
      ∃ token ∈ tokens, LacksMode fallback token := by
  constructor
  · rintro ⟨missing, h⟩
    obtain ⟨front, back, rfl, hlacks, -⟩ := ofTokens_eq_error_iff.1 h
    exact ⟨missing.token, by simp, hlacks⟩
  · rintro ⟨token, hmem, hlacks⟩
    cases h : Selection.ofTokens fallback tokens with
    | error missing => exact ⟨missing, rfl⟩
    | ok s => exact absurd hlacks ((ofTokens_eq_ok_iff.1 h).1 token hmem)

end

/-- **Outcome.** A list of tokens is refused when there is no fallback and a token names no
mode; the error then has the whole text of the first such token. Otherwise it selects
what is read off the tokens, and nothing else. -/
theorem ofTokens_outcome (fallback : String) (tokens : List String) :
    ((∃ missing, Selection.ofTokens fallback tokens = .error missing) ↔
      fallback = "" ∧ ∃ token ∈ tokens, NamesNoMode token) ∧
    (∀ missing, Selection.ofTokens fallback tokens = .error missing ↔
      fallback = "" ∧ ∃ front back, tokens = front ++ missing.token :: back ∧
        NamesNoMode missing.token ∧ ∀ token ∈ front, ¬ NamesNoMode token) ∧
    ∀ s, Selection.ofTokens fallback tokens = .ok s ↔
      ¬ (fallback = "" ∧ ∃ token ∈ tokens, NamesNoMode token) ∧
        s.ReadOff fallback tokens := by
  refine ⟨?_, ?_, ?_⟩
  · rw [ofTokens_fails_iff]
    constructor
    · rintro ⟨token, hmem, hlacks⟩
      obtain ⟨hfallback, hnone⟩ := lacksMode_iff.1 hlacks
      exact ⟨hfallback, token, hmem, hnone⟩
    · rintro ⟨hfallback, token, hmem, hnone⟩
      exact ⟨token, hmem, lacksMode_iff.2 ⟨hfallback, hnone⟩⟩
  · intro missing
    rw [ofTokens_eq_error_iff]
    constructor
    · rintro ⟨front, back, heq, hlacks, hfront⟩
      obtain ⟨hfallback, hnone⟩ := lacksMode_iff.1 hlacks
      exact ⟨hfallback, front, back, heq, hnone,
        fun token hmem h => hfront token hmem (lacksMode_iff.2 ⟨hfallback, h⟩)⟩
    · rintro ⟨hfallback, front, back, heq, hnone, hfront⟩
      exact ⟨front, back, heq, lacksMode_iff.2 ⟨hfallback, hnone⟩,
        fun token hmem h => hfront token hmem (lacksMode_iff.1 h).2⟩
  · intro s
    rw [ofTokens_eq_ok_iff]
    constructor
    · rintro ⟨hlacks, rfl⟩
      refine ⟨?_, readOff_selected fallback tokens⟩
      rintro ⟨hfallback, token, hmem, hnone⟩
      exact hlacks token hmem (lacksMode_iff.2 ⟨hfallback, hnone⟩)
    · rintro ⟨hnot, hread⟩
      refine ⟨?_, hread.eq_selected⟩
      intro token hmem hlacks
      obtain ⟨hfallback, hnone⟩ := lacksMode_iff.1 hlacks
      exact hnot ⟨hfallback, token, hmem, hnone⟩

/-! ## Tokens in another order -/

section

variable {fallback : String} {tokens tokens' : List String}

theorem modes_selected_congr (h : ∀ t, t ∈ tokens ↔ t ∈ tokens') :
    (selected fallback tokens).modes = (selected fallback tokens').modes := by
  apply Modes.ofKeys_congr
  intro key
  simp only [List.mem_map, h]

theorem directives_selected_perm (h : ∀ t, t ∈ tokens ↔ t ∈ tokens') :
    (selected fallback tokens).directives.Perm (selected fallback tokens').directives := by
  -- both lists are without repetitions, so it is enough that they have the same members
  apply (List.perm_ext_iff_of_nodup (nodup_eraseDups _) (nodup_eraseDups _)).2
  intro directive
  simp only [List.mem_eraseDups, List.mem_map, h]

/-- The mode of a token is a function of its head. -/
theorem modeOr_congr {t t' : String} (h : (Token.ofString t).head = (Token.ofString t').head) :
    (Token.ofString t).modeOr fallback = (Token.ofString t').modeOr fallback := by
  rw [head_ofString, head_ofString] at h
  rw [Token.modeOr, Token.modeOr, mode_ofString, mode_ofString, h]

/-- A token whose head has a mode already gives it the same mode once more. -/
theorem modes_selected_append {t : String}
    (h : headOf t ∈ (selected fallback tokens).modes.keys) :
    (selected fallback (tokens ++ [t])).modes = (selected fallback tokens).modes := by
  obtain ⟨t', ht', hhead⟩ := mem_keys_selected.1 h
  apply Modes.ofKeys_congr
  intro key
  rw [List.map_append, List.mem_append]
  constructor
  · rintro (hmem | hmem)
    · exact hmem
    · rw [List.mem_singleton.1 hmem, ← hhead]
      exact List.mem_map_of_mem ht'
  · exact .inl

end

/-- **Order and repetition.** Two lists with the same tokens are both refused, or both
select the same modes, which are written as the same text, and the same directives up to
their order. No mode is ever overwritten with another one: tokens with the same head have
the same mode, and a token whose head has a mode leaves all modes as they are. -/
theorem ofTokens_ignores_order (fallback : String) {tokens tokens' : List String}
    (h : ∀ t, t ∈ tokens ↔ t ∈ tokens') :
    ((∃ s s', Selection.ofTokens fallback tokens = .ok s ∧
        Selection.ofTokens fallback tokens' = .ok s' ∧ s.modes = s'.modes ∧
        (Value.object s.modes.members).compact = (Value.object s'.modes.members).compact ∧
        s.directives.Perm s'.directives) ∨
      ∃ missing missing', Selection.ofTokens fallback tokens = .error missing ∧
        Selection.ofTokens fallback tokens' = .error missing') ∧
    (∀ t t', (Token.ofString t).head = (Token.ofString t').head →
      (Token.ofString t).modeOr fallback = (Token.ofString t').modeOr fallback) ∧
    ∀ s s' t, Selection.ofTokens fallback tokens = .ok s → s.add fallback t = .ok s' →
      (Token.ofString t).head ∈ s.modes.keys → s'.modes = s.modes := by
  refine ⟨?_, fun _ _ => modeOr_congr, ?_⟩
  · by_cases hlacks : ∃ t ∈ tokens, LacksMode fallback t
    · obtain ⟨t, ht, hlacks⟩ := hlacks
      obtain ⟨missing, hmissing⟩ := ofTokens_fails_iff.2 ⟨t, ht, hlacks⟩
      obtain ⟨missing', hmissing'⟩ := ofTokens_fails_iff.2 ⟨t, (h t).1 ht, hlacks⟩
      exact .inr ⟨missing, missing', hmissing, hmissing'⟩
    · have hnone : ∀ t ∈ tokens, ¬ LacksMode fallback t :=
        fun t ht hlacks' => hlacks ⟨t, ht, hlacks'⟩
      have hmodes : (selected fallback tokens).modes = (selected fallback tokens').modes :=
        modes_selected_congr h
      refine .inl ⟨_, _, ofTokens_eq_ok_iff.2 ⟨hnone, rfl⟩,
        ofTokens_eq_ok_iff.2 ⟨fun t ht => hnone t ((h t).2 ht), rfl⟩, hmodes, ?_,
        directives_selected_perm h⟩
      rw [hmodes]
  · intro s s' t hs hadd hhead
    obtain ⟨-, rfl⟩ := ofTokens_eq_ok_iff.1 hs
    rw [head_ofString] at hhead
    rw [add_selected] at hadd
    split at hadd
    · cases hadd
    · cases hadd
      exact modes_selected_append hhead

namespace Order

/-- Two tokens with the same head, and one that names its mode. -/
def tokens : List String := ["author:name", "tags,ids", "author:bio"]

/-- The same tokens in another order, one of them twice. -/
def reordered : List String := ["author:bio", "tags,ids", "author:name", "author:bio"]

def modes : Modes := .ofList [("author", "embed"), ("tags,ids", "ids")]

def selection : Selection := ⟨["author:name", "tags", "author:bio"], modes⟩

end Order

/-- The directives come in another order, the modes do not, and the mode of `author` is
given once more. -/
theorem ofTokens_ignores_order_reordered :
    (∀ t, t ∈ Order.tokens ↔ t ∈ Order.reordered) ∧
      Selection.ofTokens "embed" Order.tokens = .ok Order.selection ∧
      (∃ s, Selection.ofTokens "embed" Order.reordered = .ok s ∧
        s.directives = ["author:bio", "tags", "author:name"] ∧ s.modes = Order.modes ∧
        Order.selection.directives.Perm s.directives) ∧
      (Token.ofString "author:id").head ∈ Order.modes.keys ∧
      ∃ s, Order.selection.add "embed" "author:id" = .ok s ∧ s ≠ Order.selection ∧
        s.modes = Order.modes := by
  have hsame : ∀ t, t ∈ Order.tokens ↔ t ∈ Order.reordered := by
    intro t
    simp only [Order.tokens, Order.reordered, List.mem_cons, List.not_mem_nil, or_false]
    tauto
  have htokens : Selection.ofTokens "embed" Order.tokens = .ok Order.selection := by
    decide +kernel
  have hreordered : Selection.ofTokens "embed" Order.reordered =
      .ok ⟨["author:bio", "tags", "author:name"], Order.modes⟩ := by
    decide +kernel
  have hadd : Order.selection.add "embed" "author:id" =
      .ok ⟨["author:name", "tags", "author:bio", "author:id"], Order.modes⟩ := by
    decide +kernel
  have hhead : (Token.ofString "author:id").head ∈ Order.modes.keys := by decide +kernel
  obtain ⟨houtcome, -, hkept⟩ := ofTokens_ignores_order "embed" hsame
  refine ⟨hsame, htokens, ?_, hhead, ?_⟩
  · rcases houtcome with ⟨s, s', hs, hs', hmodes, -, hperm⟩ | ⟨missing, -, hmissing, -⟩
    · cases htokens.symm.trans hs
      cases hreordered.symm.trans hs'
      exact ⟨_, hreordered, rfl, hmodes.symm, hperm⟩
    · cases htokens.symm.trans hmissing
  · exact ⟨_, hadd, by decide, hkept _ _ _ htokens hadd hhead⟩

end FetchPlan.Include
