import FetchPlan.Proofs.Include.Selected

/-!
# Which selections there are

A selection comes from some list of tokens exactly when its directives are distinct and
name no modes, each key has the mode that goes with it, and the keys are about the same
relations as the directives. For the way back each directive is asked for once with each of
the keys that name its relation.
-/

namespace FetchPlan.Include

/-! ## Blocks of one text -/

theorem eraseDups_append_block {xs ys : List String} {x : String} (hx : x ∉ xs)
    (hne : ys ≠ []) (hys : ∀ y ∈ ys, y = x) :
    (xs ++ ys).eraseDups = xs.eraseDups ++ [x] := by
  induction ys using List.reverseRecOn with
  | nil => exact absurd rfl hne
  | append_singleton ys y ih =>
    obtain rfl : y = x := hys y (by simp)
    rw [← List.append_assoc, eraseDups_append_singleton]
    -- the first text of the block is new, each further one stands before it already
    by_cases hnil : ys = []
    · subst hnil
      rw [List.append_nil, if_neg hx]
    · obtain ⟨z, hz⟩ := List.exists_mem_of_ne_nil ys hnil
      have hmem : y ∈ xs ++ ys := by
        rw [← hys z (List.mem_append_left _ hz)]
        exact List.mem_append_right _ hz
      rw [if_pos hmem]
      exact ih hnil fun w hw => hys w (List.mem_append_left _ hw)

/-- A list in which each text stands one or more times in a row. -/
theorem eraseDups_flatMap {xs : List String} {block : String → List String}
    (hxs : xs.Nodup) (hne : ∀ x ∈ xs, block x ≠ [])
    (hblock : ∀ x ∈ xs, ∀ y ∈ block x, y = x) :
    (xs.flatMap block).eraseDups = xs := by
  induction xs using List.reverseRecOn with
  | nil => rfl
  | append_singleton xs x ih =>
    obtain ⟨hnodup, -, hdisjoint⟩ := List.nodup_append.1 hxs
    have hx : x ∉ xs.flatMap block := by
      intro hmem
      obtain ⟨w, hw, hxw⟩ := List.mem_flatMap.1 hmem
      have heq := hblock w (List.mem_append_left _ hw) x hxw
      exact hdisjoint w hw x (List.mem_singleton_self x) heq.symm
    rw [List.flatMap_append, List.flatMap_singleton, eraseDups_append_block hx
      (hne x (by simp)) (hblock x (by simp))]
    rw [ih hnodup (fun w hw => hne w (List.mem_append_left _ hw))
      (fun w hw => hblock w (List.mem_append_left _ hw))]

/-! ## Attainable selections -/

namespace Selection

/-- The selections that a list of tokens can have when the default mode is `fallback`. -/
structure Attainable (fallback : String) (s : Selection) : Prop where
  /-- No directive stands twice. -/
  distinct : s.directives.Nodup
  /-- No directive has a comma before its fields. -/
  directive_names_no_mode : ∀ text ∈ s.directives, ',' ∉ (headOf text).toList
  /-- No key has fields. -/
  key_has_no_fields : ∀ key ∈ s.modes.keys, ':' ∉ key.toList
  /-- A key that names a mode has this mode. -/
  named : ∀ key mode named, (key, mode) ∈ s.modes.entries → modeOf key = some named →
    mode = named
  /-- Any other key has the default mode, and there is one. -/
  unnamed : ∀ key mode, (key, mode) ∈ s.modes.entries → modeOf key = none →
    mode = fallback ∧ fallback ≠ ""
  /-- Keys and directives are about the same relations. -/
  same_relations : ∀ relation,
    relation ∈ s.modes.keys.map relationOf ↔ relation ∈ s.directives.map headOf

theorem attainable_selected {fallback : String} {tokens : List String}
    (h : ∀ t ∈ tokens, ¬ LacksMode fallback t) :
    Attainable fallback (selected fallback tokens) where
  distinct := nodup_eraseDups _
  directive_names_no_mode := by
    intro text htext
    obtain ⟨t, -, rfl⟩ := mem_directives_selected.1 htext
    rw [headOf_directiveOf]
    exact comma_not_mem_relationOf _
  key_has_no_fields := by
    intro key hkey
    obtain ⟨t, -, rfl⟩ := mem_keys_selected.1 hkey
    exact colon_not_mem_headOf t
  named := by
    intro key mode named hmem hnamed
    obtain ⟨-, rfl⟩ := mem_entries_selected.1 hmem
    rw [modeWith, hnamed]
    rfl
  unnamed := by
    intro key mode hmem hnone
    obtain ⟨⟨t, ht, rfl⟩, rfl⟩ := mem_entries_selected.1 hmem
    refine ⟨by rw [modeWith, hnone]; rfl, ?_⟩
    intro hfallback
    exact h t ht ⟨hfallback, hnone⟩
  same_relations := by
    intro relation
    simp only [List.mem_map, mem_keys_selected, mem_directives_selected]
    constructor
    · rintro ⟨key, ⟨t, ht, rfl⟩, rfl⟩
      exact ⟨directiveOf t, ⟨t, ht, rfl⟩, headOf_directiveOf t⟩
    · rintro ⟨text, ⟨t, ht, rfl⟩, rfl⟩
      exact ⟨headOf t, ⟨t, ht, rfl⟩, (headOf_directiveOf t).symm⟩

/-- Each directive together with each of the keys that name its relation. -/
def tokens (s : Selection) : List String :=
  s.directives.flatMap fun text =>
    (s.modes.keys.filter (relationOf · = headOf text)).map (withFields · (fieldsOf text))

theorem mem_tokens_iff {s : Selection} {t : String} :
    t ∈ s.tokens ↔ ∃ text ∈ s.directives, ∃ key ∈ s.modes.keys,
      relationOf key = headOf text ∧ withFields key (fieldsOf text) = t := by
  simp [tokens, and_assoc]

variable {fallback : String} {s : Selection}

theorem Attainable.mode_eq (h : Attainable fallback s) {key mode : String}
    (hmem : (key, mode) ∈ s.modes.entries) : mode = modeWith fallback key := by
  unfold modeWith
  cases hmode : modeOf key with
  | some named => exact h.named key mode named hmem hmode
  | none => exact (h.unnamed key mode hmem hmode).1

theorem Attainable.mem_tokens_parts (h : Attainable fallback s) {t : String}
    (ht : t ∈ s.tokens) : headOf t ∈ s.modes.keys ∧ directiveOf t ∈ s.directives := by
  obtain ⟨text, htext, key, hkey, hrelation, rfl⟩ := mem_tokens_iff.1 ht
  have hcolon := h.key_has_no_fields key hkey
  rw [headOf_withFields hcolon, directiveOf_withFields hcolon, hrelation, withFields_parts]
  exact ⟨hkey, htext⟩

/-- The directive of a token is the one it was made for. -/
theorem Attainable.directives_tokens (h : Attainable fallback s) :
    (s.tokens.map directiveOf).eraseDups = s.directives := by
  rw [tokens, List.map_flatMap]
  apply eraseDups_flatMap h.distinct
  · -- some key names the relation of the directive, so its block is not empty
    intro text htext hnil
    obtain ⟨key, hkey, hrelation⟩ :=
      List.mem_map.1 ((h.same_relations _).2 (List.mem_map_of_mem htext))
    have hmem : key ∈ s.modes.keys.filter (relationOf · = headOf text) := by
      simp [hkey, hrelation]
    rw [List.map_eq_nil_iff, List.map_eq_nil_iff] at hnil
    rw [hnil] at hmem
    cases hmem
  · intro text htext t ht
    obtain ⟨t', ht', rfl⟩ := List.mem_map.1 ht
    obtain ⟨key, hkey, rfl⟩ := List.mem_map.1 ht'
    obtain ⟨hkey, hrelation⟩ := List.mem_filter.1 hkey
    rw [directiveOf_withFields (h.key_has_no_fields key hkey), of_decide_eq_true hrelation,
      withFields_parts]

/-- Each key is the head of a token: some directive has its relation. -/
theorem Attainable.heads_tokens (h : Attainable fallback s) (key : String) :
    key ∈ s.modes.keys ↔ key ∈ s.tokens.map headOf := by
  rw [List.mem_map]
  constructor
  · intro hkey
    obtain ⟨text, htext, hrelation⟩ :=
      List.mem_map.1 ((h.same_relations _).1 (List.mem_map_of_mem hkey))
    refine ⟨withFields key (fieldsOf text), ?_, ?_⟩
    · exact mem_tokens_iff.2 ⟨text, htext, key, hkey, hrelation.symm, rfl⟩
    · exact headOf_withFields (h.key_has_no_fields key hkey) _
  · rintro ⟨t, ht, rfl⟩
    exact (h.mem_tokens_parts ht).1

theorem Attainable.selected_tokens (h : Attainable fallback s) :
    selected fallback s.tokens = s := by
  have hmodes := Modes.eq_ofKeys h.heads_tokens fun _ _ => h.mode_eq
  unfold selected
  rw [h.directives_tokens, ← hmodes]

theorem Attainable.not_lacksMode (h : Attainable fallback s) {t : String}
    (ht : t ∈ s.tokens) : ¬ LacksMode fallback t := by
  rintro ⟨hfallback, hnone⟩
  obtain ⟨mode, hmode⟩ := Modes.mem_keys_iff.1 (h.mem_tokens_parts ht).1
  exact (h.unnamed _ mode hmode hnone).2 hfallback

theorem Attainable.ofTokens_tokens (h : Attainable fallback s) :
    ofTokens fallback s.tokens = .ok s := by
  have hlacks : ∀ t ∈ s.tokens, ¬ LacksMode fallback t := fun t ht => h.not_lacksMode ht
  exact ofTokens_eq_ok_iff.2 ⟨hlacks, h.selected_tokens.symm⟩

/-- **Image.** The selections of lists of tokens are exactly the attainable ones. -/
theorem exists_tokens_iff :
    (∃ tokens, ofTokens fallback tokens = .ok s) ↔ Attainable fallback s := by
  constructor
  · rintro ⟨tokens, h⟩
    obtain ⟨hlacks, rfl⟩ := ofTokens_eq_ok_iff.1 h
    exact attainable_selected hlacks
  · intro h
    exact ⟨s.tokens, h.ofTokens_tokens⟩

end Selection

end FetchPlan.Include
