import FetchPlan.Proofs.Json.Spelling
import FetchPlan.Proofs.Json.WellFormed

/-!
# Printed values

Both forms of a value spell the same tokens, with blanks between them in the pretty form.
This is said of values whose numbers are integers in range: these are written in digits,
and the digits read as the number.
-/

namespace FetchPlan.Json

/-- Values all of whose numbers are kept as integers. -/
inductive Value.Integral : Value → Prop
  | null : Integral .null
  | bool (b : Bool) : Integral (.bool b)
  | integer (i : Int) : Integral (.number (.integer i))
  | string (s : String) : Integral (.string s)
  | array {items : List Value} (h : ∀ v ∈ items, Integral v) : Integral (.array items)
  | object {members : Members} (h : ∀ m ∈ members, Integral m.2) : Integral (.object members)

/-! ## The tokens of a value -/

mutual

def Value.tokens : Value → List Token
  | .null => [.null]
  | .bool b => [.bool b]
  | .number n => [.number (some n)]
  | .string s => [.string (some s)]
  | .array [] => [.openArray, .closeArray]
  | .array (v :: rest) => .openArray :: (v.tokens ++ (itemTokens rest ++ [.closeArray]))
  | .object [] => [.openObject, .closeObject]
  | .object ((k, v) :: rest) =>
    .openObject :: .string (some k) :: .colon ::
      (v.tokens ++ (memberTokens rest ++ [.closeObject]))
termination_by structural v => v

/-- Further items, each after a comma. -/
def itemTokens : List Value → List Token
  | [] => []
  | v :: rest => .comma :: (v.tokens ++ itemTokens rest)
termination_by structural vs => vs

/-- Further members, each after a comma. -/
def memberTokens : List (String × Value) → List Token
  | [] => []
  | (k, v) :: rest =>
    .comma :: .string (some k) :: .colon :: (v.tokens ++ memberTokens rest)
termination_by structural ms => ms

end

/-! ## Containers -/

/-- How arrays and objects are laid out: the blanks in front of each item or member, those
between a key and its value, and those in front of the closing bracket. -/
structure Spacing where
  lead : List Char
  gap : List Char
  tail : List Char
  lead_blank : ∀ c ∈ lead, Token.isBlank c
  gap_blank : ∀ c ∈ gap, Token.isBlank c
  tail_blank : ∀ c ∈ tail, Token.isBlank c

namespace Spacing

open Token

/-- No blanks at all. -/
def compact : Spacing := ⟨[], [], [], by simp, by simp, by simp⟩

theorem isBlank_newline (depth : Nat) : ∀ c ∈ newline depth, isBlank c := by
  intro c hc
  rcases List.mem_cons.1 hc with rfl | hc
  · rfl
  · rw [List.eq_of_mem_replicate hc]
    rfl

/-- Each item on a line of its own, one level further inside than the brackets. -/
def pretty (depth : Nat) : Spacing :=
  ⟨newline (depth + 1), [' '], newline depth, isBlank_newline (depth + 1), by simp [isBlank],
    isBlank_newline depth⟩

variable (l : Spacing) (write : Value → List Char)

/-- Further items. -/
def items (vs : List Value) : List Char := vs.flatMap fun v => ',' :: (l.lead ++ write v)

def member (m : String × Value) : List Char :=
  l.lead ++ (quote m.1 ++ (':' :: (l.gap ++ write m.2)))

/-- Further members. -/
def members (ms : Members) : List Char := ms.flatMap fun m => ',' :: l.member write m

variable {l write}

theorem parts_items (vs : List Value) : Parts (l.items write vs) := by
  cases vs with
  | nil => exact parts_nil
  | cons v rest => exact parts_mark rfl _

theorem parts_members (ms : Members) : Parts (l.members write ms) := by
  cases ms with
  | nil => exact parts_nil
  | cons m rest => exact parts_mark rfl _

theorem spells_items {vs : List Value} (h : ∀ v ∈ vs, Spells (write v) v.tokens) :
    Spells (l.items write vs) (itemTokens vs) := by
  induction vs with
  | nil => exact spells_nil
  | cons v rest ih =>
    have hv := h v List.mem_cons_self
    have hrest := ih fun w hw => h w (List.mem_cons_of_mem _ hw)
    have happend := hv.append hrest (parts_items rest)
    have hspells := (happend.blanks l.lead_blank).mark (c := ',') rfl
    rwa [← List.append_assoc] at hspells

theorem spells_members {ms : Members} (h : ∀ m ∈ ms, Spells (write m.2) m.2.tokens) :
    Spells (l.members write ms) (memberTokens ms) := by
  induction ms with
  | nil => exact spells_nil
  | cons m rest ih =>
    obtain ⟨k, v⟩ := m
    have hv := h (k, v) List.mem_cons_self
    have hrest := ih fun w hw => h w (List.mem_cons_of_mem _ hw)
    have hvalue := (hv.append hrest (parts_members rest)).blanks l.gap_blank
    have hspells := ((((hvalue.mark (c := ':') rfl).quote k).blanks l.lead_blank).mark
      (c := ',') rfl)
    simpa only [members, member, memberTokens, List.flatMap_cons, List.cons_append,
      List.append_assoc] using hspells

/-- The items of an array, the first one without a comma, and its end. -/
theorem spells_array {v : Value} {rest : List Value}
    (h : ∀ w ∈ v :: rest, Spells (write w) w.tokens) :
    Spells ('[' :: (l.lead ++ (write v ++ (l.items write rest ++ (l.tail ++ [']'])))))
      (Value.tokens (.array (v :: rest))) := by
  have hclose := (spells_nil.mark (c := ']') rfl).blanks l.tail_blank
  have hparts := parts_blanks l.tail_blank (parts_mark (c := ']') rfl [])
  have hitems := spells_items (l := l) fun w hw => h w (List.mem_cons_of_mem _ hw)
  have hrest := hitems.append hclose hparts
  have hfirst := (h v List.mem_cons_self).append hrest fun s hs => by
    rw [List.append_assoc]
    exact parts_items rest _ (hparts s hs)
  exact (hfirst.blanks l.lead_blank).mark (c := '[') rfl

theorem spells_object {m : String × Value} {rest : Members}
    (h : ∀ m' ∈ m :: rest, Spells (write m'.2) m'.2.tokens) :
    Spells ('\x7b' :: (l.member write m ++ (l.members write rest ++ (l.tail ++ ['\x7d']))))
      (Value.tokens (.object (m :: rest))) := by
  obtain ⟨k, v⟩ := m
  have hclose := (spells_nil.mark (c := '\x7d') rfl).blanks l.tail_blank
  have hparts := parts_blanks l.tail_blank (parts_mark (c := '\x7d') rfl [])
  have hmembers := spells_members (l := l) fun m hm => h m (List.mem_cons_of_mem _ hm)
  have hrest := hmembers.append hclose hparts
  have hfirst := (h (k, v) List.mem_cons_self).append hrest fun s hs => by
    rw [List.append_assoc]
    exact parts_members rest _ (hparts s hs)
  have hvalue := (hfirst.blanks l.gap_blank).mark (c := ':') rfl
  have hspells := ((hvalue.quote k).blanks l.lead_blank).mark (c := '\x7b') rfl
  simpa only [member, Value.tokens, List.cons_append, List.append_assoc] using hspells

end Spacing

/-! ## Both forms -/

/-- `write` lays out arrays and objects by `spacing`, one level further inside each time. -/
structure Lays (spacing : Nat → Spacing) (write : Nat → Value → List Char) : Prop where
  null (depth : Nat) : write depth .null = ['n', 'u', 'l', 'l']
  false (depth : Nat) : write depth (.bool .false) = ['f', 'a', 'l', 's', 'e']
  true (depth : Nat) : write depth (.bool .true) = ['t', 'r', 'u', 'e']
  number (depth : Nat) (n : Number) : write depth (.number n) = n.text
  string (depth : Nat) (s : String) : write depth (.string s) = quote s
  emptyArray (depth : Nat) : write depth (.array []) = ['[', ']']
  array (depth : Nat) (v : Value) (rest : List Value) :
    write depth (.array (v :: rest)) =
      '[' :: ((spacing depth).lead ++ (write (depth + 1) v ++
        ((spacing depth).items (write (depth + 1)) rest ++ ((spacing depth).tail ++ [']']))))
  emptyObject (depth : Nat) : write depth (.object []) = ['\x7b', '\x7d']
  object (depth : Nat) (m : String × Value) (rest : Members) :
    write depth (.object (m :: rest)) =
      '\x7b' :: ((spacing depth).member (write (depth + 1)) m ++
        ((spacing depth).members (write (depth + 1)) rest ++ ((spacing depth).tail ++ ['\x7d'])))

theorem compactItems_eq (vs : List Value) :
    compactItems vs = Spacing.compact.items Value.compactChars vs := by
  induction vs with
  | nil => rfl
  | cons v rest ih =>
    rw [compactItems, ih]
    rfl

theorem compactMembers_eq (ms : Members) :
    compactMembers ms = Spacing.compact.members Value.compactChars ms := by
  induction ms with
  | nil => rfl
  | cons m rest ih =>
    rw [compactMembers, ih]
    simp [Spacing.members, Spacing.member, Spacing.compact]

theorem lays_compact : Lays (fun _ => .compact) (fun _ => Value.compactChars) where
  null _ := rfl
  false _ := rfl
  true _ := rfl
  number _ _ := rfl
  string _ _ := rfl
  emptyArray _ := rfl
  array _ v rest := by
    rw [Value.compactChars, compactItems_eq]
    simp [Spacing.compact]
  emptyObject _ := rfl
  object _ m rest := by
    rw [Value.compactChars, compactMembers_eq]
    simp [Spacing.member, Spacing.compact]

theorem prettyItems_eq (depth : Nat) (vs : List Value) :
    prettyItems (depth + 1) vs =
      (Spacing.pretty depth).items (Value.prettyChars (depth + 1)) vs := by
  induction vs with
  | nil => rfl
  | cons v rest ih =>
    rw [prettyItems, ih]
    simp [Spacing.items, Spacing.pretty]

theorem prettyMembers_eq (depth : Nat) (ms : Members) :
    prettyMembers (depth + 1) ms =
      (Spacing.pretty depth).members (Value.prettyChars (depth + 1)) ms := by
  induction ms with
  | nil => rfl
  | cons m rest ih =>
    rw [prettyMembers, ih]
    simp [Spacing.members, Spacing.member, Spacing.pretty]

theorem lays_pretty : Lays .pretty Value.prettyChars where
  null _ := rfl
  false _ := rfl
  true _ := rfl
  number _ _ := rfl
  string _ _ := rfl
  emptyArray _ := rfl
  array depth v rest := by
    rw [Value.prettyChars, prettyItems_eq]
    simp [Spacing.pretty]
  emptyObject _ := rfl
  object depth m rest := by
    rw [Value.prettyChars, prettyMembers_eq]
    simp [Spacing.member, Spacing.pretty]

open Token

/-- However it is laid out, the text of a value spells the tokens of the value. -/
theorem Lays.spells {spacing : Nat → Spacing} {write : Nat → Value → List Char}
    (hw : Lays spacing write) {v : Value} (hv : v.WellFormed) (hint : v.Integral) :
    ∀ depth, Spells (write depth v) v.tokens := by
  induction hv with
  | null =>
    intro depth
    rw [hw.null]
    exact spells_word rfl fun _ => rfl
  | bool b =>
    intro depth
    cases b with
    | false =>
      rw [hw.false]
      exact spells_word rfl fun _ => rfl
    | true =>
      rw [hw.true]
      exact spells_word rfl fun _ => rfl
  | number hn =>
    intro depth
    cases hint
    rw [hw.number]
    exact spells_integer hn
  | string s =>
    intro depth
    rw [hw.string]
    exact spells_quote s
  | @array items _ ih =>
    intro depth
    cases hint with
    | array hint =>
      have hitems : ∀ v ∈ items, Spells (write (depth + 1) v) v.tokens :=
        fun v hv => ih v hv (hint v hv) (depth + 1)
      cases items with
      | nil =>
        rw [hw.emptyArray]
        exact (spells_nil.mark (c := ']') rfl).mark (c := '[') rfl
      | cons v rest =>
        rw [hw.array]
        exact Spacing.spells_array hitems
  | @object members _ _ ih =>
    intro depth
    cases hint with
    | object hint =>
      have hmembers : ∀ m ∈ members, Spells (write (depth + 1) m.2) m.2.tokens :=
        fun m hm => ih m hm (hint m hm) (depth + 1)
      cases members with
      | nil =>
        rw [hw.emptyObject]
        exact (spells_nil.mark (c := '\x7d') rfl).mark (c := '\x7b') rfl
      | cons m rest =>
        rw [hw.object]
        exact Spacing.spells_object hmembers

/-- A text that spells tokens is cut into them. -/
theorem Token.Spells.ofText? {s : List Char} {ts : List Token} (h : Spells s ts) :
    Token.ofText? s = some ts := by
  have hend : EndsNumeral [] := fun _ hc => by cases hc
  have hspells := h [] hend
  rw [List.append_nil, Token.ofText?_eq []] at hspells
  simpa using hspells

theorem Token.ofText?_compactChars {v : Value} (hv : v.WellFormed) (hint : v.Integral) :
    Token.ofText? v.compactChars = some v.tokens :=
  (lays_compact.spells hv hint 0).ofText?

theorem Token.ofText?_prettyChars {v : Value} (hv : v.WellFormed) (hint : v.Integral) :
    Token.ofText? (v.prettyChars 0) = some v.tokens :=
  (lays_pretty.spells hv hint 0).ofText?

/-! ## One line -/

theorem newline_not_mem_escape (c : Char) : '\n' ∉ Literal.escape c := by
  have hdigit : ∀ n, Literal.hexDigit n ≠ '\n' := by
    have hdigits : ∀ m < 16, Nat.digitChar m ≠ '\n' := by decide
    exact fun n => hdigits (n % 16) (Nat.mod_lt n (by omega))
  have hform := Literal.form_escape c
  generalize Literal.escape c = written at hform
  cases hform with
  | letter named =>
    intro hmem
    rcases List.mem_cons.1 hmem with h | h
    · exact absurd h (by decide)
    · obtain rfl := List.mem_singleton.1 h
      cases named
  | number =>
    intro hmem
    simp [(hdigit _).symm] at hmem
  | plain _ _ printable =>
    intro hmem
    rw [← List.mem_singleton.1 hmem] at printable
    exact absurd printable (by decide)

theorem newline_not_mem_quote (s : String) : '\n' ∉ quote s := by
  have hbody : '\n' ∉ s.toList.flatMap Literal.escape := by
    intro hmem
    obtain ⟨c, -, hc⟩ := List.mem_flatMap.1 hmem
    exact newline_not_mem_escape c hc
  simp [quote, Literal.text, hbody]

theorem newline_not_mem_integerText (i : Int) : '\n' ∉ Number.integerText i := by
  intro hmem
  exact absurd (numeric_integerText i '\n' hmem) (by decide)

/-- The compact form has no line break, whatever the strings in it hold. -/
theorem newline_not_mem_compactChars {v : Value} (h : v.Integral) : '\n' ∉ v.compactChars := by
  induction h with
  | null => decide
  | bool b => cases b <;> decide
  | integer i => exact newline_not_mem_integerText i
  | string s => exact newline_not_mem_quote s
  | @array items _ ih =>
    cases items with
    | nil => decide
    | cons v rest =>
      have hfirst := ih v List.mem_cons_self
      have hrest : '\n' ∉ Spacing.compact.items Value.compactChars rest := by
        intro hmem
        obtain ⟨w, hw, h⟩ := List.mem_flatMap.1 hmem
        rcases List.mem_cons.1 h with h | h
        · exact absurd h (by decide)
        · exact ih w (List.mem_cons_of_mem _ hw) h
      rw [lays_compact.array 0 v rest]
      show '\n' ∉ '[' :: (v.compactChars ++ (Spacing.compact.items _ rest ++ [']']))
      simp [hfirst, hrest]
  | @object members _ ih =>
    cases members with
    | nil => decide
    | cons m rest =>
      have hmember : ∀ m' ∈ m :: rest,
          '\n' ∉ Spacing.compact.member Value.compactChars m' := by
        intro m' hm'
        show '\n' ∉ quote m'.1 ++ (':' :: m'.2.compactChars)
        simp [newline_not_mem_quote, ih m' hm']
      have hrest : '\n' ∉ Spacing.compact.members Value.compactChars rest := by
        intro hmem
        obtain ⟨m', hm', h⟩ := List.mem_flatMap.1 hmem
        rcases List.mem_cons.1 h with h | h
        · exact absurd h (by decide)
        · exact hmember m' (List.mem_cons_of_mem _ hm') h
      rw [lays_compact.object 0 m rest]
      show '\n' ∉ '\x7b' :: (Spacing.compact.member _ m ++
        (Spacing.compact.members _ rest ++ ['\x7d']))
      simp [hmember m List.mem_cons_self, hrest]

end FetchPlan.Json
