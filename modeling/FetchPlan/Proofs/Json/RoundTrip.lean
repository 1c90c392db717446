import FetchPlan.Json.Tree
import FetchPlan.Proofs.Json.Members
import FetchPlan.Proofs.Json.Printed

/-!
# Reading printed values

The tokens of a value are read as its tree, if it is not nested too deeply for the place
where it stands; and the tree of a well-formed value gives back the value. So both printed
forms of a value are read as the value.
-/

namespace FetchPlan.Json

open Value (WellFormed Integral)

/-- A value that is read whole when it stands inside `level` arrays and objects. -/
inductive Value.Fits (limit : Nat) : Nat → Value → Prop
  | null (level : Nat) : Fits limit level .null
  | bool (level : Nat) (b : Bool) : Fits limit level (.bool b)
  | number (level : Nat) (n : Number) : Fits limit level (.number n)
  | string (level : Nat) (s : String) : Fits limit level (.string s)
  | array {level : Nat} {items : List Value} (room : level < limit)
      (h : ∀ v ∈ items, Fits limit (level + 1) v) : Fits limit level (.array items)
  | object {level : Nat} {members : Members} (room : level < limit)
      (h : ∀ m ∈ members, Fits limit (level + 1) m.2) : Fits limit level (.object members)

/-! ## From tokens to trees -/

namespace Progress

/-- Reads several tokens. -/
def run (limit : Nat) (p : Progress) (ts : List Token) : Option Progress :=
  ts.foldlM (step limit) p

variable {limit : Nat}

theorem run_cons {p p' : Progress} {t : Token} (h : step limit p t = some p')
    (ts : List Token) : run limit p (t :: ts) = run limit p' ts := by
  rw [run, List.foldlM_cons, h]
  rfl

theorem run_append {p p' : Progress} {ts : List Token} (h : run limit p ts = some p')
    (ts' : List Token) : run limit p (ts ++ ts') = run limit p' ts' := by
  rw [run, List.foldlM_append]
  rw [run] at h
  rw [h]
  rfl

theorem close_eq {stack : List Frame} (h : stack.length < limit) (tree : Tree) :
    close limit tree stack = .complete tree stack := by
  rw [close, if_pos h]

/-- The first item of an array is read like any other. -/
theorem run_firstItem (v : Value) (stack : List Frame) (ts : List Token) :
    run limit (.firstItem stack) (v.tokens ++ ts) =
      run limit (.value (.items [] :: stack)) (v.tokens ++ ts) := by
  cases v with
  | null => rfl
  | bool b => rfl
  | number n => rfl
  | string s => rfl
  | array items => cases items <;> rfl
  | object members => cases members <;> rfl

/-- `v` is read as its tree wherever it stands inside `level` arrays and objects. -/
def Reads (limit level : Nat) (v : Value) : Prop :=
  ∀ stack : List Frame, stack.length = level →
    run limit (.value stack) v.tokens = some (.complete v.toTree stack)

variable {stack : List Frame}

theorem run_itemTokens {vs : List Value} (h : ∀ v ∈ vs, Reads limit (stack.length + 1) v)
    (tree : Tree) (before : List Tree) :
    run limit (.complete tree (.items before :: stack)) (itemTokens vs ++ [.closeArray]) =
      some (close limit (.array ((tree :: before).reverse ++ itemsToTrees vs)) stack) := by
  induction vs generalizing tree before with
  | nil => simp [itemTokens, itemsToTrees, run, step]
  | cons v rest ih =>
    have hv := h v List.mem_cons_self (.items (tree :: before) :: stack) rfl
    have hrest := ih (fun w hw => h w (List.mem_cons_of_mem _ hw)) v.toTree (tree :: before)
    rw [itemTokens, List.cons_append, run_cons rfl, List.append_assoc, run_append hv, hrest]
    simp [itemsToTrees]

theorem run_memberTokens {ms : Members} (h : ∀ m ∈ ms, Reads limit (stack.length + 1) m.2)
    (tree : Tree) (before : List (Option String × Tree)) (key : Option String) :
    run limit (.complete tree (.members before key :: stack))
        (memberTokens ms ++ [.closeObject]) =
      some (close limit
        (.object (((key, tree) :: before).reverse ++ membersToTrees ms)) stack) := by
  induction ms generalizing tree before key with
  | nil => simp [memberTokens, membersToTrees, run, step]
  | cons m rest ih =>
    obtain ⟨k, v⟩ := m
    have hv := h (k, v) List.mem_cons_self (.members ((key, tree) :: before) (some k) :: stack) rfl
    have hrest := ih (fun m hm => h m (List.mem_cons_of_mem _ hm)) v.toTree
      ((key, tree) :: before) (some k)
    rw [memberTokens, List.cons_append, List.cons_append, List.cons_append, run_cons rfl,
      run_cons rfl, run_cons rfl, List.append_assoc, run_append hv, hrest]
    simp [membersToTrees]

end Progress

open Progress

variable {limit level : Nat} {v : Value}

/-- The tokens of a value are read as its tree. -/
theorem Value.Fits.reads (h : v.Fits limit level) : Reads limit level v := by
  induction h with
  | null => exact fun _ _ => rfl
  | bool => exact fun _ _ => rfl
  | number => exact fun _ _ => rfl
  | string => exact fun _ _ => rfl
  | @array level items room _ ih =>
    rintro stack rfl
    cases items with
    | nil =>
      show some (close limit (.array []) stack) = _
      rw [close_eq room]
      rfl
    | cons v rest =>
      -- the first item stands without a comma, the others are read from where it ends
      have hv := ih v List.mem_cons_self (.items [] :: stack) rfl
      have hrest := run_itemTokens (fun w hw => ih w (List.mem_cons_of_mem _ hw)) v.toTree []
      rw [Value.tokens, run_cons rfl, run_firstItem, run_append hv, hrest, close_eq room]
      rfl
  | @object level members room _ ih =>
    rintro stack rfl
    cases members with
    | nil =>
      show some (close limit (.object []) stack) = _
      rw [close_eq room]
      rfl
    | cons m rest =>
      obtain ⟨k, v⟩ := m
      have hv := ih (k, v) List.mem_cons_self (.members [] (some k) :: stack) rfl
      have hrest := run_memberTokens (fun m hm => ih m (List.mem_cons_of_mem _ hm)) v.toTree []
        (some k)
      rw [Value.tokens, run_cons rfl, run_cons rfl, run_cons rfl, run_append hv, hrest,
        close_eq room]
      rfl

theorem Value.Fits.ofTokens? (h : v.Fits limit 0) :
    Tree.ofTokens? limit v.tokens = some v.toTree := by
  have hread := h.reads [] rfl
  rw [run] at hread
  rw [Tree.ofTokens?, hread]

/-! ## From trees to values -/

theorem itemsOfTrees?_itemsToTrees {vs : List Value}
    (h : ∀ v ∈ vs, Value.ofTree? v.toTree = some v) :
    itemsOfTrees? (itemsToTrees vs) = some vs := by
  induction vs with
  | nil => rfl
  | cons v rest ih =>
    rw [itemsToTrees, itemsOfTrees?, h v List.mem_cons_self,
      ih fun w hw => h w (List.mem_cons_of_mem _ hw)]
    rfl

theorem pairsOfTrees?_membersToTrees {ms : Members}
    (h : ∀ m ∈ ms, Value.ofTree? m.2.toTree = some m.2) :
    pairsOfTrees? (membersToTrees ms) = some ms := by
  induction ms with
  | nil => rfl
  | cons m rest ih =>
    obtain ⟨k, v⟩ := m
    rw [membersToTrees, pairsOfTrees?, h (k, v) List.mem_cons_self,
      ih fun m hm => h m (List.mem_cons_of_mem _ hm)]
    rfl

/-- The tree of a value gives the value back. -/
theorem Value.ofTree?_toTree (h : v.WellFormed) : Value.ofTree? v.toTree = some v := by
  induction h with
  | null => rfl
  | bool => rfl
  | number => rfl
  | string => rfl
  | array _ ih =>
    rw [Value.toTree, Value.ofTree?, itemsOfTrees?_itemsToTrees ih]
    rfl
  | object distinct _ ih =>
    rw [Value.toTree, Value.ofTree?, pairsOfTrees?_membersToTrees ih]
    exact congrArg (fun ms => some (Value.object ms)) (Members.ofPairs_of_nodup distinct)

/-! ## Texts -/

/-- What is read back from a text: the tree first, and from the tree the value. -/
theorem Value.ofText?_eq_some {text : String} (hv : v.WellFormed)
    (h : Tree.ofText? limit text = some v.toTree) : Value.ofText? limit text = some v := by
  rw [Value.ofText?, h]
  exact Value.ofTree?_toTree hv

theorem Tree.ofText?_compact (hv : v.WellFormed) (hint : v.Integral) (hfits : v.Fits limit 0) :
    Tree.ofText? limit v.compact = some v.toTree := by
  rw [Tree.ofText?, Value.compact, String.toList_ofList, Token.ofText?_compactChars hv hint]
  exact hfits.ofTokens?

theorem Tree.ofText?_pretty (hv : v.WellFormed) (hint : v.Integral) (hfits : v.Fits limit 0) :
    Tree.ofText? limit v.pretty = some v.toTree := by
  rw [Tree.ofText?, Value.pretty, String.toList_ofList, Token.ofText?_prettyChars hv hint]
  exact hfits.ofTokens?

end FetchPlan.Json
