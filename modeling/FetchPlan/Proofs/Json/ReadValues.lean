import FetchPlan.Proofs.Decimal.Nearest
import FetchPlan.Proofs.Json.RoundTrip

/-!
# Values that are read

Whatever a text says, the value that is read from it is well-formed and is not nested too
deeply. One step of the reader keeps this of all that it has put together so far; so a run
keeps it, and the trees at its end hand it on to the values.
-/

namespace FetchPlan.Json

open Value (WellFormed Fits)

/-! ## Tokens -/

/-- A number that has a value has a well-formed one. -/
def Token.Sound : Token → Prop
  | .number (some n) => n.WellFormed
  | _ => True

theorem Numeral.wellFormed_float {numeral : Numeral} {n : Number}
    (h : numeral.float = some n) : n.WellFormed := by
  unfold Numeral.float at h
  obtain ⟨x, hx, rfl⟩ := Option.map_eq_some_iff.1 h
  exact Decimal.Binary64.wellFormed_ofDecimal hx

theorem Numeral.wellFormed_number {numeral : Numeral} {n : Number}
    (h : numeral.number = some n) : n.WellFormed := by
  unfold Numeral.number at h
  split at h
  · dsimp only at h
    generalize (if numeral.negative then -(digitsValue numeral.whole : Int)
      else (digitsValue numeral.whole : Int)) = i at h
    split at h
    · next hrange =>
      cases h
      exact hrange.1
    · exact wellFormed_float h
  · exact wellFormed_float h

namespace Token

theorem sound_number (numeral : Numeral) : (Token.number numeral.number).Sound := by
  cases h : numeral.number with
  | none => trivial
  | some n => exact Numeral.wellFormed_number h

theorem sound_front {s rest : List Char} {t : Token} (h : front s = some (t, rest)) :
    t.Sound := by
  unfold front at h
  split at h
  case h_10 =>
    obtain ⟨_, _, heq⟩ := Option.map_eq_some_iff.1 h
    cases heq
    trivial
  case h_11 =>
    obtain ⟨⟨numeral, _⟩, _, heq⟩ := Option.map_eq_some_iff.1 h
    cases heq
    exact sound_number numeral
  all_goals
    cases h
    trivial

theorem sound_ofText? {s : List Char} {ts : List Token} (h : ofText? s = some ts) :
    ∀ t ∈ ts, t.Sound := by
  fun_induction ofText? s generalizing ts with
  | case1 =>
    cases h
    exact fun _ ht => by cases ht
  | case2 => cases h
  | case3 s c cs t rest _ hfront ih =>
    obtain ⟨ts', hts', rfl⟩ := Option.map_eq_some_iff.1 h
    intro t' ht'
    rcases List.mem_cons.1 ht' with rfl | ht'
    · exact sound_front hfront
    · exact ih hts' t' ht'

end Token

/-! ## Trees -/

/-- A tree inside `level` arrays and objects whose readable parts are well-formed and not
nested too deeply. -/
inductive Tree.Sound (limit : Nat) : Nat → Tree → Prop
  | unreadable (level : Nat) : Sound limit level .unreadable
  | null (level : Nat) : Sound limit level .null
  | bool (level : Nat) (b : Bool) : Sound limit level (.bool b)
  | number (level : Nat) {n : Number} (h : n.WellFormed) : Sound limit level (.number n)
  | string (level : Nat) (s : String) : Sound limit level (.string s)
  | array {level : Nat} {items : List Tree} (room : level < limit)
      (h : ∀ t ∈ items, Sound limit (level + 1) t) : Sound limit level (.array items)
  | object {level : Nat} {members : List (Option String × Tree)} (room : level < limit)
      (h : ∀ m ∈ members, Sound limit (level + 1) m.2) : Sound limit level (.object members)

/-- What an open array or object holds so far; its parts stand at `level`. -/
def Frame.Sound (limit level : Nat) : Frame → Prop
  | .items before => ∀ t ∈ before, t.Sound limit level
  | .members before _ => ∀ m ∈ before, m.2.Sound limit level

namespace Progress

variable {limit : Nat}

/-- The open arrays and objects, each at its own level. -/
def StackSound (limit : Nat) : List Frame → Prop
  | [] => True
  | frame :: stack => frame.Sound limit (stack.length + 1) ∧ StackSound limit stack

/-- All that has been put together so far is sound. -/
def Sound (limit : Nat) : Progress → Prop
  | .value stack | .firstItem stack | .firstKey stack => StackSound limit stack
  | .key before stack | .colon before _ stack =>
    (∀ m ∈ before, m.2.Sound limit (stack.length + 1)) ∧ StackSound limit stack
  | .complete tree stack => tree.Sound limit stack.length ∧ StackSound limit stack

theorem sound_openValue {stack : List Frame} {t : Token} {p : Progress}
    (h : openValue stack t = some p) (hs : StackSound limit stack) (ht : t.Sound) :
    p.Sound limit := by
  cases t with
  | null => cases h; exact ⟨.null _, hs⟩
  | bool b => cases h; exact ⟨.bool _ b, hs⟩
  | number n =>
    cases h
    cases n with
    | none => exact ⟨.unreadable _, hs⟩
    | some n => exact ⟨.number _ ht, hs⟩
  | string s =>
    cases h
    cases s with
    | none => exact ⟨.unreadable _, hs⟩
    | some s => exact ⟨.string _ s, hs⟩
  | openArray => cases h; exact hs
  | openObject => cases h; exact hs
  | closeArray | closeObject | comma | colon => cases h

variable {stack : List Frame}

/-- An array is kept only if it stands inside fewer than `limit` others. -/
theorem sound_closeArray {items : List Tree}
    (h : ∀ t ∈ items, t.Sound limit (stack.length + 1)) (hs : StackSound limit stack) :
    (close limit (.array items) stack).Sound limit := by
  unfold close
  split
  · next room => exact ⟨.array room h, hs⟩
  · exact ⟨.unreadable _, hs⟩

theorem sound_closeObject {members : List (Option String × Tree)}
    (h : ∀ m ∈ members, m.2.Sound limit (stack.length + 1)) (hs : StackSound limit stack) :
    (close limit (.object members) stack).Sound limit := by
  unfold close
  split
  · next room => exact ⟨.object room h, hs⟩
  · exact ⟨.unreadable _, hs⟩

theorem sound_member {level : Nat} {key : Option String} {tree : Tree}
    {before : List (Option String × Tree)} (htree : tree.Sound limit level)
    (h : ∀ m ∈ before, m.2.Sound limit level) :
    ∀ m ∈ (key, tree) :: before, m.2.Sound limit level :=
  List.forall_mem_cons.2 ⟨htree, h⟩

/-- One step keeps what has been read sound. -/
theorem sound_step {p p' : Progress} {t : Token} (h : step limit p t = some p')
    (hp : p.Sound limit) (ht : t.Sound) : p'.Sound limit := by
  unfold step at h
  -- the cases are the lines of `step` in their order, the last one for what may not follow
  split at h
  case h_1 => cases h; exact sound_closeArray (by simp) hp
  case h_2 => exact sound_openValue h ⟨by simp [Frame.Sound], hp⟩ ht
  case h_3 => exact sound_openValue h hp ht
  case h_4 => cases h; exact sound_closeObject (by simp) hp
  case h_5 => cases h; exact ⟨by simp, hp⟩
  case h_6 => cases h; exact hp
  case h_7 => cases h; exact hp
  case h_8 =>
    cases h
    exact ⟨List.forall_mem_cons.2 ⟨hp.1, hp.2.1⟩, hp.2.2⟩
  case h_9 =>
    cases h
    refine sound_closeArray ?_ hp.2.2
    intro tree htree
    exact List.forall_mem_cons.2 ⟨hp.1, hp.2.1⟩ tree (List.mem_reverse.1 htree)
  case h_10 =>
    cases h
    exact ⟨sound_member hp.1 hp.2.1, hp.2.2⟩
  case h_11 =>
    cases h
    refine sound_closeObject ?_ hp.2.2
    intro m hm
    exact sound_member hp.1 hp.2.1 m (List.mem_reverse.1 hm)
  case h_12 => cases h

/-- So does a run. -/
theorem sound_run {p p' : Progress} {ts : List Token} (h : run limit p ts = some p')
    (hp : p.Sound limit) (hts : ∀ t ∈ ts, t.Sound) : p'.Sound limit := by
  induction ts generalizing p with
  | nil =>
    cases h
    exact hp
  | cons t ts ih =>
    obtain ⟨ht, hts⟩ := List.forall_mem_cons.1 hts
    cases hstep : step limit p t with
    | none =>
      rw [run, List.foldlM_cons, hstep] at h
      cases h
    | some next =>
      rw [run_cons hstep] at h
      exact ih h (sound_step hstep hp ht) hts

end Progress

theorem Tree.sound_ofText? {limit : Nat} {text : String} {tree : Tree}
    (h : Tree.ofText? limit text = some tree) : tree.Sound limit 0 := by
  obtain ⟨ts, htokens, h⟩ := Option.bind_eq_some_iff.1 h
  unfold Tree.ofTokens? at h
  split at h
  · next hrun =>
    cases h
    exact (Progress.sound_run hrun trivial (Token.sound_ofText? htokens)).1
  · cases h

/-! ## Values -/

/-- Each result of a run over a list is the result of one of its items. -/
theorem exists_of_mem_mapM {α β : Type} {f : α → Option β} {xs : List α} {ys : List β}
    (h : xs.mapM f = some ys) : ∀ y ∈ ys, ∃ x ∈ xs, f x = some y := by
  induction xs generalizing ys with
  | nil =>
    cases h
    exact fun _ hy => by cases hy
  | cons x rest ih =>
    rw [List.mapM_cons] at h
    obtain ⟨first, hfirst, h⟩ := Option.bind_eq_some_iff.1 h
    obtain ⟨others, hothers, h⟩ := Option.bind_eq_some_iff.1 h
    cases h
    intro y hy
    rcases List.mem_cons.1 hy with rfl | hy
    · exact ⟨x, List.mem_cons_self, hfirst⟩
    · obtain ⟨w, hw, hread⟩ := ih hothers y hy
      exact ⟨w, List.mem_cons_of_mem _ hw, hread⟩

theorem itemsOfTrees?_eq_mapM (trees : List Tree) :
    itemsOfTrees? trees = trees.mapM Value.ofTree? := by
  induction trees with
  | nil => rfl
  | cons t rest ih => rw [itemsOfTrees?, ih, List.mapM_cons]

theorem exists_of_mem_itemsOfTrees? {trees : List Tree} {vs : List Value}
    (h : itemsOfTrees? trees = some vs) : ∀ v ∈ vs, ∃ t ∈ trees, Value.ofTree? t = some v :=
  exists_of_mem_mapM (itemsOfTrees?_eq_mapM trees ▸ h)

theorem pairsOfTrees?_eq_mapM (trees : List (Option String × Tree)) :
    pairsOfTrees? trees =
      trees.mapM fun m => m.1.bind fun k => (Value.ofTree? m.2).map (Prod.mk k) := by
  induction trees with
  | nil => rfl
  | cons m rest ih =>
    obtain ⟨_ | k, tree⟩ := m
    · rfl
    · rw [pairsOfTrees?, ih, List.mapM_cons]
      cases h : Value.ofTree? tree with
      | none => rfl
      | some v => rfl

theorem exists_of_mem_pairsOfTrees? {trees : List (Option String × Tree)} {pairs : Members}
    (h : pairsOfTrees? trees = some pairs) :
    ∀ p ∈ pairs, ∃ m ∈ trees, Value.ofTree? m.2 = some p.2 := by
  intro p hp
  obtain ⟨m, hm, hread⟩ := exists_of_mem_mapM (pairsOfTrees?_eq_mapM trees ▸ h) p hp
  obtain ⟨k, -, hread⟩ := Option.bind_eq_some_iff.1 hread
  obtain ⟨v, hv, rfl⟩ := Option.map_eq_some_iff.1 hread
  exact ⟨m, hm, hv⟩

/-- A value that may stand in a text, inside `level` arrays and objects. -/
structure Value.Readable (limit level : Nat) (v : Value) : Prop where
  wellFormed : v.WellFormed
  fits : v.Fits limit level

/-- A sound tree gives a value that may stand where the tree stands. -/
theorem Tree.Sound.readable {limit level : Nat} {tree : Tree} (h : tree.Sound limit level)
    {v : Value} (hv : Value.ofTree? tree = some v) : v.Readable limit level := by
  induction h generalizing v with
  | unreadable => cases hv
  | null => cases hv; exact ⟨.null, .null _⟩
  | bool _ b => cases hv; exact ⟨.bool b, .bool _ b⟩
  | number _ hn => cases hv; exact ⟨.number hn, .number _ _⟩
  | string _ s => cases hv; exact ⟨.string s, .string _ s⟩
  | @array level items room _ ih =>
    rw [Value.ofTree?] at hv
    obtain ⟨vs, hvs, rfl⟩ := Option.map_eq_some_iff.1 hv
    have hitems : ∀ v ∈ vs, v.Readable limit (level + 1) := by
      intro v hv
      obtain ⟨t, ht, htv⟩ := exists_of_mem_itemsOfTrees? hvs v hv
      exact ih t ht htv
    exact ⟨.array fun v hv => (hitems v hv).wellFormed,
      .array room fun v hv => (hitems v hv).fits⟩
  | @object level members room _ ih =>
    rw [Value.ofTree?] at hv
    obtain ⟨pairs, hpairs, rfl⟩ := Option.map_eq_some_iff.1 hv
    obtain ⟨hnodup, hmem⟩ := Members.ofPairs_sound pairs
    have hmembers : ∀ m ∈ Members.ofPairs pairs, m.2.Readable limit (level + 1) := by
      intro m hm
      obtain ⟨t, ht, htv⟩ := exists_of_mem_pairsOfTrees? hpairs m (hmem m hm)
      exact ih t ht htv
    exact ⟨.object hnodup fun m hm => (hmembers m hm).wellFormed,
      .object room fun m hm => (hmembers m hm).fits⟩

/-- The value of a text may stand in a text again. -/
theorem Value.readable_ofText? {limit : Nat} {text : String} {v : Value}
    (h : Value.ofText? limit text = some v) : v.Readable limit 0 := by
  obtain ⟨tree, htree, hv⟩ := Option.bind_eq_some_iff.1 h
  exact (Tree.sound_ofText? htree).readable hv

end FetchPlan.Json
