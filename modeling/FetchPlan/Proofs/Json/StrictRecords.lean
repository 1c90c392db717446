import FetchPlan.Json.Record
import FetchPlan.Proofs.Json.RoundTrip

/-!
# Strict reading of what is written

A record that is written as an object under known keys is read with all its fields, and
each field is read from the tree of its value.
-/

namespace FetchPlan.Json

/-- The strict reader gives back what the writer writes. -/
def Tree.Restores {α : Type} (read : Tree → Option α) (write : α → Value) (x : α) : Prop :=
  read (write x).toTree = some x

theorem itemsToTrees_eq_map (vs : List Value) : itemsToTrees vs = vs.map Value.toTree := by
  induction vs with
  | nil => rfl
  | cons v rest ih => rw [itemsToTrees, ih, List.map_cons]

theorem membersToTrees_eq_map (ms : Members) :
    membersToTrees ms = ms.map fun m => (some m.1, m.2.toTree) := by
  induction ms with
  | nil => rfl
  | cons m rest ih => rw [membersToTrees, ih, List.map_cons]

namespace Tree

theorem mapM_eq_some_of_forall {α β γ : Type} {f : α → Option β} {g : γ → α} {h : γ → β}
    (xs : List γ) (hf : ∀ x ∈ xs, f (g x) = some (h x)) :
    (xs.map g).mapM f = some (xs.map h) := by
  induction xs with
  | nil => rfl
  | cons x xs ih =>
    obtain ⟨hx, hxs⟩ := List.forall_mem_cons.1 hf
    rw [List.map_cons, List.mapM_cons, hx, ih hxs]
    rfl

/-- A list is given back when its items are. -/
theorem restores_list {α : Type} {read : Tree → Option α} {write : α → Value} {xs : List α}
    (h : ∀ x ∈ xs, Restores read write x) :
    Restores (list? read) (fun xs => .array (xs.map write)) xs := by
  have hitems := mapM_eq_some_of_forall (g := fun x => (write x).toTree) (h := id) xs h
  rw [Restores, Value.toTree, itemsToTrees_eq_map, List.map_map]
  rw [List.map_id] at hitems
  exact hitems

theorem restores_strings (entries : List (String × String)) :
    Restores strings? (fun entries => .object (entries.map fun e => (e.1, .string e.2)))
      entries := by
  have hentries := mapM_eq_some_of_forall (h := id)
    (g := fun e => ((some e.1, Value.toTree (.string e.2)) : Option String × Tree))
    (f := fun m => do
      let k ← m.1
      let s ← m.2.string?
      return (k, s)) entries fun _ _ => rfl
  rw [Restores, Value.toTree, membersToTrees_eq_map, List.map_map]
  rw [List.map_id] at hentries
  exact hentries

/-- The fields of a record that are known, from the members of an object. -/
def known (names : List String) (ms : Members) : Fields :=
  (ms.filter (·.1 ∈ names)).map fun m => (m.1, m.2.toTree)

theorem lookup_known {names : List String} {name : String} (h : name ∈ names) (ms : Members) :
    (known names ms).lookup name = (ms.get? name).map Value.toTree := by
  induction ms with
  | nil => rfl
  | cons m rest ih =>
    obtain ⟨k, v⟩ := m
    by_cases hname : name = k
    · subst hname
      rw [known, List.filter_cons_of_pos (by simpa using h), Members.get?_cons_self]
      simp
    · rw [Members.get?_cons_of_ne hname, ← ih]
      by_cases hk : k ∈ names
      · rw [known, List.filter_cons_of_pos (by simpa using hk), List.map_cons,
          List.lookup_cons, beq_false_of_ne hname]
        rfl
      · rw [known, List.filter_cons_of_neg (by simpa using hk)]
        rfl

/-- Of an object with distinct keys the known fields are read. -/
theorem fields?_toTree (names : List String) {ms : Members} (hdistinct : ms.keys.Nodup) :
    fields? names (Value.object ms).toTree = some (known names ms) := by
  have hpairs := mapM_eq_some_of_forall
    (g := fun m => ((some m.1, m.2.toTree) : Option String × Tree))
    (h := fun m => (m.1, m.2.toTree))
    (f := fun m => m.1.map (·, m.2)) ms fun _ _ => rfl
  have hfilter : (ms.map fun m => (m.1, m.2.toTree)).filter (fun p => p.1 ∈ names) =
      known names ms := by
    rw [List.filter_map]
    rfl
  have hkeys : ((known names ms).map Prod.fst).Nodup := by
    rw [known, List.map_map]
    exact (List.filter_sublist.map Prod.fst).nodup hdistinct
  rw [Value.toTree, membersToTrees_eq_map]
  show (List.mapM _ _ >>= _) = _
  rw [hpairs]
  show ((if _ then pure () else failure : Option Unit) >>= fun _ => some _) = _
  rw [hfilter, if_pos hkeys]
  rfl

/-- All fields of a written record are known, so all of them are read. -/
theorem fields?_object {names : List String} {ms : Members} (hdistinct : ms.keys.Nodup)
    (hknown : ∀ k ∈ ms.keys, k ∈ names) :
    fields? names (Value.object ms).toTree = some (ms.map fun m => (m.1, m.2.toTree)) := by
  have hfilter : ms.filter (·.1 ∈ names) = ms := by
    rw [List.filter_eq_self]
    intro m hm
    simpa using hknown m.1 (List.mem_map_of_mem hm)
  rw [fields?_toTree names hdistinct, known, hfilter]

end Tree

end FetchPlan.Json
