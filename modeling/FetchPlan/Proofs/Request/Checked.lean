/-!
# Checks that do not stop

A run stops at its first fault. A check does not stop: it collects the faults of all its
parts in order, and has a value when there are none. It agrees with a run that has the same
value and stops at the first of its faults. Putting checks together keeps this: parts that
do not need each other are checked side by side, and a part that needs the value of an
earlier one is left out when there is none.
-/

namespace FetchPlan

/-- What a check finds out. -/
structure Checked (ε α : Type) where
  value : Option α
  faults : List ε
deriving DecidableEq

namespace Checked

variable {ε ε' α β : Type}

/-- Independent parts are all checked, and their faults come one after the other. -/
instance : Applicative (Checked ε) where
  pure a := ⟨some a, []⟩
  map f v := ⟨v.value.map f, v.faults⟩
  seq f v := ⟨f.value.bind fun g => (v ()).value.map g, f.faults ++ (v ()).faults⟩

/-- A check that is made in one go. -/
def single : Except ε α → Checked ε α
  | .ok a => ⟨some a, []⟩
  | .error e => ⟨none, [e]⟩

/-- A check of the value that an earlier one gives. -/
def andThen (v : Checked ε α) (check : α → Checked ε β) : Checked ε β :=
  match v.value with
  | none => ⟨none, v.faults⟩
  | some a => ⟨(check a).value, v.faults ++ (check a).faults⟩

/-- The faults in the value that a check gives; none when it gives no value. -/
def need (v : Checked ε α) (faults : α → List ε') : List ε' :=
  match v.value with
  | none => []
  | some a => faults a

/-- The same check with its faults told in another way. -/
def mapFaults (f : ε → ε') (v : Checked ε α) : Checked ε' α := ⟨v.value, v.faults.map f⟩

theorem mem_need {v : Checked ε α} {faults : α → List ε'} {e : ε'} :
    e ∈ v.need faults ↔ ∃ a, v.value = some a ∧ e ∈ faults a := by
  unfold need
  cases v.value <;> simp

end Checked

/-! ## Where a run stops -/

/-- The fault that a run stops at. -/
def stop? {ε α : Type} : Except ε α → Option ε
  | .ok _ => none
  | .error e => some e

variable {ε ε' α β : Type}

theorem stop?_eq_none_iff {x : Except ε α} : stop? x = none ↔ ∃ a, x = .ok a := by
  cases x <;> simp [stop?]

theorem stop?_eq_some_iff {x : Except ε α} {e : ε} : stop? x = some e ↔ x = .error e := by
  cases x <;> simp [stop?]

theorem stop?_mapError (f : ε → ε') (x : Except ε α) :
    stop? (x.mapError f) = (stop? x).map f := by
  cases x <;> rfl

/-- **First fault.** If the first part of a run stops at the first of some faults, and the
rest, whenever it is reached, at the first of some others, then the whole run stops at the
first of them all. -/
theorem head?_append_eq_stop? {x : Except ε α} {rest : α → Except ε β} {es es' : List ε}
    (hfirst : es.head? = stop? x)
    (hrest : ∀ a, x = .ok a → es'.head? = stop? (rest a)) :
    (es ++ es').head? = stop? (x >>= rest) := by
  rw [List.head?_append, hfirst]
  cases x with
  | error e => rfl
  | ok a => exact hrest a rfl

/-! ## Agreement -/

/-- The check `v` has the value of the run `x`, or the fault that it stops at is its
first. -/
structure Agrees (x : Except ε α) (v : Checked ε α) : Prop where
  value : v.value = x.toOption
  first : v.faults.head? = stop? x

namespace Agrees

theorem single (x : Except ε α) : Agrees x (.single x) := by
  cases x with
  | error e => exact ⟨rfl, rfl⟩
  | ok a => exact ⟨rfl, rfl⟩

theorem pass (a : α) : Agrees (.ok a) (pure a : Checked ε α) := ⟨rfl, rfl⟩

theorem map {x : Except ε α} {v : Checked ε α} (h : Agrees x v) (f : α → β) :
    Agrees (f <$> x) (f <$> v) where
  value := by
    show v.value.map f = _
    rw [h.value]
    cases x <;> rfl
  first := by
    show v.faults.head? = _
    rw [h.first]
    cases x <;> rfl

/-- Two parts side by side. The run does not reach the second one when the first one
fails; the check goes on, but the first fault stays the first. -/
theorem seq {x : Except ε (α → β)} {y : Except ε α} {v : Checked ε (α → β)}
    {w : Checked ε α} (hx : Agrees x v) (hy : Agrees y w) : Agrees (x <*> y) (v <*> w) where
  value := by
    show (v.value.bind fun g => w.value.map g) = _
    rw [hx.value, hy.value]
    cases x <;> cases y <;> rfl
  first := by
    show (v.faults ++ w.faults).head? = stop? (x >>= fun f => f <$> y)
    refine head?_append_eq_stop? hx.first ?_
    intro f _
    exact (hy.map f).first

/-- One part after the other in the run, side by side in the check. -/
theorem both {γ : Type} {x : Except ε α} {y : Except ε β} {v : Checked ε α}
    {w : Checked ε β} (hx : Agrees x v) (hy : Agrees y w) (f : α → β → γ) :
    Agrees (do let a ← x; let b ← y; return f a b) (f <$> v <*> w) := by
  have hrun : (do let a ← x; let b ← y; return f a b) = f <$> x <*> y := by
    simp only [seq_eq_bind_map, map_eq_pure_bind, bind_assoc, pure_bind]
  rw [hrun]
  exact (hx.map f).seq hy

theorem andThen {x : Except ε α} {v : Checked ε α} {run : α → Except ε β}
    {check : α → Checked ε β} (h : Agrees x v) (hrun : ∀ a, Agrees (run a) (check a)) :
    Agrees (x >>= run) (v.andThen check) := by
  have hvalue := h.value
  have hfirst := h.first
  unfold Checked.andThen
  cases x with
  | error e =>
    rw [hvalue]
    exact ⟨rfl, hfirst⟩
  | ok a =>
    rw [hvalue]
    refine ⟨(hrun a).value, head?_append_eq_stop? hfirst ?_⟩
    intro b hb
    cases hb
    exact (hrun a).first

theorem mapFaults {x : Except ε α} {v : Checked ε α} (h : Agrees x v) (f : ε → ε') :
    Agrees (x.mapError f) (v.mapFaults f) where
  value := by
    show v.value = _
    rw [h.value]
    cases x <;> rfl
  first := by
    show (v.faults.map f).head? = _
    rw [List.head?_map, h.first, stop?_mapError]

/-- A check that gives a value has found no faults. -/
theorem faults_eq_nil {x : Except ε α} {v : Checked ε α} (h : Agrees x v) {a : α}
    (hv : v.value = some a) : v.faults = [] := by
  have hvalue := h.value
  have hfirst := h.first
  rw [hv] at hvalue
  cases x with
  | error e => cases hvalue
  | ok b => exact List.head?_eq_none_iff.1 hfirst

/-- When the run goes on, the check has its value for whatever needs it. -/
theorem need_eq {x : Except ε α} {v : Checked ε α} (h : Agrees x v) {a : α}
    (hx : x = .ok a) (faults : α → List ε') : v.need faults = faults a := by
  unfold Checked.need
  rw [h.value, hx]
  rfl

end Agrees

end FetchPlan
