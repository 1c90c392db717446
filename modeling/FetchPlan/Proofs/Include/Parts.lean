import FetchPlan.Include.Token
import FetchPlan.Proofs.Text.Sides

/-!
# The parts of an include token

A token is read by its text alone: the head is what stands before the first `:`, the
relation what stands in the head before the first `,`. A directive is again the text of a
token, one without a mode, and reading it changes nothing.
-/

namespace FetchPlan.Include

open FetchPlan.Text

/-- The head of a token or directive: the text before its fields. -/
def headOf (text : String) : String := before ':' text

/-- The fields of a token or directive. -/
def fieldsOf (text : String) : Option String := after? ':' text

/-- The relation that a head names. -/
def relationOf (head : String) : String := before ',' head

/-- The mode that a head names, if it names one. -/
def modeOf (head : String) : Option String := after? ',' head

/-- A head with fields, as one text. -/
def withFields (head : String) (fields : Option String) : String :=
  Token.withPart head ":" fields

/-- The directive of a token's text. -/
def directiveOf (text : String) : String :=
  withFields (relationOf (headOf text)) (fieldsOf text)

/-! ## Reading a token -/

theorem ofString_eq (text : String) :
    Token.ofString text =
      ⟨relationOf (headOf text), modeOf (headOf text), fieldsOf text⟩ := by
  unfold Token.ofString
  simp only [splitFirst_eq]
  rfl

theorem toList_withPart (sep : Char) {separator : String} (hsep : separator.toList = [sep])
    (first : String) (second : Option String) :
    (Token.withPart first separator second).toList =
      uncut sep (first.toList, second.map String.toList) := by
  cases second with
  | none => rfl
  | some second => simp [Token.withPart, uncut, hsep]

@[simp] theorem head_ofString (text : String) : (Token.ofString text).head = headOf text := by
  rw [ofString_eq]
  apply String.toList_injective
  simp only [Token.head, relationOf, modeOf]
  rw [toList_withPart ',' rfl]
  exact uncut_sides ',' (headOf text)

@[simp] theorem directive_ofString (text : String) :
    (Token.ofString text).directive = directiveOf text := by
  rw [ofString_eq]
  rfl

@[simp] theorem mode_ofString (text : String) :
    (Token.ofString text).mode = modeOf (headOf text) := by
  rw [ofString_eq]

/-! ## Heads and relations -/

theorem colon_not_mem_headOf (text : String) : ':' ∉ (headOf text).toList :=
  not_mem_before ':' text

theorem comma_not_mem_relationOf (head : String) : ',' ∉ (relationOf head).toList :=
  not_mem_before ',' head

theorem colon_not_mem_relationOf {head : String} (h : ':' ∉ head.toList) :
    ':' ∉ (relationOf head).toList :=
  fun hmem => h (mem_of_mem_before hmem)

theorem colon_not_mem_modeOf {head mode : String} (h : ':' ∉ head.toList)
    (hmode : modeOf head = some mode) : ':' ∉ mode.toList :=
  fun hmem => h (mem_of_mem_after hmode hmem)

/-- A head names a mode exactly when it holds a comma. -/
theorem modeOf_eq_none_iff {head : String} : modeOf head = none ↔ ',' ∉ head.toList :=
  after?_eq_none_iff

/-- A head that names no mode is its own relation. -/
theorem relationOf_eq_self {head : String} (h : modeOf head = none) : relationOf head = head :=
  before_eq_self (modeOf_eq_none_iff.1 h)

/-! ## Texts that are put together -/

theorem headOf_withFields {head : String} (h : ':' ∉ head.toList) (fields : Option String) :
    headOf (withFields head fields) = head :=
  (sides_of_uncut h (toList_withPart ':' rfl head fields)).1

theorem fieldsOf_withFields {head : String} (h : ':' ∉ head.toList)
    (fields : Option String) : fieldsOf (withFields head fields) = fields :=
  (sides_of_uncut h (toList_withPart ':' rfl head fields)).2

/-- A text is its head and its fields. -/
theorem withFields_parts (text : String) : withFields (headOf text) (fieldsOf text) = text := by
  apply String.toList_injective
  rw [withFields, toList_withPart ':' rfl]
  exact uncut_sides ':' text

/-- A head with fields asks for its relation with these fields. -/
theorem directiveOf_withFields {head : String} (h : ':' ∉ head.toList)
    (fields : Option String) :
    directiveOf (withFields head fields) = withFields (relationOf head) fields := by
  rw [directiveOf, headOf_withFields h, fieldsOf_withFields h]

/-! ## Directives -/

@[simp] theorem headOf_directiveOf (text : String) :
    headOf (directiveOf text) = relationOf (headOf text) :=
  headOf_withFields (colon_not_mem_relationOf (colon_not_mem_headOf text)) _

/-- A text whose head names no mode is its own directive. -/
theorem directiveOf_eq_self {text : String} (h : modeOf (headOf text) = none) :
    directiveOf text = text := by
  rw [directiveOf, relationOf_eq_self h, withFields_parts]

end FetchPlan.Include
