import FetchPlan.Proofs.Include.Parts
import Mathlib.Data.Set.Function

/-!
# Tokens for texts

Every text is cut into the parts of one token, and only of one: in its relation there is
neither `:` nor `,`, and in its mode there is no `:`. Modes may hold commas, fields may
hold anything, and any part may be empty, which is not the same as left out. So texts and
such tokens stand for each other, and a directive is the text of its token without the
mode.
-/

namespace FetchPlan.Include

open FetchPlan.Text

namespace Token

/-- No mark stands in a part that it would end. -/
structure Separated (t : Token) : Prop where
  relation_colon : ':' ∉ t.relation.toList
  relation_comma : ',' ∉ t.relation.toList
  mode_colon : ∀ mode ∈ t.mode, ':' ∉ mode.toList

/-- The token without its mode. -/
def withoutMode (t : Token) : Token := ⟨t.relation, none, t.fields⟩

theorem text_withoutMode (t : Token) : t.withoutMode.text = t.directive := rfl

namespace Separated

variable {t : Token}

theorem head_colon (h : t.Separated) : ':' ∉ t.head.toList := by
  rw [head, toList_withPart ',' rfl]
  cases hmode : t.mode with
  | none => exact h.relation_colon
  | some mode =>
    have hcolon := h.mode_colon mode hmode
    simpa [uncut] using ⟨h.relation_colon, hcolon⟩

theorem withoutMode (h : t.Separated) : t.withoutMode.Separated :=
  ⟨h.relation_colon, h.relation_comma, nofun⟩

end Separated

/-! ## From texts to tokens and back -/

theorem text_ofString (text : String) : (ofString text).text = text := by
  rw [Token.text, head_ofString, ofString_eq]
  exact withFields_parts text

theorem separated_ofString (text : String) : (ofString text).Separated := by
  have hcolon := colon_not_mem_headOf text
  refine ⟨?_, ?_, ?_⟩
  · rw [ofString_eq]
    exact colon_not_mem_relationOf hcolon
  · rw [ofString_eq]
    exact comma_not_mem_relationOf (headOf text)
  · rw [mode_ofString]
    intro mode hmode
    exact colon_not_mem_modeOf hcolon (Option.mem_def.1 hmode)

/-- The parts of a token that is written are found again. -/
theorem ofString_text {t : Token} (h : t.Separated) : ofString t.text = t := by
  have hhead : headOf t.text = t.head := headOf_withFields h.head_colon t.fields
  have hfields : fieldsOf t.text = t.fields := fieldsOf_withFields h.head_colon t.fields
  obtain ⟨hrelation, hmode⟩ : relationOf t.head = t.relation ∧ modeOf t.head = t.mode :=
    sides_of_uncut h.relation_comma (toList_withPart ',' rfl t.relation t.mode)
  rw [ofString_eq, hhead, hfields, hrelation, hmode]

theorem bijOn_ofString : Set.BijOn ofString Set.univ {t | t.Separated} := by
  have hinverse : Set.InvOn text ofString Set.univ {t | t.Separated} :=
    ⟨fun s _ => text_ofString s, fun _ h => ofString_text h⟩
  exact hinverse.bijOn (fun s _ => separated_ofString s) (fun _ _ => Set.mem_univ _)

/-- A directive is read as its token without the mode. -/
theorem ofString_directive (text : String) :
    ofString (ofString text).directive = (ofString text).withoutMode := by
  rw [← text_withoutMode, ofString_text (separated_ofString text).withoutMode]

/-- **Tokens and texts.** Nothing of a text is lost in its token, each part ends at its
mark, and the parts of any token whose marks are in no other place are found again in its
text. So reading is one to one onto these tokens. The directive of a token names its
relation and fields and no mode, and it is its own directive. -/
theorem ofString_bijective_parts :
    (∀ text : String,
      text = withPart (ofString text).head ":" (ofString text).fields ∧
        (ofString text).head = (splitFirst ':' text).1 ∧
        (ofString text).head = withPart (ofString text).relation "," (ofString text).mode ∧
        ':' ∉ (ofString text).head.toList ∧ ':' ∉ (ofString text).relation.toList ∧
        ',' ∉ (ofString text).relation.toList) ∧
      (∀ (relation : String) (mode fields : Option String),
        ':' ∉ relation.toList → ',' ∉ relation.toList → (∀ m ∈ mode, ':' ∉ m.toList) →
          ofString (withPart (withPart relation "," mode) ":" fields) =
            ⟨relation, mode, fields⟩) ∧
      Set.BijOn ofString Set.univ {t | t.Separated} ∧
      ∀ text : String,
        ofString (ofString text).directive =
            ⟨(ofString text).relation, none, (ofString text).fields⟩ ∧
          (ofString (ofString text).directive).head = (ofString text).relation ∧
          (ofString (ofString text).directive).directive = (ofString text).directive := by
  refine ⟨?_, ?_, bijOn_ofString, ?_⟩
  · intro text
    have hseparated := separated_ofString text
    refine ⟨(text_ofString text).symm, ?_, rfl, hseparated.head_colon,
      hseparated.relation_colon, hseparated.relation_comma⟩
    rw [head_ofString, splitFirst_eq]
    rfl
  · intro relation mode fields hcolon hcomma hmode
    have hseparated : Separated ⟨relation, mode, fields⟩ := ⟨hcolon, hcomma, hmode⟩
    exact (ofString_text hseparated :)
  · intro text
    rw [ofString_directive]
    -- what is left holds of every token
    generalize ofString text = t
    exact ⟨rfl, rfl, rfl⟩

/-- Commas in the mode, a colon in the fields; and parts that are empty but not left out. -/
theorem ofString_bijective_parts_marked :
    (':' ∉ "a".toList ∧ ',' ∉ "a".toList ∧ ∀ m ∈ some "b,c", ':' ∉ m.toList) ∧
      ofString "a,b,c:x:y" = ⟨"a", some "b,c", some "x:y"⟩ ∧
      (':' ∉ "".toList ∧ ',' ∉ "".toList ∧ ∀ m ∈ some "", ':' ∉ m.toList) ∧
      ofString ",:" = ⟨"", some "", some ""⟩ := by
  have hmarked : ':' ∉ "a".toList ∧ ',' ∉ "a".toList ∧ ∀ m ∈ some "b,c", ':' ∉ m.toList := by
    decide
  have hempty : ':' ∉ "".toList ∧ ',' ∉ "".toList ∧ ∀ m ∈ some "", ':' ∉ m.toList := by
    decide
  have hjoined : "a,b,c:x:y" = withPart (withPart "a" "," (some "b,c")) ":" (some "x:y") := by
    simp [withPart]
  have hmarks : ",:" = withPart (withPart "" "," (some "")) ":" (some "") := by
    simp [withPart]
  refine ⟨hmarked, ?_, hempty, ?_⟩
  · rw [hjoined]
    exact ofString_bijective_parts.2.1 "a" _ _ hmarked.1 hmarked.2.1 hmarked.2.2
  · rw [hmarks]
    exact ofString_bijective_parts.2.1 "" _ _ hempty.1 hempty.2.1 hempty.2.2

end Token

end FetchPlan.Include
