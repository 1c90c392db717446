import FetchPlan.Json.Pointer
import FetchPlan.Proofs.Json.Digits

/-!
# Pointers as texts

The text of a pointer is read on its own: cut at its slashes into reference tokens, each of
them unescaped, and followed from the document inwards. In an object a token is a key, in
an array it is a position. Following the text of a pointer leads to the part that the
pointer leads to, whatever its keys hold.
-/

namespace FetchPlan.Json.Pointer

/-! ## Reading the text of a pointer -/

/-- The key that a reference token stands for. After `~` there is `0` or `1`. -/
def unescape? : List Char → Option (List Char)
  | [] => some []
  | '~' :: '0' :: rest => (unescape? rest).map ('~' :: ·)
  | '~' :: '1' :: rest => (unescape? rest).map ('/' :: ·)
  | '~' :: _ => none
  | c :: rest => (unescape? rest).map (c :: ·)

/-- The reference tokens of a pointer text: none for the document, else one after each
slash. -/
def referenceTokens? (text : String) : Option (List (List Char)) :=
  match text.toList with
  | [] => some []
  | '/' :: rest => (rest.splitOn '/').mapM unescape?
  | _ => none

/-- The position that a reference token stands for: digits without a zero in front. -/
def position? (token : List Char) : Option Nat :=
  if token ≠ [] ∧ token.all Char.isDigit ∧ (token.head? = some '0' → token = ['0']) then
    some (digitsValue token)
  else none

/-- The part of a value that a reference token stands for. -/
def refer (v : Value) (token : List Char) : Option Value :=
  match v with
  | .object members => Members.get? members (String.ofList token)
  | .array items => (position? token).bind (items[·]?)
  | _ => none

/-- The part of a document that a pointer text leads to. -/
def find? (text : String) (document : Value) : Option Value :=
  (referenceTokens? text).bind (·.foldlM refer document)

/-! ## Escaped keys -/

theorem unescape?_cons {c : Char} (h : c ≠ '~') (rest : List Char) :
    unescape? (c :: rest) = (unescape? rest).map (c :: ·) := by
  rw [unescape?]
  all_goals simp_all

theorem unescape?_escape (key : List Char) : unescape? (key.flatMap escape) = some key := by
  induction key with
  | nil => rfl
  | cons c rest ih =>
    rw [List.flatMap_cons]
    by_cases htilde : c = '~'
    · subst htilde
      show (unescape? (rest.flatMap escape)).map _ = _
      rw [ih]
      rfl
    by_cases hslash : c = '/'
    · subst hslash
      show (unescape? (rest.flatMap escape)).map _ = _
      rw [ih]
      rfl
    · have hc : escape c = [c] := by rw [escape, if_neg htilde, if_neg hslash]
      rw [hc, List.singleton_append, unescape?_cons htilde, ih]
      rfl

theorem slash_not_mem_escape (key : List Char) : '/' ∉ key.flatMap escape := by
  intro h
  obtain ⟨c, -, hc⟩ := List.mem_flatMap.1 h
  unfold escape at hc
  split at hc
  · simp at hc
  · split at hc
    · simp at hc
    · next hslash => exact hslash (List.mem_singleton.1 hc).symm

/-! ## Digits as reference tokens -/

/-- A character that has no meaning in a pointer text. -/
theorem unescape?_eq_self {token : List Char} (h : '~' ∉ token) :
    unescape? token = some token := by
  induction token with
  | nil => rfl
  | cons c rest ih =>
    rw [List.mem_cons, not_or] at h
    rw [unescape?_cons (Ne.symm h.1), ih h.2]
    rfl

theorem position?_digits (n : Nat) : position? (Decimal.digits n) = some n := by
  have hdigits : (Decimal.digits n).all Char.isDigit := by
    rw [List.all_eq_true]
    exact fun c hc => isDigit_of_mem_digits hc
  have hzero : (Decimal.digits n).head? = some '0' → Decimal.digits n = ['0'] := by
    intro h
    rw [eq_zero_of_head?_digits h]
    rfl
  unfold position?
  rw [if_pos ⟨digits_ne_nil n, hdigits, hzero⟩, digitsValue_digits]

/-! ## The text of a pointer -/

namespace Step

/-- The reference token of a step. -/
def token : Step → List Char
  | .key name => name.toList
  | .index position => Decimal.digits position

theorem unescape?_text (s : Step) : unescape? s.text = some s.token := by
  cases s with
  | key name => exact unescape?_escape name.toList
  | index position =>
    apply unescape?_eq_self
    intro h
    exact absurd (isDigit_of_mem_digits h) (by decide)

theorem slash_not_mem_text (s : Step) : '/' ∉ s.text := by
  cases s with
  | key name => exact slash_not_mem_escape name.toList
  | index position =>
    intro h
    exact absurd (isDigit_of_mem_digits h) (by decide)

theorem refer_token {s : Step} {v w : Value} (h : s.follow v = some w) :
    refer v s.token = some w := by
  cases s with
  | key name =>
    cases v with
    | object members =>
      rw [token, refer, String.ofList_toList]
      exact h
    | null | bool | number | string | array => cases h
  | index position =>
    cases v with
    | array items =>
      rw [token, refer, position?_digits]
      exact h
    | null | bool | number | string | object => cases h

end Step

/-- Cutting the text of steps at its slashes gives the texts of the steps. -/
theorem splitOn_text (s : Step) (p : Pointer) :
    (s.text ++ p.flatMap fun s => '/' :: s.text).splitOn '/' = (s :: p).map Step.text := by
  induction p generalizing s with
  | nil =>
    rw [List.flatMap_nil, List.append_nil]
    exact List.splitOn_eq_singleton s.slash_not_mem_text
  | cons t p ih =>
    rw [List.flatMap_cons, List.cons_append,
      List.splitOn_append_cons_self_of_not_mem s.slash_not_mem_text, ih t]
    rfl

theorem mapM_unescape?_text (p : Pointer) :
    (p.map Step.text).mapM unescape? = some (p.map Step.token) := by
  induction p with
  | nil => rfl
  | cons s p ih =>
    rw [List.map_cons, List.mapM_cons, s.unescape?_text, ih]
    rfl

theorem referenceTokens?_text (p : Pointer) :
    referenceTokens? p.text = some (p.map Step.token) := by
  cases p with
  | nil => rfl
  | cons s p =>
    unfold referenceTokens? Pointer.text
    rw [String.toList_ofList, List.flatMap_cons, List.cons_append]
    simp only [splitOn_text]
    exact mapM_unescape?_text (s :: p)

/-- **Texts of pointers.** The text of a pointer leads to the part that the pointer leads
to. -/
theorem find?_text {p : Pointer} {document part : Value}
    (h : p.resolve? document = some part) : find? p.text document = some part := by
  unfold find?
  rw [referenceTokens?_text]
  induction p generalizing document with
  | nil => exact h
  | cons s p ih =>
    obtain ⟨v, hv, hrest⟩ := Option.bind_eq_some_iff.1 h
    rw [List.map_cons, Option.bind_some, List.foldlM_cons, Step.refer_token hv]
    exact ih hrest

end FetchPlan.Json.Pointer
