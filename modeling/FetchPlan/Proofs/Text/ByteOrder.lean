import Mathlib.Algebra.Group.Nat.Defs
import Mathlib.Data.List.Basic

/-!
# The order of texts by their bytes

Texts are compared character by character. In UTF-8 this is the order of their bytes: a
greater code point has a greater first byte, or the same first byte and the greater bytes
after it, and no code point ends where another one goes on.
-/

namespace FetchPlan.Text

/-- The bytes of a text in UTF-8. -/
def bytes (s : String) : List UInt8 := s.toUTF8.data.toList

/-! ## The bytes of a code point -/

/-- How many bytes follow the first one. -/
def followers (n : Nat) : Nat :=
  if n ≤ 0x7f then 0 else if n ≤ 0x7ff then 1 else if n ≤ 0xffff then 2 else 3

/-- What the first byte says about the number of the others. -/
def mark : Nat → Nat
  | 0 => 0
  | 1 => 0xc0
  | 2 => 0xe0
  | _ => 0xf0

/-- The first byte: its mark, and what the others leave of the code point. -/
def leader (n : Nat) : Nat := n / 64 ^ followers n + mark (followers n)

/-- The bytes that carry the last `6 * k` bits. -/
def trailers (n : Nat) : Nat → List UInt8
  | 0 => []
  | k + 1 => .ofNat (n / 64 ^ k % 64 + 0x80) :: trailers n k

/-- There are no greater code points than this. -/
theorem toNat_le (c : Char) : c.toNat ≤ 0x10ffff := by
  have hvalid : c.toNat.isValidChar := c.valid
  rcases hvalid with h | h <;> omega

theorem encode_eq (c : Char) :
    String.utf8EncodeChar c =
      .ofNat (leader c.toNat) :: trailers c.toNat (followers c.toNat) := by
  have hle := toNat_le c
  have hval : c.val.toNat = c.toNat := rfl
  simp only [String.utf8EncodeChar, hval, leader, followers]
  -- in each of the four ranges the first byte holds all that is left, so nothing is cut off
  split
  · simp [mark, trailers]
  · split
    · have : c.toNat / 64 % 32 = c.toNat / 64 := by omega
      simp [mark, trailers, this]
    · split
      · have : c.toNat / 4096 % 16 = c.toNat / 4096 := by omega
        simp [mark, trailers, this]
      · have : c.toNat / 262144 % 8 = c.toNat / 262144 := by omega
        simp [mark, trailers, this]

theorem ofNat_lt_ofNat {a b : Nat} (hb : b < 256) (h : a < b) : UInt8.ofNat a < UInt8.ofNat b := by
  rw [UInt8.lt_iff_toNat_lt, UInt8.toNat_ofNat', UInt8.toNat_ofNat']
  omega

/-- The first bytes are in order, or the first byte is the same and leaves the same. -/
theorem leader_lt_or {m n : Nat} (h : m < n) :
    leader m < leader n ∨
      followers m = followers n ∧ m / 64 ^ followers m = n / 64 ^ followers m := by
  unfold leader followers
  split_ifs <;> simp only [mark, true_and, false_and, or_false] <;> omega

theorem leader_lt {n : Nat} (h : n ≤ 0x10ffff) : leader n < 256 := by
  unfold leader followers
  split_ifs <;> simp only [mark] <;> omega

/-- Of two code points that differ in the last bits only, the smaller one has the smaller
bytes there, whatever follows. -/
theorem trailers_append_lt {m n : Nat} (h : m < n) (s t : List UInt8) :
    ∀ k, m / 64 ^ k = n / 64 ^ k → trailers m k ++ s < trailers n k ++ t := by
  intro k
  induction k with
  | zero =>
    intro heq
    rw [Nat.pow_zero, Nat.div_one, Nat.div_one] at heq
    exact absurd heq (Nat.ne_of_lt h)
  | succ k ih =>
    intro heq
    rw [Nat.pow_succ, ← Nat.div_div_eq_div_mul, ← Nat.div_div_eq_div_mul] at heq
    rw [trailers, trailers, List.cons_append, List.cons_append, List.cons_lt_cons_iff]
    -- the byte in front decides, or it is the same and the bytes after it do
    by_cases hsame : m / 64 ^ k = n / 64 ^ k
    · exact .inr ⟨by rw [hsame], ih hsame⟩
    · have hle : m / 64 ^ k ≤ n / 64 ^ k := Nat.div_le_div_right (Nat.le_of_lt h)
      exact .inl (ofNat_lt_ofNat (by omega) (by omega))

/-- The bytes of code points are in the order of the code points, whatever follows them. -/
theorem encode_append_lt {c d : Char} (h : c < d) (s t : List UInt8) :
    String.utf8EncodeChar c ++ s < String.utf8EncodeChar d ++ t := by
  have hlt : c.toNat < d.toNat := h
  rw [encode_eq, encode_eq, List.cons_append, List.cons_append, List.cons_lt_cons_iff]
  rcases leader_lt_or hlt with hleader | ⟨hfollowers, hrest⟩
  · exact .inl (ofNat_lt_ofNat (leader_lt (toNat_le d)) hleader)
  · refine .inr ⟨?_, ?_⟩
    · rw [leader, leader, ← hfollowers, hrest]
    · rw [← hfollowers]
      exact trailers_append_lt hlt s t _ hrest

/-! ## The bytes of a text -/

theorem bytes_ofList (cs : List Char) :
    bytes (String.ofList cs) = cs.flatMap String.utf8EncodeChar := by
  rw [bytes, String.toUTF8_eq_toByteArray, String.toByteArray_ofList]
  exact List.toList_data_toByteArray

theorem encodeAll_lt {cs ds : List Char} (h : cs < ds) :
    cs.flatMap String.utf8EncodeChar < ds.flatMap String.utf8EncodeChar := by
  induction h with
  | nil =>
    rw [List.flatMap_nil, List.flatMap_cons, encode_eq]
    exact List.nil_lt_cons _ _
  | rel hcd =>
    rw [List.flatMap_cons, List.flatMap_cons]
    exact encode_append_lt hcd _ _
  | cons htail ih =>
    rw [List.flatMap_cons, List.flatMap_cons]
    exact List.append_left_lt ih

/-- **Byte order.** Texts are in order exactly when their bytes are. -/
theorem bytes_lt_iff {s t : String} : bytes s < bytes t ↔ s < t := by
  have hmono : ∀ {s t : String}, s < t → bytes s < bytes t := by
    intro s t h
    rw [← String.ofList_toList (s := s), ← String.ofList_toList (s := t), bytes_ofList,
      bytes_ofList]
    exact encodeAll_lt (String.lt_iff.1 h)
  refine ⟨?_, hmono⟩
  intro h
  rcases Std.lt_trichotomy s t with hst | rfl | hts
  · exact hst
  · exact absurd h (List.lt_irrefl _)
  · exact absurd h (List.lt_asymm (hmono hts))

end FetchPlan.Text
