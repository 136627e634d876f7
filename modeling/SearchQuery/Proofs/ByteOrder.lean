import Mathlib.Algebra.Group.Nat.Defs
import Mathlib.Data.List.Basic
import SearchQuery.Dict

/-!
# The order of names

Dictionaries list their names in the order of the code points. A name is also a sequence of bytes,
its UTF-8 encoding, and bytes have an order of their own. **The two orders are one**
(`lt_iff_utf8_lt`), so that the least of some names is the same name in both.

The reason is the first byte of a character: it says how many bytes follow, and a character with
more of them has the larger first byte. Among characters with as many bytes, the bytes are the
digits of the code point.
-/

namespace SearchQuery

/-- The bytes of a name. -/
def utf8 (name : String) : List UInt8 := name.toUTF8.data.toList

theorem utf8_eq_flatMap (name : String) :
    utf8 name = name.toList.flatMap String.utf8EncodeChar := by
  rw [utf8, String.toUTF8_eq_toByteArray, ← String.utf8Encode_toList, List.utf8Encode,
    List.toList_data_toByteArray]

/-! ## 1. One character -/

theorem ofNat_lt_ofNat {a b : Nat} (h : a < b) (hb : b < 256) : UInt8.ofNat a < UInt8.ofNat b := by
  rw [UInt8.lt_iff_toNat_lt, UInt8.toNat_ofNat', UInt8.toNat_ofNat', Nat.mod_eq_of_lt hb,
    Nat.mod_eq_of_lt (Nat.lt_trans h hb)]
  exact h

/-- The last bytes of a code point, each of them a digit to the base 64 with a mark. -/
def lastBytes : (count : Nat) → Nat → List UInt8
  | 0, _ => []
  | count + 1, v => UInt8.ofNat (v / 64 ^ count % 64 + 128) :: lastBytes count v

/-- How many bytes follow the first one. -/
def followers (v : Nat) : Nat :=
  if v ≤ 127 then 0 else if v ≤ 2047 then 1 else if v ≤ 65535 then 2 else 3

/-- What the first byte is marked with, so that it says how many follow. -/
def firstMark : Nat → Nat
  | 0 => 0
  | 1 => 192
  | 2 => 224
  | _ => 240

/-- The first byte: the leading digits of the code point, marked. -/
def firstByte (v : Nat) : Nat := v / 64 ^ followers v + firstMark (followers v)

theorem toNat_val_lt (c : Char) : c.val.toNat < 1114112 := by
  show c.toNat < 1114112
  rcases c.valid with h | h
  · have : c.toNat < 55296 := h
    omega
  · exact h.2

theorem utf8EncodeChar_eq (c : Char) :
    String.utf8EncodeChar c =
      UInt8.ofNat (firstByte c.val.toNat) :: lastBytes (followers c.val.toNat) c.val.toNat := by
  have hc := toNat_val_lt c
  unfold String.utf8EncodeChar firstByte followers
  generalize c.val.toNat = v at hc
  dsimp only
  split
  · simp [lastBytes, firstMark]
  · split
    · have : v / 64 < 32 := by omega
      simp [lastBytes, firstMark, Nat.mod_eq_of_lt this]
    · split
      · have : v / 4096 < 16 := by omega
        simp [lastBytes, firstMark, Nat.mod_eq_of_lt this]
      · have : v / 262144 < 8 := by omega
        simp [lastBytes, firstMark, Nat.mod_eq_of_lt this]

/-- Code points with the same leading digits compare as their last bytes do. -/
theorem lastBytes_lt {v w : Nat} (h : v < w) (as bs : List UInt8) :
    ∀ count, v / 64 ^ count = w / 64 ^ count →
      lastBytes count v ++ as < lastBytes count w ++ bs
  | 0, heq => by
      rw [Nat.pow_zero, Nat.div_one, Nat.div_one] at heq
      omega
  | count + 1, heq => by
      rw [Nat.pow_succ, ← Nat.div_div_eq_div_mul, ← Nat.div_div_eq_div_mul] at heq
      rw [lastBytes, lastBytes, List.cons_append, List.cons_append, List.cons_lt_cons_iff]
      rcases Nat.lt_or_eq_of_le (Nat.div_le_div_right (c := 64 ^ count) (Nat.le_of_lt h)) with
        hlt | hsame
      · exact .inl (ofNat_lt_ofNat (by omega) (by omega))
      · exact .inr ⟨by rw [hsame], lastBytes_lt h as bs count hsame⟩

/-- The larger code point has the larger first byte, or they have the same leading digits. -/
theorem firstByte_lt_or {v w : Nat} (h : v < w) (hw : w < 1114112) :
    firstByte v < firstByte w ∨
      followers v = followers w ∧ v / 64 ^ followers v = w / 64 ^ followers w := by
  by_cases hcount : followers v = followers w
  · have hle := Nat.div_le_div_right (c := 64 ^ followers w) (Nat.le_of_lt h)
    rw [firstByte, firstByte, hcount]
    rcases Nat.lt_or_eq_of_le hle with hlt | hsame
    · exact .inl (Nat.add_lt_add_right hlt _)
    · exact .inr ⟨rfl, hsame⟩
  · -- the mark alone decides
    refine .inl ?_
    unfold firstByte followers at *
    split_ifs at hcount ⊢ <;>
      simp only [firstMark, Nat.pow_zero, Nat.reducePow, Nat.div_one] <;> omega

theorem firstByte_lt {v : Nat} (hv : v < 1114112) : firstByte v < 256 := by
  unfold firstByte followers
  split_ifs <;> simp only [firstMark, Nat.pow_zero, Nat.reducePow, Nat.div_one] <;> omega

/-- **The smaller character has the smaller bytes**, whatever comes after the two. -/
theorem utf8EncodeChar_lt {c d : Char} (h : c < d) (as bs : List UInt8) :
    String.utf8EncodeChar c ++ as < String.utf8EncodeChar d ++ bs := by
  have hcd : c.val.toNat < d.val.toNat := h
  have hd := toNat_val_lt d
  rw [utf8EncodeChar_eq, utf8EncodeChar_eq, List.cons_append, List.cons_append,
    List.cons_lt_cons_iff]
  rcases firstByte_lt_or hcd hd with hlt | ⟨hcount, hdigits⟩
  · exact .inl (ofNat_lt_ofNat hlt (firstByte_lt hd))
  · refine .inr ⟨by rw [firstByte, firstByte, hcount, ← hdigits, hcount], ?_⟩
    rw [hcount] at hdigits ⊢
    exact lastBytes_lt hcd as bs _ hdigits

/-! ## 2. Names -/

theorem flatMap_utf8EncodeChar_lt : ∀ {cs ds : List Char}, cs < ds →
    cs.flatMap String.utf8EncodeChar < ds.flatMap String.utf8EncodeChar
  | [], [], h => absurd h (List.lt_irrefl _)
  | [], d :: ds, _ => by
      rw [List.flatMap_nil, List.flatMap_cons, utf8EncodeChar_eq]
      exact List.nil_lt_cons _ _
  | _ :: _, [], h => absurd h (List.not_lt_nil _)
  | c :: cs, d :: ds, h => by
      rw [List.flatMap_cons, List.flatMap_cons]
      rcases List.cons_lt_cons_iff.1 h with hlt | ⟨rfl, hrest⟩
      · exact utf8EncodeChar_lt hlt _ _
      · exact List.append_left_lt (flatMap_utf8EncodeChar_lt hrest)

/-- **Names are in the order of their bytes.** -/
theorem lt_iff_utf8_lt {a b : String} : a < b ↔ utf8 a < utf8 b := by
  have hmono : ∀ {a b : String}, a < b → utf8 a < utf8 b := by
    intro a b h
    rw [utf8_eq_flatMap, utf8_eq_flatMap]
    exact flatMap_utf8EncodeChar_lt h
  refine ⟨hmono, fun h => ?_⟩
  by_cases hba : b < a
  · exact absurd (hmono hba) (List.lt_asymm h)
  · by_cases hab : a < b
    · exact hab
    · rw [key_eq_of_not_lt hab hba] at h
      exact absurd h (List.lt_irrefl _)

end SearchQuery
