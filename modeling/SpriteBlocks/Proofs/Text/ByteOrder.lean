import SpriteBlocks.SortedMap
import Mathlib.Data.List.Basic
import Mathlib.Tactic.SplitIfs

/-!
# The order of names

Texts are ordered by their characters. That is also the order of their bytes in
UTF-8: at the first byte where two characters differ the lesser one has the
lesser byte, and no character begins with all bytes of another. So the keys of a
sorted map of texts stand in the order of their bytes.
-/
namespace SpriteBlocks.Text

def bytes (s : String) : List UInt8 := s.toUTF8.data.toList

theorem bytes_eq (s : String) : bytes s = s.toList.flatMap String.utf8EncodeChar := by
  rw [bytes, String.toUTF8_eq_toByteArray, ← String.utf8Encode_toList, List.utf8Encode,
    List.toList_data_toByteArray]

theorem ofNat_cons_lt_iff {m n : Nat} (hm : m < 256) (hn : n < 256) (r t : List UInt8) :
    UInt8.ofNat m :: r < UInt8.ofNat n :: t ↔ m < n ∨ m = n ∧ r < t := by
  rw [List.cons_lt_cons_iff, UInt8.lt_iff_toNat_lt, ← UInt8.toNat_inj, UInt8.toNat_ofNat',
    UInt8.toNat_ofNat', Nat.mod_eq_of_lt hm, Nat.mod_eq_of_lt hn]

/-- A lesser character has lesser bytes, whatever follows. -/
theorem utf8EncodeChar_append_lt {c d : Char} (h : c < d) (r t : List UInt8) :
    String.utf8EncodeChar c ++ r < String.utf8EncodeChar d ++ t := by
  have hlt : c.val.toNat < d.val.toNat := UInt32.lt_iff_toNat_lt.1 h
  have hmax : d.val.toNat < 0x110000 := by
    rcases d.valid with hd | ⟨-, hd⟩ <;> omega
  have hdigits (n : Nat) (hn : n < 0x110000) :
      n / 64 / 64 = n / 4096 ∧ n / 4096 / 64 = n / 262144 ∧ n / 262144 / 8 = 0 := by
    omega
  have hc := hdigits c.val.toNat (Nat.lt_trans hlt hmax)
  have hd := hdigits d.val.toNat hmax
  -- characters of different lengths differ in the first byte
  simp only [String.utf8EncodeChar]
  split_ifs <;>
    simp (disch := omega) only [List.cons_append, List.nil_append, ofNat_cons_lt_iff] <;> omega

theorem flatMap_utf8EncodeChar_lt : ∀ {l m : List Char}, l < m →
    l.flatMap String.utf8EncodeChar < m.flatMap String.utf8EncodeChar
  | [], [], h => absurd h (List.lt_irrefl _)
  | [], d :: m, _ => by
    rw [List.flatMap_cons]
    cases hd : String.utf8EncodeChar d with
    | nil => exact absurd hd String.utf8EncodeChar_ne_nil
    | cons x xs => exact List.nil_lt_cons _ _
  | c :: l, d :: m, h => by
    rw [List.flatMap_cons, List.flatMap_cons]
    rcases List.cons_lt_cons_iff.1 h with hlt | ⟨rfl, hlt⟩
    · exact utf8EncodeChar_append_lt hlt _ _
    · exact List.append_left_lt (flatMap_utf8EncodeChar_lt hlt)

/-- The keys of a sorted map of texts stand in the order of their bytes. -/
theorem pairwise_bytes_keys {ν : Type} (m : SortedMap String ν) :
    (m.entries.map fun e => bytes e.1).Pairwise (· < ·) := by
  refine List.pairwise_map.2 (m.increasing.imp fun h => ?_)
  rw [bytes_eq, bytes_eq]
  exact flatMap_utf8EncodeChar_lt (String.lt_iff.1 h)

end SpriteBlocks.Text
