import Mathlib.Data.List.Basic
import SqlDialects.Dictionary

namespace SqlDialects.Proofs.ByteOrder

open String (utf8EncodeChar)

/-- The octets of a string. -/
def octets (s : String) : List UInt8 :=
  s.toUTF8.data.toList

theorem octets_eq (s : String) : octets s = s.toList.flatMap utf8EncodeChar := by
  have hencode : s.toByteArray = s.toList.utf8Encode := by
    rw [← String.toByteArray_ofList, String.ofList_toList]
  rw [octets, String.toUTF8_eq_toByteArray, hencode, List.utf8Encode, List.toList_data_toByteArray]

theorem utf8EncodeChar_cases (c : Char) :
    (c.toNat ≤ 0x7f ∧ utf8EncodeChar c = [.ofNat c.toNat]) ∨
    ((0x7f < c.toNat ∧ c.toNat ≤ 0x7ff) ∧ utf8EncodeChar c =
      [.ofNat (c.toNat / 64 + 192), .ofNat (c.toNat % 64 + 128)]) ∨
    ((0x7ff < c.toNat ∧ c.toNat ≤ 0xffff) ∧ utf8EncodeChar c =
      [.ofNat (c.toNat / 64 / 64 + 224), .ofNat (c.toNat / 64 % 64 + 128),
        .ofNat (c.toNat % 64 + 128)]) ∨
    ((0xffff < c.toNat ∧ c.toNat ≤ 0x10ffff) ∧ utf8EncodeChar c =
      [.ofNat (c.toNat / 64 / 64 / 64 + 240), .ofNat (c.toNat / 64 / 64 % 64 + 128),
        .ofNat (c.toNat / 64 % 64 + 128), .ofNat (c.toNat % 64 + 128)]) := by
  have hbound : c.toNat ≤ 0x10ffff := by
    rcases c.valid with hvalid | ⟨-, hvalid⟩
    · exact Nat.le_trans (Nat.le_of_lt hvalid) (by decide)
    · exact Nat.le_of_lt_succ hvalid
  have hval : c.val.toNat = c.toNat := rfl
  have hsecond : c.toNat / 4096 = c.toNat / 64 / 64 := by omega
  have hthird : c.toNat / 262144 = c.toNat / 64 / 64 / 64 := by omega
  simp only [utf8EncodeChar, hval]
  split
  · exact .inl ⟨‹_›, rfl⟩
  · split
    · refine .inr (.inl ⟨by omega, ?_⟩)
      rw [Nat.mod_eq_of_lt (by omega)]
    · split
      · refine .inr (.inr (.inl ⟨by omega, ?_⟩))
        rw [Nat.mod_eq_of_lt (by omega), hsecond]
      · refine .inr (.inr (.inr ⟨by omega, ?_⟩))
        rw [Nat.mod_eq_of_lt (by omega), hthird, hsecond]

theorem utf8EncodeChar_append_lt {c d : Char} (h : c < d) (cs ds : List UInt8) :
    utf8EncodeChar c ++ cs < utf8EncodeChar d ++ ds := by
  have hcode : c.toNat < d.toNat := h
  rcases utf8EncodeChar_cases c with ⟨hc, hcs⟩ | ⟨hc, hcs⟩ | ⟨hc, hcs⟩ | ⟨hc, hcs⟩ <;>
  rcases utf8EncodeChar_cases d with ⟨hd, hds⟩ | ⟨hd, hds⟩ | ⟨hd, hds⟩ | ⟨hd, hds⟩ <;>
    simp only [hcs, hds, List.cons_append, List.nil_append, List.cons_lt_cons_iff,
      UInt8.lt_iff_toNat_lt, ← UInt8.toNat_inj, UInt8.toNat_ofNat'] <;>
  omega

theorem utf8EncodeChar_ne_nil (c : Char) : utf8EncodeChar c ≠ [] := by
  rcases utf8EncodeChar_cases c with ⟨-, h⟩ | ⟨-, h⟩ | ⟨-, h⟩ | ⟨-, h⟩ <;> simp [h]

theorem flatMap_utf8EncodeChar_lt {cs ds : List Char} (h : cs < ds) :
    cs.flatMap utf8EncodeChar < ds.flatMap utf8EncodeChar := by
  induction h with
  | @nil d ds =>
      obtain ⟨first, rest, hd⟩ := List.exists_cons_of_ne_nil (utf8EncodeChar_ne_nil d)
      rw [List.flatMap_nil, List.flatMap_cons, hd]
      exact List.nil_lt_cons first _
  | @rel c cs d ds hlt =>
      rw [List.flatMap_cons, List.flatMap_cons]
      exact utf8EncodeChar_append_lt hlt _ _
  | @cons c cs ds h ih =>
      rw [List.flatMap_cons, List.flatMap_cons]
      exact List.append_left_lt ih

theorem octets_lt {s t : String} (h : s < t) : octets s < octets t := by
  rw [octets_eq, octets_eq]
  exact flatMap_utf8EncodeChar_lt (String.lt_iff.mp h)

theorem octets_le_iff {s t : String} : octets s ≤ octets t ↔ s ≤ t := by
  constructor
  · intro h
    rw [← String.not_lt]
    intro hlt
    exact List.not_lt.mpr h (octets_lt hlt)
  · intro h
    by_cases hlt : s < t
    · exact List.le_of_lt (octets_lt hlt)
    · rw [String.le_antisymm h (String.not_lt.mp hlt)]
      exact List.le_refl _

end SqlDialects.Proofs.ByteOrder
