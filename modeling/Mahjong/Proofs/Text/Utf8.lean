/-!
This module contains the proof that the order of texts by code points is the order of their UTF-8
bytes.
-/

namespace Mahjong.Text

def utf8Bytes (text : String) : List UInt8 :=
  text.toUTF8.data.toList

theorem utf8Bytes_eq (text : String)
    : utf8Bytes text = text.toList.flatMap String.utf8EncodeChar := by
  have htext : text.toUTF8 = (text.toList.flatMap String.utf8EncodeChar).toByteArray := by
    have := String.toByteArray_ofList (l := text.toList)
    rw [String.ofList_toList] at this
    exact this
  unfold utf8Bytes
  rw [htext, List.data_toByteArray]

theorem utf8EncodeChar_append_lt {c d : Char} (h : c < d) (rest others : List UInt8)
    : String.utf8EncodeChar c ++ rest < String.utf8EncodeChar d ++ others := by
  have hlt : c.toNat < d.toNat := h
  have hvalid : d.toNat < 0x110000 := by
    have : d.toNat < 0xD800 ∨ 0xDFFF < d.toNat ∧ d.toNat < 0x110000 := d.valid
    omega
  have hc : c.val.toNat = c.toNat := by rfl
  have hd : d.val.toNat = d.toNat := by rfl
  unfold String.utf8EncodeChar
  rw [hc, hd]
  generalize c.toNat = m at *
  generalize d.toNat = n at *
  have hbyte : ∀ a b : Nat, UInt8.ofNat a < UInt8.ofNat b ↔ a % 256 < b % 256 := by
    intro a b
    rw [UInt8.lt_iff_toNat_lt, UInt8.toNat_ofNat', UInt8.toNat_ofNat']
  have hbyte' : ∀ a b : Nat, UInt8.ofNat a = UInt8.ofNat b ↔ a % 256 = b % 256 := by
    intro a b
    rw [← UInt8.toNat_inj, UInt8.toNat_ofNat', UInt8.toNat_ofNat']
  have hlater : ∀ a, (a % 64 + 128) % 256 = a % 64 + 128 := by
    omega
  have hfirst : ∀ a, (a % 8 + 240) % 256 = a % 8 + 240 := by
    omega
  -- Divided step by step, the quotients of one number are linear in each other.
  have htwice : ∀ a, a / 4096 = a / 64 / 64 := by
    omega
  have hthrice : ∀ a, a / 262144 = a / 64 / 64 / 64 := by
    omega
  dsimp only
  repeat' split
  all_goals
    simp only [List.cons_append, List.nil_append, List.cons_lt_cons_iff, hbyte, hbyte', hlater,
      hfirst, htwice, hthrice]
    omega

theorem utf8Bytes_lt {a b : String} (h : a < b) : utf8Bytes a < utf8Bytes b := by
  have hchars : ∀ cs ds : List Char, cs < ds →
      cs.flatMap String.utf8EncodeChar < ds.flatMap String.utf8EncodeChar := by
    intro cs ds hlt
    induction hlt with
    | @nil d ds =>
      rw [List.flatMap_nil, List.flatMap_cons]
      cases hbytes : String.utf8EncodeChar d with
      | nil =>
        have := String.length_utf8EncodeChar d
        have := d.utf8Size_pos
        simp [hbytes] at *
        omega
      | cons b bytes => exact List.nil_lt_cons _ _
    | rel h => exact utf8EncodeChar_append_lt h _ _
    | cons _ ih => exact List.append_left_lt ih
  rw [utf8Bytes_eq, utf8Bytes_eq]
  exact hchars _ _ (String.lt_iff.1 h)

end Mahjong.Text
