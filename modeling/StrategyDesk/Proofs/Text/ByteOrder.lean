import Mathlib.Data.List.Lex
import StrategyDesk.Web.Percent

/-!
# The order of bytes

Texts are ordered by their characters, and so are their bytes in UTF-8: of two characters the
greater one has the greater byte where their bytes differ first.
-/

set_option autoImplicit false

namespace StrategyDesk.Web

theorem utf8_cons (c : Char) (text : Text) : utf8 (c :: text) = utf8 [c] ++ utf8 text := by
  simp [utf8]

theorem utf8_singleton (c : Char) :
    utf8 [c] =
      if c.toNat ≤ 0x7F then [c.toNat]
      else if c.toNat ≤ 0x7FF then [c.toNat / 64 + 192, c.toNat % 64 + 128]
      else if c.toNat ≤ 0xFFFF then
        [c.toNat / 4096 + 224, c.toNat / 64 % 64 + 128, c.toNat % 64 + 128]
      else
        [c.toNat / 262144 + 240, c.toNat / 4096 % 64 + 128, c.toNat / 64 % 64 + 128,
          c.toNat % 64 + 128] := by
  have limit : c.toNat < 0x110000 := by
    have valid := c.valid
    simp only [UInt32.isValidChar, Nat.isValidChar] at valid
    simp only [Char.toNat]
    omega
  simp only [utf8, List.flatMap_cons, List.flatMap_nil, List.append_nil, String.utf8EncodeChar]
  simp only [Char.toNat_val]
  split
  next => simp; omega
  next =>
    split
    next => simp; omega
    next => split <;> (simp; omega)

theorem utf8_ne_nil (c : Char) : utf8 [c] ≠ [] := by
  rw [utf8_singleton]
  split_ifs <;> simp

theorem utf8_lt_of_char_lt {c d : Char} (less : c.toNat < d.toNat) (rest rest' : List Nat) :
    utf8 [c] ++ rest < utf8 [d] ++ rest' := by
  rw [utf8_singleton, utf8_singleton]
  split_ifs <;> simp only [List.cons_append, List.cons_lt_cons_iff] <;> omega

theorem utf8_lt {text other : Text} (less : text < other) : utf8 text < utf8 other := by
  induction text generalizing other with
  | nil =>
      cases other with
      | nil => simp at less
      | cons d rest =>
          obtain ⟨byte, bytes, begins⟩ := List.exists_cons_of_ne_nil (utf8_ne_nil d)
          rw [utf8_cons, begins]
          exact List.nil_lt_cons _ _
  | cons c text ih =>
      cases other with
      | nil => simp at less
      | cons d rest =>
          rw [utf8_cons c, utf8_cons d]
          rcases List.cons_lt_cons_iff.mp less with first | ⟨rfl, later⟩
          · exact utf8_lt_of_char_lt first _ _
          · exact List.append_left_lt (ih later)

end StrategyDesk.Web
