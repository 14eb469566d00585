import CalleeSaved.Text.Utf8
import Mathlib.Algebra.Group.Nat.Defs

/-!
# Decoding what was encoded

The decoder is a machine that reads one byte at a time and replaces what it cannot complete.  This
module shows that it replaces nothing in the encoding of a text, and gives the text back.

**Continuation bytes.**  `continuation` is the tail of an encoding: the last digits of the code point
in base 64.  `decodeRest_continuation`: the machine puts the digits behind the bits that it has.

**First bytes.**  `exists_lead`: the first byte of a longer character announces its continuation
bytes, with an interval that the first of them lies in.

**Results.**
* `decode_encode`: decoding undoes encoding.
* `decodeFile_mark` and `decodeFile_encode`: a byte order mark at the start of a file is dropped, and
  nothing is dropped from the encoding of a text that does not start with one.
-/

namespace CalleeSaved
namespace Utf8

section ContinuationBytes

/-- The given number of continuation bytes at the end of the encoding of a code point. -/
def continuation : Nat → Nat → List UInt8
  | 0, _ => []
  | n + 1, code => UInt8.ofNat (code / 64 ^ n % 64 + 0x80) :: continuation n code

/-- A continuation byte in the interval adds its six bits. -/
theorem decodeRest_cons
    {pending : Pending}
    {digit : Nat}
    (hdigit : digit < 64)
    (hleast : pending.least ≤ digit + 0x80)
    (hmost : digit + 0x80 ≤ pending.most)
    (rest : List UInt8) :
    decodeRest pending (UInt8.ofNat (digit + 0x80) :: rest) =
      if pending.owed == 1 then Char.ofNat (pending.bits * 64 + digit) :: decode rest
      else decodeRest ⟨pending.bits * 64 + digit, pending.owed - 1, 0x80, 0xBF⟩ rest := by
  have hbyte : (UInt8.ofNat (digit + 0x80)).toNat = digit + 0x80 :=
    UInt8.toNat_ofNat_of_lt' (show _ < 256 by omega)
  have haccepts : pending.accepts (UInt8.ofNat (digit + 0x80)) = true := by
    rw [Pending.accepts, hbyte, Bool.and_eq_true, decide_eq_true_eq, decide_eq_true_eq]
    exact ⟨hleast, hmost⟩
  have hpush : pending.push (UInt8.ofNat (digit + 0x80)) = pending.bits * 64 + digit := by
    unfold Pending.push
    omega
  rw [decodeRest, if_pos haccepts, hpush]

/-- The continuation bytes complete the character under way, if the first of them is accepted. -/
theorem decodeRest_continuation
    {n code least most : Nat}
    (hleast : least ≤ code / 64 ^ n % 64 + 0x80)
    (hmost : code / 64 ^ n % 64 + 0x80 ≤ most)
    (bits : Nat)
    (rest : List UInt8) :
    decodeRest ⟨bits, n + 1, least, most⟩ (continuation (n + 1) code ++ rest) =
      Char.ofNat (bits * 64 ^ (n + 1) + code % 64 ^ (n + 1)) :: decode rest := by
  have hdigit (k : Nat) : code / 64 ^ k % 64 < 64 := Nat.mod_lt _ (by decide)
  induction n generalizing bits least most with
  | zero =>
      rw [continuation, List.cons_append, decodeRest_cons (hdigit 0) hleast hmost]
      simp [continuation]
  | succ n ih =>
      have hnext := hdigit n
      rw [continuation, List.cons_append, decodeRest_cons (hdigit (n + 1)) hleast hmost]
      have howed : (n + 1 + 1 == 1) = false := by simp
      simp only [howed, Bool.false_eq_true, if_false, Nat.add_sub_cancel]
      rw [ih (by omega) (by omega)]
      have hvalue :
          (bits * 64 + code / 64 ^ (n + 1) % 64) * 64 ^ (n + 1) + code % 64 ^ (n + 1) =
            bits * 64 ^ (n + 1 + 1) + code % 64 ^ (n + 1 + 1) := by
        have hmod : code % 64 ^ (n + 1 + 1) = _ := Nat.mod_pow_succ
        have hpow : 64 ^ (n + 1 + 1) = 64 * 64 ^ (n + 1) := Nat.pow_succ'
        rw [hmod, hpow, Nat.add_mul, Nat.mul_assoc, Nat.mul_comm (code / 64 ^ (n + 1) % 64)]
        omega
      rw [hvalue]

end ContinuationBytes

section FirstBytes

theorem start_two
    {bits : Nat}
    (hmin : 2 ≤ bits)
    (hmax : bits < 32) :
    start (UInt8.ofNat (bits + 0xC0)) = .longer ⟨bits, 1, 0x80, 0xBF⟩ := by
  have hbyte : (UInt8.ofNat (bits + 0xC0)).toNat = bits + 0xC0 :=
    UInt8.toNat_ofNat_of_lt' (show _ < 256 by omega)
  have hfirst : ¬ bits + 0xC0 < 0x80 := by omega
  have hsecond : ¬ bits + 0xC0 < 0xC2 := by omega
  have hthird : bits + 0xC0 < 0xE0 := by omega
  simp only [start, hbyte, hfirst, hsecond, hthird, if_true, if_false, Nat.add_sub_cancel]

theorem start_three
    {bits : Nat}
    (hmax : bits < 16) :
    start (UInt8.ofNat (bits + 0xE0)) =
      .longer ⟨bits, 2, if bits = 0 then 0xA0 else 0x80, if bits = 0xD then 0x9F else 0xBF⟩ := by
  have hall : ∀ b : Fin 16, start (UInt8.ofNat (b + 0xE0)) =
      .longer ⟨b, 2, if b.val = 0 then 0xA0 else 0x80, if b.val = 0xD then 0x9F else 0xBF⟩ := by
    decide
  exact hall ⟨bits, hmax⟩

theorem start_four
    {bits : Nat}
    (hmax : bits < 5) :
    start (UInt8.ofNat (bits + 0xF0)) =
      .longer ⟨bits, 3, if bits = 0 then 0x90 else 0x80, if bits = 4 then 0x8F else 0xBF⟩ := by
  have hall : ∀ b : Fin 5, start (UInt8.ofNat (b + 0xF0)) =
      .longer ⟨b, 3, if b.val = 0 then 0x90 else 0x80, if b.val = 4 then 0x8F else 0xBF⟩ := by
    decide
  exact hall ⟨bits, hmax⟩

/-- The encoding of a character by its first byte and its continuation bytes. -/
theorem encodeChar_eq
    (c : Char) :
    String.utf8EncodeChar c =
      if c.toNat ≤ 0x7F then [UInt8.ofNat c.toNat]
      else if c.toNat ≤ 0x7FF then
        UInt8.ofNat (c.toNat / 64 ^ 1 % 32 + 0xC0) :: continuation 1 c.toNat
      else if c.toNat ≤ 0xFFFF then
        UInt8.ofNat (c.toNat / 64 ^ 2 % 16 + 0xE0) :: continuation 2 c.toNat
      else UInt8.ofNat (c.toNat / 64 ^ 3 % 8 + 0xF0) :: continuation 3 c.toNat := by
  simp only [continuation, Nat.pow_zero, Nat.div_one]
  rfl

/-- The first byte of a longer character holds the bits in front of the continuation bytes, and the
interval that it sets for the first of them is kept. -/
theorem exists_lead
    {c : Char}
    (hone : ¬ c.toNat ≤ 0x7F) :
    ∃ lead n least most,
      String.utf8EncodeChar c = lead :: continuation (n + 1) c.toNat ∧
      start lead = .longer ⟨c.toNat / 64 ^ (n + 1), n + 1, least, most⟩ ∧
      least ≤ c.toNat / 64 ^ n % 64 + 0x80 ∧ c.toNat / 64 ^ n % 64 + 0x80 ≤ most := by
  have hvalid : c.toNat < 0xD800 ∨ 0xDFFF < c.toNat ∧ c.toNat < 0x110000 := c.valid
  rw [encodeChar_eq, if_neg hone]
  by_cases htwo : c.toNat ≤ 0x7FF
  · have hbits : c.toNat / 64 ^ 1 % 32 = c.toNat / 64 ^ 1 := Nat.mod_eq_of_lt (by omega)
    rw [if_pos htwo, hbits]
    exact ⟨_, 0, _, _, rfl, start_two (by omega) (by omega), by omega, by omega⟩
  · by_cases hthree : c.toNat ≤ 0xFFFF
    · have hbits : c.toNat / 64 ^ 2 % 16 = c.toNat / 64 ^ 2 := Nat.mod_eq_of_lt (by omega)
      rw [if_neg htwo, if_pos hthree, hbits]
      exact ⟨_, 1, _, _, rfl, start_three (by omega), by split <;> omega, by split <;> omega⟩
    · have hbits : c.toNat / 64 ^ 3 % 8 = c.toNat / 64 ^ 3 := Nat.mod_eq_of_lt (by omega)
      rw [if_neg htwo, if_neg hthree, hbits]
      exact ⟨_, 2, _, _, rfl, start_four (by omega), by split <;> omega, by split <;> omega⟩

end FirstBytes

section Texts

theorem decode_encodeChar_append
    (c : Char)
    (rest : List UInt8) :
    decode (String.utf8EncodeChar c ++ rest) = c :: decode rest := by
  by_cases hone : c.toNat ≤ 0x7F
  · have hbyte : (UInt8.ofNat c.toNat).toNat = c.toNat :=
      UInt8.toNat_ofNat_of_lt' (show _ < 256 by omega)
    have hstart : start (UInt8.ofNat c.toNat) = .whole c := by
      simp only [start, hbyte, Nat.lt_succ_of_le hone, if_true, Char.ofNat_toNat]
    rw [encodeChar_eq, if_pos hone, List.singleton_append, decode, hstart]
  · obtain ⟨lead, n, least, most, hencode, hstart, hleast, hmost⟩ := exists_lead hone
    rw [hencode, List.cons_append, decode, hstart]
    dsimp only
    rw [decodeRest_continuation hleast hmost, Nat.div_add_mod', Char.ofNat_toNat]

theorem encode_cons
    (c : Char)
    (text : Text) :
    encode (c :: text) = String.utf8EncodeChar c ++ encode text :=
  rfl

/-- Decoding undoes encoding. -/
theorem decode_encode
    (text : Text) :
    decode (encode text) = text := by
  induction text with
  | nil =>
      rfl
  | cons c rest ih =>
      rw [encode_cons, decode_encodeChar_append, ih]

end Texts

section ByteOrderMarks

/-- The character whose encoding is the byte order mark. -/
def mark : Char := '\uFEFF'

theorem encodeChar_mark : String.utf8EncodeChar mark = byteOrderMark := by
  decide

/-- A byte order mark is dropped, once. -/
theorem decodeFile_mark
    (bytes : List UInt8) :
    decodeFile (byteOrderMark ++ bytes) = decode bytes := by
  have hmark : byteOrderMark.isPrefixOf (byteOrderMark ++ bytes) = true :=
    List.isPrefixOf_iff_prefix.mpr (List.prefix_append _ _)
  rw [decodeFile, dropMark, if_pos hmark, List.drop_left]

/-- The encoding of a text does not end inside a byte order mark. -/
theorem encode_eq_nil_of_isPrefix
    {text : Text}
    (h : encode text <+: byteOrderMark)
    (hmark : encode text ≠ byteOrderMark) :
    encode text = [] := by
  have hback : encode (decode (encode text)) = encode text := by rw [decode_encode]
  simp only [byteOrderMark, List.prefix_cons_iff, List.prefix_nil] at h
  rcases h with hnil | ⟨_, hbytes, rfl | ⟨_, rfl, rfl | ⟨_, rfl, rfl⟩⟩⟩
  · exact hnil
  · rw [hbytes] at hback
    exact absurd hback (by decide)
  · rw [hbytes] at hback
    exact absurd hback (by decide)
  · exact absurd hbytes hmark

/-- A text that does not start with the mark is read back whole. -/
theorem decodeFile_encode
    {text : Text}
    (h : text.head? ≠ some mark) :
    decodeFile (encode text) = text := by
  have hmark : ¬ byteOrderMark <+: encode text := by
    rintro ⟨bytes, hbytes⟩
    have htext := decode_encode text
    rw [← hbytes, ← encodeChar_mark, decode_encodeChar_append] at htext
    rw [← htext] at h
    exact h rfl
  have hfile : dropMark (encode text) = encode text := by
    rw [dropMark, if_neg (mt List.isPrefixOf_iff_prefix.mp hmark)]
    split
    · next hshort =>
        refine (encode_eq_nil_of_isPrefix (List.isPrefixOf_iff_prefix.mp hshort) ?_).symm
        intro heq
        exact hmark (heq ▸ List.prefix_rfl)
    · rfl
  rw [decodeFile, hfile, decode_encode]

end ByteOrderMarks

end Utf8
end CalleeSaved
