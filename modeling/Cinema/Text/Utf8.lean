import Mathlib.Data.List.Basic
import Mathlib.Data.UInt

/-!
# UTF-8, cut off after some bytes

The encoding is prefix free, so a text is determined by its encoding, and one
that is cut off at its end by what is left of it.  Two texts whose encodings
agree up to a limit are the same text unless one of them reaches the limit.
-/

namespace Cinema.Text.Utf8

def encode (text : List Char) : List UInt8 :=
  text.flatMap String.utf8EncodeChar

variable {text other : List Char}

@[simp] theorem encode_nil : encode [] = [] := rfl

@[simp] theorem encode_cons (c : Char) (text : List Char) :
    encode (c :: text) = String.utf8EncodeChar c ++ encode text :=
  List.flatMap_cons

theorem encode_append (text other : List Char) :
    encode (text ++ other) = encode text ++ encode other :=
  List.flatMap_append

theorem encodeChar_pos (c : Char) : 0 < (String.utf8EncodeChar c).length := by
  rw [String.length_utf8EncodeChar]
  exact c.utf8Size_pos

/-- Every character takes a byte at least. -/
theorem length_le_encode (text : List Char) :
    text.length ≤ (encode text).length := by
  induction text with
  | nil => exact Nat.le_refl 0
  | cons c text induction =>
      have positive := encodeChar_pos c
      rw [encode_cons, List.length_append, List.length_cons]
      omega

/-! ## Prefixes -/

/-- The first character can be read off the bytes. -/
private theorem encodeChar_append_inj {c d : Char} {rest more : List UInt8}
    (same : String.utf8EncodeChar c ++ rest =
      String.utf8EncodeChar d ++ more) : c = d ∧ rest = more := by
  have decoded : ∀ (c : Char) (rest : List UInt8), ByteArray.utf8DecodeChar?
      (String.utf8EncodeChar c ++ rest).toByteArray 0 = some c := by
    intro c rest
    rw [List.toByteArray_append]
    exact ByteArray.utf8DecodeChar?_utf8EncodeChar_append
  have first := decoded c rest
  rw [same, decoded d more] at first
  cases first
  exact ⟨rfl, List.append_cancel_left same⟩

theorem prefix_of_encode (prefixes : encode text <+: encode other) :
    text <+: other := by
  induction text generalizing other with
  | nil => exact List.nil_prefix
  | cons c text induction =>
      obtain ⟨rest, same⟩ := prefixes
      cases other with
      | nil =>
          have nothing := congrArg List.length same
          have positive := encodeChar_pos c
          simp only [encode_cons, encode_nil, List.length_append,
            List.length_nil] at nothing
          omega
      | cons d other =>
          rw [encode_cons, encode_cons, List.append_assoc] at same
          obtain ⟨rfl, onward⟩ := encodeChar_append_inj same
          exact List.cons_prefix_cons.mpr ⟨rfl, induction ⟨rest, onward⟩⟩

/-! ## Collisions -/

/-- The first byte of a code point, which leaves out its last six bits. -/
private theorem head?_encodeChar (c : Char) (long : 128 ≤ c.val.toNat) :
    (String.utf8EncodeChar c).head? = some (
      if c.val.toNat ≤ 0x7ff then
        UInt8.ofNat (c.val.toNat / 64 % 0x20 + 0xc0)
      else if c.val.toNat ≤ 0xffff then
        UInt8.ofNat (c.val.toNat / 64 / 64 % 0x10 + 0xe0)
      else UInt8.ofNat (c.val.toNat / 64 / 4096 % 0x08 + 0xf0)) := by
  have notAscii : ¬ c.val.toNat ≤ 0x7f := by omega
  have third : c.val.toNat / 4096 = c.val.toNat / 64 / 64 := by omega
  have fourth : c.val.toNat / 262144 = c.val.toNat / 64 / 4096 := by omega
  unfold String.utf8EncodeChar
  simp only [if_neg notAscii, third, fourth]
  split
  · rfl
  · split <;> rfl

/-- Another character that begins with the same byte. -/
theorem exists_sibling {c : Char} (long : 1 < (String.utf8EncodeChar c).length) :
    ∃ d ≠ c, (String.utf8EncodeChar d).head? =
      (String.utf8EncodeChar c).head? := by
  have notAscii : 128 ≤ c.val.toNat := by
    by_contra small
    have single : c.val.toNat ≤ 0x7f := by omega
    rw [String.utf8EncodeChar, if_pos single, List.length_singleton] at long
    exact Nat.lt_irrefl 1 long
  have valid : c.val.toNat < 0xd800 ∨
      0xdfff < c.val.toNat ∧ c.val.toNat < 0x110000 := c.valid
  -- The neighbour in the same pair of code points.
  obtain ⟨value, differs, block, isValid⟩ : ∃ value, value ≠ c.val.toNat ∧
      value / 64 = c.val.toNat / 64 ∧
      (value < 0xd800 ∨ 0xdfff < value ∧ value < 0x110000) := by
    by_cases even : c.val.toNat % 2 = 0
    · exact ⟨c.val.toNat + 1, by omega, by omega, by omega⟩
    · exact ⟨c.val.toNat - 1, by omega, by omega, by omega⟩
  have size : value < UInt32.size := by
    change value < 4294967296
    omega
  let d : Char := ⟨UInt32.ofNatLT value size, isValid⟩
  have isValue : d.val.toNat = value := rfl
  refine ⟨d, ?_, ?_⟩
  · intro same
    rw [same] at isValue
    exact differs isValue.symm
  · rw [head?_encodeChar c notAscii, head?_encodeChar d (by omega), isValue,
      block]
    have second : value ≤ 0x7ff ↔ c.val.toNat ≤ 0x7ff := by omega
    have third : value ≤ 0xffff ↔ c.val.toNat ≤ 0xffff := by omega
    simp only [second, third]

/-- The first bytes, up to a limit. -/
def cut (limit : Nat) (text : List Char) : List UInt8 :=
  (encode text).take limit

variable {limit : Nat}

theorem cut_append (full : limit ≤ (encode text).length) (rest : List Char) :
    cut limit (text ++ rest) = cut limit text := by
  rw [cut, encode_append, List.take_append_of_le_length full, cut]

/-- A text beyond the limit collides with one that has no more characters than
the limit. -/
theorem exists_collision (atLeast : 1 < limit)
    (long : limit < (encode text).length) :
    ∃ other ≠ text, other ≠ [] ∧ other.length ≤ limit ∧
      cut limit other = cut limit text := by
  rcases Nat.lt_trichotomy text.length limit with fewer | exactly | more
  · refine ⟨text ++ ['a'], by simp, by simp, by simp; omega, ?_⟩
    exact cut_append (Nat.le_of_lt long) _
  · obtain ⟨front, c, rfl⟩ : ∃ front c, text = front ++ [c] := by
      refine ⟨text.dropLast, text.getLast ?_, ?_⟩
      · intro same
        subst same
        cases long
      · exact (List.dropLast_append_getLast _).symm
    rw [List.length_append, List.length_singleton] at exactly
    by_cases full : limit ≤ (encode front).length
    · refine ⟨front, by simp, ?_, by omega, (cut_append full _).symm⟩
      intro same
      subst same
      simp only [encode_nil, List.length_nil] at full
      omega
    · -- Only the first byte of the last character counts.
      have frontBytes : (encode front).length = limit - 1 := by
        have least := length_le_encode front
        omega
      have multi : 1 < (String.utf8EncodeChar c).length := by
        rw [encode_append, List.length_append, encode_cons, encode_nil,
          List.append_nil] at long
        omega
      obtain ⟨d, different, sameHead⟩ := exists_sibling multi
      refine ⟨front ++ [d], ?_, by simp, by simp; omega, ?_⟩
      · simpa using different
      · have firstByte : ∀ e : Char, cut limit (front ++ [e]) =
            encode front ++ (String.utf8EncodeChar e).head?.toList := by
          intro e
          have one : limit - (encode front).length = 1 := by omega
          rw [cut, encode_append, List.take_append, one, encode_cons, encode_nil,
            List.append_nil, List.take_one,
            List.take_of_length_le (by omega)]
        rw [firstByte, firstByte, sameHead]
  · have full : limit ≤ (encode (text.take limit)).length := by
      have least := length_le_encode (text.take limit)
      rw [List.length_take] at least
      omega
    refine ⟨text.take limit, ?_, ?_, by simp, ?_⟩
    · intro same
      have lengths := congrArg List.length same
      rw [List.length_take] at lengths
      omega
    · intro nothing
      have lengths := congrArg List.length nothing
      rw [List.length_take, List.length_nil] at lengths
      omega
    · conv_rhs => rw [← List.take_append_drop limit text]
      exact (cut_append full _).symm

/-- A text is the only accepted one with its first bytes exactly when it ends
before the limit, or at the limit with no accepted text going on after it. -/
theorem unique_iff {accepts : List Char → Prop} (atLeast : 1 < limit)
    (short : ∀ other : List Char, other ≠ [] → other.length ≤ limit →
      accepts other) :
    (∀ other, accepts other → cut limit other = cut limit text →
      other = text) ↔
    (encode text).length < limit ∨ (encode text).length = limit ∧
      ∀ rest ≠ [], ¬ accepts (text ++ rest) := by
  constructor
  · intro unique
    rcases Nat.lt_trichotomy (encode text).length limit with below | exactly | beyond
    · exact Or.inl below
    · refine Or.inr ⟨exactly, ?_⟩
      intro rest notEmpty accepted
      have same := unique _ accepted (cut_append (Nat.le_of_eq exactly.symm) rest)
      exact notEmpty (List.append_right_eq_self.mp same)
    · obtain ⟨other, different, notEmpty, bounded, same⟩ :=
        exists_collision atLeast beyond
      exact absurd (unique other (short other notEmpty bounded) same) different
  · intro fits other accepted same
    have bytes : (encode other).take limit = encode text := by
      have bounded : (encode text).length ≤ limit := by
        rcases fits with below | ⟨exactly, -⟩
        · exact Nat.le_of_lt below
        · exact Nat.le_of_eq exactly
      rw [cut, cut, List.take_of_length_le bounded] at same
      exact same
    -- The bytes of the text begin those of the other one.
    obtain ⟨rest, rfl⟩ := prefix_of_encode (bytes ▸ List.take_prefix limit _)
    by_cases ends : rest = []
    · rw [ends, List.append_nil]
    · rcases fits with below | ⟨-, closed⟩
      · have lengths := congrArg List.length bytes
        have more := length_le_encode rest
        have positive := List.length_pos_iff.mpr ends
        rw [List.length_take, encode_append, List.length_append] at lengths
        omega
      · exact absurd accepted (closed rest ends)

end Cinema.Text.Utf8
