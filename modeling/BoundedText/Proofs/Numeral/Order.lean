import BoundedText.Proofs.Numeral

namespace BoundedText

theorem Bytes.append_lt_append_iff {front other : Bytes} (length : front.length = other.length)
    (rest behind : Bytes) : front ++ rest < other ++ behind ↔ front < other ∨ front = other ∧ rest < behind := by
  induction front generalizing other with
  | nil =>
    rw [List.length_nil] at length
    rw [List.eq_nil_of_length_eq_zero length.symm]
    simp
  | cons byte front ih =>
    cases other with
    | nil => cases length
    | cons byte' other =>
      have lengths : front.length = other.length := Nat.succ.inj length
      rw [List.cons_append, List.cons_append, List.cons_lt_cons_iff, List.cons_lt_cons_iff, ih lengths,
        List.cons.injEq]
      tauto

namespace Radix

variable {radix : Radix}

theorem numeral_inj (distinct : radix.alphabet.Nodup) {value value' : Nat} :
    radix.numeral value = radix.numeral value' ↔ value = value' := by
  refine ⟨fun same => ?_, congrArg _⟩
  rw [← read_numeral distinct value, same, read_numeral distinct]

def Rising (radix : Radix) : Prop := ∀ byte ∈ radix.alphabet, ∀ other ∈ radix.alphabet,
  (byte < other ↔ radix.alphabet.idxOf byte < radix.alphabet.idxOf other)

theorem rising_decimal : decimal.Rising := by
  unfold Rising
  decide +kernel

theorem read_cons (radix : Radix) (byte : UInt8) (text : Bytes) :
    radix.read (byte :: text) = radix.alphabet.idxOf byte * radix.base ^ text.length + radix.read text := by
  have single : radix.read [byte] = radix.alphabet.idxOf byte := Nat.ofDigits_singleton
  rw [← List.singleton_append, read_append, single]

theorem leading_lt_iff {leading leading' rest rest' weight : Nat} (low : rest < weight) (low' : rest' < weight) :
    leading * weight + rest < leading' * weight + rest' ↔ leading < leading' ∨ leading = leading' ∧ rest < rest' := by
  rcases Nat.lt_trichotomy leading leading' with less | rfl | more
  · have next : (leading + 1) * weight ≤ leading' * weight := Nat.mul_le_mul_right weight less
    rw [Nat.succ_mul] at next
    omega
  · omega
  · have next : (leading' + 1) * weight ≤ leading * weight := Nat.mul_le_mul_right weight more
    rw [Nat.succ_mul] at next
    omega

theorem lt_iff_read_lt (rising : radix.Rising) {text other : Bytes} (spelled : ∀ byte ∈ text, byte ∈ radix.alphabet)
    (spelled' : ∀ byte ∈ other, byte ∈ radix.alphabet) (length : text.length = other.length) :
    text < other ↔ radix.read text < radix.read other := by
  induction text generalizing other with
  | nil =>
    rw [List.length_nil] at length
    rw [List.eq_nil_of_length_eq_zero length.symm]
    simp
  | cons byte text ih =>
    cases other with
    | nil => cases length
    | cons byte' other =>
      have lengths : text.length = other.length := Nat.succ.inj length
      obtain ⟨first, rest⟩ := List.forall_mem_cons.mp spelled
      obtain ⟨first', rest'⟩ := List.forall_mem_cons.mp spelled'
      have low := read_lt rest
      have low' := read_lt rest'
      rw [lengths] at low
      rw [List.cons_lt_cons_iff, ih rest rest' lengths, rising byte first byte' first', ← List.idxOf_inj first,
        read_cons, read_cons, lengths, leading_lt_iff low low']

end Radix

end BoundedText
