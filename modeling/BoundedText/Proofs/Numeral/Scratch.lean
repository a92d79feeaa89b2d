import BoundedText.Proofs.Numeral
import BoundedText.Proofs.Run
import BoundedText.Slice

namespace BoundedText

namespace Radix

variable {radix : Radix}

/-- Sets the digits of a value into a scratch, the last one first, each in front of the one before. Nothing comes of it
    if the places in front run out or a digit has no glyph. -/
def fillScratch (radix : Radix) (value : Nat) (scratch : Bytes) : Nat → Option Bytes
  | 0 => none
  | start + 1 => do
    let glyph ← radix.glyphs[value % radix.base]?
    let filled := scratch.set start glyph
    if value / radix.base = 0 then some (filled.drop start)
    else radix.fillScratch (value / radix.base) filled start

def scratchNumeral (radix : Radix) (places value : Nat) : Option Bytes :=
  radix.fillScratch value (List.replicate places 0) places

theorem getElem?_glyphs (radix : Radix) (value : Nat) :
    radix.glyphs[value % radix.base]? = some (radix.glyph (value % radix.base)) := by
  have small : value % radix.base < radix.base := Nat.mod_lt value (Nat.lt_of_succ_lt radix.one_lt_base)
  rw [← getElem?_alphabet small, alphabet, List.getElem?_take_of_lt small]

theorem head?_glyphs (radix : Radix) : radix.glyphs.head? = some (radix.glyph 0) := by
  have first := radix.getElem?_glyphs 0
  rwa [Nat.zero_mod, ← List.head?_eq_getElem?] at first

theorem div_base_eq_zero_iff {value : Nat} : value / radix.base = 0 ↔ value < radix.base :=
  Nat.div_eq_zero_iff_lt (Nat.lt_of_succ_lt radix.one_lt_base)

theorem fillScratch_eq {value start : Nat} {scratch : Bytes} (enough : (radix.digits value).length ≤ start)
    (inside : start ≤ scratch.length) :
    radix.fillScratch value scratch start = some (radix.numeral value ++ scratch.drop start) := by
  induction start generalizing value scratch with
  | zero => exact absurd (radix.length_digits_pos value) (Nat.not_lt.mpr enough)
  | succ start ih =>
    have behind (glyph : UInt8) : (scratch.set start glyph).drop start = glyph :: scratch.drop (start + 1) := by
      have placed : start < (scratch.set start glyph).length := by
        rw [List.length_set]
        exact inside
      rw [List.drop_eq_getElem_cons placed, List.getElem_set_self, List.drop_set_of_lt (Nat.lt_succ_self start)]
    simp only [fillScratch, getElem?_glyphs, bind, Option.bind_some]
    by_cases single : value < radix.base
    · rw [if_pos (div_base_eq_zero_iff.mpr single), behind, Nat.mod_eq_of_lt single, numeral, digits_of_lt single]
      rfl
    · have large := Nat.le_of_not_lt single
      rw [digits_of_le large, List.length_append, List.length_singleton] at enough
      have room : start ≤ (scratch.set start (radix.glyph (value % radix.base))).length := by
        rw [List.length_set]
        exact Nat.le_of_succ_le inside
      rw [if_neg (single ∘ div_base_eq_zero_iff.mp), ih (Nat.le_of_succ_le_succ enough) room, behind, numeral, numeral,
        digits_of_le large, List.map_append, List.append_assoc]
      rfl

theorem scratchNumeral_eq (radix : Radix) (value : UInt64) :
    radix.scratchNumeral maxDigits value.toNat = some (radix.numeral value.toNat) := by
  have enough := radix.length_numeral_le_maxDigits value
  rw [length_numeral] at enough
  have places : (List.replicate maxDigits (0 : UInt8)).length = maxDigits := List.length_replicate
  rw [scratchNumeral, fillScratch_eq enough (Nat.le_of_eq places.symm), List.drop_eq_nil_of_le (Nat.le_of_eq places),
    List.append_nil]

theorem numeral_ne_nil (radix : Radix) (value : Nat) : radix.numeral value ≠ [] := by
  rw [← List.length_pos_iff, length_numeral]
  exact radix.length_digits_pos value

theorem eq_zero_of_head?_digits {value : Nat} (leading : (radix.digits value).head? = some 0) : value = 0 := by
  induction value using Nat.strongRecOn with
  | ind value ih =>
    by_cases single : value < radix.base
    · rw [digits_of_lt single, List.head?_singleton] at leading
      exact Option.some.inj leading
    · have large := Nat.le_of_not_lt single
      have nonempty : radix.digits (value / radix.base) ≠ [] := List.length_pos_iff.mp (radix.length_digits_pos _)
      have positive : 0 < value := Nat.lt_of_lt_of_le (Nat.lt_of_succ_lt radix.one_lt_base) large
      rw [digits_of_le large, List.head?_append_of_ne_nil _ nonempty] at leading
      exact absurd (div_base_eq_zero_iff.mp (ih _ (Nat.div_lt_self positive radix.one_lt_base) leading)) single

theorem eq_zero_of_head?_numeral (distinct : radix.alphabet.Nodup) {value : Nat}
    (leading : (radix.numeral value).head? = some (radix.glyph 0)) : value = 0 := by
  rw [numeral, List.head?_map] at leading
  obtain ⟨digit, first, same⟩ := Option.map_eq_some_iff.mp leading
  have small := lt_base_of_mem_digits (List.mem_of_mem_head? first)
  have zero : digit = 0 := by
    rw [← idxOf_alphabet distinct (getElem?_alphabet small), same]
    exact idxOf_alphabet distinct (getElem?_alphabet (Nat.lt_of_succ_lt radix.one_lt_base))
  exact eq_zero_of_head?_digits (first.trans (congrArg some zero))

theorem read_take_numeral (distinct : radix.alphabet.Nodup) (value room : Nat) :
    radix.read ((radix.numeral value).take room) =
      value / radix.base ^ ((radix.numeral value).length - ((radix.numeral value).take room).length) := by
  have spelled : ∀ byte ∈ (radix.numeral value).drop room, byte ∈ radix.alphabet :=
    fun _ member => mem_alphabet_of_mem_numeral (List.mem_of_mem_drop member)
  have lost : (radix.numeral value).length - ((radix.numeral value).take room).length =
      ((radix.numeral value).drop room).length := by
    rw [List.length_take, List.length_drop]
    omega
  have cut := (read_cut ((radix.numeral value).take room) spelled).1
  rw [List.take_append_drop, read_numeral distinct] at cut
  rw [lost, cut]

end Radix

namespace Slice

theorem putNumeral_of_invalid {base : Nat} {glyphs : Bytes}
    (invalid : ¬ ((8 ≤ base ∧ base ≤ 16) ∧ base ≤ glyphs.length)) (slice : Bytes) (cursor value : Nat) :
    putNumeral slice cursor value base glyphs = ⟨slice, .error ⟨.invalidRadix base glyphs.length, 0⟩⟩ := by
  rw [putNumeral, Radix.ofGlyphs, dif_neg invalid]

theorem putNumeral_eq (radix : Radix) (slice : Bytes) (cursor value : Nat) :
    putNumeral slice cursor value radix.base radix.glyphs =
      Outcome.close (.done ((Buffer.openAt slice cursor).append (radix.numeral value).upToNul)) := by
  rw [putNumeral, Radix.ofGlyphs, dif_pos ⟨radix.base_bounds, radix.base_le_glyphs⟩]
  rfl

/-- A base outside of eight to sixteen, or one without a glyph for each digit, is refused and leaves the slice as it
    was. Any other is written from a scratch of 22 places. With distinct glyphs the numeral is the one that reads as
    the value without a leading zero, and what a slice has room for is its front. -/
theorem putNumeral_canonical (slice : Bytes) (cursor : Nat) (value : UInt64) (base : UInt32) (glyphs : Bytes) :
    let written := putNumeral slice cursor value.toNat base.toNat glyphs
    ((∃ error, written.result = .error error) ↔
      (base.toNat < 8 ∨ 16 < base.toNat) ∨ glyphs.length < base.toNat) ∧
    (∀ error, written.result = .error error → written.slice = slice) ∧
    ∀ (bounds : 8 ≤ base.toNat ∧ base.toNat ≤ 16) (enough : base.toNat ≤ glyphs.length),
      let radix : Radix := ⟨base.toNat, glyphs, bounds, enough⟩
      ∃ numeral, radix.scratchNumeral 22 value.toNat = some numeral ∧
        ((glyphs.take base.toNat).Nodup → 0 ∉ glyphs.take base.toNat →
          (numeral ≠ [] ∧ (numeral.head? = glyphs.head? → value = 0) ∧ radix.read numeral = value.toNat) ∧
          let start := min cursor (slice.length - 1)
          let kept := numeral.take (slice.length - 1 - start)
          let buffer := (Buffer.openAt slice cursor).append numeral
          (written = Outcome.close (.done buffer) ∧ buffer.text = slice.take start ++ kept) ∧
          radix.read kept = value.toNat / base.toNat ^ (numeral.length - kept.length)) := by
  intro written
  by_cases valid : (8 ≤ base.toNat ∧ base.toNat ≤ 16) ∧ base.toNat ≤ glyphs.length
  · let radix : Radix := ⟨base.toNat, glyphs, valid.1, valid.2⟩
    have filled : written = Outcome.close (.done ((Buffer.openAt slice cursor).append
      (radix.numeral value.toNat).upToNul)) := putNumeral_eq radix slice cursor value.toNat
    have success (error : FormatError) : written.result ≠ .error error := by
      rw [filled]
      exact fun failure => nomatch failure
    refine ⟨⟨fun ⟨error, failure⟩ => absurd failure (success error), by omega⟩, ?_, ?_⟩
    · exact fun error failure => absurd failure (success error)
    intro bounds enough
    refine ⟨radix.numeral value.toNat, radix.scratchNumeral_eq value, fun distinct visible => ?_⟩
    have distinct : radix.alphabet.Nodup := distinct
    refine ⟨⟨radix.numeral_ne_nil value.toNat, fun leading => ?_, ?_⟩, ?_, ?_⟩
    · have nothing := Radix.eq_zero_of_head?_numeral distinct (leading.trans radix.head?_glyphs)
      exact UInt64.toNat.inj nothing
    · exact Radix.read_numeral distinct value.toNat
    · have clean : 0 ∉ radix.numeral value.toNat := fun member => visible (Radix.mem_alphabet_of_mem_numeral member)
      rw [Bytes.upToNul_of_not_mem clean] at filled
      refine ⟨filled, ?_⟩
      rw [Buffer.text_append, Buffer.text_openAt, Buffer.remaining_openAt]
    · exact Radix.read_take_numeral distinct value.toNat _
  · have refused : written = ⟨slice, .error ⟨.invalidRadix base.toNat glyphs.length, 0⟩⟩ :=
      putNumeral_of_invalid valid slice cursor value.toNat
    refine ⟨⟨fun _ => by omega, fun _ => ⟨_, congrArg Written.result refused⟩⟩, ?_, ?_⟩
    · exact fun _ _ => congrArg Written.slice refused
    · exact fun bounds enough => absurd ⟨bounds, enough⟩ valid

theorem putNumeral_canonical_base_twelve :
    let glyphs := Bytes.ofString "0123456789XE"
    let written := putNumeral [0x6e, 0x2e, 0x2e, 0x2e] 1 123455 12 glyphs
    let radix : Radix := ⟨12, glyphs, by decide, by decide⟩
    (glyphs.take 12).Nodup ∧ 0 ∉ glyphs.take 12 ∧ radix.scratchNumeral 22 123455 = some (Bytes.ofString "5E53E") ∧
      (∃ buffer, written = Outcome.close (.done buffer) ∧ buffer.text = Bytes.ofString "n5E") ∧
      radix.read (Bytes.ofString "5E") = 123455 / 12 ^ 3 := by
  intro glyphs written radix
  have distinct : (glyphs.take 12).Nodup := by decide
  have visible : 0 ∉ glyphs.take 12 := by decide
  have made : radix.scratchNumeral 22 123455 = some (Bytes.ofString "5E53E") := by decide
  obtain ⟨-, -, valid⟩ := putNumeral_canonical [0x6e, 0x2e, 0x2e, 0x2e] 1 123455 12 glyphs
  obtain ⟨numeral, same, canonical⟩ := valid (by decide) (by decide)
  obtain rfl : numeral = Bytes.ofString "5E53E" := Option.some.inj (same.symm.trans made)
  obtain ⟨-, shown, reads⟩ := canonical distinct visible
  exact ⟨distinct, visible, made, ⟨_, shown⟩, reads⟩

end Slice

end BoundedText
