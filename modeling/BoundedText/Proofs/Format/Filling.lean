import BoundedText.Format.Filling
import BoundedText.Proofs.Expansion

namespace BoundedText

inductive Family where
  | integer
  | text
  | real
deriving DecidableEq, Repr

def Argument.family : Argument → Family
  | word _ | char _ => .integer
  | text _ => .text
  | real _ => .real

def Letter.family? : Letter → Option Family
  | d | i | o | u | x | X | D | O | U | p | c => some .integer
  | s => some .text
  | a | A | e | E | f | F | g | G => some .real
  | percent => none

theorem Letter.ne_percent_of_family? {letter : Letter} {family : Family} (fits : letter.family? = some family) :
    letter ≠ .percent := by
  rintro rfl
  cases fits

namespace Conversion

def field (conversion : Conversion) (mode : RealMode) (argument : Argument) : Bytes :=
  ((conversion.render? mode argument).getD []).toBytes

theorem isSome_render? (conversion : Conversion) (mode : RealMode) (argument : Argument) :
    (conversion.render? mode argument).isSome = (conversion.letter.family? == some argument.family) := by
  obtain ⟨flags, separator, width, precision, length, letter⟩ := conversion
  cases letter <;> cases argument <;> rfl

theorem fill_percent {conversion : Conversion} (percent : conversion.letter = .percent) (mode : RealMode)
    (supply : Supply) : conversion.fill mode supply = .ok (.ofByte Ascii.percent, supply) := by
  simp only [fill, percent, ↓reduceIte]

theorem fill_of_family {conversion : Conversion} {argument : Argument} {arguments : List Argument} {supply : Supply}
    (left : supply.rest = argument :: arguments) (fits : conversion.letter.family? = some argument.family)
    (mode : RealMode) : ∃ text : Text, conversion.fill mode supply = .ok (text, ⟨arguments, supply.taken + 1⟩) ∧
      text.toBytes = conversion.field mode argument := by
  have rendered := conversion.isSome_render? mode argument
  rw [fits, beq_self_eq_true, Option.isSome_iff_exists] at rendered
  obtain ⟨text, rendered⟩ := rendered
  have other := Letter.ne_percent_of_family? fits
  refine ⟨text, ?_, ?_⟩
  · simp only [fill, other, ↓reduceIte, left, rendered]
  · rw [field, rendered, Option.getD_some]

def refusal? (conversion : Conversion) (supply : Supply) : Option Fault :=
  if conversion.letter = .percent then none
  else
    match supply.rest with
    | [] => some (.missingArgument supply.taken)
    | argument :: _ =>
      if conversion.letter.family? = some argument.family then none
      else some (.argumentMismatch supply.taken conversion.letter.byte)

theorem refusal?_eq_none {conversion : Conversion} {supply : Supply} (accepted : conversion.refusal? supply = none) :
    conversion.letter = .percent ∨ ∃ argument arguments, supply.rest = argument :: arguments ∧
      conversion.letter.family? = some argument.family := by
  simp only [refusal?] at accepted
  split at accepted
  · exact .inl ‹_›
  · split at accepted
    · cases accepted
    · split at accepted
      · exact .inr ⟨_, _, ‹_›, ‹_›⟩
      · cases accepted

theorem refusal?_eq_some {conversion : Conversion} {supply : Supply} {fault : Fault}
    (refused : conversion.refusal? supply = some fault) :
    conversion.letter ≠ .percent ∧
      ((supply.rest = [] ∧ fault = .missingArgument supply.taken) ∨
        ∃ argument arguments, supply.rest = argument :: arguments ∧
          conversion.letter.family? ≠ some argument.family ∧
          fault = .argumentMismatch supply.taken conversion.letter.byte) := by
  simp only [refusal?] at refused
  split at refused
  · cases refused
  · rename_i other
    refine ⟨other, ?_⟩
    split at refused
    · exact .inl ⟨‹_›, (Option.some.inj refused).symm⟩
    · split at refused
      · cases refused
      · exact .inr ⟨_, _, ‹_›, ‹_›, (Option.some.inj refused).symm⟩

theorem fill_of_refusal {conversion : Conversion} {supply : Supply} {fault : Fault}
    (refused : conversion.refusal? supply = some fault) (mode : RealMode) :
    conversion.fill mode supply = .error fault := by
  obtain ⟨other, cause⟩ := refusal?_eq_some refused
  rcases cause with ⟨none, rfl⟩ | ⟨argument, arguments, left, misfit, rfl⟩
  · simp only [fill, other, ↓reduceIte, none]
  · have unrendered := conversion.isSome_render? mode argument
    rw [beq_eq_false_iff_ne.mpr misfit, Option.isSome_eq_false_iff, Option.isNone_iff_eq_none] at unrendered
    simp only [fill, other, ↓reduceIte, left, unrendered]

end Conversion

namespace Format

theorem piecesFrom_eq (offset : Nat) (format : Bytes) :
    piecesFrom offset format =
      match format.dropWhile (· != Ascii.percent) with
      | [] => [.literal (format.takeWhile (· != Ascii.percent))]
      | _ :: rest =>
        match Conversion.read rest with
        | .error fault =>
          [.literal (format.takeWhile (· != Ascii.percent)),
            .malformed (offset + (format.takeWhile (· != Ascii.percent)).length) fault]
        | .ok (conversion, after) =>
          .literal (format.takeWhile (· != Ascii.percent)) ::
            .conversion (offset + (format.takeWhile (· != Ascii.percent)).length) conversion ::
              piecesFrom (offset + (format.length - after.length)) after := by
  rw [piecesFrom]
  split
  · rename_i split
    rw [split]
  · rename_i rest split
    rw [split]
    split <;> rename_i reading <;> simp only [reading]

theorem piecesFrom_nil (offset : Nat) : piecesFrom offset [] = [.literal []] := piecesFrom_eq offset []

theorem piecesFrom_percent (offset : Nat) (rest : Bytes) :
    piecesFrom offset (Ascii.percent :: rest) =
      match Conversion.read rest with
      | .error fault => [.literal [], .malformed offset fault]
      | .ok (conversion, after) =>
        .literal [] :: .conversion offset conversion ::
          piecesFrom (offset + (rest.length + 1 - after.length)) after := by
  rw [piecesFrom_eq]
  rfl

theorem piecesFrom_cons {byte : UInt8} (plain : byte ≠ Ascii.percent) (offset : Nat) (rest : Bytes) :
    ∃ run pieces, piecesFrom (offset + 1) rest = .literal run :: pieces ∧
      piecesFrom offset (byte :: rest) = .literal (byte :: run) :: pieces := by
  have kept : (byte != Ascii.percent) = true := by simpa using plain
  rw [piecesFrom_eq (offset + 1), piecesFrom_eq offset]
  simp only [List.takeWhile_cons, List.dropWhile_cons, kept, ↓reduceIte, List.length_cons]
  cases split : rest.dropWhile (· != Ascii.percent) with
  | nil => exact ⟨_, _, rfl, rfl⟩
  | cons percent behind =>
    have front : offset + ((rest.takeWhile (· != Ascii.percent)).length + 1) =
        offset + 1 + (rest.takeWhile (· != Ascii.percent)).length := by omega
    cases reading : Conversion.read behind with
    | error fault =>
      simp only [reading, front]
      exact ⟨_, _, rfl, rfl⟩
    | ok pair =>
      obtain ⟨conversion, after⟩ := pair
      have dropped := (List.dropWhile_sublist (· != Ascii.percent) (l := rest)).length_le
      rw [split, List.length_cons] at dropped
      have shorter := Conversion.length_read_lt reading
      have next : offset + (rest.length + 1 - after.length) = offset + 1 + (rest.length - after.length) := by omega
      simp only [reading, front, next]
      exact ⟨_, _, rfl, rfl⟩

def expandFrom (mode : RealMode) (supply : Supply) (offset : Nat) (format : Bytes) : Expansion :=
  expandPieces mode supply (piecesFrom offset format)

theorem expandFrom_nil (mode : RealMode) (supply : Supply) (offset : Nat) :
    (expandFrom mode supply offset []).Splits [] .finished := by
  rw [expandFrom, piecesFrom_nil]
  exact Expansion.splits_after (.ofBytes []) .finished

theorem expandFrom_cons {byte : UInt8} (plain : byte ≠ Ascii.percent) (nonzero : byte ≠ 0) (mode : RealMode)
    (supply : Supply) (offset : Nat) (rest : Bytes) :
    (expandFrom mode supply offset (byte :: rest)).Splits [byte] (expandFrom mode supply (offset + 1) rest) := by
  obtain ⟨run, pieces, behind, whole⟩ := piecesFrom_cons plain offset rest
  have kept : (byte != 0) = true := by simpa using nonzero
  rw [expandFrom, expandFrom, behind, whole]
  refine ⟨?_, rfl⟩
  simp only [expandPieces, Expansion.bytes_after, Text.ofBytes, Text.toBytes_cons, Span.toBytes, Bytes.upToNul,
    List.takeWhile_cons, kept, ↓reduceIte, List.cons_append, List.nil_append]

theorem expandFrom_append {run : Bytes} (plain : Ascii.percent ∉ run) (clean : 0 ∉ run) (mode : RealMode)
    (supply : Supply) (offset : Nat) (rest : Bytes) :
    (expandFrom mode supply offset (run ++ rest)).Splits run (expandFrom mode supply (offset + run.length) rest) := by
  induction run generalizing offset with
  | nil => exact .refl _
  | cons byte run ih =>
    simp only [List.mem_cons, not_or] at plain clean
    have first := expandFrom_cons (Ne.symm plain.1) (Ne.symm clean.1) mode supply offset (run ++ rest)
    have others := ih plain.2 clean.2 (offset + 1)
    rw [Nat.add_right_comm] at others
    exact first.trans others

def refusal? (supply : Supply) (behind : Bytes) : Option Fault :=
  match Conversion.read behind with
  | .error fault => some fault
  | .ok (conversion, _) => conversion.refusal? supply

theorem expandFrom_of_refusal {supply : Supply} {behind : Bytes} {fault : Fault}
    (refused : refusal? supply behind = some fault) (mode : RealMode) (offset : Nat) :
    (expandFrom mode supply offset (Ascii.percent :: behind)).Splits [] (.failed ⟨fault, offset⟩) := by
  rw [expandFrom, piecesFrom_percent]
  simp only [refusal?] at refused
  split at refused
  · cases refused
    exact Expansion.splits_after (.ofBytes []) _
  · simp only [expandPieces, Conversion.fill_of_refusal refused mode]
    exact Expansion.splits_after (.ofBytes []) _

theorem expandFrom_of_fill {behind after : Bytes} {conversion : Conversion} {text : Text} {supply others : Supply}
    {mode : RealMode} (reading : Conversion.read behind = .ok (conversion, after))
    (filled : conversion.fill mode supply = .ok (text, others)) (offset : Nat) :
    (expandFrom mode supply offset (Ascii.percent :: behind)).Splits text.toBytes
      (expandFrom mode others (offset + (behind.length + 1 - after.length)) after) := by
  simp only [expandFrom, piecesFrom_percent, reading, expandPieces, filled]
  exact Expansion.splits_after text _

end Format

end BoundedText
