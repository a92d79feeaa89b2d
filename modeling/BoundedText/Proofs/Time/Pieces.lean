import BoundedText.Proofs.Field
import BoundedText.Proofs.LeadingRun
import BoundedText.Time.Layout

namespace BoundedText.TimeLayout

open LeadingRun

theorem piecesOf_eq (layout : Bytes) :
    piecesOf layout =
      match layout.dropWhile (· != Ascii.percent) with
      | [] => [.literal (layout.takeWhile (· != Ascii.percent))]
      | [_] => [.literal (layout.takeWhile (· != Ascii.percent)), .loosePercent]
      | _ :: letter :: rest =>
        match Directive.ofByte? letter with
        | some directive =>
          .literal (layout.takeWhile (· != Ascii.percent)) :: .directive directive :: piecesOf rest
        | none => .literal (layout.takeWhile (· != Ascii.percent)) :: .unknown letter :: piecesOf rest := by
  rw [piecesOf]
  split
  · rename_i split
    rw [split]
  · rename_i split
    rw [split]
  · rename_i letter rest split
    cases found : Directive.ofByte? letter <;> simp only [split, found]

def Piece.bytes : Piece → Bytes
  | literal run => run
  | directive asked => [Ascii.percent, asked.byte]
  | unknown letter => [Ascii.percent, letter]
  | loosePercent => [Ascii.percent]

def spell (pieces : List Piece) : Bytes := pieces.flatMap Piece.bytes

def Piece.Fits (behind : Bytes) : Piece → Prop
  | literal run => Ascii.percent ∉ run ∧ 0 ∉ run
  | directive _ => True
  | unknown letter => letter ∉ Directive.all.map Directive.byte ∧ letter ≠ 0
  | loosePercent => behind = []

instance Piece.decidableFits (behind : Bytes) : (piece : Piece) → Decidable (piece.Fits behind)
  | literal _ | unknown _ => inferInstanceAs (Decidable (_ ∧ _))
  | directive _ => inferInstanceAs (Decidable True)
  | loosePercent => inferInstanceAs (Decidable (_ = _))

def Written : List Piece → Prop
  | [] => True
  | piece :: pieces => piece.Fits (spell pieces) ∧ Written pieces

instance decidableWritten : (pieces : List Piece) → Decidable (Written pieces)
  | [] => inferInstanceAs (Decidable True)
  | _ :: pieces =>
    have := decidableWritten pieces
    inferInstanceAs (Decidable (_ ∧ _))

theorem spell_cons (piece : Piece) (pieces : List Piece) : spell (piece :: pieces) = piece.bytes ++ spell pieces :=
  List.flatMap_cons

theorem Written.zero_not_mem {pieces : List Piece} (written : Written pieces) : 0 ∉ spell pieces := by
  induction pieces with
  | nil => exact List.not_mem_nil
  | cons piece pieces ih =>
    obtain ⟨fits, written⟩ := written
    rw [spell_cons, List.mem_append, not_or]
    refine ⟨?_, ih written⟩
    cases piece with
    | literal run => exact fits.2
    | directive asked => cases asked <;> decide
    | unknown letter =>
      rw [Piece.bytes, List.mem_cons, List.mem_singleton, not_or]
      exact ⟨by decide, fits.2.symm⟩
    | loosePercent => decide

theorem ofByte?_eq_none_iff {letter : UInt8} :
    Directive.ofByte? letter = none ↔ letter ∉ Directive.all.map Directive.byte := by
  rw [Directive.ofByte?, List.find?_eq_none, List.mem_map, not_exists]
  simp only [beq_iff_eq, not_and]

theorem piecesOf_written {layout : Bytes} (clean : 0 ∉ layout) :
    Written (piecesOf layout) ∧ spell (piecesOf layout) = layout := by
  induction length : layout.length using Nat.strongRecOn generalizing layout with
  | ind _ ih =>
  subst length
  by_cases percent : Ascii.percent ∈ layout
  · obtain ⟨run, behind, rfl, plain⟩ := List.eq_append_cons_of_mem percent
    simp only [List.mem_append, List.mem_cons, not_or] at clean
    obtain ⟨cleanRun, -, cleanBehind⟩ := clean
    rw [piecesOf_eq, takeWhile_ne_append_cons plain, dropWhile_ne_append_cons plain]
    cases behind with
    | nil => exact ⟨⟨⟨plain, cleanRun⟩, rfl, True.intro⟩, rfl⟩
    | cons letter rest =>
      simp only [List.mem_cons, not_or] at cleanBehind
      have shorter : rest.length < (run ++ Ascii.percent :: letter :: rest).length := by
        simp only [List.length_append, List.length_cons]
        omega
      obtain ⟨written, same⟩ := ih _ shorter cleanBehind.2 rfl
      cases found : Directive.ofByte? letter with
      | some directive =>
        have byte : directive.byte = letter := by simpa using List.find?_some found
        simp only [found, spell_cons, same, Piece.bytes, byte]
        exact ⟨⟨⟨plain, cleanRun⟩, True.intro, written⟩, rfl⟩
      | none =>
        simp only [found, spell_cons, same, Piece.bytes]
        exact ⟨⟨⟨plain, cleanRun⟩, ⟨ofByte?_eq_none_iff.mp found, Ne.symm cleanBehind.1⟩, written⟩, rfl⟩
  · rw [piecesOf_eq, takeWhile_ne_of_not_mem percent, dropWhile_ne_of_not_mem percent]
    exact ⟨⟨⟨percent, clean⟩, True.intro⟩, by simp [spell, Piece.bytes]⟩

variable (time : CivilTime)

def scanned (layout : Bytes) : Bytes := Text.toBytes ((piecesOf layout).flatMap (Piece.text time))

theorem toBytes_cons (piece : Piece) (pieces : List Piece) :
    Text.toBytes ((piece :: pieces).flatMap (Piece.text time)) =
      (piece.text time).toBytes ++ Text.toBytes (pieces.flatMap (Piece.text time)) := by
  rw [List.flatMap_cons, Text.toBytes_append]

theorem scanned_append {run : Bytes} (plain : Ascii.percent ∉ run) (clean : 0 ∉ run) (rest : Bytes) :
    scanned time (run ++ rest) = run ++ scanned time rest := by
  have joined (front : Bytes) (pieces : List Piece) :
      Text.toBytes ((.literal (run ++ front) :: pieces).flatMap (Piece.text time)) =
        run ++ Text.toBytes ((.literal front :: pieces).flatMap (Piece.text time)) := by
    rw [toBytes_cons, toBytes_cons, Piece.text, Piece.text, Text.toBytes_ofBytes, Text.toBytes_ofBytes,
      Bytes.upToNul_append clean, List.append_assoc]
  rw [scanned, scanned, piecesOf_eq, piecesOf_eq rest, takeWhile_ne_append plain, dropWhile_ne_append plain]
  split
  · exact joined _ _
  · exact joined _ _
  · split <;> exact joined _ _

theorem scanned_directive (asked : Directive) (rest : Bytes) :
    scanned time (Ascii.percent :: asked.byte :: rest) = (time.text asked).toBytes ++ scanned time rest := by
  rw [scanned, piecesOf_eq, takeWhile_ne_cons, dropWhile_ne_cons]
  simp only [Directive.ofByte?_byte, toBytes_cons]
  rfl

theorem scanned_unknown {letter : UInt8} (other : letter ∉ Directive.all.map Directive.byte) (rest : Bytes) :
    scanned time (Ascii.percent :: letter :: rest) =
      (Piece.text time (.unknown letter)).toBytes ++ scanned time rest := by
  rw [scanned, piecesOf_eq, takeWhile_ne_cons, dropWhile_ne_cons]
  simp only [ofByte?_eq_none_iff.mpr other, toBytes_cons]
  rfl

theorem scanned_spell {pieces : List Piece} (written : Written pieces) :
    scanned time (spell pieces) = Text.toBytes (pieces.flatMap (Piece.text time)) := by
  induction pieces with
  | nil =>
    rw [show spell [] = [] from rfl, scanned, piecesOf_eq]
    rfl
  | cons piece pieces ih =>
    obtain ⟨fits, written⟩ := written
    rw [spell_cons, toBytes_cons, ← ih written]
    cases piece with
    | literal run =>
      rw [Piece.bytes, scanned_append time fits.1 fits.2, Piece.text, Text.toBytes_ofBytes,
        Bytes.upToNul_of_not_mem fits.2]
    | directive asked => exact scanned_directive time asked _
    | unknown letter => exact scanned_unknown time fits.1 _
    | loosePercent =>
      rw [show spell pieces = [] from fits, scanned, scanned, piecesOf_eq, piecesOf_eq []]
      rfl

theorem text_of_written {pieces : List Piece} {layout : Bytes} (written : Written pieces)
    (spelled : spell pieces = layout.upToNul) :
    (text layout time).toBytes = Text.toBytes (pieces.flatMap (Piece.text time)) := by
  rw [← scanned_spell time written, spelled]
  rfl

theorem toBytes_flatMap (pieces : List Piece) :
    Text.toBytes (pieces.flatMap (Piece.text time)) = (pieces.map fun piece => (piece.text time).toBytes).flatten := by
  induction pieces with
  | nil => rfl
  | cons piece pieces ih => rw [toBytes_cons, ih, List.map_cons, List.flatten_cons]

section Composites

/-- The dates and the clock readings that are asked for by one letter, with their parts asked for one by one. -/
def Piece.parts : Piece → List Piece
  | directive .date =>
    [directive .year, literal [Ascii.minus], directive .month, literal [Ascii.minus], directive .day]
  | directive .clock =>
    [directive .hour, literal [Ascii.colon], directive .minute, literal [Ascii.colon], directive .second]
  | piece => [piece]

theorem flatMap_text_parts (pieces : List Piece) :
    (pieces.flatMap Piece.parts).flatMap (Piece.text time) = pieces.flatMap (Piece.text time) := by
  rw [List.flatMap_assoc]
  congr 1
  funext piece
  cases piece with
  | directive asked => cases asked <;> simp [Piece.parts, Piece.text, CivilTime.text] <;> rfl
  | _ => exact List.flatMap_singleton ..

theorem spell_parts_eq_nil {pieces : List Piece} (nothing : spell pieces = []) :
    spell (pieces.flatMap Piece.parts) = [] := by
  rw [spell, List.flatMap_eq_nil_iff] at nothing
  rw [spell, List.flatMap_assoc, List.flatMap_eq_nil_iff]
  intro piece member
  have empty := nothing piece member
  cases piece with
  | literal run => exact (List.append_nil run).trans empty
  | _ => cases empty

theorem Written.parts {pieces : List Piece} (written : Written pieces) : Written (pieces.flatMap Piece.parts) := by
  induction pieces with
  | nil => exact True.intro
  | cons piece pieces ih =>
    obtain ⟨fits, written⟩ := written
    have others := ih written
    cases piece with
    | literal | unknown => exact ⟨fits, others⟩
    | loosePercent => exact ⟨spell_parts_eq_nil fits, others⟩
    | directive asked =>
      have dash : Ascii.percent ∉ [Ascii.minus] ∧ 0 ∉ [Ascii.minus] := by decide
      have colon : Ascii.percent ∉ [Ascii.colon] ∧ 0 ∉ [Ascii.colon] := by decide
      cases asked with
      | date => exact ⟨True.intro, dash, True.intro, dash, True.intro, others⟩
      | clock => exact ⟨True.intro, colon, True.intro, colon, True.intro, others⟩
      | _ => exact ⟨True.intro, others⟩

end Composites

end BoundedText.TimeLayout
