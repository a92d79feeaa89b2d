import BoundedText.Log.Template
import BoundedText.Proofs.LeadingRun

namespace BoundedText.Template

open LeadingRun

def Piece.bytes : Piece → Bytes
  | literal run => run
  | percent => [Ascii.percent, Ascii.percent]
  | stray => [Ascii.percent]
  | placeholder key suffix => Ascii.percent :: Ascii.openParen :: (key ++ [Ascii.closeParen, suffix])
  | group key => Ascii.percent :: Ascii.openParen :: (key ++ [Ascii.closeParen])
  | unclosed tail => Ascii.percent :: Ascii.openParen :: tail

def spell (pieces : List Piece) : Bytes := pieces.flatMap Piece.bytes

/-- What a piece may hold and what may stand behind it, if its bytes are to mean this piece. A stray percent
    sign and a group must not be taken for more than they are, and nothing stands behind an unclosed group. -/
def Piece.Fits (behind : Bytes) : Piece → Prop
  | literal run => Ascii.percent ∉ run ∧ 0 ∉ run
  | percent => True
  | stray => behind.head? ≠ some Ascii.percent ∧ behind.head? ≠ some Ascii.openParen
  | placeholder key suffix => (Ascii.closeParen ∉ key ∧ 0 ∉ key) ∧ isSuffix suffix = true
  | group key => (Ascii.closeParen ∉ key ∧ 0 ∉ key) ∧ ∀ byte ∈ behind.head?, isSuffix byte = false
  | unclosed tail => (Ascii.closeParen ∉ tail ∧ 0 ∉ tail) ∧ behind = []

instance Piece.decidableFits (behind : Bytes) : (piece : Piece) → Decidable (piece.Fits behind)
  | literal _ | stray | unclosed _ => inferInstanceAs (Decidable (_ ∧ _))
  | percent => inferInstanceAs (Decidable True)
  | placeholder _ _ => inferInstanceAs (Decidable (_ ∧ _))
  | group _ => inferInstanceAs (Decidable (_ ∧ _))

def Written : List Piece → Prop
  | [] => True
  | piece :: pieces => piece.Fits (spell pieces) ∧ Written pieces

instance decidableWritten : (pieces : List Piece) → Decidable (Written pieces)
  | [] => inferInstanceAs (Decidable True)
  | _ :: pieces =>
    have := decidableWritten pieces
    inferInstanceAs (Decidable (_ ∧ _))

theorem spell_cons (piece : Piece) (pieces : List Piece) : spell (piece :: pieces) = piece.bytes ++ spell pieces :=
  List.flatMap_cons

theorem spell_append (front behind : List Piece) : spell (front ++ behind) = spell front ++ spell behind :=
  List.flatMap_append

theorem Written.front {before behind : List Piece} {key : Bytes} {suffix : UInt8}
    (written : Written (before ++ .placeholder key suffix :: behind)) : Written before := by
  induction before with
  | nil => exact True.intro
  | cons piece before ih =>
    rw [List.cons_append] at written
    obtain ⟨fits, written⟩ := written
    refine ⟨?_, ih written⟩
    rw [spell_append, spell_cons] at fits
    cases piece with
    | literal run => exact fits
    | percent => exact True.intro
    | placeholder other letter => exact fits
    | stray =>
      cases spelled : spell before with
      | nil =>
        rw [spelled] at fits
        exact absurd rfl fits.1
      | cons byte others =>
        rw [spelled] at fits
        exact fits
    | group other =>
      refine ⟨fits.1, fun byte first => fits.2 byte ?_⟩
      rw [List.head?_append, first]
      rfl
    | unclosed tail =>
      have nothing := fits.2
      rw [List.append_eq_nil_iff] at nothing
      cases nothing.2

section Reading

theorem readPiece_stray {rest : Bytes} (noPercent : rest.head? ≠ some Ascii.percent)
    (noGroup : rest.head? ≠ some Ascii.openParen) : readPiece rest = (.stray, rest) := by
  unfold readPiece
  split
  · exact absurd rfl noPercent
  · exact absurd rfl noGroup
  · rfl

theorem readPiece_openParen (inner : Bytes) :
    readPiece (Ascii.openParen :: inner) =
      match inner.dropWhile (· != Ascii.closeParen) with
      | [] => (.unclosed inner, [])
      | [_] => (.group (inner.takeWhile (· != Ascii.closeParen)), [])
      | _ :: suffix :: rest =>
        if isSuffix suffix then (.placeholder (inner.takeWhile (· != Ascii.closeParen)) suffix, rest)
        else (.group (inner.takeWhile (· != Ascii.closeParen)), suffix :: rest) := rfl

theorem readPiece_placeholder {key : Bytes} (plain : Ascii.closeParen ∉ key) {suffix : UInt8}
    (letter : isSuffix suffix = true) (rest : Bytes) :
    readPiece (Ascii.openParen :: (key ++ Ascii.closeParen :: suffix :: rest)) = (.placeholder key suffix, rest) := by
  rw [readPiece_openParen, takeWhile_ne_append_cons plain, dropWhile_ne_append_cons plain]
  simp only [letter, ↓reduceIte]

theorem readPiece_group {key : Bytes} (plain : Ascii.closeParen ∉ key) {behind : Bytes}
    (noSuffix : ∀ byte ∈ behind.head?, isSuffix byte = false) :
    readPiece (Ascii.openParen :: (key ++ Ascii.closeParen :: behind)) = (.group key, behind) := by
  rw [readPiece_openParen, takeWhile_ne_append_cons plain, dropWhile_ne_append_cons plain]
  cases behind with
  | nil => rfl
  | cons byte rest => simp only [noSuffix byte rfl, Bool.false_eq_true, ↓reduceIte]

theorem readPiece_unclosed {tail : Bytes} (plain : Ascii.closeParen ∉ tail) :
    readPiece (Ascii.openParen :: tail) = (.unclosed tail, []) := by
  rw [readPiece_openParen, dropWhile_ne_of_not_mem plain]

theorem readPiece_spelled {rest : Bytes} (clean : 0 ∉ rest) :
    (readPiece rest).1.bytes ++ (readPiece rest).2 = Ascii.percent :: rest ∧
      (readPiece rest).1.Fits (readPiece rest).2 := by
  by_cases percent : rest.head? = some Ascii.percent
  · obtain ⟨behind, rfl⟩ := List.head?_eq_some_iff.mp percent
    exact ⟨rfl, True.intro⟩
  by_cases opened : rest.head? = some Ascii.openParen
  · obtain ⟨inner, rfl⟩ := List.head?_eq_some_iff.mp opened
    rw [List.mem_cons, not_or] at clean
    by_cases closed : Ascii.closeParen ∈ inner
    · obtain ⟨key, behind, rfl, plain⟩ := List.eq_append_cons_of_mem closed
      have cleanKey : 0 ∉ key := fun member => clean.2 (List.mem_append_left _ member)
      by_cases letter : ∃ suffix rest, behind = suffix :: rest ∧ isSuffix suffix = true
      · obtain ⟨suffix, rest, rfl, letter⟩ := letter
        rw [readPiece_placeholder plain letter]
        exact ⟨by simp [Piece.bytes], ⟨plain, cleanKey⟩, letter⟩
      · have noSuffix : ∀ byte ∈ behind.head?, isSuffix byte = false := by
          intro byte first
          obtain ⟨rest, rfl⟩ := List.head?_eq_some_iff.mp first
          exact Bool.eq_false_iff.mpr fun suffix => letter ⟨byte, rest, rfl, suffix⟩
        rw [readPiece_group plain noSuffix]
        exact ⟨by simp [Piece.bytes], ⟨plain, cleanKey⟩, noSuffix⟩
    · rw [readPiece_unclosed closed]
      exact ⟨by simp [Piece.bytes], ⟨closed, clean.2⟩, rfl⟩
  · rw [readPiece_stray percent opened]
    exact ⟨rfl, percent, opened⟩

end Reading

section Scanning

theorem piecesOf_eq (template : Bytes) :
    piecesOf template =
      match template.dropWhile (· != Ascii.percent) with
      | [] => [.literal (template.takeWhile (· != Ascii.percent))]
      | _ :: rest =>
        .literal (template.takeWhile (· != Ascii.percent)) :: (readPiece rest).1 :: piecesOf (readPiece rest).2 := by
  rw [piecesOf]
  split <;> rename_i split <;> rw [split]

theorem piecesOf_percent (rest : Bytes) :
    piecesOf (Ascii.percent :: rest) = .literal [] :: (readPiece rest).1 :: piecesOf (readPiece rest).2 := by
  rw [piecesOf_eq, takeWhile_ne_cons, dropWhile_ne_cons]

theorem piecesOf_bytes_append {piece : Piece} {behind : Bytes} (fits : piece.Fits behind)
    (marked : ∀ run, piece ≠ .literal run) :
    piecesOf (piece.bytes ++ behind) = .literal [] :: piece :: piecesOf behind := by
  cases piece with
  | literal run => exact absurd rfl (marked run)
  | percent => exact piecesOf_percent (Ascii.percent :: behind)
  | stray =>
    rw [Piece.bytes, List.cons_append, List.nil_append, piecesOf_percent, readPiece_stray fits.1 fits.2]
  | placeholder key suffix =>
    have read := readPiece_placeholder fits.1.1 fits.2 behind
    simp only [Piece.bytes, List.cons_append, List.append_assoc, List.nil_append, piecesOf_percent, read]
  | group key =>
    have read := readPiece_group fits.1.1 fits.2
    simp only [Piece.bytes, List.cons_append, List.append_assoc, List.nil_append, piecesOf_percent, read]
  | unclosed tail =>
    obtain ⟨⟨plain, -⟩, rfl⟩ := fits
    rw [List.append_nil, Piece.bytes, piecesOf_percent, readPiece_unclosed plain]

theorem piecesOf_append {front : Bytes} (plain : Ascii.percent ∉ front) (rest : Bytes) :
    ∃ run pieces, piecesOf rest = .literal run :: pieces ∧
      piecesOf (front ++ rest) = .literal (front ++ run) :: pieces := by
  rw [piecesOf_eq rest, piecesOf_eq (front ++ rest), takeWhile_ne_append plain, dropWhile_ne_append plain]
  cases rest.dropWhile (· != Ascii.percent) with
  | nil => exact ⟨_, _, rfl, rfl⟩
  | cons percent behind => exact ⟨_, _, rfl, rfl⟩

theorem piecesOf_written {template : Bytes} (clean : 0 ∉ template) :
    Written (piecesOf template) ∧ spell (piecesOf template) = template := by
  induction length : template.length using Nat.strongRecOn generalizing template with
  | ind _ ih =>
  subst length
  by_cases percent : Ascii.percent ∈ template
  · obtain ⟨run, rest, rfl, plain⟩ := List.eq_append_cons_of_mem percent
    simp only [List.mem_append, List.mem_cons, not_or] at clean
    obtain ⟨cleanRun, -, cleanRest⟩ := clean
    obtain ⟨spelled, fits⟩ := readPiece_spelled cleanRest
    have cleanBehind : 0 ∉ (readPiece rest).2 := by
      intro member
      have inside := List.mem_append_right (readPiece rest).1.bytes member
      rw [spelled, List.mem_cons] at inside
      exact inside.elim (by decide) cleanRest
    have shorter : (readPiece rest).2.length < (run ++ Ascii.percent :: rest).length := by
      have bound := length_readPiece_le rest
      simp only [List.length_append, List.length_cons]
      omega
    obtain ⟨written, same⟩ := ih _ shorter cleanBehind rfl
    rw [piecesOf_eq, takeWhile_ne_append_cons plain, dropWhile_ne_append_cons plain]
    refine ⟨⟨⟨plain, cleanRun⟩, ?_, written⟩, ?_⟩
    · rwa [same]
    · rw [spell_cons, spell_cons, same, spelled, Piece.bytes]
  · rw [piecesOf_eq, takeWhile_ne_of_not_mem percent, dropWhile_ne_of_not_mem percent]
    exact ⟨⟨⟨percent, clean⟩, True.intro⟩, by simp [spell, Piece.bytes]⟩

end Scanning

end BoundedText.Template
