import BoundedText.Bytes

namespace BoundedText

/-- The largest width or precision that can be asked for. Larger numerals stand for this one. -/
def maxCount : Nat := 0xffffffffffffffff

def addCounts (left right : Nat) : Nat := min (left + right) maxCount

/-- A stretch of output. A run stands for its bytes without listing them, since a field may be
    wider than any memory. Listed bytes end at their first NUL, and NULs are never a run. -/
inductive Span where
  | bytes (listed : Bytes)
  | run (byte : UInt8) (count : Nat)
deriving DecidableEq, Repr

abbrev Text := List Span

def Span.toBytes : Span → Bytes
  | .bytes listed => listed.upToNul
  | .run byte count => if byte = 0 then [] else List.replicate count byte

namespace Text

def toBytes (text : Text) : Bytes := text.flatMap Span.toBytes

def ofBytes (bytes : Bytes) : Text := [.bytes bytes]

def ofByte (byte : UInt8) : Text := [.bytes [byte]]

def ofString (text : String) : Text := [.bytes (Bytes.ofString text)]

theorem toBytes_nil : toBytes [] = [] := rfl

theorem toBytes_cons (span : Span) (text : Text) : toBytes (span :: text) = span.toBytes ++ toBytes text := rfl

theorem toBytes_append (left right : Text) : toBytes (left ++ right) = toBytes left ++ toBytes right :=
  List.flatMap_append

end Text

theorem Span.zero_not_mem_toBytes (span : Span) : 0 ∉ span.toBytes := by
  cases span with
  | bytes listed => exact Bytes.zero_not_mem_upToNul listed
  | run byte count =>
    simp only [Span.toBytes]
    split
    · simp
    · simp only [List.mem_replicate, not_and]
      intro _ same
      simp_all

theorem Text.zero_not_mem_toBytes (text : Text) : 0 ∉ text.toBytes := by
  simp only [Text.toBytes, List.mem_flatMap, not_exists, not_and]
  exact fun span _ => span.zero_not_mem_toBytes

end BoundedText
