import BoundedText.Proofs.Log.Logging
import BoundedText.Proofs.Utf8.LeadingText
import BoundedText.Proofs.Utf8.Time

namespace BoundedText.Logger

open Bytes

variable (options : LogOptions) (occasion : Occasion)

def fullTimestamp : Bytes :=
  let unix := Int64.ofInt (min occasion.seconds.toNat (2 ^ 63 - 1))
  (TimeLayout.text options.timeLayout (CivilTime.ofUnix unix options.utcOffset)).toBytes

theorem timestamp_eq : timestamp options occasion = Utf8.leadingText ((fullTimestamp options occasion).take 127) := by
  rw [timestamp, Buffer.writeTime_eq, Buffer.write_eq, text_append_blank]
  rfl

theorem isLongestFront_timestamp {options : LogOptions} (layout : options.timeLayout.IsUtf8) :
    IsLongestFront 127 (fullTimestamp options occasion) (timestamp options occasion) := by
  rw [timestamp_eq]
  exact isLongestFront_leadingText (TimeLayout.isUtf8_text layout _) 127

theorem upToNul_timestamp {options : LogOptions} (layout : options.timeLayout.IsUtf8) :
    (timestamp options occasion).upToNul = timestamp options occasion := by
  apply upToNul_of_not_mem
  intro member
  exact Text.zero_not_mem_toBytes _ ((isLongestFront_timestamp occasion layout).ends.isPrefix.subset member)

/-- A placeholder for the time shows as much of it as 127 bytes hold of whole characters, and all of it if it is no
    longer. -/
theorem asctime_shows_longest_front (logger : Logger) (occasion : Occasion) (level : Int32) (location : Location)
    (message : Bytes) (arguments : List Argument) (suffix : UInt8) (layout : logger.options.timeLayout.IsUtf8) :
    let entry := logger.entry occasion level location message arguments
    let shown := (Template.Piece.expand .placeholder entry (.placeholder (ofString "asctime") suffix)).bytes
    let unix := Int64.ofInt (min occasion.seconds.toNat (2 ^ 63 - 1))
    let whole := (TimeLayout.text logger.options.timeLayout (CivilTime.ofUnix unix logger.options.utcOffset)).toBytes
    IsLongestFront 127 whole shown ∧ (whole.length ≤ 127 → shown = whole) ∧
      (127 < whole.length → 124 ≤ shown.length) := by
  intro entry shown unix whole
  have known : Key.ofBytes? (ofString "asctime") = some .timestamp := Key.ofBytes?_spelling .timestamp
  have written : shown = timestamp logger.options occasion := by
    simp only [shown, Template.Piece.expand, known]
    exact (Text.toBytes_ofBytes _).trans (upToNul_timestamp occasion layout)
  have longest : IsLongestFront 127 whole shown := written ▸ isLongestFront_timestamp occasion layout
  refine ⟨longest, longest.eq_whole, fun cut => ?_⟩
  have bound := longest.room_le cut
  omega

theorem asctime_shows_longest_front_cut :
    let chars := ['%', '\u00e9'] ++ List.replicate 123 'x' ++ ['\u20ac']
    let options : LogOptions := { LogOptions.standard with timeLayout := ofChars chars }
    let logger : Logger := ⟨options, ⟨true, [], []⟩, 0⟩
    let entry := logger.entry ⟨951782400, 0, 1, none, 1⟩ 20 ⟨[], 0, []⟩ [] []
    let shown := (Template.Piece.expand .placeholder entry (.placeholder (ofString "asctime") 0x73)).bytes
    let whole := (TimeLayout.text options.timeLayout (CivilTime.ofUnix 951782400 0)).toBytes
    options.timeLayout.IsUtf8 ∧ whole.length = 129 ∧ IsLongestFront 127 whole shown ∧ 124 ≤ shown.length := by
  intro chars options logger entry shown whole
  have layout : options.timeLayout.IsUtf8 := ⟨chars, rfl⟩
  have length : whole.length = 129 := by decide +kernel
  obtain ⟨longest, -, cut⟩ :=
    asctime_shows_longest_front logger ⟨951782400, 0, 1, none, 1⟩ 20 ⟨[], 0, []⟩ [] [] 0x73 layout
  have long : 127 < whole.length := by
    rw [length]
    decide
  exact ⟨layout, length, longest, cut long⟩

end BoundedText.Logger
