import BoundedText.Slice
import BoundedText.Quoted
import BoundedText.Log.Logger
import BoundedText.Proofs.Reopening
import BoundedText.Proofs.LeadingRun
import BoundedText.Proofs.Format.Filling
import BoundedText.Proofs.Format.Spelling
import BoundedText.Proofs.Format.Segments
import BoundedText.Proofs.Format.Verdict
import BoundedText.Proofs.Format.Chaining
import BoundedText.Proofs.Field
import BoundedText.Proofs.Log.Line
import BoundedText.Proofs.Log.Logging
import BoundedText.Proofs.Log.Session
import BoundedText.Proofs.Log.Recording
import BoundedText.Proofs.Log.LeadingInteger
import BoundedText.Proofs.Time.Calendar
import BoundedText.Proofs.Time.Era
import BoundedText.Proofs.Time.Checked
import BoundedText.Proofs.Time.WallClock
import BoundedText.Proofs.Utf8.Encoding
import BoundedText.Proofs.Utf8.Field
import BoundedText.Proofs.Utf8.Format
import BoundedText.Proofs.Utf8.Line
import BoundedText.Proofs.Utf8.Time
import BoundedText.Proofs.Utf8.Run
import BoundedText.Proofs.Format.Grammar
import BoundedText.Proofs.Format.Unpadded
import BoundedText.Proofs.Number.Rounding
import BoundedText.Proofs.Format.Integer
import BoundedText.Proofs.Format.Width
import BoundedText.Proofs.Number.Places
import BoundedText.Proofs.Format.Places
import BoundedText.Proofs.Format.Incremental
import BoundedText.Proofs.Format.Modes
import BoundedText.Proofs.Log.Modes
import BoundedText.Proofs.Log.Requests
import BoundedText.Proofs.Time.Shown
import BoundedText.Proofs.Time.CheckedText
import BoundedText.Proofs.Time.Writing
import BoundedText.Proofs.Numeral.Order
import BoundedText.Proofs.Numeral.Scratch
import BoundedText.Proofs.Time.Chronology
import BoundedText.Proofs.Utf8.LeadingText
import BoundedText.Proofs.Log.Timestamp
import BoundedText.Proofs.Splice
