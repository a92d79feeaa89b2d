import BoundedText.Log.Level
import BoundedText.Log.Options
import BoundedText.Log.Template
import BoundedText.Time.Layout

namespace BoundedText

structure Location where
  path : Bytes
  line : UInt32
  function : Bytes
deriving DecidableEq, Repr

def Location.fileName (location : Location) : Bytes :=
  (location.path.reverse.takeWhile (· != Ascii.slash)).reverse

structure Occasion where
  seconds : UInt64
  nanoseconds : UInt32
  threadId : UInt64
  threadName : Option Bytes
  processId : UInt32
deriving DecidableEq, Repr

def Occasion.moment (occasion : Occasion) : Float :=
  occasion.seconds.toFloat + occasion.nanoseconds.toFloat / 1e9

/-- A place for finished lines. One that accepts nothing stays as it is, and a flush may leave a
    mark in either. -/
structure Sink where
  accepts : Bool
  flushMark : Bytes
  written : Bytes
deriving DecidableEq, Repr

namespace Sink

def write (sink : Sink) (line : Bytes) : Sink :=
  if sink.accepts then { sink with written := sink.written ++ line } else sink

def flush (sink : Sink) : Sink := { sink with written := sink.written ++ sink.flushMark }

end Sink

structure Report where
  severity : Severity
  parts : List Bytes
  file : Option Bytes
  line : Option UInt32
  modulePath : Option Bytes
deriving DecidableEq, Repr

def Report.location (report : Report) : Location :=
  ⟨report.file.getD (Bytes.ofString "<unknown>"), report.line.getD 0, report.modulePath.getD []⟩

structure Logger where
  options : LogOptions
  sink : Sink
  started : Float

namespace Logger

def lineCapacity : Nat := 1024

def timestampCapacity : Nat := 128

def blank (capacity : Nat) : Buffer := .openAt (List.replicate capacity 0) 0

def ofOptions (options : LogOptions) (openFile : Bytes → Option Sink) (standardError : Sink) (started : Float) :
    Logger :=
  ⟨options, (options.file.bind openFile).getD standardError, started⟩

/-- The time of an event in the layout of the options. Cutting can leave part of a character at the
    end, which is dropped. -/
def timestamp (options : LogOptions) (occasion : Occasion) : Bytes :=
  let time := CivilTime.ofUnix (Int64.ofInt (min occasion.seconds.toNat Int64.maxValue.toInt)) options.utcOffset
  Utf8.leadingText ((blank timestampCapacity).writeTime options.timeLayout time).text

def clampToInt32 (value : UInt32) : Int32 := Int32.ofNat (min value.toNat 2147483647)

def entry (logger : Logger) (occasion : Occasion) (level : Int32) (location : Location) (message : Bytes)
    (arguments : List Argument) : Entry where
  name := Bytes.ofString "root"
  levelNumber := level
  levelName := Bytes.ofString (Level.nameOf level)
  path := location.path
  fileName := location.fileName
  function := location.function
  lineNumber := clampToInt32 location.line
  created := .ofFloat occasion.moment
  sinceStart := .ofFloat ((occasion.moment - logger.started) * 1000)
  timestamp := timestamp logger.options occasion
  milliseconds := occasion.nanoseconds / 1000000
  threadId := occasion.threadId
  threadName := occasion.threadName.getD (Bytes.ofString "UnknownThread")
  processId := clampToInt32 occasion.processId
  message
  arguments

def line (logger : Logger) (entry : Entry) : Outcome :=
  (blank lineCapacity).writeEntry .placeholder logger.options.template entry

/-- Writes the line of an entry in one go. A line that fails is not written at all. -/
def emit (logger : Logger) (entry : Entry) : Logger × Except FormatError Unit :=
  let line := logger.line entry
  match line.result with
  | .ok _ => ({ logger with sink := logger.sink.write line.buffer.text }, .ok ())
  | .error error => (logger, .error error)

def raise (logger : Logger) (occasion : Occasion) (level : Int32) (location : Location) (format : Bytes)
    (arguments : List Argument) : Logger × Except FormatError Unit :=
  if level < logger.options.level then (logger, .ok ())
  else logger.emit (logger.entry occasion level location format arguments)

def enabled (logger : Logger) (severity : Severity) : Bool := logger.options.level ≤ severity.number

def messageOf (report : Report) : Bytes := ((blank lineCapacity).writeParts report.parts).text

def log (logger : Logger) (occasion : Occasion) (report : Report) : Logger :=
  if logger.enabled report.severity then
    (logger.emit (logger.entry occasion report.severity.number report.location (Bytes.ofString "%s")
      [.text (messageOf report)])).1
  else logger

def flush (logger : Logger) : Logger := { logger with sink := logger.sink.flush }

end Logger

inductive Call where
  | raise (occasion : Occasion) (level : Int32) (location : Location) (format : Bytes) (arguments : List Argument)
  | log (occasion : Occasion) (report : Report)
  | enabled (severity : Severity)
  | flush
deriving DecidableEq, Repr

inductive Answer where
  | raised (result : Except FormatError Unit)
  | logged
  | enabled (answer : Bool)
  | flushed

def Logger.answer (logger : Logger) : Call → Logger × Answer
  | .raise occasion level location format arguments =>
    let (logger, result) := logger.raise occasion level location format arguments
    (logger, .raised result)
  | .log occasion report => (logger.log occasion report, .logged)
  | .enabled severity => (logger, .enabled (logger.enabled severity))
  | .flush => (logger.flush, .flushed)

end BoundedText
