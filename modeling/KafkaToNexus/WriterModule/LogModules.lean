import KafkaToNexus.WriterModule.LogWriter

/-!
# The modules f142 and f144

f144 is the common writer.  f142 also records the changes of the alarm status;
it does not get to them when the common part ends early.
-/

namespace KafkaToNexus.WriterModule

open KafkaToNexus.Foundations KafkaToNexus.NeXusDataset

namespace F142

inductive AlarmStatus where
  | noAlarm
  | writeAccess
  | readAccess
  | read
  | write
  | hwlimit
  | disable
  | badSub
  | timed
  | soft
  | simm
  | link
  | low
  | lolo
  | high
  | hihi
  | scan
  | state
  | cos
  | udf
  | «calc»
  | comm
  | noChange
  | other (code : UInt16)
deriving DecidableEq, Repr

def AlarmStatus.toString : AlarmStatus → String
  | noAlarm => "NO_ALARM"
  | writeAccess => "WRITE_ACCESS"
  | readAccess => "READ_ACCESS"
  | read => "READ"
  | write => "WRITE"
  | hwlimit => "HWLIMIT"
  | disable => "DISABLE"
  | badSub => "BAD_SUB"
  | timed => "TIMED"
  | soft => "SOFT"
  | simm => "SIMM"
  | link => "LINK"
  | low => "LOW"
  | lolo => "LOLO"
  | high => "HIGH"
  | hihi => "HIHI"
  | scan => "SCAN"
  | state => "STATE"
  | cos => "COS"
  | udf => "UDF"
  | «calc» => "CALC"
  | comm => "COMM"
  | noChange => "NO_CHANGE"
  | other _ => "UNRECOGNISED_STATUS"

inductive AlarmSeverity where
  | minor
  | major
  | noAlarm
  | invalid
  | noChange
  | other (code : Int16)
deriving DecidableEq, Repr

/-- The severities in the file. -/
inductive Severity where
  | ok
  | minor
  | major
  | invalid
  /-- The zero that the subscript of the map gives for an unknown key. -/
  | zero
deriving DecidableEq, Repr, Inhabited

def f142SeverityToAl00Severity : AlarmSeverity → Severity
  | .minor => .minor
  | .major => .major
  | .noAlarm => .ok
  | .invalid => .invalid
  | .noChange => .invalid
  | .other _ => .zero

structure LogData (Element : Type*) extends WriterModule.LogData Element where
  status : AlarmStatus := .noChange
  severity : AlarmSeverity := .noChange
deriving DecidableEq, Repr

structure Writer (Stored Double : Type*) extends LogWriter Stored Double where
  alarmTime : ExtensibleDataset UInt64 := {}
  alarmStatus : ExtensibleDataset String := {}
  alarmSeverity : ExtensibleDataset Severity := {}

variable {Element Stored Double : Type*}

def appendAlarm (message : LogData Element) (writer : Writer Stored Double) :
    Writer Stored Double :=
  if message.status ≠ .noChange then
    { writer with
      alarmTime := writer.alarmTime.appendElement message.timestamp
      alarmStatus := writer.alarmStatus.appendElement message.status.toString
      alarmSeverity :=
        writer.alarmSeverity.appendElement
          (f142SeverityToAl00Severity message.severity) }
  else
    writer

variable [Inhabited Stored]

def opened [Zero Double] (config : LogConfig) : Writer Stored Double :=
  { toLogWriter := .opened config }

variable [Zero Double] [Add Double] [Div Double] [Min Double] [Max Double]
  [NatCast Double]

def write (conversions : Conversions Element Stored Double)
    (config : LogConfig) (message : LogData Element) :
    Throwing (Writer Stored Double) WriteFailure :=
  fun writer =>
    match LogWriter.write conversions config message.toLogData
        "Unknown data type in f142 flatbuffer." writer.toLogWriter with
    | (log, some failure) => ({ writer with toLogWriter := log }, some failure)
    | (log, none) =>
        (appendAlarm message { writer with toLogWriter := log }, none)

end F142

namespace F144

variable {Element Stored Double : Type*} [Inhabited Stored]
  [Zero Double] [Add Double] [Div Double] [Min Double] [Max Double]
  [NatCast Double]

def opened (config : LogConfig) : LogWriter Stored Double :=
  .opened config

def write (conversions : Conversions Element Stored Double)
    (config : LogConfig) (message : LogData Element) :
    Throwing (LogWriter Stored Double) WriteFailure :=
  LogWriter.write conversions config message
    "Unknown data type in f144 flatbuffer."

end F144

end KafkaToNexus.WriterModule
