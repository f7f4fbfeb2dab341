import Telemetry.Json.Writer
import Telemetry.Log.Basic

/-! # Log lines

An entry as one line of JSON: its severity, the name of the program, the part that wrote it
unless that is the root, its fields and its message.
-/
namespace Telemetry.Log

def Entry.record (e : Entry) (levels : Levels) (program : String) : Datum :=
  let severity := ((levels.severity? e.level).map fun n => ("level", Datum.ofNat n)).toList
  let part := if e.source = .root then [] else [("logger", Datum.text e.source.name)]
  .record (severity ++ [("name", .text program)] ++ part ++ e.fields ++ [("msg", .text e.message)])

def Entry.line (e : Entry) (levels : Levels) (program : String) : String :=
  Json.write (e.record levels program)

end Telemetry.Log
