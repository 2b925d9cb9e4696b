import LookML.Json
import LookML.Report.Text
/-!
# Reports as JSON
-/

namespace LookML

def Location.toJson (l : Location) : Json.Value :=
  .object [("path", .text l.path), ("line", .number l.line), ("column", .number l.column),
    ("end_line", .number l.endLine), ("end_column", .number l.endColumn)]

/-- The fields of a violation. The last two are left out if there is nothing to say. -/
def Violation.toJson (v : Violation) : Json.Value :=
  .object <| [("rule_id", .text v.rule.text), ("severity", .text v.severity.word),
    ("origin", .text v.origin.word), ("message", .text v.message), ("path", .text v.path),
    ("line", Json.ofNumber? v.line), ("column", Json.ofNumber? v.column)] ++
    (v.entity.map fun e => ("entity", Json.Value.text e)).toList ++
    if v.related.isEmpty then [] else [("related", .list (v.related.map Location.toJson))]

namespace Report

def summary (r : Report) : Json.Value :=
  .object [("files", .number r.documents), ("entities", .number r.entities),
    ("rules", .number r.rules), ("errors", .number (r.count .error)),
    ("warnings", .number (r.count .warning)), ("info", .number (r.count .info))]

def toJson (r : Report) : Json.Value :=
  .object [("violations", .list (r.violations.map Violation.toJson)), ("summary", r.summary)]

end Report

def Rule.toJson (rule : Rule) : Json.Value :=
  .object [("id", .text rule.id.text), ("scope", .text rule.scope.word),
    ("severity", .text rule.severity.word), ("description", .text rule.description)]

end LookML
