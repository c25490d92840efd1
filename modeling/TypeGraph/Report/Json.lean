import TypeGraph.Json.Printer
import TypeGraph.Report

/-!
# TypeGraph.Report.Json

Reports as JSON texts.  What a type or package does not have is null.
-/

namespace TypeGraph

/-- The numbers as a JSON object. -/
def ModelStats.toJson (stats : ModelStats) : Json :=
  .ofFields [
    ("packages", .ofNat stats.packages),
    ("classes", .ofNat stats.classes),
    ("interfaces", .ofNat stats.interfaces),
    ("user_defined", .ofNat stats.userDefined),
    ("methods", .ofNat stats.methods),
    ("constants", .ofNat stats.constants),
    ("functions", .ofNat stats.functions)]

/-- The summary as a JSON object. -/
def TypeSummary.toJson (summary : TypeSummary) : Json :=
  .ofFields [
    ("name", .ofString summary.name),
    ("kind", .ofString summary.kind.word),
    ("package", .ofOption summary.package),
    ("user_defined", .bool summary.userDefined),
    ("abstract", .bool summary.isAbstract),
    ("parent", .ofOption summary.parent),
    ("interfaces", .ofStrings summary.interfaces),
    ("dependencies", .ofStrings summary.dependencies),
    ("children", .ofStrings summary.children),
    ("depth", .ofNat summary.depth)]

namespace Report

/-- The report as a JSON object.  `generated` is the time at which it was
made, if that is to be told. -/
def toJson (report : Report) (generated : Option String) : Json :=
  .ofFields [
    ("generated", .ofOption generated),
    ("stats", report.stats.toJson),
    ("types", .array (report.types.map (·.toJson))),
    ("cycles", .array (report.cycles.map .ofStrings))]

/-- The report as a text. -/
def text (report : Report) (generated : Option String) : String :=
  (report.toJson generated).pretty

end Report

end TypeGraph
