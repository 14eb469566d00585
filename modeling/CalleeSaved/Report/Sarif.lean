import CalleeSaved.Diagnostic.Basic

/-!
# Exchange logs

A SARIF log holds one run of a tool: the rules in the order of their first result, and a result
for every diagnostic.
-/

namespace CalleeSaved
namespace Sarif

/-- The address of the schema of the format. -/
def schema : String :=
  "https://raw.githubusercontent.com/oasis-tcs/sarif-spec/master/Schemata/sarif-schema-2.1.0.json"

/-- A member that is left out when it is zero. -/
def nonzero (name : String) (n : Int) : List (String × Json) :=
  if n = 0 then [] else [(name, .num n)]

/-- The range of a source line that a diagnostic covers. -/
def region (diagnostic : Diagnostic) : Json :=
  .obj ([("startLine", .num diagnostic.location.line)] ++
    nonzero "startColumn" diagnostic.location.column ++
    nonzero "endColumn" diagnostic.endColumn)

/-- The result for a diagnostic. -/
def result (diagnostic : Diagnostic) : Json :=
  .obj [
    ("ruleId", .str diagnostic.id),
    ("level", .str diagnostic.severity.level),
    ("message", .obj [("text", .str diagnostic.message)]),
    ("locations", .arr [.obj [
      ("physicalLocation", .obj [
        ("artifactLocation", .obj [("uri", .str diagnostic.location.file)]),
        ("region", region diagnostic)])]]),
    ("properties", .obj [
      ("register", .str diagnostic.register),
      ("subroutine", .str diagnostic.routine)])]

/-- The rule with an identifier. -/
def rule (id : String) : Json :=
  .obj [
    ("id", .str id),
    ("shortDescription", .obj [("text", .str "preserved register modified without stack save")])]

/-- The identifiers of diagnostics, each once, in the order of their first use. -/
def ruleIds (diagnostics : List Diagnostic) : List String :=
  (diagnostics.map Diagnostic.id).eraseDups

/-- The log of a run. -/
def log (toolName toolVersion : String) (diagnostics : List Diagnostic) : Json :=
  let driver : Json := .obj [
    ("name", .str toolName),
    ("version", .str toolVersion),
    ("rules", .arr ((ruleIds diagnostics).map rule))]
  .obj [
    ("$schema", .str schema),
    ("version", .str "2.1.0"),
    ("runs", .arr [.obj [
      ("tool", .obj [("driver", driver)]),
      ("results", .arr (diagnostics.map result))]])]

/-- The text of the log of a run. -/
def render (limits : Limits) (toolName toolVersion : String) (diagnostics : List Diagnostic) :
    Except NumberError String :=
  (log toolName toolVersion diagnostics).write limits Json.pretty

end Sarif
end CalleeSaved
