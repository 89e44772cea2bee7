import CodeAtlas.Cli.Arguments
import CodeAtlas.Config.Settings
import CodeAtlas.Json.Printer
import CodeAtlas.Json.Report
import CodeAtlas.Terminal.Console
import CodeAtlas.Terminal.Listing

/-!
# What commands print

The answer of each command as lines for a reader or, if asked for, as JSON. Warnings go to the error output
and are not part of a JSON answer.
-/

namespace CodeAtlas.Cli

open Terminal (Printed Theme)

structure Output where
  out : List Printed
  err : String
  deriving DecidableEq, Repr

def Output.none : Output := { out := [], err := "" }

def Output.ofLines (out : List Printed) : Output := { out, err := "" }

def Output.ofJson (value : Json) : Output := .ofLines [.line value.pretty]

def Output.append (a b : Output) : Output := { out := a.out ++ b.out, err := a.err ++ b.err }

structure Context where
  theme : Theme
  options : GlobalOptions
  settings : Settings

def listing {α : Type} (c : Context) (encode : α → Json) (shown : List α → String)
    (emptyWarning : String) (items : List α) : Output :=
  if c.options.json then .ofJson (.array (items.map encode))
  else if items.isEmpty then { out := [], err := Terminal.warning c.theme emptyWarning }
  else .ofLines [.line (shown items)]

def showHits (c : Context) (query : String) (hits : List NodeSummary) : Output :=
  if c.options.json then .ofJson (.array (hits.map Json.ofSummary))
  else
    let lines := hits.map fun hit =>
      Printed.line ("  🔍 " ++ c.theme.accent.apply hit.id ++ " " ++
        c.theme.dim.apply ("(" ++ hit.kind.label ++ ")"))
    { out := .header c.theme ("Search: " ++ query) :: lines
      err := if hits.isEmpty then Terminal.warning c.theme "No matching modules." else "" }

def relationLines (icon : String) (relations : List Relation) : List Printed :=
  relations.map fun r => .line ("  " ++ icon ++ " " ++ r.nodeId)

def packageLines (t : Theme) (packages : List Package) : List Printed :=
  if packages.isEmpty then []
  else
    Printed.titled t "Packages" ++ [.line (Terminal.packagesTable packages)] ++
      (packages.filter (·.isHighRisk)).map fun p =>
        .line ("  📦 " ++ (t.risk p.risk).apply (p.name ++ ": " ++ p.risk))

def showDetail (c : Context) (d : ModuleDetail) : Output :=
  if c.options.json then .ofJson (Json.ofDetail d)
  else
    let t := c.theme
    .ofLines <|
      [.header t (d.kind.label ++ " " ++ t.accent.apply d.id), .info t "Namespace" d.nspace,
        .info t "File" d.filePath] ++
      Printed.titled t ("Outgoing (" ++ toString d.outgoing.length ++ ")") ++
      relationLines "➡️" d.outgoing ++
      Printed.titled t ("Incoming (" ++ toString d.incoming.length ++ ")") ++
      relationLines "⬅️" d.incoming ++
      packageLines t d.packageRisks

def showExplanation (c : Context) (e : Explanation) : Output :=
  if c.options.json then .ofJson (Json.ofExplanation e)
  else .ofLines [.header c.theme ("🧠 " ++ e.id), .line e.explanation]

def databaseLine (c : Context) : Printed :=
  .status c.theme "🗄️" "Database" c.settings.database

def showStats (c : Context) (s : StoreStats) : Output :=
  if c.options.json then .ofJson (Json.ofStats s)
  else
    .ofLines <|
      databaseLine c :: Printed.titled c.theme "📊 Graph" ++ [.line (Terminal.statsTable s)]

def ingestHeader (c : Context) (project path : String) : Output :=
  if c.options.json then .none
  else
    .ofLines [.header c.theme ("Ingesting project: " ++ project), .status c.theme "📄" "Path" path,
      databaseLine c]

def countsLine (t : Theme) (r : IngestReport) : Printed :=
  .line ("  " ++ t.info.apply "📄" ++ " " ++ toString r.nodes ++ "  " ++ t.info.apply "🔗" ++ " " ++
    toString r.edges ++ "  " ++ t.info.apply "📦" ++ " " ++ toString r.packages)

def showIngest (c : Context) (files : ProjectFiles) (graph : ProjectGraph)
    (summary : WriteSummary) (report : IngestReport) : Output :=
  if c.options.json then .ofJson (Json.ofReport report)
  else
    let t := c.theme
    let risky := graph.packages.filter (·.isHighRisk)
    { out :=
        [.completed, countsLine t report] ++ Printed.titled t "Summary" ++
        [.summaryRow t "Files parsed:" graph.filesParsed,
          .summaryRow t "Files skipped:" (graph.filesSkipped + files.skipped),
          .summaryRow t "Duplicate ids:" graph.duplicates,
          .summaryRow t "Edges skipped:" summary.edgesSkipped, .blank,
          .line graph.linker.display]
      err := String.join (risky.map fun p =>
        Terminal.warning t (p.name ++ " " ++ p.version ++ ": " ++ p.risk)) }

def showInit (c : Context) (path : String) : Output :=
  if c.options.json then
    .ofJson (.object [("config", .string path), ("database", .string Config.defaultDatabase)])
  else
    .ofLines [.success c.theme ("Wrote " ++ path), .info c.theme "Database" Config.defaultDatabase,
      .info c.theme "LLM" "set LLM_API_KEY to enable explanations"]

end CodeAtlas.Cli
