import CodeAtlas.Cli.Display
import CodeAtlas.Cli.Failure
import CodeAtlas.Config.Files
import CodeAtlas.Files.Walk
import CodeAtlas.Store.Saved

/-!
# Commands

Each command runs on the files of a working directory and yields what it prints together with the files as
they are afterwards. Configuration and settings come first whatever the command is; what a failed command
has printed and written stays.
-/

namespace CodeAtlas.Cli

open Files (ByteTree)
open Terminal (Theme)

structure Outcome where
  code : Nat
  output : Output
  verbose : Bool
  deriving DecidableEq, Repr

structure Finish where
  output : Output
  failure : Option Failure
  tree : ByteTree

def Finish.ok (output : Output) (tree : ByteTree) : Finish := { output, failure := none, tree }

def Finish.fail (failure : Failure) (tree : ByteTree) : Finish :=
  { output := .none, failure := some failure, tree }

/-- Databases under these names live in memory only. -/
def isTransient (path : String) : Bool := path.isEmpty || path == ":memory:"

/-- Reads the store at a path; a file that is missing is an empty one. -/
def readStore (path : String) (tree : ByteTree) : Except StorageFault TableStore :=
  match tree.resolve path with
  | .ok place =>
    match tree.find? place with
    | some (.file bytes) =>
      match SavedStore.read? bytes with
      | some store => .ok store
      | none => .error .notADatabase
    | _ => .error (.cannotOpen path)
  | .error .notFound => .ok .fresh
  | .error _ => .error (.cannotOpen path)

def saveStore (path : String) (store : TableStore) (tree : ByteTree) :
    Except StorageFault ByteTree :=
  if isTransient path then .ok tree
  else
    match tree.write path (SavedStore.write store) with
    | .ok tree => .ok tree
    | .error _ => .error (.cannotOpen path)

def withStore (path : String) (tree : ByteTree) (f : TableStore → ByteTree → Finish) : Finish :=
  match Config.ensureParent path tree with
  | .error fault => .fail (.file fault) tree
  | .ok tree =>
    let opened : Except StorageFault (TableStore × ByteTree) := do
      let store ← if isTransient path then .ok .fresh else readStore path tree
      let store := store.ensureSchema
      .ok (store, ← saveStore path store tree)
    match opened with
    | .error fault => .fail (.library (.storage fault)) tree
    | .ok (store, tree) => f store tree

def finishRead {α : Type} (tree : ByteTree) (shown : α → Output) : Except Error α → Finish
  | .ok value => .ok (shown value) tree
  | .error e => .fail (.library e) tree

def finishAbout {α : Type} (id : String) (tree : ByteTree) (shown : α → Output) :
    Except Error (Option α) → Finish
  | .ok (some value) => .ok (shown value) tree
  | .ok none => .fail (.unknownModule id) tree
  | .error e => .fail (.library e) tree

/-- The name of a project that is not given one: the file name of its path. -/
def projectName (path : String) (tree : ByteTree) : String :=
  let parts :=
    match tree.resolve path with
    | .ok place => place
    | .error _ => Files.namedParts path
  match parts.getLast? with
  | some name => if name = ".." then "project" else Files.fileStem name
  | none => "project"

def ingest (c : Context) (path project : String) (store : TableStore) (tree : ByteTree) : Finish :=
  let before := ingestHeader c project path
  let built : Except Error (ProjectFiles × ProjectGraph) := do
    let files ← Files.loadProject Pipeline.standard.registry tree path
    let graph ← Pipeline.standard.build project files
    .ok (files, graph)
  match built with
  | .error e => { output := before, failure := some (.library e), tree }
  | .ok (files, graph) =>
    let (written, store) := Pipeline.write graph store
    let saved :=
      match saveStore c.settings.database store tree with
      | .ok tree => tree
      | .error _ => tree
    match written with
    | .error e => { output := before, failure := some (.library e), tree := saved }
    | .ok summary =>
      let report := IngestReport.ofGraph project graph
      .ok (before.append (showIngest c files graph summary report)) saved

def writeStarter (c : Context) (force : Bool) (tree : ByteTree) : Finish :=
  let path := c.options.config.getD Config.defaultPath
  match Config.save id path .starter force tree with
  | .error fault => .fail (.config fault) tree
  | .ok tree =>
    match Config.ensureParent Config.defaultDatabase tree with
    | .error fault => .fail (.file fault) tree
    | .ok tree => .ok (showInit c path) tree

def runCommand (c : Context) (command : Command) (tree : ByteTree) : Finish :=
  let database := c.settings.database
  match command with
  | .serve _ => withStore database tree fun _ tree => .fail .noNetwork tree
  | .ingest path project =>
    let project := project.getD (projectName path tree)
    withStore database tree (ingest c path project)
  | .nodes limit =>
    withStore database tree fun store tree =>
      finishRead tree
        (listing c Json.ofNode Terminal.nodesTable
          "No modules stored. Run `tracelens ingest` first.")
        (Query.nodes limit store)
  | .edges limit =>
    withStore database tree fun store tree =>
      finishRead tree (listing c Json.ofEdge Terminal.edgesTable "No edges stored.")
        (Query.edges limit store)
  | .search query limit =>
    withStore database tree fun store tree =>
      finishRead tree (showHits c query) (Query.search query limit store)
  | .module id =>
    withStore database tree fun store tree =>
      finishAbout id tree (showDetail c) (Query.moduleDetail id store)
  | .explain id =>
    withStore database tree fun store tree =>
      let explainer := Explainer.ofSettings c.settings.llm fun _ => .unreachable
      finishAbout id tree (showExplanation c) (Query.explain explainer id store)
  | .stats =>
    withStore database tree fun store tree =>
      finishRead tree (showStats c) (Query.stats store)
  | .init force => writeStarter c force tree

def givenPort : Command → Option UInt16
  | .serve port => port
  | _ => none

def settingsFor (options : GlobalOptions) (command : Command) (env : Settings.Environment)
    (tree : ByteTree) : Except ConfigFault Settings := do
  let config ← Config.load id (options.config.getD Config.defaultPath) tree
  Settings.resolve config { database := options.database, port := givenPort command } env

def runInvocation (theme : Theme) (options : GlobalOptions) (command : Command)
    (env : Settings.Environment) (tree : ByteTree) : Finish :=
  match settingsFor options command env tree with
  | .error fault => .fail (.config fault) tree
  | .ok settings => runCommand { theme, options, settings } command tree

def versionLine : String := "tracelens 0.0.1"

def run (theme : Theme) (args : List String) (env : Settings.Environment) (tree : ByteTree) :
    Outcome × ByteTree :=
  match parse args with
  | none => ({ code := 2, output := .none, verbose := false }, tree)
  | some (.version verbose) =>
    ({ code := 0, output := .ofLines [.line versionLine], verbose }, tree)
  | some (.command options command) =>
    let finish := runInvocation theme options command env tree
    let verbose := options.verbose
    match finish.failure with
    | none => ({ code := 0, output := finish.output, verbose }, finish.tree)
    | some failure =>
      let output := { finish.output with err := finish.output.err ++ failure.report }
      ({ code := 1, output, verbose }, finish.tree)

end CodeAtlas.Cli
