import CodeAtlas.Cli.Run
import CodeAtlas.Files.Change
import CodeAtlas.Terminal.Elapsed

/-!
# The program

Reads the working directory, runs the command line on it, prints what comes out and writes back what has
changed.
-/

namespace CodeAtlas.Program

open Files

partial def readTree (listed : Array IO.FS.DirEntry) : IO ByteTree := do
  let mut entries := #[]
  for entry in listed do
    match (← entry.path.symlinkMetadata).type with
    | .dir => entries := entries.push (entry.fileName, ← readTree (← entry.path.readDir))
    | .file =>
      let bytes ← IO.FS.readBinFile entry.path
      entries := entries.push (entry.fileName, .file bytes.toList)
    | _ => pure ()
  return .directory entries.toList

def apply : FileChange (List UInt8) → IO Unit
  | .makeDirectory path => IO.FS.createDirAll (String.intercalate "/" path)
  | .writeFile path bytes =>
    IO.FS.writeBinFile (String.intercalate "/" path) ⟨bytes.toArray⟩

def readEnvironment : IO Settings.Environment := do
  let found ← Settings.environmentKeys.mapM fun key =>
    return (← IO.getEnv key).map fun value => (key, value)
  return found.filterMap id

def chooseTheme : IO Terminal.Theme := do
  let isTerminal ← (← IO.getStdout).isTty
  let plain ← IO.getEnv "NO_COLOR"
  return if isTerminal && plain.isNone then .colored else .plain

end CodeAtlas.Program

open CodeAtlas in
def main (args : List String) : IO UInt32 := do
  let start ← IO.monoMsNow
  let theme ← Program.chooseTheme
  let before ← Program.readTree (← (← IO.currentDir).readDir)
  let (outcome, after) := Cli.run theme args (← Program.readEnvironment) before
  (Files.FileTree.changes [] (some before) after).forM Program.apply
  let elapsed := Terminal.elapsedText ((← IO.monoMsNow) - start)
  for line in outcome.output.out do
    IO.print (line.render theme elapsed)
  IO.eprint outcome.output.err
  return outcome.code.toUInt32
