import ClassDiagram.CommandLine.Run
import Std.Time.Zoned

/-!
# The program

The command line program loads the files that its arguments lead to, runs
the command on them, and writes and prints what the command leaves.
-/

namespace ClassDiagram.CommandLine

/-- The bytes of a stream up to its end. -/
partial def readStream (stream : IO.FS.Stream) (bytes : ByteArray) :
    IO ByteArray := do
  let next ← stream.read 65536
  if next.isEmpty then
    return bytes
  else
    readStream stream (bytes ++ next)

def absolutePath (location : Location) : String :=
  "/" ++ String.intercalate "/" location

def loadFile (location : Location) : IO FileNode := do
  try
    return .file (← IO.FS.readBinFile (absolutePath location))
  catch _ =>
    return .file .empty { toRead := false }

/-- Load the sources of an extension that a directory leads to, or note that
it cannot be listed. -/
partial def loadDirectory (extension : String) (location : Location)
    (top : FileNode) : IO FileNode := do
  let directory := (← IO.currentDir) / absolutePath location
  try
    let mut loaded := top.makeDirectory location
    for entry in ← directory.readDir do
      let name : RawText := entry.fileName
      let below := location ++ [name]
      if ← (directory / entry.fileName).isDir then
        if isSearched name then
          loaded ← loadDirectory extension below loaded
      else if isSourceName extension name then
        loaded := loaded.place below (← loadFile below)
    return loaded
  catch _ =>
    return top.place location (.directory [] { toRead := false })

/-- Load the file at a location, or note that there is a directory. -/
def loadNode (location : Location) (top : FileNode) : IO FileNode := do
  let place := (← IO.currentDir) / absolutePath location
  if ← place.isDir then
    return top.makeDirectory location
  else if ← place.pathExists then
    return top.place location (← loadFile location)
  else
    return top

def loadPath (extension : String) (system : FileSystem) (path : String) :
    IO FileSystem := do
  let mut top := system.top
  let mut location := system.start path
  for segment in FileSystem.pathSegments path do
    if segment = ".." then
      location := location.dropLast
    else if !FileSystem.staysThere segment then
      location := location ++ [segment]
    top ← loadNode location top
  if let some (.directory _ _) := top.node? location then
    top ← loadDirectory extension location top
  return { system with top := top }

/-- The files that a command may touch. -/
def loadFiles (command : Command) : IO FileSystem := do
  let here := (← IO.currentDir).toString
  let location :=
    (FileSystem.pathSegments here).filter (· != ("" : RawText))
  let mut system : FileSystem :=
    ⟨emptyDirectory.makeDirectory location, location⟩
  for path in command.paths do
    system ← loadPath command.searchedExtension system path
  return system

/-- The moment at which the program runs, in local time. -/
def currentTimestamp : IO Timestamp := do
  let moment ← Std.Time.PlainDateTime.now
  return {
    year := moment.date.year.toInt
    month := moment.date.month.val.toNat
    day := moment.date.day.val.toNat
    hour := moment.time.hour.val.toNat
    minute := moment.time.minute.val.toNat
    second := moment.time.second.val.toNat }

def currentSurroundings (command : Command) : IO Surroundings := do
  let input ←
    if command.readsStandardInput then
      readStream (← IO.getStdin) ByteArray.empty
    else
      pure ByteArray.empty
  return {
    files := ← loadFiles command
    standardInput := input
    now := ← currentTimestamp
    logFormat := ← IO.getEnv logFormatVariable }

def deliverOutcome (before : FileSystem) (outcome : Outcome) : IO UInt32 := do
  IO.print outcome.printed
  for (location, content) in before.top.changes outcome.files.top do
    IO.FS.writeBinFile (absolutePath location) content
  IO.eprint outcome.diagnostics
  return outcome.exitCode.toUInt32

/-- Report why a command line is not carried out. -/
def reportUsageError (error : UsageError) : IO UInt32 := do
  if error.exitCode = 0 then
    IO.println error.wording
  else
    IO.eprintln ("error: " ++ error.wording)
  return error.exitCode.toUInt32

end ClassDiagram.CommandLine

def main (words : List String) : IO UInt32 := do
  match ClassDiagram.CommandLine.readInvocation words with
  | .error error =>
      ClassDiagram.CommandLine.reportUsageError error
  | .ok invocation =>
      let around ←
        ClassDiagram.CommandLine.currentSurroundings invocation.command
      ClassDiagram.CommandLine.deliverOutcome around.files
        (ClassDiagram.CommandLine.run around invocation)
