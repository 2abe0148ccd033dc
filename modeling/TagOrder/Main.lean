import TagOrder.Session

/-!
# The program

Runs a command line on the real files. Project files, the parser dumps that the arguments stand for
and the sources that these name are read into a volume; after the session, the files that it changed
or made are written back.
-/

namespace TagOrder.Program

/-- A volume with the file read that stands at a place; a file that cannot be read is left out. -/
def readFileAt (volume : Volume) (place : Place) : IO Volume := do
  match ← (IO.FS.readBinFile (Volume.placeText place)).toBaseIO with
  | .ok octets =>
    return (volume.makeDirectories place.dropLast).put place (.file octets.toList)
  | .error _ => return volume

/-- Whether a directory stands at a place. -/
def isDirectoryAt (place : Place) : IO Bool := do
  match ← (IO.FS.realPath (Volume.placeText place)).toBaseIO with
  | .ok path => path.isDir
  | .error _ => return false

/-- A volume with the parser dumps read that stand at a place or, when it is a directory, under it;
links to directories are not followed. -/
partial def readDumps (volume : Volume) (place : Place) : IO Volume := do
  if ← isDirectoryAt place then
    let path ← IO.FS.realPath (Volume.placeText place)
    let mut volume := volume.makeDirectories place
    for entry in ← path.readDir do
      let isDirectory ← entry.path.isDir
      if !isDirectory || (← IO.FS.realPath entry.path) == entry.path then
        volume ← readDumps volume (place ++ [entry.fileName])
    return volume
  else if Volume.endsWith (place.getLast?.getD "") dumpEnding then readFileAt volume place
  else return volume

/-- A volume with the source read that the dump at a place names, and what stands at the path of its
copy. -/
def readSource (volume : Volume) (dump : Place) : IO Volume := do
  match Document.readDump Volume.storage volume (Volume.placeText dump) with
  | .error _ => return volume
  | .ok fields =>
    match Dump.sourceField fields with
    | .error _ => return volume
    | .ok source =>
      let path := Dump.sourcePath (Volume.placeText dump) source
      let mut volume := volume
      for path in [path, backupPath path] do
        if let .ok place := volume.resolve path then
          if ← isDirectoryAt place then volume := volume.makeDirectories place
          else volume ← readFileAt volume place
      return volume

/-- The volume on which a command line works. -/
def readVolume (line : List String) : IO Volume := do
  let here := (Path.ofString (toString (← IO.currentDir))).names
  let mut volume := ({ here } : Volume).makeDirectories here
  for place in Settings.upward here do
    volume ← readFileAt volume (place ++ [Settings.fileName])
  for argument in "." :: line do
    if let .ok place := volume.resolve argument then
      volume ← readDumps volume place
  for (place, entry) in volume.entries do
    if entry != .directory then volume ← readSource volume place
  return volume

/-- Writes the files in which one volume differs from another. -/
def writeChanges (before after : Volume) : IO Unit := do
  for (place, entry) in after.entries do
    if let .file octets := entry then
      if before.get? place != some entry then
        IO.FS.writeBinFile (Volume.placeText place) ⟨octets.toArray⟩

/-- Runs a command line; the result is the status. -/
def run (line : List String) : IO UInt32 := do
  let volume ← readVolume line
  match Session.start volume line with
  | .ok session =>
    writeChanges volume session.files
    IO.print session.output
    IO.eprint session.console
    return session.status.toUInt32
  | .error .usage =>
    IO.eprintln "Usage: attrs-order check [--format table|json] [PATHS]"
    IO.eprintln "       attrs-order fix [--no-backup] [PATHS]"
    IO.eprintln "       attrs-order explain"
    return 2
  | .error (.fault fault notices files) =>
    writeChanges volume files
    IO.eprint (Session.shown notices)
    IO.eprintln fault.message
    return 1

end TagOrder.Program

/-- The program. -/
def main (arguments : List String) : IO UInt32 := TagOrder.Program.run arguments
