import PatternLint.Command

/-!
# The executable

Takes a picture of the files that a call may need, runs the program on it, prints what it has to say and
writes the files that it has changed.
-/

namespace PatternLint

/-- Adds a file, or a directory with all that is below it, to a volume; of what is not there, the
directory that it would be in.  `depth` bounds how deep. -/
def picture (place : String) : Nat → Volume → IO Volume
  | 0, v => return v
  | depth + 1, v => do
    let disk := (← IO.currentDir) / place
    if ← disk.isDir then
      let names := (← disk.readDir).toList.map (·.fileName)
      let v := v.makeDirectories ((Path.ofString place).absolute v.cwdPath).names
      names.foldlM (fun v name => picture (place ++ "/" ++ name) depth v) v
    else if ← disk.pathExists then
      let content ← IO.FS.readBinFile disk
      return v.add (Path.ofString place) (.file content.toList)
    else
      let above := ((Path.ofString place).absolute v.cwdPath).names.dropLast
      if ← ((← IO.currentDir) / Path.text ⟨.root, above⟩).isDir then
        return v.makeDirectories above
      else return v

/-- How deep directories are looked into. -/
def pictureDepth : Nat := 64

/-- The parts of a word that may name a file. -/
def mayName (word : String) : List String :=
  let value := (Command.splitValue word).2
  [word, String.ofList (word.toList.drop 2)] ++ value.toList

/-- Writes the files that differ between two volumes. -/
def writeChanges (before after : Volume) : IO Unit :=
  after.entries.forM fun (place, e) => do
    match e with
    | .file content =>
      if before.entry? place ≠ some e then
        IO.FS.writeBinFile (Path.text ⟨.root, place⟩) ⟨content.toArray⟩
    | _ => return ()

def Command.Crash.message : Command.Crash → String
  | .load (.document (.unusable e)) => e.message
  | .load (.document (.engine r source)) => r.message source
  | .load (.encoding e) => e.message
  | .load (.value f) => f.message
  | .load .nullInPath => LoadFailure.nullMessage
  | .access f p => f.message p.text
  | .markup e => e.message
  | .nullInPath => LoadFailure.nullMessage
  | .outside e => e.message

/-- Runs the program on the disk. -/
def runOnDisk (words : List String) : IO UInt32 := do
  let cwd := (Path.ofString (← IO.currentDir).toString).names
  let env ← [Command.rulesVariable, Layout.widthVariable].filterMapM fun name =>
    return (← IO.getEnv name).map (name, ·)
  let rules := env.lookup Command.rulesVariable
  let places := (words.flatMap mayName ++ rules.toList).filter (· ≠ "")
  let v ← places.eraseDups.foldlM (fun v p => picture p pictureDepth v) (Volume.empty cwd)
  let o := Command.run v env words
  IO.print o.out
  IO.eprint o.err
  writeChanges v o.volume
  o.crash.forM fun c => IO.eprintln c.message
  return o.code.toUInt32

end PatternLint

def main (words : List String) : IO UInt32 := PatternLint.runOnDisk words
