import DesignTokens.CommandLine.Run

/-!
The command line program: it reads the settings file that the words name, runs
them, and writes what comes of it.
-/

open DesignTokens

def settingsFolder (words : List String) : IO Folder := do
  match CommandLine.parse words with
  | .ok (.run { config := some name, .. } _) =>
      try
        let content ← IO.FS.readBinFile name.text
        return ⟨[(name.place, content)], []⟩
      catch _ => return Folder.empty
  | _ => return Folder.empty

def writeText (name : FileName) (text : String) : IO Unit := do
  IO.FS.createDirAll name.parent.text
  IO.FS.writeFile name.text text

def main (words : List String) : IO UInt32 := do
  let outcome := CommandLine.run (← settingsFolder words) words
  for (name, text) in outcome.written do
    writeText name text
  (← IO.getStdout).putStr outcome.printed
  (← IO.getStderr).putStr outcome.notes
  return UInt32.ofNat outcome.exit
