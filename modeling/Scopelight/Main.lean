import Scopelight.CommandLine.Run

/-!
# The program

Reads the files that the arguments name and prints what the command line makes of them.
-/

namespace Scopelight.CommandLine

/-- Add the files of a folder. -/
def addFolder (d : Disk) (path : String) (folder : IO.FS.DirEntry) : IO Disk := do
  let mut d := d.insert path .directory
  for e in ← folder.root.readDir do
    let place := path ++ "/" ++ e.fileName
    if ← e.path.isDir then
      d := d.insert place .directory
    else
      d := d.insert place (.file (← IO.FS.readBinFile e.path).toList)
  return d

/-- Add what a path leads to, if it leads anywhere. -/
def addPath (d : Disk) (path : String) : IO Disk := do
  let here : IO.FS.DirEntry := ⟨path, ""⟩
  try
    if ← here.root.isDir then addFolder d path here
    else return d.insert path (.file (← IO.FS.readBinFile path).toList)
  catch _ => return d

/-- Run a command line on real files. -/
def execute (args : List String) : IO UInt32 := do
  let paths := match Invocation.ofArguments args with
    | .ok inv => inv.paths
    | .error _ => []
  let o := run args (← paths.foldlM addPath .empty)
  match o with
  | .refused .help => IO.print usage
  | .refused .misuse => IO.eprint usage
  | .failed _ => IO.eprintln (o.stderr?.getD "")
  | .stopped => pure ()
  | .printed text => IO.print text
  return o.exitCode.toUInt32

end Scopelight.CommandLine

def main (args : List String) : IO UInt32 := Scopelight.CommandLine.execute args
