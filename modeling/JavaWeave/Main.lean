import JavaWeave.Command

namespace JavaWeave.Command

open Project

/-- Whether an action works. -/
def succeeds (action : IO α) : IO Bool := do
  try
    discard action
    return true
  catch _ => return false

/-- The file system that the program runs on. -/
def realFiles : FileSystem IO where
  isDirectory path := do
    match ← (IO.FS.realPath path).toBaseIO with
    | .ok place => place.isDir
    | .error _ => return false
  isFile path := do
    match ← (IO.FS.realPath path).toBaseIO with
    | .ok place => return !(← place.isDir)
    | .error _ => return false
  read path := do
    match ← (IO.FS.readFile path).toBaseIO with
    | .ok text => return some text
    | .error _ => return none
  list path := do
    try
      let entries ← (← IO.FS.realPath path).readDir
      return some (entries.toList.map (·.fileName))
    catch _ => return none
  write path text := succeeds do
    if let some parent := Path.parent? path then
      unless parent.isEmpty do IO.FS.createDirAll parent
    IO.FS.writeFile path text

end JavaWeave.Command

def main (arguments : List String) : IO UInt32 := do
  let directory := toString (← IO.currentDir)
  let outcome ← JavaWeave.Command.run JavaWeave.Command.realFiles directory arguments
  IO.print outcome.out
  IO.eprint outcome.err
  return UInt32.ofNat outcome.status
