import Admission.Program.Run

namespace Admission

def Reading.ofHandle (handle : IO.FS.Handle) : IO Reading := do
  try return .text (← handle.readToEnd)
  catch _ => return .unreadable

def Reading.ofPath (path : String) : IO Reading := do
  try
    let handle ← IO.FS.Handle.mk path .read
    Reading.ofHandle handle
  catch
    | .permissionDenied .. => return .unreadable
    | _ => return .absent

def FileAccess.system : FileAccess IO where
  read := Reading.ofPath
  write path text := do
    try
      IO.FS.writeFile path text
      return true
    catch _ => return false

end Admission

def main (words : List String) : IO UInt32 := do
  let server ← IO.getEnv "KWCONVERT_POLICY_SERVER"
  let ending ← Admission.Program.perform .system server words
  IO.print ending.printed
  IO.eprint (ending.usage.getD "")
  if let some complaint := ending.complaint then
    IO.eprintln ("Error: " ++ complaint)
  return ending.exitCode.toUInt32
