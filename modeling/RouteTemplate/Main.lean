import RouteTemplate.CommandLine.Run

namespace RouteTemplate.CommandLine

/-- The number of an error of the system, which may come with its sign turned. -/
def systemNumber (code : UInt32) : Nat := min code.toNat (0 - code).toNat

def readFault (error : IO.Error) : ReadFault :=
  match error with
  | .noFileOrDirectory .. => .notFound
  | .inappropriateType _ code _ =>
    if systemNumber code = 20 then .notDirectory
    else if systemNumber code = 21 then .isDirectory
    else .other (toString error)
  | .invalidArgument _ code _ =>
    if systemNumber code = 36 then .nameTooLong else .other (toString error)
  | error => .other (toString error)

def readBytes (read : IO ByteArray) : IO (Except ReadFault ByteArray) := do
  try
    return .ok (← read)
  catch error => return .error (readFault error)

def worldFor (command : Option Command) : IO World := do
  match command >>= Command.source? with
  | some .standardInput =>
    let input ← readBytes (do (← IO.getStdin).readBinToEnd)
    return ⟨input, fun _ => .error .notFound⟩
  | some (.file path) =>
    let bytes ← readBytes (IO.FS.readBinFile path)
    return ⟨.error .notFound, fun _ => bytes⟩
  | _ => return ⟨.error .notFound, fun _ => .error .notFound⟩

end RouteTemplate.CommandLine

open RouteTemplate.CommandLine in
def main (arguments : List String) : IO UInt32 := do
  let world ← worldFor (Command.read arguments)
  let outcome := run world arguments
  (← IO.getStdout).putStr outcome.output
  (← IO.getStderr).putStr outcome.errors
  return outcome.code.toUInt32
