import SchemaGuards.Command.Plan

/-!
# The program

Plans carried out on the files and streams of the operating system.
-/

namespace SchemaGuards.Command

/-- A failure of the operating system, by its number and wording. -/
def numbered (code : UInt32) (details : String) : FileFault :=
  match code with
  | 2 => .missing
  | 17 => .occupied
  | 20 => .notFolder
  | 21 => .isFolder
  | code => .other s!"{details} (os error {code})"

/-- The fault that a failure of the operating system stands for. -/
def faultOf (error : IO.Error) : FileFault :=
  match error with
  | .noFileOrDirectory .. => .missing
  | .alreadyExists _ code details | .otherError code details | .resourceBusy code details
  | .resourceVanished code details | .unsupportedOperation code details
  | .hardwareFault code details | .unsatisfiedConstraints code details
  | .illegalOperation code details | .protocolError code details | .timeExpired code details
  | .interrupted _ code details | .invalidArgument _ code details
  | .permissionDenied _ code details | .resourceExhausted _ code details
  | .inappropriateType _ code details | .noSuchThing _ code details => numbered code details
  | error => .other (toString error)

/-- The answer to a step: what it brings, or its fault. -/
def answered {α : Type} (step : IO α) : IO (Except FileFault α) := do
  try
    return .ok (← step)
  catch error => return .error (faultOf error)

/-- All bytes of a stream from here on. -/
partial def drain (stream : IO.FS.Stream) (bytes : ByteArray) : IO ByteArray := do
  let more ← stream.read 65536
  if more.isEmpty then return bytes
  drain stream (bytes ++ more)

/-- Read a text. -/
def readText (origin : Origin) : IO (Except FileFault String) := do
  let bytes ← answered do
    match origin with
    | .input => drain (← IO.getStdin) ByteArray.empty
    | .file path => IO.FS.readBinFile path
  return bytes.bind fun bytes =>
    match String.fromUTF8? bytes with
    | some text => .ok text
    | none => .error .notText

/-- Have a folder. One that is there already will do. -/
def haveFolder (path : String) : IO (Except FileFault Unit) := do
  match ← answered (IO.FS.createDir path) with
  | .ok () => return .ok ()
  | .error .missing => return .error .missing
  | .error fault =>
    match ← answered (IO.FS.createDirAll path) with
    | .ok () => return .ok ()
    | .error _ => return .error fault

/-- Carry out a plan. -/
def Plan.perform : Plan → IO Outcome
  | .read origin next => do (next (← readText origin)).perform
  | .makeFolder path next => do (next (← haveFolder path)).perform
  | .write path text next => do (next (← answered (IO.FS.writeFile path text))).perform
  | .finish outcome => return outcome

end SchemaGuards.Command

open SchemaGuards.Command in
/-- Carry out a command line. -/
def main (words : List String) : IO UInt32 := do
  let outcome ← (Request.ofWords words).plan.perform
  (← IO.getStdout).putStr outcome.printed
  (← IO.getStdout).flush
  (← IO.getStderr).putStr outcome.complaints
  return UInt32.ofNat outcome.status
