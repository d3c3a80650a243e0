/-
The program: a session of the command line on the system it runs on.
-/
import CommandTemplates.CommandLine.Session
import Std.Time.Zoned

namespace CommandTemplates

open CommandLine

/-- The number of a system error, which some calls give with its sign changed. -/
def errorNumber (code : UInt32) : UInt32 := min code (0 - code)

/-- The read error that an error of the system stands for. -/
def readErrorOf : IO.Error → ReadError
  | .noFileOrDirectory _ _ _ => .notFound
  | .permissionDenied _ _ _ => .denied
  | .inappropriateType _ code reason =>
    if errorNumber code = 21 then .isDirectory
    else if errorNumber code = 20 then .notDirectory
    else .other reason
  | .invalidArgument _ code reason =>
    if errorNumber code = 36 then .nameTooLong else .other reason
  | e => .other (toString e)

/-- Reads a line of standard input, byte by byte, with its end. -/
def readLine : IO (Option (List UInt8)) := do
  let input ← IO.getStdin
  let mut line := #[]
  repeat
    let bytes ← input.read 1
    if bytes.isEmpty then break
    line := line ++ bytes.toList
    if bytes.toList = [10] then break
  return if line.isEmpty then none else some line.toList

/-- What a session does in the system. -/
def systemEffects : Effects IO where
  exists? path := do
    try
      let _ ← IO.FS.Handle.mk path.text .read
      return true
    catch e => return !(readErrorOf e ∈ [.notFound, .notDirectory, .nameTooLong])
  contents path := do
    try return .ok (← IO.FS.readBinFile path.text).toList
    catch e => return .error (readErrorOf e)
  print text := do
    let output ← IO.getStdout
    output.putStr text
    output.flush
  terminal := { readLine, display := fun text => IO.eprint text }

/-- The name and the value of a variable that is written with an equals sign between them. -/
def variableOf? (entry : List UInt8) : Option (String × List UInt8) :=
  match entry.dropWhile (· ≠ 61) with
  | _ :: value => (Utf8.decode (entry.takeWhile (· ≠ 61))).toOption.map (·, value)
  | [] => none

/-- The variables of the process, as the system keeps them: each ends with a zero byte. -/
def readProcessVariables : IO (List (String × List UInt8)) := do
  try
    let bytes ← IO.FS.readBinFile "/proc/self/environ"
    return (bytes.toList.splitOn 0).filterMap variableOf?
  catch _ => return []

/-- The seconds by which local time is ahead of universal time. -/
def localOffset (now : Std.Time.Timestamp) : IO Int := do
  try
    let rules ← Std.Time.Database.defaultGetLocalZoneRules
    return (rules.findLocalTimeTypeForTimestamp now).getTimeZone.offset.second.val
  catch _ => return 0

/-- The time of the system's clock. -/
def systemTime : IO Moment := do
  let now ← Std.Time.Timestamp.now
  return {
    seconds := now.toSecondsSinceUnixEpoch.val
    nanos := now.val.nano.val.toNat
    offset := ← localOffset now }

end CommandTemplates

open CommandTemplates in
/-- Runs a session with the arguments of the process. -/
def main (arguments : List String) : IO UInt32 := do
  let output ← IO.getStdout
  let code ← CommandLine.run systemEffects {
    arguments
    folder := ⟨(← IO.currentDir).toString⟩
    processVariables := ← readProcessVariables
    now := ← systemTime
    isTerminal := ← output.isTty }
  return code.toUInt32
