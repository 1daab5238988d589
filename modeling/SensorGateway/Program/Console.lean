import SensorGateway.Command.Execution
import SensorGateway.Plant.Wires

/-!
The operator's console.

The console reads lines and answers each one, with an empty line behind every answer. Lines without
a word are passed over. It is over when the operator quits, when the input ends, or when a line is no
text; in the last case nothing more is said.
-/

set_option autoImplicit false

namespace SensorGateway.Program

/-! ## Lines -/

/-- The byte of a line end. -/
def lineFeed : UInt8 := 0x0A

/-- The byte that may stand in front of a line end. -/
def carriageReturn : UInt8 := 0x0D

/-- A reversed line without what belongs to its end. -/
def endLine (reversed : List UInt8) : List UInt8 :=
  match reversed with
  | b :: rest => if b = carriageReturn then rest.reverse else reversed.reverse
  | [] => []

/-- The lines of `bytes`, where `line` is the reversed beginning of the first one. Bytes behind the
last line end are a line if there are any. -/
def linesFrom (line : List UInt8) : List UInt8 → List (List UInt8)
  | [] => if line.isEmpty then [] else [line.reverse]
  | b :: bytes =>
    if b = lineFeed then endLine line :: linesFrom [] bytes else linesFrom (b :: line) bytes

/-- **The lines of an input,** without their ends. -/
def linesOf (bytes : List UInt8) : List (List UInt8) := linesFrom [] bytes

/-! ## Answers -/

/-- What a line comes to. -/
inductive Answer where
  /-- Something is shown. -/
  | shows (text : String)
  /-- There is nothing to answer. -/
  | nothing
  /-- The operator quits. -/
  | quits
deriving DecidableEq, Repr

/-- An error, as the operator sees it. -/
def errorText (message : String) : String := "Error: " ++ message

/-- The answer to a command that was carried out. -/
def answerOf : Except Gateway.CommandFault (Option String) → Answer
  | .ok (some text) => .shows text
  | .ok none => .quits
  | .error fault => .shows (errorText fault.message)

/-- The answer to `connect`. -/
def answerConnect (p : Plant) (ip : Net.Ipv4) (port : UInt16) : Answer × Plant :=
  match p.connect "" ip port .plain 0 with
  | (.linked id, p) => (.shows (Gateway.connectedText ip port id), p)
  | (.failed e, p) => (.shows (errorText e.message), p)
  | (.waiting, p) => (.nothing, p)

/-- **The answer to a line.** -/
def answerLine (p : Plant) (line : String) : Answer × Plant :=
  match Command.parse line p.gateway.table.roster.runningPort with
  | .error .empty => (.nothing, p)
  | .error e => (.shows (errorText e.message), p)
  | .ok (.connect ip port) => answerConnect p ip port
  | .ok command =>
    let (result, g, d, notices) := p.gateway.execute p.disk p.now command
    (answerOf result, ({ p with disk := d }.setGateway g notices).settle)

/-! ## Transcripts -/

/-- What the console says first. -/
def consoleGreeting : String :=
  "thermgate console\nType 'help' for available commands.\n\n"

/-- What the console says last. -/
def consoleFarewell : String := "Stopping gateway.\n"

/-- What is shown at the end of the input. -/
def endOfInput : String := "^D\n"

/-- **What the console says to lines,** and the plant after them. -/
def converse (p : Plant) : List (List UInt8) → String × Plant
  | [] => (endOfInput ++ consoleFarewell, p)
  | bytes :: rest =>
    match Text.ofUtf8? bytes with
    | none => ("", p)
    | some line =>
      match answerLine p line with
      | (.quits, p) => (consoleFarewell, p)
      | (.nothing, p) => converse p rest
      | (.shows text, p) =>
        let (more, p) := converse p rest
        (text ++ "\n\n" ++ more, p)

/-- **The transcript of a whole input.** -/
def transcript (p : Plant) (input : List UInt8) : String × Plant :=
  let (text, p) := converse p (linesOf input)
  (consoleGreeting ++ text, p)

end SensorGateway.Program
