import SensorGateway.Clock
import SensorGateway.OsFault
import SensorGateway.Storage.Database
import SensorGateway.Text.Utf8

/-!
Files.

The gateway reads its configuration and credentials from files, appends to a log, and keeps its
readings in a database file. A disk maps paths to what is there. Paths are relative to the working
directory and are compared part by part, so that `a//b` and `./a/b` name the same thing.
-/

set_option autoImplicit false

namespace SensorGateway

/-- What stands at a path. -/
inductive Node where
  | directory
  | file (content : List UInt8)
  | database (db : Storage.Database)
deriving DecidableEq

/-- A path as its parts. -/
abbrev Parts := List String

/-- The things on a disk by their paths. The working directory itself is the empty path. -/
structure Disk where
  nodes : List (Parts × Node) := []
deriving DecidableEq

/-- What went wrong when bytes were read or written as text. -/
inductive IoFault where
  | os (fault : OsFault)
  /-- The bytes are no text. -/
  | invalidUtf8
  /-- The peer sent less than was asked for. -/
  | earlyEof
  /-- The time allowed ran out, in milliseconds. -/
  | timedOut (limit : Nat)
deriving DecidableEq, Repr

namespace IoFault

/-- The wording of a fault. -/
def message : IoFault → String
  | os fault => fault.message
  | invalidUtf8 => "stream did not contain valid UTF-8"
  | earlyEof => "early eof"
  | timedOut limit => "timed out after " ++ durationText limit

end IoFault

namespace Disk

/-! ## Paths -/

/-- One part of a path behind those in front of it. -/
def addPart (parts : Parts) (part : String) : Parts :=
  if part = "" || part = "." then parts
  else if part = ".." then parts.dropLast
  else parts ++ [part]

/-- **The parts of a path:** empty parts and dots say nothing, and two dots go up. -/
def partsOf (path : String) : Parts := (path.splitOn "/").foldl addPart []

/-- What stands at the parts of a path. -/
def node? (d : Disk) (parts : Parts) : Option Node :=
  if parts.isEmpty then some .directory
  else (d.nodes.find? (·.1 = parts)).map (·.2)

/-- Puts a node at the parts of a path. -/
def put (d : Disk) (parts : Parts) (node : Node) : Disk :=
  ⟨(d.nodes.filter (·.1 ≠ parts)) ++ [(parts, node)]⟩

/-- Whether every part in front of the last one is a directory; the fault of the first that is not. -/
def parentFault? (d : Disk) (parts : Parts) : Option OsFault :=
  let parents := (List.range parts.length).map parts.take
  parents.findSome? fun p => match d.node? p with
    | some .directory => none
    | some _ => some .notDirectory
    | none => some .notFound

/-- The node that a path leads to, or the fault met on the way. -/
def resolve (d : Disk) (path : String) : Except OsFault Node :=
  if path = "" then .error .notFound
  else
    let parts := partsOf path
    match d.parentFault? parts with
    | some fault => .error fault
    | none =>
      match d.node? parts with
      | none => .error .notFound
      | some .directory => .ok .directory
      | some node => if path.endsWith "/" then .error .notDirectory else .ok node

/-! ## Reading and writing -/

/-- **The bytes of a file.** The bytes of a database are nobody's business. -/
def read (d : Disk) (path : String) : Except OsFault (List UInt8) :=
  match d.resolve path with
  | .error fault => .error fault
  | .ok .directory => .error .isDirectory
  | .ok (.file content) => .ok content
  | .ok (.database _) => .ok [0xFF]

/-- The text of a file. -/
def readText (d : Disk) (path : String) : Except IoFault String :=
  match d.read path with
  | .error fault => .error (.os fault)
  | .ok bytes => match Text.ofUtf8? bytes with
    | some s => .ok s
    | none => .error .invalidUtf8

/-- Whether a file can be opened to write, and made if it is not there. -/
def writable (d : Disk) (path : String) : Except OsFault Unit :=
  match d.resolve path with
  | .ok .directory => .error .isDirectory
  | .ok _ => .ok ()
  | .error fault =>
    -- A missing last part can be made; a missing part in front of it cannot.
    if path = "" || path.endsWith "/" || (d.parentFault? (partsOf path)).isSome then .error fault
    else .ok ()

/-- **Writes a file,** in place of what it held. -/
def write (d : Disk) (path : String) (content : List UInt8) : Except OsFault Disk :=
  match d.writable path with
  | .error fault => .error fault
  | .ok () => .ok (d.put (partsOf path) (.file content))

/-- Makes an empty file unless there is one. -/
def touch (d : Disk) (path : String) : Except OsFault Disk :=
  match d.writable path with
  | .error fault => .error fault
  | .ok () => match d.node? (partsOf path) with
    | some _ => .ok d
    | none => .ok (d.put (partsOf path) (.file []))

/-- Makes a directory and those in front of it. -/
def makeDirectory (d : Disk) (path : String) : Disk :=
  let parts := partsOf path
  let needed := (List.range (parts.length + 1)).map parts.take |>.filter (!·.isEmpty)
  needed.foldl (fun d p => if (d.node? p).isSome then d else d.put p .directory) d

/-- Puts a file in place before the start, with the directories in front of it. -/
def withFile (d : Disk) (path : String) (content : List UInt8) : Disk :=
  let parts := partsOf path
  (d.makeDirectory ("/".intercalate parts.dropLast)).put parts (.file content)

end Disk

end SensorGateway
