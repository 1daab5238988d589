import SensorGateway.Metrics.Registry
import SensorGateway.Net.Ipv4
import SensorGateway.Text.Utf8

/-!
The metrics endpoint.

It answers requests of the hypertext protocol. Only the path of a request matters: `/metrics` shows
the exposition, `/health` and `/healthz` say that the gateway lives, and nothing else is there. A
request that is malformed is told so with an empty answer.
-/

set_option autoImplicit false

namespace SensorGateway.Http

/-! ## Answers -/

/-- An answer. -/
structure Response where
  status : Nat
  contentType : Option String
  body : String
deriving DecidableEq, Repr

/-- The answer to a malformed request. -/
def badRequest : Response := ⟨400, none, ""⟩

/-- The answer to a request with too many header lines. -/
def tooManyHeaders : Response := ⟨431, none, ""⟩

/-- **The answer for a path.** -/
def respond (m : Metrics) (path : String) : Response :=
  if path = "/metrics" then ⟨200, some "text/plain; version=0.0.4; charset=utf-8", m.text⟩
  else if path = "/health" || path = "/healthz" then ⟨200, some "text/plain", "OK"⟩
  else ⟨404, some "text/plain", "Not Found"⟩

/-- An answer as the method lets it be sent: some methods get no body. -/
def Response.forMethod (r : Response) (method : String) : Response :=
  if method = "HEAD" || (method = "CONNECT" && r.status = 200) then { r with body := "" } else r

/-! ## Requests -/

/-- Characters of methods and of names of header lines. -/
def isTokenCharacter (c : Char) : Bool :=
  c.isAlphanum || "!#$%&'*+-.^_|~".toList.contains c || c.toNat == 0x60

/-- Characters of a request's target. -/
def isTargetCharacter (c : Char) : Bool := 0x21 ≤ c.toNat && c.toNat ≠ 0x7F

/-- Characters that a path may hold. -/
def isPathCharacter (c : Char) : Bool :=
  let n := c.toNat
  n == 0x21 || n == 0x22 || (0x24 ≤ n && n ≤ 0x3B) || n == 0x3D || (0x40 ≤ n && n ≤ 0x5F)
    || (0x61 ≤ n && n ≤ 0x7E)

/-- Characters that a query may hold. -/
def isQueryCharacter (c : Char) : Bool :=
  let n := c.toNat
  n == 0x21 || n == 0x22 || (0x24 ≤ n && n ≤ 0x3B) || n == 0x3D || (0x3F ≤ n && n ≤ 0x7E)

/-- The path of a target that starts with a slash: what is in front of the query and the fragment. -/
def pathOf? (cs : List Char) : Option String :=
  let visible := cs.takeWhile (· ≠ '#')
  let path := visible.takeWhile (· ≠ '?')
  let query := visible.drop (path.length + 1)
  if path.all isPathCharacter && query.all isQueryCharacter then some (String.ofList path) else none

/-- What follows a scheme and `://`, if the target starts so. -/
def afterScheme? (cs : List Char) : Option (List Char) :=
  let scheme := cs.takeWhile fun c => c.isAlphanum || c = '+' || c = '-' || c = '.'
  match cs.drop scheme.length with
  | ':' :: '/' :: '/' :: rest => if scheme.isEmpty then none else some rest
  | _ => none

/-- Whether a character ends the host of a target. -/
def endsHost (c : Char) : Bool := c = '/' || c = '?' || c = '#'

/-- **The path of a target:** of a bare path, of a whole address, or nothing for a host alone. -/
def targetPath? (cs : List Char) : Option String :=
  match cs with
  | [] => none
  | '/' :: _ => pathOf? cs
  | ['*'] => some "*"
  | _ =>
    match afterScheme? cs with
    | some rest =>
      let host := rest.takeWhile (!endsHost ·)
      let tail := rest.drop host.length
      if host.isEmpty then none
      else match tail with
        | '/' :: _ => pathOf? tail
        | _ => (pathOf? ('/' :: tail))
    | none => if cs.any endsHost then none else some ""

/-- The first line and the lines behind it, without their line ends; a line ends with a line feed,
and a carriage return in front of it belongs to the end. -/
def splitLines (line : List Char) : List Char → List (List Char)
  | [] => [line.reverse]
  | '\r' :: '\n' :: cs => line.reverse :: splitLines [] cs
  | '\n' :: cs => line.reverse :: splitLines [] cs
  | c :: cs => splitLines (c :: line) cs

/-- Whether a line is a header line. -/
def isHeaderLine (line : List Char) : Bool :=
  let name := line.takeWhile isTokenCharacter
  let value := line.drop (name.length + 1)
  !name.isEmpty && (line.drop name.length).head? == some ':'
    && value.all fun c => c = '\t' || (0x20 ≤ c.toNat && c.toNat ≠ 0x7F)

/-- The method and the target of a request line. -/
def requestLine? (line : List Char) : Option (String × List Char) :=
  let method := line.takeWhile isTokenCharacter
  match Net.takeChar? ' ' (line.drop method.length) with
  | none => none
  | some rest =>
    let target := rest.takeWhile isTargetCharacter
    let version := rest.drop target.length
    if method.isEmpty || target.isEmpty then none
    else if version == " HTTP/1.1".toList || version == " HTTP/1.0".toList then
      some (String.ofList method, target)
    else none

/-- The most header lines that a request may have. -/
def maxHeaders : Nat := 100

/-- **The answer to the text of a request.** -/
def answer (m : Metrics) (request : String) : Response :=
  let ls := (splitLines [] request.toList).dropWhile (·.isEmpty)
  match ls with
  | [] => badRequest
  | first :: rest =>
    match requestLine? first with
    | none => badRequest
    | some (method, target) =>
      let headers := rest.takeWhile (!·.isEmpty)
      if !headers.all isHeaderLine then badRequest
      else if maxHeaders < headers.length then tooManyHeaders
      else match targetPath? target with
        | none => badRequest
        | some path => (respond m path).forMethod method

/-- The text of a plain request for a path. -/
def request (method path : String) : String :=
  method ++ " " ++ path ++ " HTTP/1.1\r\nHost: gateway\r\nConnection: close\r\n\r\n"

end SensorGateway.Http
