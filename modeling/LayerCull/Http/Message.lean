import LayerCull.Http.Request
import LayerCull.Text.Digits

/-!
This module contains requests and answers as bytes on a connection: a head of lines, an empty line and
a body. `Request.bytes` writes a request. `Arrival.ofBytes` says how much of an answer has come.
-/

namespace LayerCull.Http

namespace Request

/-- The host and the port, as the server sees them. -/
def hostField (request : Request) : String :=
  let host := (request.url.host.map Url.Host.render).getD []
  String.ofList (host ++ Url.renderPort request.url.port)

def headLines (request : Request) : List String :=
  [request.method.name ++ " " ++ request.target ++ " HTTP/1.1",
    "host: " ++ request.hostField,
    "accept: */*",
    "connection: close"] ++
  request.authorization.map ("authorization: " ++ ·)

/-- The request on the wire. None has a body. -/
def bytes (request : Request) : List UInt8 :=
  Utf8.encode ((request.headLines ++ [""]).flatMap fun line => line.toList ++ ['\r', '\n'])

end Request

namespace Message

/-- Takes the first line off. Each byte of it is read as one character. -/
def line? (bytes : List UInt8) : Option (List Char × List UInt8) :=
  match bytes.dropWhile (· != 0x0A) with
  | [] => none
  | _ :: rest =>
    let line := (bytes.takeWhile (· != 0x0A)).map fun b => Char.ofNat b.toNat
    some (if line.getLast? = some '\r' then line.dropLast else line, rest)

theorem length_lt_of_line? {bytes rest : List UInt8} {line : List Char}
    (h : line? bytes = some (line, rest)) : rest.length < bytes.length := by
  have hle := (List.dropWhile_sublist (· != (0x0A : UInt8)) (l := bytes)).length_le
  unfold line? at h
  split at h
  . cases h
  . rename_i heq
    rw [heq] at hle
    obtain ⟨rfl⟩ := (Prod.mk.inj (Option.some.inj h)).2
    exact hle

/-- The lines up to the empty one, and what comes after it. -/
def lines? (bytes : List UInt8) : Option (List (List Char) × List UInt8) :=
  match _h : line? bytes with
  | none => none
  | some ([], rest) => some ([], rest)
  | some (line, rest) => (lines? rest).map fun (lines, rest) => (line :: lines, rest)
termination_by bytes.length
decreasing_by exact length_lt_of_line? _h

theorem length_lt_of_lines? {bytes rest : List UInt8} {lines : List (List Char)}
    (h : lines? bytes = some (lines, rest)) : rest.length < bytes.length := by
  fun_induction lines? bytes generalizing lines rest with
  | case1 => cases h
  | case2 bytes rest' hline =>
    cases h
    exact length_lt_of_line? hline
  | case3 bytes line rest' hne hline ih =>
    obtain ⟨⟨lines', rest''⟩, hlines, heq⟩ := Option.map_eq_some_iff.1 h
    cases heq
    exact Nat.lt_trans (ih hlines) (length_lt_of_line? hline)

def trim (text : List Char) : List Char :=
  let isGap (c : Char) : Bool := c == ' ' || c == '\t'
  ((text.dropWhile isGap).reverse.dropWhile isGap).reverse

/-- The value of a field, whose name may be in letters of either case. -/
def field? (name : String) (lines : List (List Char)) : Option (List Char) :=
  lines.findSome? fun line =>
    match Text.cut ':' line with
    | (key, some value) => if key.map Char.toLower = name.toList then some (trim value) else none
    | (_, none) => none

/-- Reads the status line. -/
def status? (line : List Char) : Option Nat :=
  let code := (line.drop 9).take 3
  if "HTTP/1.".toList.isPrefixOf line ∧ code.length = 3 ∧ code.all Char.isDigit then
    some (Text.Digits.number 10 code)
  else
    none

/-- How the end of a body is found. -/
inductive Extent where
  | counted (length : Nat)
  /-- The body comes in chunks, each after its length. -/
  | chunked
  /-- The body ends with the connection. -/
  | untilClosed
  deriving DecidableEq, Repr

/-- Whether an answer of this status has no body. -/
def isBodiless (status : Nat) : Bool :=
  status = 204 || status = 304

/-- The extent that the fields of a head announce. -/
def Extent.ofHead? (status : Nat) (fields : List (List Char)) : Option Extent :=
  if isBodiless status then
    some (.counted 0)
  else if let some coding := field? "transfer-encoding" fields then
    some (if "chunked".toList.isSuffixOf (coding.map Char.toLower) then .chunked else .untilClosed)
  else if let some length := field? "content-length" fields then
    (Text.Digits.natural? length).map .counted
  else
    some .untilClosed

/-- What has come of a body. -/
inductive Body where
  | unfinished
  | malformed
  | finished (bytes : List UInt8)
  deriving DecidableEq, Repr

/-- The bytes of a chunk stand before those of the rest. -/
def Body.after (chunk : List UInt8) : Body → Body
  | .finished bytes => .finished (chunk ++ bytes)
  | body => body

/-- Reads the length of a chunk; what follows a semicolon is passed over. -/
def chunkLength? (line : List Char) : Option Nat :=
  let digits := trim (Text.cut ';' line).1
  if !digits.isEmpty && digits.all Text.Digits.isHex then
    some (Text.Digits.number 16 digits)
  else
    none

def Body.ofChunks (bytes : List UInt8) : Body :=
  match _h : line? bytes with
  | none => .unfinished
  | some (line, rest) =>
    match chunkLength? line with
    | none => .malformed
    | some 0 => if (lines? rest).isSome then .finished [] else .unfinished
    | some (n + 1) =>
      match _h' : rest.drop (n + 1) with
      | 0x0D :: 0x0A :: next => (ofChunks next).after (rest.take (n + 1))
      | _ :: _ :: _ => .malformed
      | _ => .unfinished
termination_by bytes.length
decreasing_by
  have := length_lt_of_line? _h
  have := congrArg List.length _h'
  simp at this
  omega

/-- `closed` says that no more bytes will come. -/
def Body.ofBytes (closed : Bool) (extent : Extent) (bytes : List UInt8) : Body :=
  match extent with
  | .counted length =>
    let counted := bytes.take length
    if counted.length = length then .finished counted else .unfinished
  | .chunked => ofChunks bytes
  | .untilClosed => if closed then .finished bytes else .unfinished

end Message

/-- How much of an answer has come. -/
inductive Arrival where
  | inHead
  | inBody
  | all (delivery : Delivery)
  deriving DecidableEq, Repr

namespace Arrival

open Message

/-- Answers that only announce another one are passed over. -/
def ofBytes (closed : Bool) (bytes : List UInt8) : Arrival :=
  match _h : lines? bytes with
  | none => .inHead
  | some (lines, rest) =>
    match lines with
    | [] => .all (.unanswered false)
    | first :: fields =>
      match status? first with
      | none => .all (.unanswered false)
      | some status =>
        if 100 ≤ status ∧ status < 200 then
          ofBytes closed rest
        else
          match Extent.ofHead? status fields with
          | none => .all (.unanswered false)
          | some extent =>
            match Body.ofBytes closed extent rest with
            | .finished body => .all (.answered status body)
            | .malformed => .all (.brokenOff false)
            | .unfinished => .inBody
termination_by bytes.length
decreasing_by exact length_lt_of_lines? _h

/-- What is delivered if nothing more comes. -/
def breakOff (timedOut : Bool) : Arrival → Delivery
  | .inHead => .unanswered timedOut
  | .inBody => .brokenOff timedOut
  | .all delivery => delivery

end Arrival

end LayerCull.Http
