import LayerCull.Http.Address
import LayerCull.Text.Base64
import LayerCull.Text.Utf8

/-!
This module contains requests as they go over the wire, and the deliveries that come back.
`Request.build` makes the request of a call and `Request.receive` reads what was delivered.
-/

namespace LayerCull.Http

inductive Method where
  | get
  | delete
  deriving DecidableEq, Repr

def Method.name : Method → String
  | .get => "GET"
  | .delete => "DELETE"

def Method.ofCall : Call → Method
  | .capabilities | .lookup _ => .get
  | .deleteLayer _ | .deleteGroup _ => .delete

structure Request where
  method : Method
  /-- The address, without a user. -/
  url : Url
  /-- The values of the header that tells who is asking, in their order. -/
  authorization : List String
  /-- How long an answer may take. -/
  timeoutSeconds : Nat
  deriving DecidableEq, Repr

/-- What the client brings back for a request in the end. If it follows redirects, this is what the
last of its requests came to. -/
inductive Delivery where
  | answered (status : Nat) (body : List UInt8)
  /-- There was no connection, or no answer on it. -/
  | unanswered (timedOut : Bool)
  /-- The answer's body did not come to its end. -/
  | brokenOff (timedOut : Bool)
  deriving DecidableEq, Repr

/-- The header value for a name and a password. -/
def basicCredentials (name password : List Char) : String :=
  String.ofList ("Basic ".toList ++ Base64.encode (Utf8.encode (name ++ ':' :: password)))

namespace Request

/-- The credentials of the user that the URL names, and the URL without them. A name that is not text
stays where it is. -/
def takeUser (url : Url) : Option String × Url :=
  let name := Utf8.decode? (Url.Percent.decode url.user.name)
  let password := Utf8.decode? (Url.Percent.decode url.user.password)
  match name, password with
  | some name, some password =>
    if url.user.isEmpty then (none, url)
    else (some (basicCredentials name password), { url with user := {} })
  | some (c :: name), none => (some (basicCredentials (c :: name) []), { url with user := {} })
  | _, _ => (none, url)

/-- The characters that a host may not have on the wire. -/
def breaksHost (c : Char) : Bool :=
  c == '"' || c == '\x60' || c == '\x7b' || c == '\x7d'

/-- How long an address may be on the wire. -/
def maxLength : Nat := 65534

/-- A request can be sent to a host of the web that the wire can name. -/
def isSendable (url : Url) : Bool :=
  (url.scheme == "http".toList || url.scheme == "https".toList) &&
    (match url.host with
      | some host => !host.render.isEmpty && !host.render.any breaksHost
      | none => false) &&
    url.render.length ≤ maxLength

/-- Whether the call shows the configured credentials. -/
def showsCredentials : Call → Bool
  | .capabilities => false
  | .deleteLayer _ | .deleteGroup _ | .lookup _ => true

def build (config : Config) (call : Call) : Except Fault Request :=
  match Url.parse (Address.ofCall config call).toList with
  | .error _ => .error { stage := .building }
  | .ok url =>
    let (user, url) := takeUser url
    if isSendable url then
      let configured := if showsCredentials call then
          [basicCredentials config.username.toList config.password.toList]
        else
          []
      .ok {
        method := Method.ofCall call
        url
        authorization := user.toList ++ configured
        timeoutSeconds := config.timeoutSeconds }
    else
      .error { stage := .building, url := some (String.ofList url.render) }

/-- The path and the query, as the server sees them. -/
def target (request : Request) : String :=
  String.ofList (request.url.path.render ++ Url.renderAfter '?' request.url.query)

def receive (request : Request) : Delivery → Answer
  | .answered status body => .ok ⟨status, String.ofList (Utf8.decodeLossy body)⟩
  | .unanswered timedOut =>
    .error ⟨.sending, some (String.ofList request.url.render), timedOut⟩
  | .brokenOff timedOut => .error ⟨.reading, none, timedOut⟩

end Request

end LayerCull.Http
