import LayerCull.Url.Host

/-!
This module contains URLs as data: scheme, user, host, port, path, query and fragment, each in its
normal form. `Url.render` writes a URL down.
-/

namespace LayerCull

namespace Url

/-- How the rest of a URL is read. -/
inductive Kind where
  /-- A scheme that names a server. -/
  | server
  | file
  | other
  deriving DecidableEq, Repr

/-- The port of a scheme that names a server. -/
def defaultPort? (scheme : List Char) : Option Nat :=
  match String.ofList scheme with
  | "http" | "ws" => some 80
  | "https" | "wss" => some 443
  | "ftp" => some 21
  | _ => none

def kindOf (scheme : List Char) : Kind :=
  if scheme = "file".toList then .file
  else if (defaultPort? scheme).isSome then .server
  else .other

/-- A path is a list of segments, or a text without structure. -/
inductive Path where
  | segments (list : List (List Char))
  | opaqueText (text : List Char)
  deriving DecidableEq, Repr

def Path.render : Path → List Char
  | .segments list => list.flatMap ('/' :: ·)
  | .opaqueText text => text

/-- The user's name and password, both with escapes; either may be empty. -/
structure User where
  name : List Char := []
  password : List Char := []
  deriving DecidableEq, Repr

def User.isEmpty (user : User) : Bool :=
  user.name.isEmpty && user.password.isEmpty

def User.render (user : User) : List Char :=
  if user.isEmpty then []
  else if user.password.isEmpty then user.name ++ ['@']
  else user.name ++ ':' :: user.password ++ ['@']

end Url

structure Url where
  scheme : List Char
  user : Url.User := {}
  host : Option Url.Host := none
  /-- Left out where it is the scheme's own. -/
  port : Option Nat := none
  path : Url.Path
  query : Option (List Char) := none
  fragment : Option (List Char) := none
  deriving DecidableEq, Repr

namespace Url

def renderPort : Option Nat → List Char
  | some port => ':' :: (toString port).toList
  | none => []

def renderAfter (mark : Char) : Option (List Char) → List Char
  | some text => mark :: text
  | none => []

/-- What stands between scheme and path. Without a host, a path that begins with two slashes is kept
from being read as a host. -/
def renderAuthority (url : Url) : List Char :=
  match url.host with
  | some host => '/' :: '/' :: url.user.render ++ host.render ++ renderPort url.port
  | none =>
    match kindOf url.scheme, url.path with
    | .file, _ => ['/', '/']
    | _, .segments ([] :: _ :: _) => ['/', '.']
    | _, _ => []

def render (url : Url) : List Char :=
  url.scheme ++ ':' :: url.renderAuthority ++ url.path.render ++ renderAfter '?' url.query ++
    renderAfter '#' url.fragment

end Url

end LayerCull
