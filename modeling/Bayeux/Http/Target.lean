import Bayeux.Http.Authority
/-! Targets of HTTP requests: a path, a host, or a host with a path. Query and fragment do not
belong to the path. -/

namespace Bayeux.Http.Target

def isSchemeChar (c : Char) : Bool := c.isAlphanum || c == '+' || c == '-' || c == '.' || c == '~'

def endsAuthority (c : Char) : Bool := c == '/' || c == '?' || c == '#'

def endsPath (c : Char) : Bool := c == '?' || c == '#'

/-- What stands in front of query and fragment. -/
def ownPath (target : List Char) : String := String.ofList (target.takeWhile fun c => !endsPath c)

/-- Behind `scheme://`, where there is one. -/
def authority? (target : List Char) : Option (List Char) :=
  match target.dropWhile isSchemeChar with
  | ':' :: '/' :: '/' :: rest => some rest
  | _ => none

/-- Targets without a path are a star or name nothing but a host. -/
def path? (target : String) : Option String :=
  match target.toList with
  | '/' :: rest => some (ownPath ('/' :: rest))
  | target =>
    (authority? target).map fun rest =>
      let path := ownPath (rest.dropWhile fun c => !endsAuthority c)
      if path = "" then "/" else path

/-- What a client asks the host of its target for. -/
def asked? (target : String) : Option String :=
  (authority? target.toList).map fun rest =>
    let inside := (rest.dropWhile fun c => !endsAuthority c).takeWhile (· != '#')
    if inside.isEmpty then "/" else String.ofList inside

/-! Which targets are sound. -/

/-- In bytes. -/
def maxSize : Nat := 65534

def maxSchemeSize : Nat := 64

def isQueryChar (c : Char) : Bool :=
  '!' ≤ c && c != '"' && c != '#' && c != '<' && c != '>'

def isPathChar (c : Char) : Bool := isQueryChar c && c != '?' && c != '`' || c == '"'

/-- A fragment may hold anything. -/
def soundQuery (query : List Char) : Bool :=
  match query.dropWhile isQueryChar with
  | [] | '#' :: _ => true
  | _ => false

def soundPath (path : List Char) : Bool :=
  match path.dropWhile isPathChar with
  | [] | '#' :: _ => true
  | '?' :: query => soundQuery query
  | _ => false

def soundParts (target : List Char) : Bool :=
  match target, authority? target with
  | '/' :: _, _ => soundPath target
  | _, some rest =>
    let host := rest.takeWhile fun c => !endsAuthority c
    decide ((target.takeWhile isSchemeChar).length ≤ maxSchemeSize) && !host.isEmpty &&
      Authority.isSound host && soundPath (rest.dropWhile fun c => !endsAuthority c)
  | _, none => !target.isEmpty && Authority.isSound target

def isSound (target : String) : Bool :=
  decide (target.utf8ByteSize ≤ maxSize) && soundParts target.toList

end Bayeux.Http.Target
