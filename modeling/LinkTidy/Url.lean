import LinkTidy.Text
/-!
The parts of an address. Any text can be taken apart: the parts, put together again in order, give the text back.
-/

set_option autoImplicit false

namespace LinkTidy

/-- An address taken apart, and the byte offset at which it was found. The user information ends with its `@`; each part
behind the host begins with the sign that sets it off. -/
structure Url where
  offset : Nat
  scheme : Option Text
  userinfo : Text
  host : Text
  port : Text
  path : Text
  query : Option Text
  fragment : Option Text
deriving DecidableEq, Repr

namespace Url

def isScheme : Text → Bool
  | [] => false
  | c :: rest => c.isAlpha && rest.all fun d => d.isAlphanum || d = '+' || d = '-' || d = '.'

def cutBefore (stop : Char) (text : Text) : Text × Option Text :=
  match text.dropWhile (· != stop) with
  | [] => (text, none)
  | rest => (text.takeWhile (· != stop), some rest)

def cutAfterAt (text : Text) : Text × Text :=
  let host := (text.reverse.takeWhile (· != '@')).reverse
  (text.take (text.length - host.length), host)

def cutScheme (text : Text) : Option Text × Text :=
  match cutAt? "://".toList text with
  | some (scheme, rest) => if isScheme scheme then (some scheme, rest) else (none, text)
  | none => (none, text)

def ofText (offset : Nat) (text : Text) : Url :=
  let (beforeFragment, fragment) := cutBefore '#' text
  let (resource, query) := cutBefore '?' beforeFragment
  let (scheme, hierarchy) := cutScheme resource
  let (authority, path) := cutBefore '/' hierarchy
  let (userinfo, hostAndPort) := cutAfterAt authority
  let (host, port) := cutBefore ':' hostAndPort
  {
    offset := offset
    scheme := scheme
    userinfo := userinfo
    host := host
    port := port.getD []
    path := path.getD []
    query := query
    fragment := fragment }

def resource (url : Url) : Text :=
  (url.scheme.map (· ++ "://".toList)).getD [] ++ url.userinfo ++ url.host ++ url.port ++ url.path

def original (url : Url) : Text :=
  url.resource ++ url.query.getD [] ++ url.fragment.getD []

def querySpan (url : Url) : Option (Nat × Nat) :=
  url.query.map fun query => (byteLength url.resource, byteLength url.resource + byteLength query)

end Url
end LinkTidy
