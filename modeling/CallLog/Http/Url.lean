/-!
# HTTP addresses

The part of a URL that an HTTP exchange needs: whom to connect to and what to ask for. The target is
path and query; an empty path is `/`, and a fragment is not sent. Which texts are URLs is up to the
library that carries the requests. `HttpUrl.parse?` reads those that are written out in full; it does
not look into the authority.
-/

namespace CallLog

/-- The origin to connect to, which is scheme, host and port, and the target to ask for. -/
structure HttpUrl where
  origin : String
  target : String
  deriving DecidableEq, Repr

namespace HttpUrl

/-- The schemes of HTTP, in lower case. -/
def schemes : List (List Char) := [['h', 't', 't', 'p'], ['h', 't', 't', 'p', 's']]

/-- An authority ends before a slash, a question mark or a number sign. -/
def endsAuthority (c : Char) : Bool := c == '/' || c == '?' || c == '#'

/-- Path and query of what follows the authority. -/
def targetOf (rest : List Char) : List Char :=
  match rest.takeWhile (· ≠ '#') with
  | '/' :: path => '/' :: path
  | query => '/' :: query

/-- Reads an `http` or `https` URL that is written out in full; the scheme may be in any letter
case. -/
def parse? (text : String) : Option HttpUrl :=
  let scheme := (text.toList.takeWhile (· ≠ ':')).map Char.toLower
  match text.toList.dropWhile (· ≠ ':') with
  | ':' :: '/' :: '/' :: rest =>
    let authority := rest.takeWhile (!endsAuthority ·)
    if scheme ∈ schemes ∧ authority ≠ [] then
      some ⟨String.ofList (scheme ++ ':' :: '/' :: '/' :: authority),
        String.ofList (targetOf (rest.dropWhile (!endsAuthority ·)))⟩
    else none
  | _ => none

end HttpUrl
end CallLog
