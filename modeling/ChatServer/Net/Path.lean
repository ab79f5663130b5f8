/-!
Addresses of requests and the paths in them. An address is a path, or begins with a scheme and a
host, as in `http://host:80/path?query`.
-/

namespace ChatServer.Net

def isSchemeChar (c : Char) : Bool :=
  c.isAlphanum || c == '+' || c == '-' || c == '.'

/-- Does a character end the host? -/
def endsHost (c : Char) : Bool :=
  c == '/' || c == '?' || c == '#'

/-- What follows the host of an address that begins with a scheme. -/
def afterHost? (address : List Char) : Option (List Char) :=
  ("://".toList.isPrefixOf? (address.dropWhile isSchemeChar)).map (·.dropWhile (!endsHost ·))

/-- The part before the query and before a mark inside the page. -/
def withoutQuery (address : List Char) : List Char :=
  address.takeWhile fun c => c ≠ '?' && c ≠ '#'

/-- The path of an address. Behind a host the root need not be written. -/
def pathOf (address : String) : String :=
  match afterHost? address.toList with
  | none => .ofList (withoutQuery address.toList)
  | some rest =>
    let path := withoutQuery rest
    if path.isEmpty then "/" else .ofList path

end ChatServer.Net
