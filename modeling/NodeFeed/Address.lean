import NodeFeed.Errno

/-!
Which publisher addresses a transport accepts. An address is a protocol and a path with `://` between
them; the one protocol known here is `tcp`, and its path ends in a colon and a number.
-/

namespace NodeFeed.Address

def split? : List Char → Option (List Char × List Char)
  | ':' :: '/' :: '/' :: path => some ([], path)
  | [] => none
  | c :: rest => (split? rest).map fun s => (c :: s.1, s.2)

def isHostStart (c : Char) : Bool := c.isAlphanum || c == '[' || c == ':'

def isHostChar (c : Char) : Bool :=
  c.isAlphanum || c ∈ ['.', '-', ':', '%', ';', '[', ']', '_', '*']

def afterLastColon? (path : List Char) : Option (List Char) :=
  if ':' ∈ path then some (path.reverse.takeWhile (· != ':')).reverse else none

def isTcpPath (path : List Char) : Bool :=
  (match path with
    | [] => false
    | c :: rest => isHostStart c && rest.all isHostChar) &&
  (match afterLastColon? path with
    | some (d :: _) => d.isDigit
    | _ => false)

def check (address : String) : Except Errno Unit :=
  match split? address.toList with
  | none => .error .einval
  | some (protocol, path) =>
    if protocol.isEmpty || path.isEmpty then .error .einval
    else if protocol != "tcp".toList then .error .eprotonosupport
    else if isTcpPath path then .ok ()
    else .error .einval

end NodeFeed.Address
