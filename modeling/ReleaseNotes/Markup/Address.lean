/-!
# Namespace addresses

Which texts may name a namespace: those of the generic grammar of resource
identifiers, absolute or relative. Only ASCII characters may stand for
themselves.
-/

namespace ReleaseNotes.Markup.Address

/-- Whether a character is a letter or a digit. -/
def isAlphanumeric (c : Char) : Bool :=
  ('a' ≤ c && c ≤ 'z') || ('A' ≤ c && c ≤ 'Z') || ('0' ≤ c && c ≤ '9')

/-- Whether a character may stand for itself in a segment, a colon and an at sign
apart. -/
def isPlain (c : Char) : Bool :=
  isAlphanumeric c || "-._~!$&\x27()*+,;=".toList.contains c

/-- Whether a character is a hexadecimal digit. -/
def isHex (c : Char) : Bool :=
  ('a' ≤ c && c ≤ 'f') || ('A' ≤ c && c ≤ 'F') || ('0' ≤ c && c ≤ '9')

/-- What is left after the longest run of admitted characters and percent escapes. -/
def skipRun (admitted : Char → Bool) : List Char → List Char
  | '%' :: a :: b :: rest =>
    if isHex a && isHex b then skipRun admitted rest else '%' :: a :: b :: rest
  | c :: rest => if isPlain c || admitted c then skipRun admitted rest else c :: rest
  | [] => []

/-- Whether a text is a host with an optional service number. -/
def isHost (cs : List Char) : Bool :=
  match cs with
  | '[' :: rest =>
    match rest.dropWhile (· != ']') with
    | ']' :: service => isService service
    | _ => false
  | _ => isService (skipRun (fun _ => false) cs)
where
  /-- Whether a text is empty or a colon and digits. -/
  isService : List Char → Bool
    | [] => true
    | ':' :: digits => digits.all fun c => '0' ≤ c && c ≤ '9'
    | _ => false

/-- Whether a text is an authority: a host, perhaps after the name of a user. -/
def isAuthority (cs : List Char) : Bool :=
  match skipRun (· == ':') cs with
  | '@' :: host => isHost host
  | _ => isHost cs

/-- Whether a text is a query and a fragment, both optional. -/
def isEnding (cs : List Char) : Bool :=
  let fragment : List Char → Bool := fun rest =>
    match rest with
    | [] => true
    | '#' :: more => (skipRun ("/?[]:@".toList.contains ·) more).isEmpty
    | _ => false
  match cs with
  | '?' :: query => fragment (skipRun ("/?:@".toList.contains ·) query)
  | _ => fragment cs

/-- Whether a text is a path with its ending. The first segment of a path that does not
begin with a slash may hold a colon only if `colon` says so. -/
def isPath (colon : Bool) (cs : List Char) : Bool :=
  match cs with
  | '/' :: '/' :: rest =>
    let ended : Char → Bool := fun c => c == '/' || c == '?' || c == '#'
    isAuthority (rest.takeWhile (!ended ·)) &&
      isEnding (skipRun ("/:@".toList.contains ·) (rest.dropWhile (!ended ·)))
  | '/' :: _ => isEnding (skipRun ("/:@".toList.contains ·) cs)
  | _ =>
    let rest := skipRun (fun c => c == '@' || (colon && c == ':')) cs
    match rest with
    | '/' :: _ => rest != cs && isEnding (skipRun ("/:@".toList.contains ·) rest)
    | _ => isEnding rest

/-- Whether a text is an address with a scheme. -/
def isAbsolute (cs : List Char) : Bool :=
  match cs with
  | c :: _ =>
    isAlphanumeric c && !('0' ≤ c && c ≤ '9') &&
      match cs.dropWhile fun d => isAlphanumeric d || d == '+' || d == '-' || d == '.' with
      | ':' :: rest => isPath true rest
      | _ => false
  | [] => false

/-- Whether a text is an address. -/
def isValid (cs : List Char) : Bool :=
  isAbsolute cs || isPath false cs

end ReleaseNotes.Markup.Address
