/-!
# Endpoints of exporters

The addresses to which logs and traces are exported.  An address is `scheme://authority` with a path
and a query after it, or an authority alone, a path alone, or one of the signs `/` and `*`.  Only its
form is checked: `Endpoint.check` names the first fault.
-/

namespace ContainerWatch.Endpoint

/-- Why a text is no address. -/
inductive Fault where
  | empty
  | character
  | authority
  | format
  | schemeTooLong
  | tooLong
  deriving DecidableEq, Repr

/-- The text of a fault. -/
def Fault.message : Fault → String
  | empty => "empty string"
  | character => "invalid uri character"
  | authority => "invalid authority"
  | format => "invalid format"
  | schemeTooLong => "scheme too long"
  | tooLong => "uri too long"

/-! ## Scheme -/

/-- The characters that a scheme is made of. -/
def isSchemeChar (c : Char) : Bool := c.isAlphanum || "+-.~".toList.contains c

/-- The longest scheme that is not refused. -/
def maxSchemeLength : Nat := 64

/-- A text in lower case starts so. -/
def startsWithWord (word s : List Char) : Bool := word.isPrefixOf (s.map Char.toLower)

/-- What follows the scheme and its `://`, none when there is no scheme. -/
def afterScheme (s : List Char) : Except Fault (Option (List Char)) :=
  if startsWithWord "http://".toList s then .ok (some (s.drop 7))
  else if startsWithWord "https://".toList s then .ok (some (s.drop 8))
  else
    let scheme := s.takeWhile isSchemeChar
    if 3 < s.length && "://".toList.isPrefixOf (s.drop scheme.length) then
      if maxSchemeLength < scheme.length then .error .schemeTooLong
      else .ok (some (s.drop (scheme.length + 3)))
    else .ok none

/-! ## Authority -/

/-- What was seen of an authority so far. -/
structure AuthorityState where
  /-- colons that can only be the one before a port -/
  colons : Nat := 0
  opened : Bool := false
  closed : Bool := false
  percent : Bool := false
  /-- whether the last character ended a user name -/
  afterUser : Bool := false

/-- The characters that an authority is made of, those with a meaning of their own left out. -/
def isAuthorityChar (c : Char) : Bool := c.isAlphanum || "!$&'()*+,-.;=_~".toList.contains c

/-- The most colons that are counted. -/
def maxColons : Nat := 8

/-- An authority at its end, with what follows it. -/
def authorityEnd (st : AuthorityState) (rest : List Char) : Except Fault (List Char) :=
  if st.opened != st.closed || 1 < st.colons || st.afterUser || st.percent then .error .authority
  else .ok rest

/-- What follows the authority at the front of a text: the end, or a slash, question mark or hash. -/
def afterAuthority (st : AuthorityState) : List Char → Except Fault (List Char)
  | [] => authorityEnd st []
  | c :: rest =>
    let next := { st with afterUser := false }
    match c with
    | '/' | '?' | '#' => authorityEnd st (c :: rest)
    | ':' =>
      if maxColons ≤ st.colons then .error .authority
      else afterAuthority { next with colons := st.colons + 1 } rest
    | '[' =>
      if st.percent || st.opened then .error .authority
      else afterAuthority { next with opened := true } rest
    | ']' =>
      if !st.opened || st.closed then .error .authority
      else afterAuthority { next with closed := true, colons := 0, percent := false } rest
    | '@' => afterAuthority { st with colons := 0, percent := false, afterUser := true } rest
    | '%' => afterAuthority { next with percent := true } rest
    | c => if isAuthorityChar c then afterAuthority next rest else .error .character

/-- What follows a non-empty authority at the front of a text. -/
def afterAuthorityText (s : List Char) : Except Fault (List Char) :=
  if s.isEmpty then .error .empty else afterAuthority {} s

/-! ## Path and query -/

/-- The characters that a path is made of. -/
def isPathChar (c : Char) : Bool :=
  0x21 ≤ c.toNat && !("#<>?`".toList.contains c)

/-- The characters that a query is made of. -/
def isQueryChar (c : Char) : Bool := 0x21 ≤ c.toNat && !("\"#<>".toList.contains c)

/-- Checks a query up to a hash, after which anything may stand. -/
def checkQuery (s : List Char) : Except Fault Unit :=
  match s.dropWhile isQueryChar with
  | [] | '#' :: _ => .ok ()
  | _ => .error .character

/-- Checks a path and the query after it. -/
def checkPath (s : List Char) : Except Fault Unit :=
  match s.dropWhile isPathChar with
  | [] | '#' :: _ => .ok ()
  | '?' :: query => checkQuery query
  | _ => .error .character

/-! ## Addresses -/

/-- The most bytes that an address may have. -/
def maxLength : Nat := 65534

/-- Checks an address that does not start with a slash. -/
def checkFull (s : List Char) : Except Fault Unit := do
  match ← afterScheme s with
  | none =>
    let rest ← afterAuthorityText s
    if rest.isEmpty then .ok () else .error .format
  | some rest =>
    let path ← afterAuthorityText rest
    if path.length = rest.length then .error .format else checkPath path

/-- Checks the form of an address. -/
def check (address : String) : Except Fault Unit :=
  if maxLength < address.utf8ByteSize then .error .tooLong
  else match address.toList with
    | [] => .error .empty
    | ['/'] | ['*'] => .ok ()
    | [c] => do
      let rest ← afterAuthorityText [c]
      if rest.isEmpty then .ok () else .error .character
    | '/' :: rest => checkPath ('/' :: rest)
    | s => checkFull s

end ContainerWatch.Endpoint
