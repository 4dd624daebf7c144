import CallTelemetry.Text.Ascii

/-!
# Request targets

A target is a path with an optional query, a bare authority, or a scheme with an authority and a path.
Nothing is normalised but the letter case of `http` and `https`. The authority is checked by one pass
over its characters (`AuthorityScan`), the path and the query by the characters they may hold.
-/

namespace CallTelemetry

/-- The parts of a request target. -/
structure Uri where
  scheme : Option String
  authority : Option String
  path : String
  query : Option String
  deriving DecidableEq, Repr

namespace Uri

/-- The longest target, in bytes. -/
def maxLength : Nat := 65534

/-- The longest scheme, in characters. -/
def maxScheme : Nat := 64

/-- The most colons that an address in brackets may hold. -/
def maxColons : Nat := 8

def isSchemeChar (c : Char) : Bool :=
  c.isAlphanum || c = '+' || c = '-' || c = '.'

def isAuthorityChar (c : Char) : Bool :=
  c.isAlphanum || "!$&'()*+,-.:;=@[]_~".toList.contains c

def isPathChar (c : Char) : Bool :=
  c = '!' || ('$' ≤ c && c ≤ ';') || c = '=' || ('@' ≤ c && c ≤ '_') || ('a' ≤ c && c ≤ 'z') || c = '|' ||
    c = '~' || c = '"' || c = '\x7b' || c = '\x7d' || '\x80' ≤ c

def isQueryChar (c : Char) : Bool :=
  c = '!' || ('$' ≤ c && c ≤ ';') || c = '=' || ('?' ≤ c && c ≤ '~') || '\x80' ≤ c

/-- Whether a character ends the authority. -/
def endsAuthority (c : Char) : Bool :=
  c = '/' || c = '?' || c = '#'

/-- What has been seen of an authority: the colons and the percent sign since the last `@` or `]`, the
brackets, and whether an `@` came last. -/
structure AuthorityScan where
  colons : Nat := 0
  percent : Bool := false
  opened : Bool := false
  closed : Bool := false
  endsWithAt : Bool := false

namespace AuthorityScan

/-- One character more, if it may stand there. -/
def step (s : AuthorityScan) (c : Char) : Option AuthorityScan :=
  if c = ':' then
    if maxColons ≤ s.colons then none else some { s with colons := s.colons + 1, endsWithAt := false }
  else if c = '[' then
    if s.percent || s.opened then none else some { s with opened := true, endsWithAt := false }
  else if c = ']' then
    if !s.opened || s.closed then none
    else some { s with closed := true, colons := 0, percent := false, endsWithAt := false }
  else if c = '@' then some { s with colons := 0, percent := false, endsWithAt := true }
  else if c = '%' then some { s with percent := true, endsWithAt := false }
  else if isAuthorityChar c then some { s with endsWithAt := false }
  else none

/-- Whether the authority may end here: brackets are paired, at most one colon is left for a port, and
no percent sign is left in the host. -/
def accepts (s : AuthorityScan) : Bool :=
  s.opened == s.closed && s.colons ≤ 1 && !s.endsWithAt && !s.percent

end AuthorityScan

/-- Whether the characters form an authority, the empty one included. -/
def isAuthority (cs : List Char) : Bool :=
  (cs.foldlM AuthorityScan.step {}).any (·.accepts)

/-- A scheme and what comes after `://`. A scheme that is too long is no target at all. -/
def splitScheme (cs : List Char) : Option (Option String × List Char) :=
  let name := cs.takeWhile isSchemeChar
  match cs.dropWhile isSchemeChar with
  | ':' :: '/' :: '/' :: rest =>
    let s := String.ofList name
    if (Text.lower s = "http" || Text.lower s = "https") then some (some (Text.lower s), rest)
    else if cs.length ≤ 3 then some (none, cs)
    else if maxScheme < name.length then none
    else some (some s, rest)
  | _ => some (none, cs)

/-- The path and the query at the head of a text that starts with `/`, `?` or `#`, or is empty. What
follows `#` is dropped. -/
def splitPath (cs : List Char) : Option (String × Option String) :=
  let cs := cs.takeWhile (· ≠ '#')
  let path := cs.takeWhile (· ≠ '?')
  let shown := if path.isEmpty then "/" else String.ofList path
  if !path.all isPathChar then none
  else
    match cs.dropWhile (· ≠ '?') with
    | [] => some (shown, none)
    | _ :: query => if query.all isQueryChar then some (shown, some (String.ofList query)) else none

/-- The target that a text writes. -/
def parse? (text : String) : Option Uri :=
  let cs := text.toList
  if maxLength < text.utf8ByteSize then none
  else if cs.isEmpty then none
  else if cs = ['*'] then some ⟨none, none, "*", none⟩
  else if cs.head? = some '/' then do
    let (path, query) ← splitPath cs
    return ⟨none, none, path, query⟩
  else do
    let (scheme, rest) ← splitScheme cs
    let authority := rest.takeWhile (!endsAuthority ·)
    let tail := rest.dropWhile (!endsAuthority ·)
    if !isAuthority authority then none
    else if scheme.isNone then
      if tail.isEmpty then some ⟨none, some (String.ofList authority), "", none⟩ else none
    else if authority.isEmpty then none
    else do
      let (path, query) ← splitPath tail
      return ⟨scheme, some (String.ofList authority), path, query⟩

/-- The characters after the last `@`. -/
def afterUser (cs : List Char) : List Char :=
  (cs.reverse.takeWhile (· ≠ '@')).reverse

/-- The host in an authority and what follows it: an address with its brackets, or what comes before
the colon. -/
def splitHost (authority : String) : String × List Char :=
  let cs := afterUser authority.toList
  if cs.head? = some '[' then
    (String.ofList (cs.takeWhile (· ≠ ']') ++ [']']), (cs.dropWhile (· ≠ ']')).drop 1)
  else (String.ofList (cs.takeWhile (· ≠ ':')), cs.dropWhile (· ≠ ':'))

/-- The host, in the letter case in which it was written. -/
def host? (uri : Uri) : Option String :=
  uri.authority.map fun a => (splitHost a).1

/-- Whether a text after a host is empty or a port. -/
def isPort : List Char → Bool
  | [] => true
  | ':' :: digits => digits.all Char.isDigit && digits.foldl (fun n c => n * 10 + (c.toNat - 48)) 0 < 65536
  | _ => false

/-- Whether the target names a server that `http` or `https` can reach. -/
def isReachable (uri : Uri) : Bool :=
  (uri.scheme == some "http" || uri.scheme == some "https") &&
    uri.authority.any fun a => (splitHost a).1 != "" && isPort (splitHost a).2

end Uri

end CallTelemetry
