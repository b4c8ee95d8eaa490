/-!
Request targets: a path with an optional query, alone or behind a scheme and an authority. A
fragment is dropped. Characters beyond ASCII are accepted in path and query and nowhere else, and a
percent sign in the authority only where user information or a bracketed address may hold it.
-/

set_option autoImplicit false
set_option relaxedAutoImplicit false

namespace DatasetSearch

structure Uri where
  path : String
  query : Option String
  deriving DecidableEq, Repr, Inhabited

namespace Uri

def greatestLength : Nat := 65534

def greatestSchemeLength : Nat := 64

def isAlphanumeric (c : Char) : Bool :=
  ('A' ≤ c && c ≤ 'Z') || ('a' ≤ c && c ≤ 'z') || ('0' ≤ c && c ≤ '9')

def isPathChar (c : Char) : Bool :=
  c == '!' || ('$' ≤ c && c ≤ ';') || c == '=' || ('@' ≤ c && c ≤ '_') ||
    ('a' ≤ c && c ≤ 'z') || c == '|' || c == '~' || 0x7F ≤ c.toNat ||
    c == '"' || c == '\x7b' || c == '\x7d'

def isQueryChar (c : Char) : Bool :=
  c == '!' || ('$' ≤ c && c ≤ ';') || c == '=' || '?' ≤ c

def isSchemeChar (c : Char) : Bool :=
  isAlphanumeric c || c == '+' || c == '-' || c == '.' || c == '~'

def isAuthorityChar (c : Char) : Bool :=
  isAlphanumeric c || "!$&'()*+,-.;=_~".toList.contains c

/-! ### path and query -/

def withoutFragment (cs : List Char) : List Char :=
  cs.takeWhile (· != '#')

/-- A path that is empty stands for the root. -/
def ofPathAndQuery? (cs : List Char) : Option Uri :=
  let cs := withoutFragment cs
  let path := cs.takeWhile (· != '?')
  let shown := if path.isEmpty then "/" else String.ofList path
  if path.all isPathChar then
    match cs.dropWhile (· != '?') with
    | [] => some ⟨shown, none⟩
    | _ :: query =>
      if query.all isQueryChar then some ⟨shown, some (String.ofList query)⟩ else none
  else none

/-! ### authority -/

/-- What has been seen of an authority. Colons and percent signs are forgotten at the end of user
information and of a bracketed address, in which they are allowed. -/
structure AuthorityScan where
  colons : Nat := 0
  opened : Bool := false
  closed : Bool := false
  percent : Bool := false
  endsWithAt : Bool := false

def AuthorityScan.step (scan : AuthorityScan) (c : Char) : Option AuthorityScan :=
  let scan := { scan with endsWithAt := c == '@' }
  if c = ':' then
    if 8 ≤ scan.colons then none else some { scan with colons := scan.colons + 1 }
  else if c = '[' then
    if scan.percent || scan.opened then none else some { scan with opened := true }
  else if c = ']' then
    if !scan.opened || scan.closed then none
    else some { scan with closed := true, colons := 0, percent := false }
  else if c = '@' then some { scan with colons := 0, percent := false }
  else if c = '%' then some { scan with percent := true }
  else if isAuthorityChar c then some scan
  else none

def AuthorityScan.accepts (scan : AuthorityScan) : Bool :=
  scan.opened == scan.closed && scan.colons ≤ 1 && !scan.endsWithAt && !scan.percent

def isAuthorityEnd (c : Char) : Bool :=
  c == '/' || c == '?' || c == '#'

def isAuthority (cs : List Char) : Bool :=
  match cs.foldlM AuthorityScan.step {} with
  | some scan => scan.accepts
  | none => false

/-! ### scheme -/

inductive Scheme where
  | absent
  | tooLong
  | before (rest : List Char)

/-- The scheme is what stands before the first colon, if scheme characters do and two slashes
follow. -/
def takeScheme (cs : List Char) : Scheme :=
  match cs.dropWhile isSchemeChar with
  | ':' :: '/' :: '/' :: rest =>
    if greatestSchemeLength < (cs.takeWhile isSchemeChar).length then .tooLong else .before rest
  | _ => .absent

def parse? (s : String) : Option Uri :=
  let cs := s.toList
  if greatestLength < s.utf8ByteSize then none
  else match cs with
    | [] => none
    | ['*'] => some ⟨"*", none⟩
    | '/' :: _ => ofPathAndQuery? cs
    | _ =>
      match takeScheme cs with
      | .tooLong => none
      | .absent =>
        if !cs.any isAuthorityEnd && isAuthority cs then some ⟨"", none⟩ else none
      | .before rest =>
        let authority := rest.takeWhile (!isAuthorityEnd ·)
        if !authority.isEmpty && isAuthority authority then
          ofPathAndQuery? (rest.dropWhile (!isAuthorityEnd ·))
        else none

end Uri

end DatasetSearch
