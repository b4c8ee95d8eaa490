import DatasetSearch.Json.Writer

/-!
Requests and responses. Header names are compared without regard to case; a response's headers are
kept with lower-case names. A body that is sent compressed is kept here as it was before, and the
content encoding says what was done to it.
-/

set_option autoImplicit false
set_option relaxedAutoImplicit false

namespace DatasetSearch.Http

structure Request where
  method : String := "GET"
  target : String
  headers : List (String × String) := []
  deriving DecidableEq, Repr

structure Response where
  status : Nat
  headers : List (String × String) := []
  body : String := ""
  deriving DecidableEq, Repr

def sameName (a b : String) : Bool :=
  a.toList.map Char.toLower == b.toList.map Char.toLower

/-- The values of all headers of the given name, in their order. -/
def Request.header (request : Request) (name : String) : List String :=
  (request.headers.filter fun header ↦ sameName header.1 name).map Prod.snd

def Response.withHeader (response : Response) (name value : String) : Response :=
  { response with headers := response.headers ++ [(name, value)] }

def Response.ofJson (status : Nat) (value : Json) : Response where
  status := status
  headers := [("content-type", "application/json")]
  body := value.compact

def Response.ofText (status : Nat) (text : String) : Response where
  status := status
  headers := [("content-type", "text/plain; charset=utf-8")]
  body := text

/-! ### what a message may hold -/

def isTokenChar (c : Char) : Bool :=
  ('A' ≤ c && c ≤ 'Z') || ('a' ≤ c && c ≤ 'z') || ('0' ≤ c && c ≤ '9') ||
    "!#$%&'*+-.^_\x60|~".toList.contains c

def isToken (s : String) : Bool :=
  !s.isEmpty && s.toList.all isTokenChar

def isHeaderChar (c : Char) : Bool :=
  c == '\t' || (0x20 ≤ c.toNat && c.toNat != 0x7F)

/-- Method and headers are spelled with the characters that a message can carry. -/
def Request.isWellFormed (request : Request) : Bool :=
  isToken request.method &&
    request.headers.all fun (name, value) ↦ isToken name && value.toList.all isHeaderChar

end DatasetSearch.Http
