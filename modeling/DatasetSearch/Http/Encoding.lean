import DatasetSearch.Http.Message
import DatasetSearch.Text.Space

/-!
Negotiation of the content encoding. A list of accepted encodings carries a weight of up to three
decimal places for each; what is malformed, unknown or weighted zero is passed over, and of the
rest the weightiest wins, compression before none.
-/

set_option autoImplicit false
set_option relaxedAutoImplicit false

namespace DatasetSearch.Http

/-- Content codings that the service can send. -/
inductive Coding where
  | identity
  | gzip
  deriving DecidableEq, Repr

def Coding.ofName? (name : String) : Option Coding :=
  if sameName name "gzip" || sameName name "x-gzip" then some .gzip
  else if sameName name "identity" then some .identity
  else none

/-- Thousandths written as decimal places, at most three of them. -/
def weightPlaces? (value place : Nat) : List Char → Option Nat
  | [] => if value ≤ 1000 then some value else none
  | c :: rest =>
    if '0' ≤ c ∧ c ≤ '9' ∧ 0 < place then
      weightPlaces? (value + place * (c.toNat - '0'.toNat)) (place / 10) rest
    else none

def weightValue? (value : Nat) : List Char → Option Nat
  | [] => some value
  | '.' :: places => weightPlaces? value 100 places
  | _ => none

/-- A weight in thousandths, from a parameter such as `q=0.5`. -/
def weight? (s : String) : Option Nat :=
  match s.toList with
  | mark :: '=' :: '0' :: rest => if mark.toLower = 'q' then weightValue? 0 rest else none
  | mark :: '=' :: '1' :: rest => if mark.toLower = 'q' then weightValue? 1000 rest else none
  | _ => none

/-- One accepted encoding with its weight. -/
def accepted? (item : List Char) : Option (Coding × Nat) := do
  let name := item.takeWhile (· != ';')
  let coding ← Coding.ofName? (Text.trim (String.ofList name))
  match item.dropWhile (· != ';') with
  | [] => return (coding, 1000)
  | _ :: parameter => return (coding, ← weight? (Text.trim (String.ofList parameter)))

/-- Header values with characters beyond visible ASCII, blanks and tabs are passed over. -/
def isReadable (value : String) : Bool :=
  value.toList.all fun c ↦ c == '\t' || (0x20 ≤ c.toNat && c.toNat < 0x7F)

def prefers (a b : Coding × Nat) : Bool :=
  b.2 < a.2 || (a.2 == b.2 && a.1 == .gzip)

def negotiate (values : List String) : Coding :=
  let offers := (values.filter isReadable).flatMap fun value ↦
    (value.toList.splitOn ',').filterMap accepted?
  let best := (offers.filter (0 < ·.2)).foldl
    (fun best offer ↦ if prefers offer best then offer else best) (Coding.identity, 0)
  best.1

end DatasetSearch.Http
