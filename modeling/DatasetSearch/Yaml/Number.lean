import DatasetSearch.Binary64.Reader
import DatasetSearch.Yaml.Node

/-!
Scalars read as numbers. A whole number is decimal, or has a base mark in front; digits that start
with a needless zero are no number. A floating-point number has a decimal text or one of the words
for infinity and for what is no number, and a decimal text may not be out of range.
-/

set_option autoImplicit false
set_option relaxedAutoImplicit false

namespace DatasetSearch.Yaml

def baseDigit? (base : Nat) (c : Char) : Option Nat := do
  let digit ← Text.Numeral.hexDigit? c
  guard (digit < base)
  return digit

def inBase? (base : Nat) (digits : List Char) : Option Nat :=
  if digits.isEmpty then none
  else digits.foldlM (fun value c ↦ (baseDigit? base c).map (value * base + ·)) 0

/-- A natural number behind an optional plus sign. -/
def natural? (text : String) : Option Nat :=
  let digits := match text.toList with
    | '+' :: rest => rest
    | cs => cs
  match digits with
  | '0' :: 'x' :: rest => inBase? 16 rest
  | '0' :: 'o' :: rest => inBase? 8 rest
  | '0' :: 'b' :: rest => inBase? 2 rest
  | '0' :: _ :: _ => none
  | digits => inBase? 10 digits

def isPositiveInfinity (s : String) : Bool := [".inf", ".Inf", ".INF"].contains s

def isNegativeInfinity (s : String) : Bool := ["-.inf", "-.Inf", "-.INF"].contains s

def isNotANumber (s : String) : Bool := [".nan", ".NaN", ".NAN"].contains s

def binary64? (text : String) : Option Binary64 := do
  let unsigned ← match text.toList with
    | '+' :: '+' :: _ => none
    | '+' :: '-' :: _ => none
    | '+' :: rest => some rest
    | cs => some cs
  if isPositiveInfinity (String.ofList unsigned) then return .infinity false
  if isNegativeInfinity text then return .infinity true
  if isNotANumber text then return .nan
  let x ← Binary64.ofText? unsigned
  guard x.isFinite
  return x

/-- The text of a scalar that may be read as a number: a plain one, or a literal block with the
tag of that kind of number. -/
def Node.numberText? (tagged : String) : Node → Option String
  | .scalar text .plain _ => some text
  | .scalar text .literal (some tag) => if tag = tagged then some text else none
  | _ => none

def intTag : String := "tag:yaml.org,2002:int"

def floatTag : String := "tag:yaml.org,2002:float"

def Node.natural? (node : Node) : Option Nat := do
  DatasetSearch.Yaml.natural? (← node.numberText? intTag)

def Node.binary64? (node : Node) : Option Binary64 := do
  DatasetSearch.Yaml.binary64? (← node.numberText? floatTag)

/-- The text of a scalar of any form. -/
def Node.text? : Node → Option String
  | .scalar text _ _ => some text
  | _ => none

end DatasetSearch.Yaml
