import TaskDriver.Number.Binary64
import TaskDriver.Yaml.Token

/-! What the text of a scalar stands for: nothing, a truth value, a number or itself. -/
namespace TaskDriver.Yaml

def isNull (s : List Char) : Bool :=
  String.ofList s ∈ ["null", "Null", "NULL", "~"]

def boolean? (s : List Char) : Option Bool :=
  let t := String.ofList s
  if t ∈ ["true", "True", "TRUE"] then some true
  else if t ∈ ["false", "False", "FALSE"] then some false
  else none

def isSign (c : Char) : Bool :=
  c = '+' || c = '-'

/-- Digits after a zero are a text and no number. -/
def isZeroPadded (s : List Char) : Bool :=
  let digits := if s.head?.any isSign then s.drop 1 else s
  match digits with
  | '0' :: c :: r => (c :: r).all Char.isDigit
  | _ => false

def digitIn? (base : Nat) (c : Char) : Option Nat :=
  let v := if c.isDigit then some (c.toNat - 48)
    else if 'a' ≤ c ∧ c ≤ 'z' then some (c.toNat - 87)
    else if 'A' ≤ c ∧ c ≤ 'Z' then some (c.toNat - 55)
    else none
  v.filter (· < base)

/-- A number below `bound`, written in a base. -/
def digits? (base bound : Nat) (s : List Char) : Option Nat :=
  if s = [] then none
  else (s.foldlM (fun n c => do pure (base * n + (← digitIn? base c))) 0).filter (· < bound)

def bases : List (Char × Nat) :=
  [('x', 16), ('o', 8), ('b', 2)]

/-- A number with the mark of its base before it. -/
def marked? (bound : Nat) : List Char → Option Nat
  | '0' :: m :: r => bases.findSome? fun (c, base) =>
    if c = m then digits? base bound r else none
  | _ => none

/-- A number below `bound`, with a plus sign or without. -/
def natural? (bound : Nat) (s : List Char) : Option Nat :=
  let r := if startsWithPlus then s.drop 1 else s
  (marked? bound r).or
    (if r.head?.any isSign || isZeroPadded s then none else digits? 10 bound r)
where
  startsWithPlus : Bool := s.head? = some '+'

/-- A number with a minus sign, not below `-bound`. -/
def negative? (bound : Nat) : List Char → Option Int
  | '-' :: r =>
    let size := (marked? (bound + 1) r).or
      (if isZeroPadded r then none else digits? 10 (bound + 1) r)
    size.map fun n => -(n : Int)
  | _ => none

/-- A finite number, an infinity or no number, by the names that they have in documents. -/
def float? (s : List Char) : Option Number.Binary64 :=
  let t := String.ofList s
  if t ∈ [".inf", ".Inf", ".INF", "+.inf", "+.Inf", "+.INF"] then some (.infinite false)
  else if t ∈ ["-.inf", "-.Inf", "-.INF"] then some (.infinite true)
  else if t ∈ [".nan", ".NaN", ".NAN"] then some .nan
  else
    match Number.Binary64.ofText? s with
    | some (.finite negative mantissa exponent) => some (.finite negative mantissa exponent)
    | _ => none

/-- The values of scalars. Whole numbers too wide for 64 bits but not for 128 have no value. -/
inductive Scalar
  | null
  | boolean (b : Bool)
  | integer (i : Int)
  | wide
  | float (x : Number.Binary64)
  | text (s : List Char)

/-- How many numbers 64 bits hold. -/
def wordLimit : Nat := 0x10000000000000000

def signedLimit : Nat := 0x8000000000000000

def integer? (s : List Char) : Option Scalar :=
  let wide := (natural? (wordLimit * wordLimit) s).isSome ||
    (negative? (wordLimit * signedLimit) s).isSome
  (((natural? wordLimit s).map fun n => .integer n).or
    ((negative? signedLimit s).map .integer)).or (if wide then some .wide else none)

/-- The value of a scalar without quotes and without a tag. -/
def untagged (s : List Char) : Scalar :=
  if s = [] || isNull s then .null
  else
    match boolean? s with
    | some b => .boolean b
    | none =>
      match integer? s with
      | some i => i
      | none =>
        if isZeroPadded s then .text s
        else
          match float? s with
          | some x => .float x
          | none => .text s

def coreTag (name : String) : Octets :=
  octetsOf ("tag:yaml.org,2002:" ++ name).toList

def isLocalTag (t : Octets) : Bool :=
  t.head? = some 33

/-- A local tag that is a text names a kind of value of the author's own. -/
def isOwnTag (t : Octets) : Bool :=
  isLocalTag t && (String.fromUTF8? ⟨t.toArray⟩).isSome

/-- The value of a scalar; it fails if the text does not fit the tag. -/
def scalar? (tag : Option Octets) (style : Style) (s : List Char) : Option Scalar :=
  match tag with
  | none => some (if style = .plain then untagged s else .text s)
  | some t =>
    if t = coreTag "bool" then (boolean? s).map .boolean
    else if t = coreTag "int" then integer? s
    else if t = coreTag "float" then (float? s).map .float
    else if t = coreTag "null" then (if isNull s then some .null else none)
    else if isLocalTag t && style = .plain then some (untagged s)
    else some (.text s)

end TaskDriver.Yaml
