import FinancialPdfReader.Python.Dict
import FinancialPdfReader.Python.Json

/- `json.loads`, for texts within its limits and without unpaired surrogates: an escape of half a
surrogate pair, which Python turns into a lone surrogate, is no text here, and neither the depth of
recursion nor the number of digits of an integer is bounded. -/

namespace Py
namespace JsonLoads

def isBlank (c : Char) : Bool := c = ' ' || c = '\t' || c = '\n' || c = '\r'

def skipBlanks (cs : List Char) : List Char := cs.dropWhile isBlank

def hexDigit? (c : Char) : Option Nat :=
  if '0' ≤ c && c ≤ '9' then some (c.toNat - 0x30)
  else if 'a' ≤ c && c ≤ 'f' then some (c.toNat - 0x61 + 10)
  else if 'A' ≤ c && c ≤ 'F' then some (c.toNat - 0x41 + 10)
  else none

/-- The code unit of a `\uXXXX` escape. -/
def hexUnit? (a b c d : Char) : Option Nat := do
  pure ((((← hexDigit? a) * 16 + (← hexDigit? b)) * 16 + (← hexDigit? c)) * 16 + (← hexDigit? d))

def escape? : Char → Option Char
  | '"' => some '"'
  | '\\' => some '\\'
  | '/' => some '/'
  | 'b' => some (Char.ofNat 0x8)
  | 'f' => some (Char.ofNat 0xc)
  | 'n' => some '\n'
  | 'r' => some '\r'
  | 't' => some '\t'
  | _ => none

def isSurrogate (n : Nat) : Bool := 0xD800 ≤ n && n < 0xE000

/-- The rest of a string literal after its opening quote. Two escaped halves of a surrogate pair
make one character; a half alone is no character and is refused. -/
def scanString : List Char → Option (List Char × List Char)
  | '"' :: cs => some ([],cs)
  | '\\' :: 'u' :: a :: b :: c :: d :: '\\' :: 'u' :: a' :: b' :: c' :: d' :: cs => do
      let high ← hexUnit? a b c d
      if isSurrogate high then
        let low ← hexUnit? a' b' c' d'
        if high < 0xDC00 && 0xDC00 ≤ low && low < 0xE000 then
          let (text,rest) ← scanString cs
          pure (Char.ofNat (0x10000 + (high - 0xD800) * 0x400 + (low - 0xDC00)) :: text,rest)
        else none
      else
        let (text,rest) ← scanString ('\\' :: 'u' :: a' :: b' :: c' :: d' :: cs)
        pure (Char.ofNat high :: text,rest)
  | '\\' :: 'u' :: a :: b :: c :: d :: cs => do
      let unit ← hexUnit? a b c d
      if isSurrogate unit then none
      else
        let (text,rest) ← scanString cs
        pure (Char.ofNat unit :: text,rest)
  | '\\' :: e :: cs => do
      let c ← escape? e
      let (text,rest) ← scanString cs
      pure (c :: text,rest)
  | c :: cs =>
      if c.toNat < 0x20 then none
      else do
        let (text,rest) ← scanString cs
        pure (c :: text,rest)
  | [] => none

def isDigit (c : Char) : Bool := '0' ≤ c && c ≤ '9'

def natOf (ds : List Char) : Nat := ds.foldl (fun n d => 10 * n + (d.toNat - 0x30)) 0

/-- The digits after a point, where there are any. -/
def scanFraction : List Char → List Char × List Char
  | '.' :: cs =>
      if (cs.takeWhile isDigit).isEmpty then ([],'.' :: cs)
      else (cs.takeWhile isDigit,cs.dropWhile isDigit)
  | cs => ([],cs)

/-- The signed exponent, where there is one. -/
def scanExponent : List Char → Option Int × List Char
  | e :: cs =>
      let (negative,ds) := match cs with
        | '-' :: ds => (true,ds)
        | '+' :: ds => (false,ds)
        | ds => (false,ds)
      if (e = 'e' || e = 'E') && !(ds.takeWhile isDigit).isEmpty then
        let n : Int := natOf (ds.takeWhile isDigit)
        (some (if negative then -n else n),ds.dropWhile isDigit)
      else (none,e :: cs)
  | [] => (none,[])

/-- `(-?(?:0|[1-9]\d*))(\.\d+)?([eE][-+]?\d+)?`, without its sign. -/
def scanNumber (negative : Bool) (cs : List Char) : Option (Json × List Char) := do
  let (whole,rest) ← match cs with
    | '0' :: rest => some (['0'],rest)
    | _ =>
        if (cs.takeWhile isDigit).isEmpty then none
        else some (cs.takeWhile isDigit,cs.dropWhile isDigit)
  let (fraction,rest) := scanFraction rest
  let (exponent,rest) := scanExponent rest
  let sign : Int := if negative then -1 else 1
  if fraction.isEmpty && exponent.isNone then pure (.int (sign * natOf whole),rest)
  else
    let mantissa : ℚ := sign * natOf (whole ++ fraction)
    let shift : Int := exponent.getD 0 - fraction.length
    pure (.float (.finite (mantissa * (10 : ℚ)^shift)),rest)

def scanWord (word : String) (value : Json) (cs : List Char) : Option (Json × List Char) :=
  if word.toList.isPrefixOf cs then some (value,cs.drop word.toList.length) else none

mutual

/-- One value; `fuel` bounds the nesting and the number of members read. -/
def scanValue : Nat → List Char → Option (Json × List Char)
  | 0, _ => none
  | fuel + 1, cs => match cs with
    | '"' :: cs => (scanString cs).map (fun p => (.str (String.ofList p.1),p.2))
    | '{' :: cs => match skipBlanks cs with
      | '}' :: rest => some (.obj [],rest)
      | rest => scanMembers fuel .empty rest
    | '[' :: cs => match skipBlanks cs with
      | ']' :: rest => some (.arr [],rest)
      | rest => scanItems fuel [] rest
    | 'n' :: _ => scanWord "null" .null cs
    | 't' :: _ => scanWord "true" (.bool true) cs
    | 'f' :: _ => scanWord "false" (.bool false) cs
    | 'N' :: _ => scanWord "NaN" (.float .nan) cs
    | 'I' :: _ => scanWord "Infinity" (.float (.inf false)) cs
    | '-' :: 'I' :: _ => scanWord "-Infinity" (.float (.inf true)) cs
    | '-' :: cs => scanNumber true cs
    | cs => scanNumber false cs

/-- The members of an object from the first quote of a key on; a repeated key takes the last
value. -/
def scanMembers : Nat → Dict String Json → List Char → Option (Json × List Char)
  | 0, _, _ => none
  | fuel + 1, fields, '"' :: cs => do
      let (key,rest) ← scanString cs
      match skipBlanks rest with
      | ':' :: rest => do
          let (value,rest) ← scanValue fuel (skipBlanks rest)
          let fields := fields.set (String.ofList key) value
          match skipBlanks rest with
          | ',' :: rest => scanMembers fuel fields (skipBlanks rest)
          | '}' :: rest => some (.obj fields.entries,rest)
          | _ => none
      | _ => none
  | _, _, _ => none

def scanItems : Nat → List Json → List Char → Option (Json × List Char)
  | 0, _, _ => none
  | fuel + 1, xs, cs => do
      let (x,rest) ← scanValue fuel cs
      match skipBlanks rest with
      | ',' :: rest => scanItems fuel (xs ++ [x]) (skipBlanks rest)
      | ']' :: rest => some (.arr (xs ++ [x]),rest)
      | _ => none

end

end JsonLoads

/-- `json.loads`, with `none` for the text that it refuses. -/
def Json.loads (s : String) : Option Json := do
  let cs := JsonLoads.skipBlanks s.toList
  let (value,rest) ← JsonLoads.scanValue (cs.length + 1) cs
  if (JsonLoads.skipBlanks rest).isEmpty then some value else none

end Py
