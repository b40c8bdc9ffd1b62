import CardGateway.Text.Split

/-!
# Network addresses in URLs

Dotted and undotted IPv4 numbers in three bases, and IPv6 pieces with one run of zeros left out.
-/

namespace CardGateway.Url

open CardGateway.Text (splitOn)

def digitValue (c : Char) : Nat :=
  if c.isDigit then c.toNat - 48
  else if 'a' ≤ c && c ≤ 'f' then c.toNat - 87
  else if 'A' ≤ c && c ≤ 'F' then c.toNat - 55
  else 16

def numeral (base : Nat) (digits : List Char) : Nat :=
  digits.foldl (fun n c => n * base + digitValue c) 0

namespace Ipv4

/-- A number in base sixteen, eight or ten; one without digits behind its sign of base is zero. -/
def number? (part : List Char) : Option Nat :=
  let (base, digits) := match part with
    | '0' :: 'x' :: rest => (16, rest)
    | '0' :: 'X' :: rest => (16, rest)
    | '0' :: d :: rest => (8, d :: rest)
    | digits => (10, digits)
  if part.isEmpty then none
  else if digits.all fun c => digitValue c < base then some (numeral base digits)
  else none

/-- Without the empty part behind a final dot. -/
def parts (host : List Char) : List (List Char) :=
  let all := splitOn '.' host
  if all.getLast? == some [] then all.dropLast else all

/-- Whether a host has to be an IPv4 address: its last part is a number. -/
def isDue (host : List Char) : Bool :=
  match (parts host).getLast? with
  | none => false
  | some last => !last.isEmpty && (last.all Char.isDigit || (number? last).isSome)

/-- The last number fills all the places that the others leave. -/
def parse? (host : List Char) : Option Nat := do
  let parts := parts host
  if 4 < parts.length then none
  let numbers ← parts.mapM number?
  let last ← numbers.getLast?
  let others := numbers.dropLast
  if Nat.pow 256 (4 - others.length) ≤ last then none
  if others.any fun n => 255 < n then none
  return (others.zipIdx.foldl (fun sum (n, i) => sum + n * Nat.pow 256 (3 - i)) last)

def text (address : Nat) : String :=
  let part (i : Nat) : String := toString (address / Nat.pow 256 i % 256)
  s!"{part 3}.{part 2}.{part 1}.{part 0}"

end Ipv4

namespace Ipv6

/-- Four numbers up to 255 between dots, without leading zeros, as two pieces. -/
def dotted? (text : List Char) : Option (List Nat) := do
  let numbers ← (splitOn '.' text).mapM fun part =>
    match part with
    | [] => none
    | '0' :: _ :: _ => none
    | digits =>
        if digits.all Char.isDigit && digits.length ≤ 3 && numeral 10 digits ≤ 255 then
          some (numeral 10 digits)
        else none
  match numbers with
  | [a, b, c, d] => some [a * 256 + b, c * 256 + d]
  | _ => none

def piece? (part : List Char) : Option Nat :=
  if !part.isEmpty && part.length ≤ 4 && part.all fun c => digitValue c < 16 then
    some (numeral 16 part)
  else none

/-- Pieces between colons, the last of them a dotted address or not. -/
def pieces? : List (List Char) → Option (List Nat)
  | [] => some []
  | [last] => if last.contains '.' then dotted? last else (piece? last).map fun n => [n]
  | part :: rest => do return (← piece? part) :: (← pieces? rest)

/-- No pieces on an empty side of the gap. -/
def side? (text : List Char) : Option (List Nat) :=
  if text.isEmpty then some [] else pieces? (splitOn ':' text)

/-- The text before the first double colon, and the text behind it. -/
def splitGap : List Char → Option (List Char × List Char)
  | ':' :: ':' :: rest => some ([], rest)
  | c :: rest => (splitGap rest).map fun (before, after) => (c :: before, after)
  | [] => none

/-- The gap stands for one piece or more. -/
def parse? (text : List Char) : Option (List Nat) :=
  match splitGap text with
  | none => do
      let pieces ← pieces? (splitOn ':' text)
      if pieces.length = 8 then some pieces else none
  | some (before, after) => do
      if before.contains '.' then none
      let left ← side? before
      let right ← side? after
      if left.length + right.length ≤ 7 then
        some (left ++ List.replicate (8 - left.length - right.length) 0 ++ right)
      else none

/-- The start and length of the first longest run of zeros. -/
def zeroRun (pieces : List Nat) : Nat × Nat :=
  let lengthAt (i : Nat) : Nat := ((pieces.drop i).takeWhile fun n => n == 0).length
  (List.range pieces.length).foldl
    (fun best i => if best.2 < lengthAt i then (i, lengthAt i) else best) (0, 0)

def joined (pieces : List Nat) : List Char :=
  List.intercalate [':'] (pieces.map fun n => Nat.toDigits 16 n)

/-- A run of two zeros or more is left out. -/
def text (pieces : List Nat) : String :=
  let (start, length) := zeroRun pieces
  String.ofList <|
    if length < 2 then joined pieces
    else joined (pieces.take start) ++ [':', ':'] ++ joined (pieces.drop (start + length))

end Ipv6

end CardGateway.Url
