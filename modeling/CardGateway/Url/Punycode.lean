/-!
# Punycode

Labels with characters past ASCII as ASCII texts: the ASCII characters, a hyphen, and the others as
differences in digits of a varying base.
-/

namespace CardGateway.Url.Punycode

def digit (n : Nat) : Char :=
  if n < 26 then Char.ofNat (97 + n) else Char.ofNat (22 + n)

def digitValue? (c : Char) : Option Nat :=
  if 'a' ≤ c && c ≤ 'z' then some (c.toNat - 97)
  else if 'A' ≤ c && c ≤ 'Z' then some (c.toNat - 65)
  else if c.isDigit then some (c.toNat - 22)
  else none

def threshold (k bias : Nat) : Nat :=
  if k ≤ bias + 1 then 1 else if bias + 26 ≤ k then 26 else k - bias

def shrink (delta k : Nat) : Nat → Nat
  | 0 => k
  | fuel + 1 =>
      if 455 < delta then shrink (delta / 35) (k + 36) fuel else k + 36 * delta / (delta + 38)

def adapt (delta count : Nat) (first : Bool) : Nat :=
  let delta := if first then delta / 700 else delta / 2
  shrink (delta + delta / count) 0 (delta + 1)

def digits (bias k q : Nat) : Nat → List Char
  | 0 => []
  | fuel + 1 =>
      let t := threshold k bias
      if q < t then [digit q]
      else digit (t + (q - t) % (36 - t)) :: digits bias (k + 36) ((q - t) / (36 - t)) fuel

structure Progress where
  output : List Char
  delta : Nat
  bias : Nat
  handled : Nat

/-- Passes over one character while the characters `m` are written. -/
def Progress.step (basic m : Nat) (p : Progress) (c : Char) : Progress :=
  if c.toNat < m then { p with delta := p.delta + 1 }
  else if c.toNat = m then
    { output := p.output ++ digits p.bias 36 p.delta (p.delta + 1)
      delta := 0
      bias := adapt p.delta (p.handled + 1) (p.handled == basic)
      handled := p.handled + 1 }
  else p

def extras (label : List Char) : List Nat :=
  ((label.map Char.toNat).filter fun n => 0x80 ≤ n).eraseDups.mergeSort

/-- The characters past ASCII in ascending order; `n` is the first that may come next. -/
def encodeExtras (label : List Char) (basic : Nat) : List Nat → Nat → Progress → Progress
  | [], _, p => p
  | m :: rest, n, p =>
      let p := { p with delta := p.delta + (m - n) * (p.handled + 1) }
      let p := label.foldl (Progress.step basic m) p
      encodeExtras label basic rest (m + 1) { p with delta := p.delta + 1 }

def encode (label : List Char) : List Char :=
  let basic := label.filter fun c => c.toNat < 0x80
  let start : Progress := ⟨[], 0, 72, basic.length⟩
  let coded := (encodeExtras label basic.length (extras label) 0x80 start).output
  if basic.isEmpty then coded else basic ++ '-' :: coded

/-- One difference: its value and what follows its digits. -/
def difference (bias : Nat) : Nat → Nat → Nat → List Char → Option (Nat × List Char)
  | _, _, _, [] => none
  | k, weight, sum, c :: rest => do
      let d ← digitValue? c
      let t := threshold k bias
      let sum := sum + d * weight
      if d < t then some (sum, rest) else difference bias (k + 36) (weight * (36 - t)) sum rest

/-- Each difference says which character comes next and where. -/
def decodeExtras (output : List Char) (n i bias : Nat) (first : Bool) :
    Nat → List Char → Option (List Char)
  | _, [] => some output
  | 0, _ :: _ => none
  | fuel + 1, text => do
      let (delta, rest) ← difference bias 36 1 0 text
      let size := output.length + 1
      let i := i + delta
      let n := n + i / size
      let place := i % size
      if !Nat.isValidChar n then none
      let output := output.take place ++ Char.ofNat n :: output.drop place
      decodeExtras output n (place + 1) (adapt delta size first) false fuel rest

/-- The characters before the last hyphen and the text behind it. -/
def splitBasic (text : List Char) : List Char × List Char :=
  if text.contains '-' then
    let coded := (text.reverse.takeWhile fun c => c ≠ '-').reverse
    (text.take (text.length - coded.length - 1), coded)
  else ([], text)

def decode? (text : List Char) : Option (List Char) :=
  let (basic, coded) := splitBasic text
  if basic.all fun c => c.toNat < 0x80 then decodeExtras basic 0x80 0 72 true coded.length coded
  else none

end CardGateway.Url.Punycode
