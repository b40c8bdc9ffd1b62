import CardGateway.Text.Utf8
import CardGateway.Url.Address
import CardGateway.Url.Composition
import CardGateway.Url.Folding
import CardGateway.Url.HostMapping
import CardGateway.Url.Punycode

/-!
# Host names of common scripts

A mapping to run with: characters are folded and composed, labels with characters past ASCII are written
in Punycode, and labels that claim to be are checked. The tables know the scripts of Europe and the
forms derived from them; characters that they do not know stand for themselves.
-/

namespace CardGateway.Url.Domain

open CardGateway.Text

/-- The signs that suppress a vowel, after which joiners may stand. -/
def isVirama (c : Char) : Bool :=
  [0x94D, 0x9CD, 0xA4D, 0xACD, 0xB4D, 0xBCD, 0xC4D, 0xCCD, 0xD4D, 0xDCA, 0xE3A, 0xF84, 0x1039,
    0x103A, 0x1714, 0x1734, 0x17D2, 0x1A60, 0x1B44, 0x1BAA, 0xA806, 0xA8C4, 0xA953, 0xA9C0,
    0xABED].contains c.toNat

def isJoiner (c : Char) : Bool := c.toNat == 0x200C || c.toNat == 0x200D

/-- Every joiner stands behind a virama. -/
def joinersFit : List Char → Bool
  | [] => true
  | [c] => !isJoiner c
  | c :: d :: rest => (!isJoiner d || isVirama c) && joinersFit (d :: rest)

inductive Direction where
  | left
  | right
  | arabicNumber
  | number
  | mark
  | neutral
  deriving DecidableEq

def isRightScript (n : Nat) : Bool :=
  (0x590 ≤ n && n ≤ 0x8FF) || (0xFB1D ≤ n && n ≤ 0xFDFF) || (0xFE70 ≤ n && n ≤ 0xFEFF) ||
    (0x10800 ≤ n && n ≤ 0x10FFF) || (0x1E800 ≤ n && n ≤ 0x1EFFF)

def direction (c : Char) : Direction :=
  let n := c.toNat
  if isAttached c then .mark
  else if (0x660 ≤ n && n ≤ 0x669) || (0x66B ≤ n && n ≤ 0x66C) || n == 0x6DD then .arabicNumber
  else if c.isDigit || (0x6F0 ≤ n && n ≤ 0x6F9) then .number
  else if isRightScript n then .right
  else if n < 0x80 && !c.isAlpha then .neutral
  else .left

def runsRight (label : List Char) : Bool :=
  label.any fun c => direction c == .right || direction c == .arabicNumber

/-- The rule for a label in a name in which some label runs from right to left. -/
def directionFits (label : List Char) : Bool :=
  let directions := label.map direction
  let final := (directions.reverse.dropWhile (· == .mark)).head?
  match directions.head? with
  | none => true
  | some .right =>
      directions.all (· != .left) &&
        (final == some .right || final == some .number || final == some .arabicNumber) &&
        !(directions.contains .number && directions.contains .arabicNumber)
  | some .left =>
      directions.all (fun d => d != .right && d != .arabicNumber) &&
        (final == some .left || final == some .number)
  | some _ => false

/-- Whether folding leaves the label as it is. -/
def isFolded (label : List Char) : Bool :=
  composed (label.flatMap foldChar) == label

/-- Characters that describe others or stand in their place. -/
def isExcluded (c : Char) : Bool :=
  (0x2FF0 ≤ c.toNat && c.toNat ≤ 0x2FFF) || c.toNat == 0xFFFC || c.toNat == 0xFFFD

def charFits (c : Char) : Bool :=
  c.toNat < 0x80 || isJoiner c || !(isHidden c || isExcluded c)

def charsFit (label : List Char) : Bool :=
  label.all charFits && joinersFit label &&
    match label with
    | [] => true
    | c :: _ => !isAttached c && !isJoiner c

/-- A label as characters: what Punycode stands for, if the label is marked as such. -/
def unicodeLabel? (label : List Char) : Option (List Char) :=
  match label with
  | 'x' :: 'n' :: '-' :: '-' :: coded => do
      let decoded ← Punycode.decode? coded
      if decoded.all (fun c => c.toNat < 0x80) || !isFolded decoded then none
      else if charsFit decoded then some decoded else none
  | _ => if charsFit label then some label else none

def asciiLabel (label : List Char) : List Char :=
  if label.all fun c => c.toNat < 0x80 then label
  else ['x', 'n', '-', '-'] ++ Punycode.encode label

/-- The ASCII form of a name given as bytes. -/
def toAscii? (name : Bytes) : Option (List Char) := do
  let text ← Utf8.decode? name
  let folded := composed (text.toList.flatMap foldChar)
  let labels ← (splitOn '.' folded).mapM unicodeLabel?
  if labels.any runsRight && !labels.all directionFits then none
  if labels.any fun label => label.any isForbidden then none
  return List.intercalate ['.'] (labels.map asciiLabel)

section Allowed

/-- A text that may stand in a host name. -/
def Allowed (text : List Char) : Prop := ∀ c ∈ text, isForbidden c = false

instance (text : List Char) : Decidable (Allowed text) :=
  List.decidableBAll (fun c => isForbidden c = false) text

variable {first second : List Char}

theorem Allowed.append (h : Allowed first) (again : Allowed second) : Allowed (first ++ second) :=
  List.forall_mem_append.mpr ⟨h, again⟩

theorem Allowed.cons {c : Char} (free : isForbidden c = false) (h : Allowed first) :
    Allowed (c :: first) :=
  List.forall_mem_cons.mpr ⟨free, h⟩

theorem threshold_le (k bias : Nat) : Punycode.threshold k bias ≤ 26 := by
  unfold Punycode.threshold
  split
  · omega
  · split <;> omega

theorem digits_allowed (bias k q fuel : Nat) : Allowed (Punycode.digits bias k q fuel) := by
  have digit : ∀ n < 36, isForbidden (Punycode.digit n) = false := by decide
  induction fuel generalizing k q with
  | zero => simp [Allowed, Punycode.digits]
  | succ fuel ih =>
      have most := threshold_le k bias
      unfold Punycode.digits
      dsimp only
      split
      · exact .cons (digit q (by omega)) (by simp [Allowed])
      · have rest := Nat.mod_lt (q - Punycode.threshold k bias)
          (Nat.sub_pos_of_lt (Nat.lt_of_le_of_lt most (by decide : 26 < 36)))
        exact .cons (digit _ (by omega)) (ih _ _)

theorem step_allowed {basic m : Nat} {p : Punycode.Progress} (h : Allowed p.output) (c : Char) :
    Allowed (p.step basic m c).output := by
  unfold Punycode.Progress.step
  split
  · exact h
  · split
    · exact h.append (digits_allowed _ _ _ _)
    · exact h

theorem encodeExtras_allowed (label : List Char) (basic : Nat) (extras : List Nat) (n : Nat)
    {p : Punycode.Progress} (h : Allowed p.output) :
    Allowed (Punycode.encodeExtras label basic extras n p).output := by
  induction extras generalizing n p with
  | nil => exact h
  | cons m rest ih =>
      unfold Punycode.encodeExtras
      refine ih (m + 1) ?_
      exact List.foldlRecOn (motive := fun p : Punycode.Progress => Allowed p.output) label _ h
        fun p kept c _ => step_allowed kept c

theorem asciiLabel_allowed {label : List Char} (h : Allowed label) : Allowed (asciiLabel label) := by
  unfold asciiLabel
  split
  · exact h
  · have start : Allowed ['x', 'n', '-', '-'] := by decide
    refine start.append ?_
    have coded (basic : Nat) : Allowed
        (Punycode.encodeExtras label basic (Punycode.extras label) 0x80 ⟨[], 0, 72, basic⟩).output :=
      encodeExtras_allowed label basic _ _ (by simp [Allowed])
    unfold Punycode.encode
    dsimp only
    split
    · exact coded _
    · have basic : Allowed (label.filter fun c => c.toNat < 0x80) := fun c member =>
        h c (List.mem_filter.mp member).1
      exact basic.append (.cons (by decide) (coded _))

theorem toAscii?_allowed {name : Bytes} {text : List Char} (h : toAscii? name = some text) :
    Allowed text := by
  simp only [toAscii?, Option.bind_eq_bind, Option.bind_eq_some_iff] at h
  obtain ⟨decoded, _, labels, _, rest⟩ := h
  have free : (labels.any fun label => label.any isForbidden) = false ∧
      ['.'].intercalate (labels.map asciiLabel) = text := by
    split at rest
    · cases rest
    · split at rest
      · cases rest
      · next free => exact ⟨Bool.not_eq_true _ ▸ free, Option.some.inj rest⟩
  obtain ⟨free, rfl⟩ := free
  refine forall_mem_intercalate (by decide) fun part member => ?_
  obtain ⟨label, listed, rfl⟩ := List.mem_map.mp member
  have allowed := List.any_eq_false.mp free label listed
  refine asciiLabel_allowed fun c inside => ?_
  simpa using List.any_eq_false.mp (Bool.not_eq_true _ ▸ allowed) c inside

end Allowed

end CardGateway.Url.Domain

namespace CardGateway.Url

instance commonScripts : HostMapping where
  ascii? := Domain.toAscii?
  allowed := Domain.toAscii?_allowed

end CardGateway.Url
