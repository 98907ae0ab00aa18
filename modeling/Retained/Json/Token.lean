import Retained.Bytes

/-!
# The tokens of a JSON document

`Token.ofBytes?` cuts a document into tokens, one byte at a time. A string may hold any bytes, raw
control characters among them; `Text.strict` records whether it does not. A `\u` escape stands for
a 16-bit unit: a pair of surrogates for one character, and a lone surrogate for the three bytes
that the same scheme would give it, which are no UTF-8.
-/

namespace Retained.Json

/-- The bytes that a string of a document stands for. -/
structure Text where
  bytes : Bytes
  /-- The string is spelled without raw control characters. -/
  strict : Bool := true
  deriving Repr, DecidableEq

inductive Token where
  | openArray
  | closeArray
  | openObject
  | closeObject
  | comma
  | colon
  | null
  | bool (value : Bool)
  /-- A number, as it is spelled. -/
  | number (spelling : Bytes)
  | string (text : Text)
  deriving Repr, DecidableEq

def ascii (s : String) : Bytes := s.toList.map Char.toUInt8

def isDigit (b : UInt8) : Bool := 0x30 ≤ b && b ≤ 0x39

/-! ## Numbers -/

def isDigits (bs : Bytes) : Bool := !bs.isEmpty && bs.all isDigit

def isExponent : Bytes → Bool
  | [] => true
  | e :: bs =>
    (e == 0x65 || e == 0x45) &&
      match bs with
      | sign :: digits =>
        if sign == 0x2B || sign == 0x2D then isDigits digits else isDigits (sign :: digits)
      | [] => false

/-- What may stand after the whole part of a number. -/
def isFraction : Bytes → Bool
  | 0x2E :: bs => !(bs.takeWhile isDigit).isEmpty && isExponent (bs.dropWhile isDigit)
  | bs => isExponent bs

/-- A number without its sign: the whole part has no leading zero. -/
def isMagnitude : Bytes → Bool
  | 0x30 :: bs => isFraction bs
  | bs => !(bs.takeWhile isDigit).isEmpty && isFraction (bs.dropWhile isDigit)

def isNumber : Bytes → Bool
  | 0x2D :: bs => isMagnitude bs
  | bs => isMagnitude bs

/-! ## Strings -/

/-- A part of a string: a byte that stands for itself, or an escaped 16-bit unit. -/
inductive Piece where
  | byte (b : UInt8)
  | unit (u : Nat)
  deriving Repr, DecidableEq

def isHighSurrogate (u : Nat) : Bool := 0xD800 ≤ u && u ≤ 0xDBFF

def isLowSurrogate (u : Nat) : Bool := 0xDC00 ≤ u && u ≤ 0xDFFF

/-- The UTF-8 scheme applied to a code point, a surrogate included. -/
def encodePoint (n : Nat) : Bytes :=
  if n < 0x80 then [.ofNat n]
  else if n < 0x800 then [.ofNat (0xC0 + n / 0x40), .ofNat (0x80 + n % 0x40)]
  else if n < 0x10000 then
    [.ofNat (0xE0 + n / 0x1000), .ofNat (0x80 + n / 0x40 % 0x40), .ofNat (0x80 + n % 0x40)]
  else
    [.ofNat (0xF0 + n / 0x40000), .ofNat (0x80 + n / 0x1000 % 0x40),
      .ofNat (0x80 + n / 0x40 % 0x40), .ofNat (0x80 + n % 0x40)]

/-- The code point that a pair of surrogates stands for. -/
def pairPoint (high low : Nat) : Nat := (high - 0xD800) * 0x400 + (low - 0xDC00) + 0x10000

/-- The bytes of pieces that come latest first, ahead of `tail`. -/
def assemble (tail : Bytes) : List Piece → Bytes
  | [] => tail
  | .byte b :: ps => assemble (b :: tail) ps
  | .unit low :: .unit high :: ps =>
    if isLowSurrogate low && isHighSurrogate high then
      assemble (encodePoint (pairPoint high low) ++ tail) ps
    else assemble (encodePoint low ++ tail) (.unit high :: ps)
  | .unit u :: ps => assemble (encodePoint u ++ tail) ps

def escaped? (b : UInt8) : Option UInt8 :=
  if b = 0x22 || b = 0x5C || b = 0x2F then some b
  else if b = 0x62 then some 0x08
  else if b = 0x66 then some 0x0C
  else if b = 0x6E then some 0x0A
  else if b = 0x72 then some 0x0D
  else if b = 0x74 then some 0x09
  else none

def hexDigit? (b : UInt8) : Option Nat :=
  if isDigit b then some (b.toNat - 0x30)
  else if 0x61 ≤ b && b ≤ 0x66 then some (b.toNat - 0x57)
  else if 0x41 ≤ b && b ≤ 0x46 then some (b.toNat - 0x37)
  else none

/-! ## The scanner -/

def isSpace (b : UInt8) : Bool := b == 0x20 || b == 0x09 || b == 0x0A || b == 0x0D

/-- A byte of a word or of a number. -/
def isBare (b : UInt8) : Bool :=
  isDigit b || (0x61 ≤ b && b ≤ 0x7A) || (0x41 ≤ b && b ≤ 0x5A) || b == 0x2B || b == 0x2D ||
    b == 0x2E

def punctuation? (b : UInt8) : Option Token :=
  if b = 0x5B then some .openArray
  else if b = 0x5D then some .closeArray
  else if b = 0x7B then some .openObject
  else if b = 0x7D then some .closeObject
  else if b = 0x2C then some .comma
  else if b = 0x3A then some .colon
  else none

def bare? (bs : Bytes) : Option Token :=
  if bs = ascii "null" then some .null
  else if bs = ascii "true" then some (.bool true)
  else if bs = ascii "false" then some (.bool false)
  else if isNumber bs then some (.number bs)
  else none

/-- What the scanner is in the middle of. What it has seen of a token comes latest first. -/
inductive Scan where
  | between
  | bare (seen : Bytes)
  | quoted (seen : List Piece) (strict : Bool)
  /-- Behind the backslash of an escape. -/
  | escape (seen : List Piece) (strict : Bool)
  /-- Behind so many of the four digits of an escaped unit. -/
  | hex (seen : List Piece) (strict : Bool) (digits value : Nat)
  deriving Repr, DecidableEq

structure Scanner where
  state : Scan := .between
  /-- The tokens so far, latest first. -/
  tokens : List Token := []
  deriving Repr, DecidableEq

namespace Scanner

def emit (t : Token) (s : Scanner) : Scanner := ⟨.between, t :: s.tokens⟩

def begin? (b : UInt8) (s : Scanner) : Option Scanner :=
  if isSpace b then some { s with state := .between }
  else if b = 0x22 then some { s with state := .quoted [] true }
  else if isBare b then some { s with state := .bare [b] }
  else (punctuation? b).map s.emit

def flush? (s : Scanner) : Option Scanner :=
  match s.state with
  | .between => some s
  | .bare seen => (bare? seen.reverse).map s.emit
  | _ => none

def step? (s : Scanner) (b : UInt8) : Option Scanner :=
  match s.state with
  | .between => s.begin? b
  | .bare seen =>
    if isBare b then some { s with state := .bare (b :: seen) } else s.flush?.bind (begin? b)
  | .quoted seen strict =>
    if b = 0x22 then some (s.emit (.string ⟨assemble [] seen, strict⟩))
    else if b = 0x5C then some { s with state := .escape seen strict }
    else some { s with state := .quoted (.byte b :: seen) (strict && 0x20 ≤ b) }
  | .escape seen strict =>
    if b = 0x75 then some { s with state := .hex seen strict 0 0 }
    else (escaped? b).map fun c => { s with state := .quoted (.byte c :: seen) strict }
  | .hex seen strict digits value =>
    (hexDigit? b).map fun d =>
      if digits = 3 then { s with state := .quoted (.unit (value * 16 + d) :: seen) strict }
      else { s with state := .hex seen strict (digits + 1) (value * 16 + d) }

end Scanner

def Token.ofBytes? (bs : Bytes) : Option (List Token) :=
  ((bs.foldlM Scanner.step? {}).bind Scanner.flush?).map (·.tokens.reverse)

end Retained.Json
