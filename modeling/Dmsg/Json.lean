import Mathlib.Data.Nat.Digits

/-!
# JSON as `encoding/json` writes and reads it

`marshalHandshakeData` and `unmarshalHandshakeData` are `json.Marshal` and `json.Unmarshal`.
This is the part of them a `HandshakeData` goes through: the writer of strings, of integers and
of object members, and the reader, which checks the syntax of the whole text (at most 10000
levels deep) and reads it into a tree of values; a number keeps its literal until a field's
type converts it.
-/

namespace Dmsg.Json

/-- A JSON value as the decoder reads it: strings unquoted, numbers as their literal. -/
inductive Value
  | null
  | bool (b : Bool)
  | num (lit : List UInt8)
  | str (s : List UInt8)
  | arr (vs : List Value)
  | obj (members : List (List UInt8 × Value))
  deriving Inhabited

/-- What `json.Unmarshal` returns as its error: a `SyntaxError` (the byte where the scanner
stopped, `none` at the end of the input, and what it was reading), the depth limit, an
`UnmarshalTypeError` (the JSON value, the field path and the Go type), or the error of an
`UnmarshalText`. -/
inductive Error
  | syntaxError (c : Option UInt8) (context : String)
  | maxDepth
  | type (value : String) (field : List String) (goType : String)
  | text (msg : String)
  deriving DecidableEq

/-! ### UTF-8 -/

/-- `utf8.EncodeRune` of a code point below `0x110000`. -/
def utf8Encode (r : Nat) : List UInt8 :=
  if r < 0x80 then [r.toUInt8]
  else if r < 0x800 then [(0xC0 + r / 64).toUInt8, (0x80 + r % 64).toUInt8]
  else if r < 0x10000 then
    [(0xE0 + r / 4096).toUInt8, (0x80 + r / 64 % 64).toUInt8, (0x80 + r % 64).toUInt8]
  else [(0xF0 + r / 262144).toUInt8, (0x80 + r / 4096 % 64).toUInt8, (0x80 + r / 64 % 64).toUInt8,
    (0x80 + r % 64).toUInt8]

/-- The length of the UTF-8 sequence that a byte from `0x80` on starts, with the range of the
sequence's second byte, as the tables of `utf8.DecodeRune` give them (they rule out overlong
forms, surrogates and code points past `U+10FFFF`); `none` for a byte that starts none. -/
def utf8Lead (b : UInt8) : Option (Nat × Nat × Nat) :=
  if 0xC2 ≤ b.toNat ∧ b.toNat ≤ 0xDF then some (2, 0x80, 0xBF)
  else if b.toNat = 0xE0 then some (3, 0xA0, 0xBF)
  else if b.toNat = 0xED then some (3, 0x80, 0x9F)
  else if 0xE1 ≤ b.toNat ∧ b.toNat ≤ 0xEF then some (3, 0x80, 0xBF)
  else if b.toNat = 0xF0 then some (4, 0x90, 0xBF)
  else if b.toNat = 0xF4 then some (4, 0x80, 0x8F)
  else if 0xF1 ≤ b.toNat ∧ b.toNat ≤ 0xF3 then some (4, 0x80, 0xBF)
  else none

/-- A UTF-8 continuation byte. -/
def isCont (c : UInt8) : Bool := 0x80 ≤ c.toNat ∧ c.toNat ≤ 0xBF

/-! ### Writing -/

/-- The ASCII bytes of a string literal of the source. -/
def ascii (s : String) : List UInt8 := s.toList.map fun c ↦ c.toNat.toUInt8

/-- `hex[n]` for `n < 16`. -/
def hexDigit (n : Nat) : UInt8 := if n < 10 then (48 + n).toUInt8 else (87 + n).toUInt8

/-- An ASCII byte of a string, as `encodeState.string` writes it with `escapeHTML`: quote and
backslash escaped, `\n`, `\r` and `\t` by name, the other control bytes and `<`, `>`, `&` as
`\u00XX`. -/
def escapeByte (b : UInt8) : List UInt8 :=
  if b.toNat = 34 ∨ b.toNat = 92 then [92, b]
  else if b.toNat = 10 then [92, 110]
  else if b.toNat = 13 then [92, 114]
  else if b.toNat = 9 then [92, 116]
  else if b.toNat < 32 ∨ b.toNat = 60 ∨ b.toNat = 62 ∨ b.toNat = 38 then
    [92, 117, 48, 48, hexDigit (b.toNat / 16), hexDigit (b.toNat % 16)]
  else [b]

/-- What `encodeState.string` writes for a byte that starts no valid rune. -/
def invalidRune : List UInt8 := ascii "\\ufffd"

mutual

/-- The bytes of a string between its quotes: an ASCII byte by `escapeByte`, one from `0x80` on
by `quoteRune`. -/
def quoteBytes : List UInt8 → List UInt8
  | [] => []
  | b :: rest =>
    if b.toNat < 0x80 then escapeByte b ++ quoteBytes rest else quoteRune b rest (quoteBytes rest)

/-- `encodeState.string` at a byte `b` from `0x80` on, followed by `rest`, which writes as
`next`: it decodes a rune as `utf8.DecodeRuneInString` does and copies it, except `U+2028` and
`U+2029`, which it writes as `\u2028` and `\u2029`; a byte that starts no valid rune it
writes as `invalidRune`. -/
def quoteRune (b : UInt8) : List UInt8 → List UInt8 → List UInt8
  | c :: rest, next =>
    match utf8Lead b, rest with
    | some (2, lo, hi), tl =>
      if lo ≤ c.toNat ∧ c.toNat ≤ hi then b :: c :: quoteBytes tl else invalidRune ++ next
    | some (3, lo, hi), d :: tl =>
      if lo ≤ c.toNat ∧ c.toNat ≤ hi ∧ isCont d then
        (if b.toNat = 0xE2 ∧ c.toNat = 0x80 ∧ (d.toNat = 0xA8 ∨ d.toNat = 0xA9) then
          ascii "\\u202" ++ [hexDigit (d.toNat % 16)]
        else [b, c, d]) ++ quoteBytes tl
      else invalidRune ++ next
    | some (4, lo, hi), d :: e :: tl =>
      if lo ≤ c.toNat ∧ c.toNat ≤ hi ∧ isCont d ∧ isCont e then b :: c :: d :: e :: quoteBytes tl
      else invalidRune ++ next
    | _, _ => invalidRune ++ next
  | [], next => invalidRune ++ next

end

/-- A quoted string, as `encodeState.string` writes it with `escapeHTML`. -/
def quote (s : List UInt8) : List UInt8 := 34 :: quoteBytes s ++ [34]

/-- `strconv.AppendUint(nil, n, 10)`. -/
def decimal (n : Nat) : List UInt8 :=
  if n = 0 then [48] else (Nat.digits 10 n).reverse.map fun d ↦ (48 + d).toUInt8

/-- `strconv.AppendInt(nil, n, 10)`. -/
def signedDecimal (n : Int) : List UInt8 :=
  if 0 ≤ n then decimal n.toNat else 45 :: decimal n.natAbs

/-- An object member `"key":value`. -/
def member (key : String) (v : List UInt8) : List UInt8 := quote (ascii key) ++ 58 :: v

/-- The members of an object after its `{`, comma separated, then `}`. -/
def closeMembers : List (List UInt8) → List UInt8
  | [] => [125]
  | [m] => m ++ [125]
  | m :: ms => m ++ 44 :: closeMembers ms

/-- An object of members in field order, as `structEncoder` writes it. -/
def object (ms : List (List UInt8)) : List UInt8 := 123 :: closeMembers ms

/-! ### Reading -/

/-- JSON white space. -/
def isSpace (b : UInt8) : Bool := b.toNat = 32 ∨ b.toNat = 9 ∨ b.toNat = 10 ∨ b.toNat = 13

def isDigit (b : UInt8) : Bool := 48 ≤ b.toNat ∧ b.toNat ≤ 57

/-- What follows leading white space. -/
def skipSpace : List UInt8 → List UInt8
  | b :: bs => if isSpace b then skipSpace bs else b :: bs
  | [] => []

/-- The value of a hex digit. -/
def hexValue (b : UInt8) : Option Nat :=
  if isDigit b then some (b.toNat - 48)
  else if 97 ≤ b.toNat ∧ b.toNat ≤ 102 then some (b.toNat - 87)
  else if 65 ≤ b.toNat ∧ b.toNat ≤ 70 then some (b.toNat - 55)
  else none

/-- The code point of a `\uXXXX` escape. -/
def hex4 (a b c d : UInt8) : Option Nat := do
  pure ((((← hexValue a) * 16 + (← hexValue b)) * 16 + (← hexValue c)) * 16 + (← hexValue d))

/-- The byte a one-letter escape stands for. -/
def unescape : UInt8 → Option UInt8
  | 34 => some 34
  | 92 => some 92
  | 47 => some 47
  | 98 => some 8
  | 102 => some 12
  | 110 => some 10
  | 114 => some 13
  | 116 => some 9
  | _ => none

mutual

/-- The rest of a string literal after its opening quote, unquoted as `unquoteBytes` does it,
and what follows the closing quote.  A `\\u` escape of a surrogate goes to `lowSurrogate`, a
byte from `0x80` on to `utf8Rune`. -/
def string : List UInt8 → Except Error (List UInt8 × List UInt8)
  | [] => .error (.syntaxError none "in string literal")
  | 34 :: rest => .ok ([], rest)
  | 92 :: 117 :: a :: b :: c :: d :: rest =>
    match hex4 a b c d with
    | none => .error (.syntaxError none "in \\u hexadecimal character escape")
    | some r =>
      if 0xD800 ≤ r ∧ r < 0xE000 then lowSurrogate r rest (string rest)
      else (string rest).map fun (s, t) ↦ (utf8Encode r ++ s, t)
  | 92 :: e :: rest =>
    match unescape e with
    | some b => (string rest).map fun (s, t) ↦ (b :: s, t)
    | none => .error (.syntaxError (some e) "in string escape code")
  | [92] => .error (.syntaxError none "in string escape code")
  | b :: rest =>
    if b.toNat < 32 then .error (.syntaxError (some b) "in string literal")
    else if b.toNat < 0x80 then (string rest).map fun (s, t) ↦ (b :: s, t)
    else utf8Rune b rest (string rest)

/-- A `\\u` escape of the surrogate `r`, followed by `rest`, which reads as `next`: with the
escape that follows it the two make a pair, which `utf16.DecodeRune` joins; otherwise `r` is
`U+FFFD` and the text after it is read on. -/
def lowSurrogate (r : Nat) :
    List UInt8 → Except Error (List UInt8 × List UInt8) → Except Error (List UInt8 × List UInt8)
  | 92 :: 117 :: e :: f :: g :: h :: rest, next =>
    match hex4 e f g h with
    | some r' =>
      if r < 0xDC00 ∧ 0xDC00 ≤ r' ∧ r' < 0xE000 then
        (string rest).map fun (s, t) ↦
          (utf8Encode ((r - 0xD800) * 1024 + (r' - 0xDC00) + 0x10000) ++ s, t)
      else next.map fun (s, t) ↦ (utf8Encode 0xFFFD ++ s, t)
    | none => next.map fun (s, t) ↦ (utf8Encode 0xFFFD ++ s, t)
  | _, next => next.map fun (s, t) ↦ (utf8Encode 0xFFFD ++ s, t)

/-- `utf8.DecodeRune` at a byte `b` from `0x80` on, followed by `rest`, which reads as `next`:
a well-formed sequence is kept and the text after it read on; a byte that starts none is
`U+FFFD`, as `unquoteBytes` coerces the text to UTF-8. -/
def utf8Rune (b : UInt8) :
    List UInt8 → Except Error (List UInt8 × List UInt8) → Except Error (List UInt8 × List UInt8)
  | c :: rest, next =>
    match utf8Lead b, rest with
    | some (2, lo, hi), tl =>
      if lo ≤ c.toNat ∧ c.toNat ≤ hi then (string tl).map fun (s, t) ↦ (b :: c :: s, t)
      else next.map fun (s, t) ↦ (utf8Encode 0xFFFD ++ s, t)
    | some (3, lo, hi), d :: rest' =>
      if lo ≤ c.toNat ∧ c.toNat ≤ hi ∧ isCont d then
        (string rest').map fun (s, t) ↦ (b :: c :: d :: s, t)
      else next.map fun (s, t) ↦ (utf8Encode 0xFFFD ++ s, t)
    | some (4, lo, hi), d :: e :: rest' =>
      if lo ≤ c.toNat ∧ c.toNat ≤ hi ∧ isCont d ∧ isCont e then
        (string rest').map fun (s, t) ↦ (b :: c :: d :: e :: s, t)
      else next.map fun (s, t) ↦ (utf8Encode 0xFFFD ++ s, t)
    | _, _ => next.map fun (s, t) ↦ (utf8Encode 0xFFFD ++ s, t)
  | [], next => next.map fun (s, t) ↦ (utf8Encode 0xFFFD ++ s, t)

end



example : string [0xC3, 0xA9, 0xFF, 34] = .ok ([0xC3, 0xA9] ++ utf8Encode 0xFFFD, []) := rfl

/-- `foldName` on an object key, as far as a comparison with an ASCII field name sees it: ASCII
letters to upper case, and the two other runes whose simple case folding reaches an ASCII
letter to that letter, `ſ` (`U+017F`, with `s`) and the Kelvin sign (`U+212A`, with `k`).  Any
other byte stays; from `0x80` on, it is part of a rune that folds to no ASCII letter. -/
def foldKey : List UInt8 → List UInt8
  | 0xC5 :: 0xBF :: rest => 83 :: foldKey rest
  | 0xE2 :: 0x84 :: 0xAA :: rest => 75 :: foldKey rest
  | b :: rest => (if 97 ≤ b.toNat ∧ b.toNat ≤ 122 then b - 32 else b) :: foldKey rest
  | [] => []

/-- The integer part of a number literal: `0`, or a non-zero digit and more digits. -/
def intPart : List UInt8 → Except Error (List UInt8 × List UInt8)
  | 48 :: rest => .ok ([48], rest)
  | b :: rest =>
    if isDigit b then .ok (b :: (rest.span isDigit).1, (rest.span isDigit).2)
    else .error (.syntaxError (some b) "in numeric literal")
  | [] => .error (.syntaxError none "in numeric literal")

/-- One or more digits. -/
def someDigits (bs : List UInt8) : Except Error (List UInt8 × List UInt8) :=
  match bs.span isDigit with
  | ([], rest) => .error (.syntaxError rest.head? "in numeric literal")
  | ds => .ok ds

/-- An optional fraction `.digits`. -/
def fracPart : List UInt8 → Except Error (List UInt8 × List UInt8)
  | 46 :: rest => (someDigits rest).map fun (ds, t) ↦ (46 :: ds, t)
  | bs => .ok ([], bs)

/-- An optional exponent `e`, a sign, digits. -/
def expPart : List UInt8 → Except Error (List UInt8 × List UInt8)
  | e :: rest =>
    if e = 101 ∨ e = 69 then
      match rest with
      | 43 :: r => (someDigits r).map fun (ds, t) ↦ (e :: 43 :: ds, t)
      | 45 :: r => (someDigits r).map fun (ds, t) ↦ (e :: 45 :: ds, t)
      | r => (someDigits r).map fun (ds, t) ↦ (e :: ds, t)
    else .ok ([], e :: rest)
  | [] => .ok ([], [])

/-- A number literal `-? int frac? exp?` and what follows it. -/
def number (bs : List UInt8) : Except Error (List UInt8 × List UInt8) := do
  let (sign, r₀) : List UInt8 × List UInt8 := match bs with
    | 45 :: r => ([45], r)
    | r => ([], r)
  let (i, r₁) ← intPart r₀
  let (f, r₂) ← fracPart r₁
  let (e, r₃) ← expPart r₂
  pure (sign ++ i ++ f ++ e, r₃)

/-- Go's `maxNestingDepth`. -/
def maxNestingDepth : Nat := 10000

mutual

/-- A value after white space, at nesting `depth`, and what follows it.  Every call reads at
least one byte, so `fuel` past the input's length never runs out. -/
def value : Nat → Nat → List UInt8 → Except Error (Value × List UInt8)
  | 0, _, _ => .error (.syntaxError none "looking for beginning of value")
  | fuel + 1, depth, bs =>
    match skipSpace bs with
    | 123 :: rest =>
      if depth < maxNestingDepth then
        match skipSpace rest with
        | 125 :: r => .ok (.obj [], r)
        | r => members fuel (depth + 1) [] r
      else .error .maxDepth
    | 91 :: rest =>
      if depth < maxNestingDepth then
        match skipSpace rest with
        | 93 :: r => .ok (.arr [], r)
        | r => elements fuel (depth + 1) [] r
      else .error .maxDepth
    | 34 :: rest => (string rest).map fun (s, t) ↦ (.str s, t)
    | 116 :: 114 :: 117 :: 101 :: rest => .ok (.bool true, rest)
    | 102 :: 97 :: 108 :: 115 :: 101 :: rest => .ok (.bool false, rest)
    | 110 :: 117 :: 108 :: 108 :: rest => .ok (.null, rest)
    | b :: rest =>
      if b.toNat = 45 ∨ isDigit b then (number (b :: rest)).map fun (l, t) ↦ (.num l, t)
      else .error (.syntaxError (some b) "looking for beginning of value")
    | [] => .error (.syntaxError none "looking for beginning of value")

/-- The members of an object after `{` or `,`, the ones read before in `acc`. -/
def members : Nat → Nat → List (List UInt8 × Value) → List UInt8 → Except Error (Value × List UInt8)
  | 0, _, _, _ => .error (.syntaxError none "looking for beginning of object key string")
  | fuel + 1, depth, acc, bs =>
    match skipSpace bs with
    | 34 :: rest =>
      match string rest with
      | .error e => .error e
      | .ok (k, r₁) =>
        match skipSpace r₁ with
        | 58 :: r₂ =>
          match value fuel depth r₂ with
          | .error e => .error e
          | .ok (v, r₃) =>
            match skipSpace r₃ with
            | 44 :: r₄ => members fuel depth (acc ++ [(k, v)]) r₄
            | 125 :: r₄ => .ok (.obj (acc ++ [(k, v)]), r₄)
            | r₄ => .error (.syntaxError r₄.head? "after object key:value pair")
        | r₂ => .error (.syntaxError r₂.head? "after object key")
    | r => .error (.syntaxError r.head? "looking for beginning of object key string")

/-- The elements of an array after `[` or `,`. -/
def elements : Nat → Nat → List Value → List UInt8 → Except Error (Value × List UInt8)
  | 0, _, _, _ => .error (.syntaxError none "looking for beginning of value")
  | fuel + 1, depth, acc, bs =>
    match value fuel depth bs with
    | .error e => .error e
    | .ok (v, r) =>
      match skipSpace r with
      | 44 :: r' => elements fuel depth (acc ++ [v]) r'
      | 93 :: r' => .ok (.arr (acc ++ [v]), r')
      | r' => .error (.syntaxError r'.head? "after array element")

end

/-- The value of a run of decimal digits. -/
def digitsValue (ds : List UInt8) : Nat := ds.foldl (fun acc d ↦ 10 * acc + (d.toNat - 48)) 0

/-- `strconv.ParseUint(lit, 10, 64)` into a `uint16` field, with its overflow check. -/
def toUint16 (lit : List UInt8) : Option UInt16 :=
  if lit ≠ [] ∧ lit.all isDigit ∧ digitsValue lit < 65536 then some (UInt16.ofNat (digitsValue lit))
  else none

/-- `strconv.ParseInt(lit, 10, 64)` into an `int32` field, with its overflow check. -/
def toInt32 (lit : List UInt8) : Option (BitVec 32) :=
  let (neg, ds) : Bool × List UInt8 := match lit with
    | 45 :: ds => (true, ds)
    | 43 :: ds => (false, ds)
    | ds => (false, ds)
  let n : Int := if neg then -(digitsValue ds : Int) else digitsValue ds
  if ds ≠ [] ∧ ds.all isDigit ∧ -2 ^ 31 ≤ n ∧ n < 2 ^ 31 then some (BitVec.ofInt 32 n) else none

/-- `checkValid` and the decoder's reading of the text: one value, then only white space. -/
def parse (bs : List UInt8) : Except Error Value :=
  match value (bs.length + 1) 0 bs with
  | .error e => .error e
  | .ok (v, rest) =>
    match skipSpace rest with
    | [] => .ok v
    | b :: _ => .error (.syntaxError (some b) "after top-level value")

/-! ### Reading back what is written -/

/-- A byte a string writes as itself: printable ASCII, neither quote nor backslash, not HTML
special. -/
def plain (b : UInt8) : Bool :=
  32 ≤ b.toNat ∧ b.toNat < 128 ∧ b.toNat ≠ 34 ∧ b.toNat ≠ 92 ∧ b.toNat ≠ 60 ∧ b.toNat ≠ 62 ∧
    b.toNat ≠ 38

/-- What may follow a number literal without continuing it. -/
def endsNumber : List UInt8 → Bool
  | b :: _ => !(isDigit b || b == 46 || b == 101 || b == 69)
  | [] => true

theorem quote_of_plain {s : List UInt8} (h : ∀ b ∈ s, plain b) : quote s = 34 :: s ++ [34] := by
  suffices quoteBytes s = s by simp [quote, this]
  induction s with
  | nil => rw [quoteBytes]
  | cons b s ih =>
    have hb := h b (by simp)
    simp only [plain, decide_eq_true_eq] at hb
    have : escapeByte b = [b] := by unfold escapeByte; split_ifs <;> first | rfl | omega
    rw [quoteBytes, if_pos hb.2.1, this, ih fun x hx ↦ h x (by simp [hx])]
    rfl

theorem string_cons_plain {b : UInt8} (hb : plain b) (rest : List UInt8) :
    string (b :: rest) = (string rest).map fun (s, t) ↦ (b :: s, t) := by
  simp only [plain, decide_eq_true_eq] at hb
  obtain ⟨h32, h128, h34, h92, -⟩ := hb
  have n92 : b ≠ 92 := fun h ↦ h92 (h ▸ rfl)
  rw [string.eq_6 b rest (fun h ↦ h34 (h ▸ rfl)) (fun _ _ _ _ _ h _ ↦ n92 h) (fun _ _ h _ ↦ n92 h)
    (fun h _ ↦ n92 h), if_neg (by omega), if_pos h128]

/-- A string of plain bytes reads back up to its closing quote. -/
theorem string_plain {s : List UInt8} (h : ∀ b ∈ s, plain b) (rest : List UInt8) :
    string (s ++ 34 :: rest) = .ok (s, rest) := by
  induction s with
  | nil => simp [string]
  | cons b s ih =>
    rw [List.cons_append, string_cons_plain (h b (by simp)), ih fun x hx ↦ h x (by simp [hx])]
    rfl

theorem toNat_digitByte {d : Nat} (hd : d < 10) : (48 + d).toUInt8.toNat = 48 + d :=
  UInt8.toNat_ofNat_of_lt (by simp only [UInt8.size]; omega)

theorem isDigit_decimal (n : Nat) : ∀ b ∈ decimal n, isDigit b := by
  unfold decimal
  split
  · simp +decide
  · simp only [List.mem_map, List.mem_reverse, isDigit, decide_eq_true_eq]
    rintro b ⟨d, hd, rfl⟩
    have := Nat.digits_lt_base (by norm_num) hd
    rw [toNat_digitByte this]
    omega

theorem foldr_digitsValue (l : List Nat) (h : ∀ d ∈ l, d < 10) :
    (l.map fun d ↦ (48 + d).toUInt8).foldr (fun b acc ↦ 10 * acc + (b.toNat - 48)) 0 =
      Nat.ofDigits 10 l := by
  induction l with
  | nil => rfl
  | cons d l ih =>
    simp only [List.map_cons, List.foldr_cons, Nat.ofDigits_cons, toNat_digitByte (h d (by simp)),
      ih fun x hx ↦ h x (by simp [hx])]
    omega

/-- Decimal digits read back as the number they write. -/
theorem digitsValue_decimal (n : Nat) : digitsValue (decimal n) = n := by
  unfold decimal digitsValue
  split
  · subst_vars; rfl
  · rw [List.map_reverse, List.foldl_reverse,
      foldr_digitsValue _ fun d hd ↦ Nat.digits_lt_base (by norm_num) hd, Nat.ofDigits_digits]

/-- A non-zero number is written with a first digit other than `0`. -/
theorem decimal_of_ne_zero {n : Nat} (hn : n ≠ 0) :
    ∃ d t, decimal n = d :: t ∧ d.toNat ≠ 48 := by
  have hne : Nat.digits 10 n ≠ [] := Nat.digits_ne_nil_iff_ne_zero.mpr hn
  have hlast := Nat.getLast_digit_ne_zero 10 hn
  have hlt : (Nat.digits 10 n).getLast hne < 10 :=
    Nat.digits_lt_base (by norm_num) (List.getLast_mem hne)
  refine ⟨(48 + (Nat.digits 10 n).getLast hne).toUInt8,
    (Nat.digits 10 n).dropLast.reverse.map fun d ↦ (48 + d).toUInt8, ?_, ?_⟩
  · conv_lhs => rw [decimal, if_neg hn, ← List.dropLast_append_getLast hne]
    simp
  · rw [toNat_digitByte hlt]
    omega

theorem span_isDigit {l r : List UInt8} (hl : ∀ b ∈ l, isDigit b) (hr : endsNumber r) :
    (l ++ r).span isDigit = (l, r) := by
  rw [List.span_eq_take_drop, List.takeWhile_append_of_pos hl, List.dropWhile_append_of_pos hl]
  cases r with
  | nil => simp
  | cons b r =>
    simp only [endsNumber, Bool.not_or, Bool.and_eq_true, Bool.not_eq_true'] at hr
    simp [List.takeWhile_cons_of_neg, List.dropWhile_cons_of_neg, hr.1.1.1]

theorem fracPart_of_endsNumber {r : List UInt8} (hr : endsNumber r) : fracPart r = .ok ([], r) := by
  match r, hr with
  | [], _ => rfl
  | b :: r, hr =>
    simp only [endsNumber, Bool.not_or, Bool.and_eq_true, Bool.not_eq_true', beq_eq_false_iff_ne] at hr
    rw [fracPart.eq_def]
    split <;> simp_all

theorem expPart_of_endsNumber {r : List UInt8} (hr : endsNumber r) : expPart r = .ok ([], r) := by
  match r, hr with
  | [], _ => rfl
  | b :: r, hr =>
    simp only [endsNumber, Bool.not_or, Bool.and_eq_true, Bool.not_eq_true', beq_eq_false_iff_ne] at hr
    simp [expPart, hr.1.2, hr.2]

/-- The integer part of a number reads the whole of a written number. -/
theorem intPart_decimal (n : Nat) {rest : List UInt8} (hr : endsNumber rest) :
    intPart (decimal n ++ rest) = .ok (decimal n, rest) := by
  by_cases hn : n = 0
  · subst hn; rfl
  obtain ⟨d, t, ht, hd⟩ := decimal_of_ne_zero hn
  have hdig := isDigit_decimal n
  rw [ht] at hdig ⊢
  have hspan := span_isDigit (fun b hb ↦ hdig b (List.mem_cons_of_mem d hb)) hr
  rw [List.cons_append, intPart.eq_2 d _ fun h ↦ hd (h ▸ rfl), if_pos (hdig d (by simp)), hspan]

theorem decimal_ne_nil (n : Nat) : decimal n ≠ [] := by
  by_cases hn : n = 0
  · simp [decimal, hn]
  · obtain ⟨d, t, ht, -⟩ := decimal_of_ne_zero hn
    simp [ht]

theorem signedDecimal_ne_nil (n : Int) : signedDecimal n ≠ [] := by
  unfold signedDecimal
  split
  · exact decimal_ne_nil _
  · simp

/-- A written number reads back as its own literal, whatever follows that ends it. -/
theorem number_decimal (n : Nat) {rest : List UInt8} (hr : endsNumber rest) :
    number (decimal n ++ rest) = .ok (decimal n, rest) := by
  obtain ⟨d, t, ht⟩ := List.exists_cons_of_ne_nil (decimal_ne_nil n)
  have hd := isDigit_decimal n d (by simp [ht])
  have h45 : d ≠ 45 := by rintro rfl; simp +decide at hd
  have hi := intPart_decimal n hr
  rw [ht, List.cons_append] at hi ⊢
  simp [number, h45, hi, bind, Except.bind, fracPart_of_endsNumber hr, expPart_of_endsNumber hr]
  rfl

theorem number_signedDecimal (n : Int) {rest : List UInt8} (hr : endsNumber rest) :
    number (signedDecimal n ++ rest) = .ok (signedDecimal n, rest) := by
  unfold signedDecimal
  split
  · exact number_decimal _ hr
  · simp [number, intPart_decimal _ hr, bind, Except.bind, fracPart_of_endsNumber hr,
      expPart_of_endsNumber hr]
    rfl

/-- `bs` reads as the value `v` at nesting `depth`, with any fuel from `k` on, whatever follows
it that ends a number. -/
def Reads (depth k : Nat) (bs : List UInt8) (v : Value) : Prop :=
  ∀ fuel rest, k ≤ fuel → endsNumber rest → value fuel depth (bs ++ rest) = .ok (v, rest)

theorem skipSpace_of_not_space {b : UInt8} (hb : isSpace b = false) (bs : List UInt8) :
    skipSpace (b :: bs) = b :: bs := by
  simp [skipSpace, hb]

theorem value_quote (fuel depth : Nat) (bs : List UInt8) :
    value (fuel + 1) depth (34 :: bs) = (string bs).map fun (s, t) ↦ (.str s, t) := by
  rw [value.eq_2, skipSpace_of_not_space (by decide)]
  rfl

theorem value_object {depth : Nat} (hd : depth < maxNestingDepth) (fuel : Nat) (x : List UInt8) :
    value (fuel + 1) depth (123 :: 34 :: x) = members fuel (depth + 1) [] (34 :: x) := by
  rw [value.eq_2, skipSpace_of_not_space (by decide)]
  refine (if_pos hd).trans ?_
  rw [skipSpace_of_not_space (by decide)]
  rfl

/-- A value that starts like a number is read as one. -/
theorem value_number {b : UInt8} (hb : b.toNat = 45 ∨ 48 ≤ b.toNat ∧ b.toNat ≤ 57)
    (fuel depth : Nat) (bs : List UInt8) :
    value (fuel + 1) depth (b :: bs) = (number (b :: bs)).map fun (l, t) ↦ (.num l, t) := by
  have hb' : b.toNat = 45 ∨ b.toNat = 48 ∨ b.toNat = 49 ∨ b.toNat = 50 ∨ b.toNat = 51 ∨
      b.toNat = 52 ∨ b.toNat = 53 ∨ b.toNat = 54 ∨ b.toNat = 55 ∨ b.toNat = 56 ∨ b.toNat = 57 := by
    omega
  have hof : b = UInt8.ofNat b.toNat := UInt8.toNat.inj (UInt8.toNat_ofNat_of_lt b.toNat_lt_size).symm
  rcases hb' with h | h | h | h | h | h | h | h | h | h | h <;> rw [hof, h] <;> rfl

theorem reads_quote {s : List UInt8} (h : ∀ b ∈ s, plain b) (depth : Nat) :
    Reads depth 1 (quote s) (.str s) := by
  intro fuel rest hk _
  obtain ⟨fuel, rfl⟩ : ∃ f, fuel = f + 1 := ⟨fuel - 1, by omega⟩
  simp only [quote_of_plain h, List.cons_append, List.append_assoc, List.singleton_append]
  rw [value_quote, string_plain h]
  rfl

theorem reads_signedDecimal (n : Int) (depth : Nat) :
    Reads depth 1 (signedDecimal n) (.num (signedDecimal n)) := by
  intro fuel rest hk hr
  obtain ⟨fuel, rfl⟩ : ∃ f, fuel = f + 1 := ⟨fuel - 1, by omega⟩
  have hn := number_signedDecimal n hr
  obtain ⟨b, t, ht⟩ := List.exists_cons_of_ne_nil (signedDecimal_ne_nil n)
  have hb : b.toNat = 45 ∨ 48 ≤ b.toNat ∧ b.toNat ≤ 57 := by
    unfold signedDecimal at ht
    split at ht
    · have := isDigit_decimal n.toNat b (by simp [ht])
      simp only [isDigit, decide_eq_true_eq] at this
      exact .inr this
    · cases ht; exact .inl rfl
  rw [ht, List.cons_append] at hn ⊢
  rw [value_number hb, hn]
  rfl

/-- The members of an object, each a plain key and a value read with fuel `k`, read back in
order up to the closing brace. -/
theorem members_closeMembers {depth k : Nat} (ms : List (String × List UInt8 × Value))
    (hkey : ∀ m ∈ ms, ∀ b ∈ ascii m.1, plain b) (hval : ∀ m ∈ ms, Reads depth k m.2.1 m.2.2)
    (hne : ms ≠ []) (fuel : Nat) (hf : k + ms.length ≤ fuel) (acc : List (List UInt8 × Value))
    (rest : List UInt8) :
    members fuel depth acc (closeMembers (ms.map fun m ↦ member m.1 m.2.1) ++ rest) =
      .ok (.obj (acc ++ ms.map fun m ↦ (ascii m.1, m.2.2)), rest) := by
  induction ms generalizing fuel acc with
  | nil => exact absurd rfl hne
  | cons m ms ih =>
    obtain ⟨fuel, rfl⟩ : ∃ f, fuel = f + 1 := ⟨fuel - 1, by simp at hf; omega⟩
    have hk := hkey m (by simp)
    rcases ms with _ | ⟨m', ms⟩
    · have hv := hval m (by simp) fuel (125 :: rest) (by simp at hf; omega) rfl
      simp +decide [members.eq_2, member, quote_of_plain hk, skipSpace, isSpace, string_plain hk,
        hv, closeMembers]
    · have hv := hval m (by simp) fuel
        (44 :: closeMembers ((m' :: ms).map fun m ↦ member m.1 m.2.1) ++ rest)
        (by simp at hf; omega) rfl
      have ih' := ih (fun x hx ↦ hkey x (by simp [hx])) (fun x hx ↦ hval x (by simp [hx]))
        (by simp) fuel (by simp at hf ⊢; omega) (acc ++ [(ascii m.1, m.2.2)])
      simp only [member, List.map_cons, closeMembers, List.cons_append, List.append_assoc] at hv ih' ⊢
      simp +decide [members.eq_2, quote_of_plain hk, skipSpace, isSpace, string_plain hk, hv, ih']

/-- An object written by `structEncoder` reads back as its members, one level deeper. -/
theorem reads_object {depth k : Nat} (hd : depth < maxNestingDepth)
    (ms : List (String × List UInt8 × Value)) (hne : ms ≠ [])
    (hkey : ∀ m ∈ ms, ∀ b ∈ ascii m.1, plain b) (hval : ∀ m ∈ ms, Reads (depth + 1) k m.2.1 m.2.2) :
    Reads depth (k + ms.length + 1) (object (ms.map fun m ↦ member m.1 m.2.1))
      (.obj (ms.map fun m ↦ (ascii m.1, m.2.2))) := by
  intro fuel rest hf _
  obtain ⟨fuel, rfl⟩ : ∃ f, fuel = f + 1 := ⟨fuel - 1, by omega⟩
  have hm := members_closeMembers ms hkey hval hne fuel (by omega) [] rest
  obtain ⟨x, hx⟩ : ∃ x, closeMembers (ms.map fun m ↦ member m.1 m.2.1) ++ rest = 34 :: x := by
    obtain ⟨m, ms', rfl⟩ := List.exists_cons_of_ne_nil hne
    cases ms' <;> simp [closeMembers, member, quote]
  rw [object, List.cons_append, hx, value_object hd, ← hx, hm]
  rfl

/-- A `uint16` written in decimal converts back to itself. -/
theorem toUint16_decimal (p : UInt16) : toUint16 (decimal p.toNat) = some p := by
  have hlt := p.toNat_lt_size
  rw [toUint16, digitsValue_decimal,
    if_pos ⟨decimal_ne_nil _, List.all_eq_true.mpr (isDigit_decimal _), hlt⟩]
  exact congrArg some (UInt16.toNat.inj (UInt16.toNat_ofNat_of_lt hlt))

theorem ofInt_toInt (w : BitVec 32) : BitVec.ofInt 32 w.toInt = w :=
  BitVec.eq_of_toInt_eq (by rw [BitVec.toInt_ofInt, BitVec.toInt_eq_toNat_bmod, Int.bmod_bmod])

theorem toInt_mem_int32 (w : BitVec 32) : -2 ^ 31 ≤ w.toInt ∧ w.toInt < 2 ^ 31 := by
  have h₁ := @Int.le_bmod w.toNat (2 ^ 32) (by norm_num)
  have h₂ := @Int.bmod_lt w.toNat (2 ^ 32) (by norm_num)
  rw [← BitVec.toInt_eq_toNat_bmod] at h₁ h₂
  norm_num at h₁ h₂
  omega

/-- An `int32` written in decimal converts back to itself. -/
theorem toInt32_signedDecimal (w : BitVec 32) : toInt32 (signedDecimal w.toInt) = some w := by
  obtain ⟨hlo, hhi⟩ := toInt_mem_int32 w
  by_cases h : 0 ≤ w.toInt
  · obtain ⟨d, t, ht⟩ := List.exists_cons_of_ne_nil (decimal_ne_nil w.toInt.toNat)
    have hd := isDigit_decimal w.toInt.toNat d (by simp [ht])
    simp only [isDigit, decide_eq_true_eq] at hd
    have hall := List.all_eq_true.mpr (isDigit_decimal w.toInt.toNat)
    have hv := digitsValue_decimal w.toInt.toNat
    rw [ht] at hall hv
    have h45 : d ≠ 45 := fun h ↦ by subst h; revert hd; decide
    have h43 : d ≠ 43 := fun h ↦ by subst h; revert hd; decide
    simp [toInt32, signedDecimal, h, ht, h45, h43, hall, hv, Int.toNat_of_nonneg h, ofInt_toInt]
    omega
  · have hall := List.all_eq_true.mpr (isDigit_decimal w.toInt.natAbs)
    simp [toInt32, signedDecimal, h, hall, digitsValue_decimal, decimal_ne_nil,
      abs_of_neg (not_le.mp h), ofInt_toInt]
    omega

theorem Reads.mono {depth k k' : Nat} {bs : List UInt8} {v : Value} (h : Reads depth k bs v)
    (hk : k ≤ k') : Reads depth k' bs v :=
  fun fuel rest hf hr ↦ h fuel rest (le_trans hk hf) hr

/-- A text that reads as one value, then nothing but white space, parses as that value. -/
theorem parse_of_reads {bs : List UInt8} {v : Value} {k : Nat} (h : Reads 0 k bs v)
    (hk : k ≤ bs.length + 1) : parse bs = .ok v := by
  have := h (bs.length + 1) [] hk rfl
  rw [List.append_nil] at this
  rw [parse, this]
  rfl

theorem length_quote_of_plain {s : List UInt8} (h : ∀ b ∈ s, plain b) :
    (quote s).length = s.length + 2 := by
  simp [quote_of_plain h]

theorem length_closeMembers_le (ms : List (List UInt8)) :
    (closeMembers ms).length ≤ (ms.map List.length).sum + ms.length + 1 := by
  induction ms with
  | nil => simp [closeMembers]
  | cons m ms ih =>
    cases ms with
    | nil => simp [closeMembers]
    | cons m' ms => simp only [closeMembers, List.length_append, List.length_cons, List.map_cons,
        List.sum_cons] at ih ⊢; omega

theorem length_decimal_le {n k : Nat} (h : n < 10 ^ k) (hk : 0 < k) : (decimal n).length ≤ k := by
  unfold decimal
  split
  · simpa
  · next hn =>
    rw [List.length_map, List.length_reverse, Nat.digits_len 10 n (by norm_num) hn]
    have := Nat.log_lt_of_lt_pow hn h
    omega

theorem length_signedDecimal_int32 (w : BitVec 32) : (signedDecimal w.toInt).length ≤ 11 := by
  obtain ⟨hlo, hhi⟩ := toInt_mem_int32 w
  unfold signedDecimal
  split
  · exact le_trans (length_decimal_le (show w.toInt.toNat < 10 ^ 10 by omega) (by norm_num))
      (by norm_num)
  · simp only [List.length_cons]
    have := length_decimal_le (show w.toInt.natAbs < 10 ^ 10 by omega) (by norm_num)
    omega

theorem reads_decimal (n depth : Nat) : Reads depth 1 (decimal n) (.num (decimal n)) := by
  simpa [signedDecimal] using reads_signedDecimal n depth

theorem length_object_le (ms : List (List UInt8)) :
    (object ms).length ≤ (ms.map List.length).sum + ms.length + 2 := by
  have := length_closeMembers_le ms
  simp only [object, List.length_cons]
  omega

end Dmsg.Json
