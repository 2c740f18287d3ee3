import Dmsg.Json
import Dmsg.ReadFrame
import Dmsg.Cipher

/-!
# The stream handshake payload

REQUEST and ACCEPT frames carry a `HandshakeData` as JSON.  Its keys go through the text form
of `cipher.PubKey`, which is not in the sources and is a parameter here.  A frame that
`writeRequestFrame` or `writeAcceptFrame` writes reads back as its type, its ID and the data it
carries, and its payload always fits the frame's 16-bit length.
-/

namespace Dmsg

open Json

/-- An ASCII letter or digit. -/
def isAlnum (b : UInt8) : Bool :=
  isDigit b ∨ (65 ≤ b.toNat ∧ b.toNat ≤ 90) ∨ (97 ≤ b.toNat ∧ b.toNat ≤ 122)

/-- `MarshalText` and `UnmarshalText` of `cipher.PubKey`, which are outside these files.  The
protocol's description writes a key as `hex(PK)`, so its text is at most 66 bytes, each an
ASCII letter or digit. -/
structure PkText where
  marshalText : PubKey → List UInt8
  unmarshalText : List UInt8 → Except String PubKey
  alnum_marshalText : ∀ pk, ∀ b ∈ marshalText pk, isAlnum b
  length_marshalText : ∀ pk, (marshalText pk).length ≤ 66

/-- `HandshakeData`; the window is an `int32`. -/
structure HandshakeData where
  version : List UInt8
  initAddr : Addr
  respAddr : Addr
  window : BitVec 32
  deriving DecidableEq

/-- The zero `HandshakeData` that `unmarshalHandshakeData` decodes into. -/
def HandshakeData.zero : HandshakeData := ⟨[], ⟨default, 0⟩, ⟨default, 0⟩, 0⟩

/-- `HandshakePayloadVersion`. -/
def handshakePayloadVersion : List UInt8 := ascii "2.0"

variable (t : PkText)

/-- `json.Marshal` of an `Addr`: `public_key` through `MarshalText`, then `port`. -/
def Addr.marshal (a : Addr) : List UInt8 :=
  object [member "public_key" (quote (t.marshalText a.pk)), member "port" (decimal a.port.toNat)]

/-- `marshalHandshakeData`: `json.Marshal` of the fields in order under their tags. -/
def marshalHandshakeData (p : HandshakeData) : List UInt8 :=
  object [member "version" (quote p.version), member "init_address" (p.initAddr.marshal t),
    member "resp_address" (p.respAddr.marshal t), member "window" (signedDecimal p.window.toInt)]

/-- The value tree `json.Marshal` writes for an `Addr`. -/
def Addr.toJson (a : Addr) : Value :=
  .obj [(ascii "public_key", .str (t.marshalText a.pk)), (ascii "port", .num (decimal a.port.toNat))]

/-- The value tree `marshalHandshakeData` writes. -/
def HandshakeData.toJson (p : HandshakeData) : Value :=
  .obj [(ascii "version", .str p.version), (ascii "init_address", p.initAddr.toJson t),
    (ascii "resp_address", p.respAddr.toJson t), (ascii "window", .num (signedDecimal p.window.toInt))]

/-! ### Decoding -/

/-- The JSON kind an `UnmarshalTypeError` names. -/
def Json.Value.kind : Value → String
  | .null => "null"
  | .bool _ => "bool"
  | .num _ => "number"
  | .str _ => "string"
  | .arr _ => "array"
  | .obj _ => "object"

/-- A value being decoded: the value so far, the first `UnmarshalTypeError` saved for the end
(`d.saveError`), and the error that stopped decoding. -/
structure Decoding (α : Type) where
  val : α
  saved : Option Error
  stop : Option Error

namespace Decoding

variable {α β : Type}

/-- `d.saveError`: only the first error is kept. -/
def saveError (d : Decoding α) (e : Error) : Decoding α := { d with saved := d.saved <|> some e }

/-- Decoding into one field of the value. -/
def field (d : Decoding α) (get : α → β) (set : α → β → α) (dec : Decoding β → Decoding β) :
    Decoding α :=
  let d' := dec ⟨get d.val, d.saved, d.stop⟩
  ⟨set d.val d'.val, d'.saved, d'.stop⟩

/-- A field of a plain Go type: `null` leaves it, a value `conv` converts replaces it, any other
value is an `UnmarshalTypeError` naming what `conv` says it is. -/
def leaf (conv : Value → Except String α) (path : List String) (goType : String) (d : Decoding α) :
    Value → Decoding α
  | .null => d
  | v =>
    match conv v with
    | .ok x => { d with val := x }
    | .error kind => d.saveError (.type kind path goType)

/-- The members of an object in order, until an error stops decoding. -/
def members (f : Decoding α → List UInt8 × Value → Decoding α) (d : Decoding α)
    (ms : List (List UInt8 × Value)) : Decoding α :=
  ms.foldl (fun d m ↦ if d.stop.isSome then d else f d m) d

end Decoding

/-- A number literal as text. -/
def numberText (lit : List UInt8) : String := String.mk (lit.map fun b ↦ Char.ofNat b.toNat)

/-- A `string` field. -/
def decodeString (path : List String) : Decoding (List UInt8) → Value → Decoding (List UInt8) :=
  Decoding.leaf (fun | .str s => .ok s | v => .error v.kind) path "string"

/-- A `uint16` field: `strconv.ParseUint` and the overflow check. -/
def decodeUint16 (path : List String) : Decoding UInt16 → Value → Decoding UInt16 :=
  Decoding.leaf (fun
    | .num l => match toUint16 l with
      | some x => .ok x
      | none => .error ("number " ++ numberText l)
    | v => .error v.kind) path "uint16"

/-- An `int32` field: `strconv.ParseInt` and the overflow check. -/
def decodeInt32 (path : List String) : Decoding (BitVec 32) → Value → Decoding (BitVec 32) :=
  Decoding.leaf (fun
    | .num l => match toInt32 l with
      | some x => .ok x
      | none => .error ("number " ++ numberText l)
    | v => .error v.kind) path "int32"

/-- A `cipher.PubKey` field, an `encoding.TextUnmarshaler`: a string goes to `UnmarshalText`,
whose error stops decoding; `null` leaves the key. -/
def decodePubKey (path : List String) (d : Decoding PubKey) : Value → Decoding PubKey
  | .str s =>
    match t.unmarshalText s with
    | .ok pk => { d with val := pk }
    | .error msg => { d with stop := some (.text msg) }
  | .null => d
  | v => d.saveError (.type v.kind path "cipher.PubKey")

/-- The field a key names: one of the same name, else the first whose name folds as the key
does (`foldName`). -/
def fieldIndex (names : List String) (key : List UInt8) : Option Nat :=
  (names.findIdx? fun n ↦ ascii n = key) <|> names.findIdx? fun n ↦ foldKey (ascii n) = foldKey key

example : fieldIndex ["version"] [118, 101, 114, 0xC5, 0xBF, 105, 111, 110] = some 0 := by decide

/-- A member of an `Addr` object. -/
def decodeAddrMember (path : List String) (d : Decoding Addr) (m : List UInt8 × Value) :
    Decoding Addr :=
  match fieldIndex ["public_key", "port"] m.1 with
  | some 0 => d.field (·.pk) (fun a pk ↦ { a with pk }) fun d ↦
      decodePubKey t (path ++ ["public_key"]) d m.2
  | some 1 => d.field (·.port) (fun a port ↦ { a with port }) fun d ↦
      decodeUint16 (path ++ ["port"]) d m.2
  | _ => d

/-- An `Addr` field. -/
def decodeAddr (path : List String) (d : Decoding Addr) : Value → Decoding Addr
  | .obj ms => d.members (decodeAddrMember t path) ms
  | .null => d
  | v => d.saveError (.type v.kind path "dmsg.Addr")

/-- A member of the `HandshakeData` object. -/
def decodeHandshakeMember (d : Decoding HandshakeData) (m : List UInt8 × Value) :
    Decoding HandshakeData :=
  match fieldIndex ["version", "init_address", "resp_address", "window"] m.1 with
  | some 0 => d.field (·.version) (fun p version ↦ { p with version }) fun d ↦
      decodeString ["version"] d m.2
  | some 1 => d.field (·.initAddr) (fun p initAddr ↦ { p with initAddr }) fun d ↦
      decodeAddr t ["init_address"] d m.2
  | some 2 => d.field (·.respAddr) (fun p respAddr ↦ { p with respAddr }) fun d ↦
      decodeAddr t ["resp_address"] d m.2
  | some 3 => d.field (·.window) (fun p window ↦ { p with window }) fun d ↦
      decodeInt32 ["window"] d m.2
  | _ => d

/-- `unmarshalHandshakeData`: `json.Unmarshal` into a zero `HandshakeData`.  A syntax error
leaves it zero; otherwise it holds what was decoded, and the error is the one that stopped
decoding, else the first saved one. -/
def unmarshalHandshakeData (b : List UInt8) : HandshakeData × Option Error :=
  match parse b with
  | .error e => (.zero, some e)
  | .ok v =>
    let d : Decoding HandshakeData := match v with
      | .obj ms => Decoding.members (decodeHandshakeMember t) ⟨.zero, none, none⟩ ms
      | .null => ⟨.zero, none, none⟩
      | v => Decoding.saveError ⟨.zero, none, none⟩ (.type v.kind [] "dmsg.HandshakeData")
    (d.val, d.stop <|> d.saved)

/-! ### Frames -/

/-- `writeRequestFrame`: a REQUEST frame whose data has the local address as `InitAddr`. -/
def writeRequestFrame (w : List UInt8) (id : UInt16) (lAddr rAddr : Addr) (lWindow : BitVec 32) :
    List UInt8 :=
  writeFrame w (makeFrame requestType id
    (marshalHandshakeData t ⟨handshakePayloadVersion, lAddr, rAddr, lWindow⟩))

/-- `writeAcceptFrame`: an ACCEPT frame whose data has the remote address as `InitAddr`. -/
def writeAcceptFrame (w : List UInt8) (id : UInt16) (lAddr rAddr : Addr) (lWindow : BitVec 32) :
    List UInt8 :=
  writeFrame w (makeFrame acceptType id
    (marshalHandshakeData t ⟨handshakePayloadVersion, rAddr, lAddr, lWindow⟩))

/-! ### Reading back -/

theorem plain_of_isAlnum {b : UInt8} (h : isAlnum b) : plain b := by
  simp only [isAlnum, isDigit, plain, decide_eq_true_eq] at h ⊢
  omega

theorem plain_marshalText (pk : PubKey) : ∀ b ∈ t.marshalText pk, plain b :=
  fun b hb ↦ plain_of_isAlnum (t.alnum_marshalText pk b hb)

/-- An address reads back as its value tree. -/
theorem reads_addr (a : Addr) : Reads 1 4 (a.marshal t) (a.toJson t) :=
  @reads_object 1 1 (by decide)
    [("public_key", quote (t.marshalText a.pk), .str (t.marshalText a.pk)),
      ("port", decimal a.port.toNat, .num (decimal a.port.toNat))] (by simp)
    (by simp only [List.mem_cons, List.mem_singleton, List.not_mem_nil, or_false]
        rintro m (rfl | rfl) <;> dsimp only <;> decide)
    (by simp only [List.mem_cons, List.mem_singleton, List.not_mem_nil, or_false]
        rintro m (rfl | rfl)
        · exact reads_quote (plain_marshalText t a.pk) 2
        · exact reads_decimal _ 2)

/-- A payload whose version is plain reads back as its value tree. -/
theorem reads_handshakeData (p : HandshakeData) (hv : ∀ b ∈ p.version, plain b) :
    Reads 0 9 (marshalHandshakeData t p) (p.toJson t) :=
  @reads_object 0 4 (by decide)
    [("version", quote p.version, .str p.version),
      ("init_address", p.initAddr.marshal t, p.initAddr.toJson t),
      ("resp_address", p.respAddr.marshal t, p.respAddr.toJson t),
      ("window", signedDecimal p.window.toInt, .num (signedDecimal p.window.toInt))] (by simp)
    (by simp only [List.mem_cons, List.mem_singleton, List.not_mem_nil, or_false]
        rintro m (rfl | rfl | rfl | rfl) <;> dsimp only <;> decide)
    (by simp only [List.mem_cons, List.mem_singleton, List.not_mem_nil, or_false]
        rintro m (rfl | rfl | rfl | rfl)
        · exact (reads_quote hv 1).mono (by norm_num)
        · exact reads_addr t _
        · exact reads_addr t _
        · exact (reads_signedDecimal _ 1).mono (by norm_num))

theorem nine_le_length_marshalHandshakeData (p : HandshakeData) :
    9 ≤ (marshalHandshakeData t p).length := by
  simp [marshalHandshakeData, object, closeMembers, member, quote]
  omega

/-- `unmarshalHandshakeData` undoes `marshalHandshakeData` on data with a plain version whose
keys' texts read back as the keys. -/
theorem unmarshal_marshalHandshakeData (p : HandshakeData) (hv : ∀ b ∈ p.version, plain b)
    (hi : t.unmarshalText (t.marshalText p.initAddr.pk) = .ok p.initAddr.pk)
    (hr : t.unmarshalText (t.marshalText p.respAddr.pk) = .ok p.respAddr.pk) :
    unmarshalHandshakeData t (marshalHandshakeData t p) = (p, none) := by
  have hp := parse_of_reads (reads_handshakeData t p hv)
    (by have := nine_le_length_marshalHandshakeData t p; omega)
  have h₀ : fieldIndex ["version", "init_address", "resp_address", "window"] (ascii "version") =
    some 0 := by decide
  have h₁ : fieldIndex ["version", "init_address", "resp_address", "window"]
    (ascii "init_address") = some 1 := by decide
  have h₂ : fieldIndex ["version", "init_address", "resp_address", "window"]
    (ascii "resp_address") = some 2 := by decide
  have h₃ : fieldIndex ["version", "init_address", "resp_address", "window"] (ascii "window") =
    some 3 := by decide
  have hk : fieldIndex ["public_key", "port"] (ascii "public_key") = some 0 := by decide
  have hp' : fieldIndex ["public_key", "port"] (ascii "port") = some 1 := by decide
  rw [unmarshalHandshakeData, hp]
  simp [HandshakeData.toJson, Addr.toJson, Decoding.members, decodeHandshakeMember, h₀, h₁, h₂, h₃,
    Decoding.field, decodeString, Decoding.leaf, decodeAddr, decodeAddrMember, hk, hp',
    decodePubKey, hi, hr, decodeUint16, toUint16_decimal, decodeInt32, toInt32_signedDecimal]

theorem length_addr_marshal (a : Addr) : (a.marshal t).length ≤ 97 := by
  have h := length_object_le [member "public_key" (quote (t.marshalText a.pk)),
    member "port" (decimal a.port.toNat)]
  have hq := length_quote_of_plain (plain_marshalText t a.pk)
  have hd := length_decimal_le
    (show a.port.toNat < 10 ^ 5 by have := a.port.toNat_lt_size; simp only [UInt16.size] at this; omega)
    (by norm_num)
  have := t.length_marshalText a.pk
  have hk : (quote (ascii "public_key")).length = 12 := by decide
  have hp : (quote (ascii "port")).length = 6 := by decide
  simp only [member, List.map_cons, List.map_nil, List.length_append, List.length_cons,
    List.length_nil, List.sum_cons, List.sum_nil, hk, hp, hq] at h
  simp only [Addr.marshal, member]
  omega

/-- A handshake payload is at most 265 bytes, so its `payLen` is never truncated. -/
theorem length_marshalHandshakeData_lt (l r : Addr) (w : BitVec 32) :
    (marshalHandshakeData t ⟨handshakePayloadVersion, l, r, w⟩).length < 65536 := by
  have h := length_object_le [member "version" (quote handshakePayloadVersion),
    member "init_address" (l.marshal t), member "resp_address" (r.marshal t),
    member "window" (signedDecimal w.toInt)]
  have := length_addr_marshal t l
  have := length_addr_marshal t r
  have := length_signedDecimal_int32 w
  have hv : (quote handshakePayloadVersion).length = 5 := by decide
  have h₁ : (quote (ascii "version")).length = 9 := by decide
  have h₂ : (quote (ascii "init_address")).length = 14 := by decide
  have h₃ : (quote (ascii "resp_address")).length = 14 := by decide
  have h₄ : (quote (ascii "window")).length = 8 := by decide
  simp only [member, List.map_cons, List.map_nil, List.length_append, List.length_cons,
    List.length_nil, List.sum_cons, List.sum_nil, hv, h₁, h₂, h₃, h₄] at h
  simp only [marshalHandshakeData, member]
  omega

theorem readFrame_handshake (ft : FrameType) (id : UInt16) (p : HandshakeData)
    (hv : p.version = handshakePayloadVersion)
    (hi : t.unmarshalText (t.marshalText p.initAddr.pk) = .ok p.initAddr.pk)
    (hr : t.unmarshalText (t.marshalText p.respAddr.pk) = .ok p.respAddr.pk) (rest : List UInt8) :
    ∃ pay, readFrame (writeFrame [] (makeFrame ft id (marshalHandshakeData t p)) ++ rest) =
        ⟨makeFrame ft id pay, ⟨ft, id, pay⟩, none, rest⟩ ∧
      unmarshalHandshakeData t pay = (p, none) ∧ pay.length < 65536 := by
  obtain ⟨version, l, r, w⟩ := p
  subst hv
  have hlen := length_marshalHandshakeData_lt t l r w
  exact ⟨_, readFrame_makeFrame ft id _ rest (by simp only [maxFwdPayLen]; omega),
    unmarshal_marshalHandshakeData t _ (show ∀ b ∈ handshakePayloadVersion, plain b by decide) hi hr,
    hlen⟩

/-- A REQUEST frame reads back as its type, its ID and the data it carries, an ACCEPT frame the
same with the two addresses the other way round, and the payload always fits the frame's
16-bit length. -/
theorem handshake_frames_round_trip (id : UInt16) (lAddr rAddr : Addr) (lWindow : BitVec 32)
    (hl : t.unmarshalText (t.marshalText lAddr.pk) = .ok lAddr.pk)
    (hr : t.unmarshalText (t.marshalText rAddr.pk) = .ok rAddr.pk) (rest : List UInt8) :
    (∃ pay, readFrame (writeRequestFrame t [] id lAddr rAddr lWindow ++ rest) =
        ⟨makeFrame requestType id pay, ⟨requestType, id, pay⟩, none, rest⟩ ∧
      unmarshalHandshakeData t pay = (⟨handshakePayloadVersion, lAddr, rAddr, lWindow⟩, none) ∧
      pay.length < 65536) ∧
    (∃ pay, readFrame (writeAcceptFrame t [] id lAddr rAddr lWindow ++ rest) =
        ⟨makeFrame acceptType id pay, ⟨acceptType, id, pay⟩, none, rest⟩ ∧
      unmarshalHandshakeData t pay = (⟨handshakePayloadVersion, rAddr, lAddr, lWindow⟩, none) ∧
      pay.length < 65536) :=
  ⟨readFrame_handshake t requestType id _ rfl hl hr rest,
    readFrame_handshake t acceptType id _ rfl hr hl rest⟩

/-- Two lowercase hex digits a byte. -/
def hexByte (b : UInt8) : List UInt8 := [hexDigit (b.toNat / 16), hexDigit (b.toNat % 16)]

/-- The bytes of a run of hex digit pairs. -/
def unhex : List UInt8 → Option (List UInt8)
  | a :: b :: rest => do
    let x ← hexValue a
    let y ← hexValue b
    let r ← unhex rest
    pure ((x * 16 + y).toUInt8 :: r)
  | [] => some []
  | [_] => none

theorem isAlnum_hexDigit {n : Nat} (h : n < 16) : isAlnum (hexDigit n) := by
  unfold isAlnum isDigit hexDigit
  split
  · have : (48 + n).toUInt8.toNat = 48 + n :=
      UInt8.toNat_ofNat_of_lt (by simp only [UInt8.size]; omega)
    simp only [this, decide_eq_true_eq]
    omega
  · have : (87 + n).toUInt8.toNat = 87 + n :=
      UInt8.toNat_ofNat_of_lt (by simp only [UInt8.size]; omega)
    simp only [this, decide_eq_true_eq]
    omega

/-- A hex text form of keys: 66 lowercase hex digits, read back only as 33 bytes. -/
def hexText : PkText where
  marshalText pk := pk.data.flatMap hexByte
  unmarshalText s :=
    match unhex s with
    | some bs => if h : bs.length = 33 then .ok ⟨bs, h⟩ else .error "invalid public key length"
    | none => .error "invalid hex"
  alnum_marshalText pk b hb := by
    obtain ⟨c, -, hc⟩ := List.mem_flatMap.mp hb
    simp only [hexByte, List.mem_cons, List.mem_singleton, List.not_mem_nil, or_false] at hc
    rcases hc with rfl | rfl
    · exact isAlnum_hexDigit (Nat.div_lt_of_lt_mul (by simpa using c.toNat_lt_size))
    · exact isAlnum_hexDigit (Nat.mod_lt _ (by norm_num))
  length_marshalText pk := by
    have : ∀ b, (hexByte b).length = 2 := fun _ ↦ rfl
    simp [List.length_flatMap, Function.comp_def, this, List.map_const', pk.length_eq]

/-- A request from key `02…02` on port 80 to the null key, window -5, round-trips. -/
theorem handshake_frames_round_trip_hex :
    hexText.unmarshalText (hexText.marshalText ⟨List.replicate 33 2, rfl⟩) =
        .ok ⟨List.replicate 33 2, rfl⟩ ∧
      hexText.unmarshalText (hexText.marshalText default) = .ok default ∧
    (∃ pay, readFrame (writeRequestFrame hexText [] 7 ⟨⟨List.replicate 33 2, rfl⟩, 80⟩ ⟨default, 0⟩ (-5)) =
        ⟨makeFrame requestType 7 pay, ⟨requestType, 7, pay⟩, none, []⟩ ∧
      unmarshalHandshakeData hexText pay =
        (⟨handshakePayloadVersion, ⟨⟨List.replicate 33 2, rfl⟩, 80⟩, ⟨default, 0⟩, -5⟩, none) ∧
      pay.length < 65536) ∧
    (∃ pay, readFrame (writeAcceptFrame hexText [] 7 ⟨⟨List.replicate 33 2, rfl⟩, 80⟩ ⟨default, 0⟩ (-5)) =
        ⟨makeFrame acceptType 7 pay, ⟨acceptType, 7, pay⟩, none, []⟩ ∧
      unmarshalHandshakeData hexText pay =
        (⟨handshakePayloadVersion, ⟨default, 0⟩, ⟨⟨List.replicate 33 2, rfl⟩, 80⟩, -5⟩, none) ∧
      pay.length < 65536) := by
  have h₁ : hexText.unmarshalText (hexText.marshalText ⟨List.replicate 33 2, rfl⟩) =
      .ok ⟨List.replicate 33 2, rfl⟩ := rfl
  have h₂ : hexText.unmarshalText (hexText.marshalText default) = .ok default := rfl
  have := handshake_frames_round_trip hexText 7 ⟨⟨List.replicate 33 2, rfl⟩, 80⟩ ⟨default, 0⟩ (-5) h₁ h₂ []
  simp only [List.append_nil] at this
  exact ⟨h₁, h₂, this⟩

end Dmsg
