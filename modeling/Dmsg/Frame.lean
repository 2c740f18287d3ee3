import Mathlib.Data.List.Basic

/-!
# Frames

The data unit of a dmsg session (`types.go`): a one-byte frame type, a
big-endian stream id, a big-endian payload length, and the payload.  A frame
is a byte slice in the source; here it carries its five header bytes by
construction, so the header accessors are total.  The stream id is even when
the stream's initiator drew it and odd when its responder did (`randID`).
-/

namespace Dmsg

/-- `headerLen`: fType (1 byte), chID (2 bytes), payLen (2 bytes). -/
abbrev headerLen : Nat := 5

/-- `maxFwdPayLen = math.MaxUint16`, the largest payload a header can announce. -/
abbrev maxFwdPayLen : Nat := 65535

/-! ### `binary.BigEndian` on two bytes -/

/-- `binary.BigEndian.PutUint16`: `byte(v >> 8)`, then `byte(v)`. -/
def putUint16 (v : UInt16) : List UInt8 :=
  [UInt8.ofNat (v.toNat / 256), UInt8.ofNat (v.toNat % 256)]

/-- `binary.BigEndian.Uint16`: `uint16(b[1]) | uint16(b[0]) << 8`. -/
def uint16 (b0 b1 : UInt8) : UInt16 :=
  UInt16.ofNat (b0.toNat * 256 + b1.toNat)

@[simp] theorem UInt8.toNat_ofNat_eq (n : Nat) : (UInt8.ofNat n).toNat = n % 256 :=
  BitVec.toNat_ofNat ..

@[simp] theorem UInt16.toNat_ofNat_eq (n : Nat) : (UInt16.ofNat n).toNat = n % 65536 :=
  BitVec.toNat_ofNat ..

@[simp] theorem length_putUint16 (v : UInt16) : (putUint16 v).length = 2 := rfl

theorem toNat_uint16 (b0 b1 : UInt8) :
    (uint16 b0 b1).toNat = b0.toNat * 256 + b1.toNat := by
  have h0 := b0.toNat_lt_size
  have h1 := b1.toNat_lt_size
  simp only [uint16, UInt16.toNat_ofNat_eq, UInt8.size] at *
  omega

/-- The two-byte big-endian codec round-trips every `uint16`. -/
@[simp] theorem uint16_putUint16 (v : UInt16) :
    uint16 (UInt8.ofNat (v.toNat / 256)) (UInt8.ofNat (v.toNat % 256)) = v := by
  apply UInt16.toNat.inj
  have hv := v.toNat_lt_size
  simp only [toNat_uint16, UInt8.toNat_ofNat_eq, UInt16.size] at *
  omega

/-- ... and every pair of bytes. -/
@[simp] theorem putUint16_uint16 (b0 b1 : UInt8) : putUint16 (uint16 b0 b1) = [b0, b1] := by
  have h0 := b0.toNat_lt_size
  have h1 := b1.toNat_lt_size
  simp only [putUint16, toNat_uint16, List.cons.injEq, and_true]
  constructor <;> apply UInt8.toNat.inj <;> simp only [UInt8.toNat_ofNat_eq, UInt8.size] at * <;>
    omega

/-! ### Frame types -/

/-- `FrameType byte`. -/
abbrev FrameType := UInt8

def okType : FrameType := 0x0
def requestType : FrameType := 0x1
def acceptType : FrameType := 0x2
def closeType : FrameType := 0x3
def fwdType : FrameType := 0xa
def ackType : FrameType := 0xb

/-! ### Frames -/

/-- A frame (`Frame []byte`) with at least its header. -/
@[ext] structure Frame where
  bytes : List UInt8
  header_le : headerLen ≤ bytes.length
  deriving DecidableEq

/-- The `i`-th byte, `f[i]`; the default is never read below `headerLen`. -/
def Frame.hdr (f : Frame) (i : Nat) : UInt8 := f.bytes.getD i 0

/-- `Frame.Type`: `FrameType(f[0])`. -/
def Frame.type (f : Frame) : FrameType := f.hdr 0

/-- `Frame.TpID`: `binary.BigEndian.Uint16(f[1:3])`. -/
def Frame.tpID (f : Frame) : UInt16 := uint16 (f.hdr 1) (f.hdr 2)

/-- `Frame.PayLen`: `int(binary.BigEndian.Uint16(f[3:5]))`. -/
def Frame.payLen (f : Frame) : Nat := (uint16 (f.hdr 3) (f.hdr 4)).toNat

/-- `Frame.Pay`: `f[headerLen:]`. -/
def Frame.pay (f : Frame) : List UInt8 := f.bytes.drop headerLen

/-- Every frame is its five header bytes followed by its payload. -/
theorem Frame.bytes_eq (f : Frame) :
    f.bytes = f.hdr 0 :: f.hdr 1 :: f.hdr 2 :: f.hdr 3 :: f.hdr 4 :: f.pay := by
  rcases f with ⟨_ | ⟨_, _ | ⟨_, _ | ⟨_, _ | ⟨_, _ | ⟨_, _⟩⟩⟩⟩⟩, hf⟩
  all_goals first | rfl | exact absurd hf (by simp [headerLen])

theorem Frame.payLen_le (f : Frame) : f.payLen ≤ maxFwdPayLen := by
  have := (uint16 (f.hdr 3) (f.hdr 4)).toNat_lt_size
  simp only [Frame.payLen, UInt16.size, maxFwdPayLen] at *
  omega

/-- `MakeFrame`: the type byte, the id, `uint16(len(pay))` and the payload. -/
def makeFrame (ft : FrameType) (chID : UInt16) (pay : List UInt8) : Frame where
  bytes := ft :: putUint16 chID ++ putUint16 (UInt16.ofNat pay.length) ++ pay
  header_le := by simp only [headerLen, List.length_append, List.length_cons, length_putUint16]; omega

@[simp] theorem length_makeFrame (ft : FrameType) (chID : UInt16) (pay : List UInt8) :
    (makeFrame ft chID pay).bytes.length = headerLen + pay.length := by
  simp [makeFrame, headerLen]
  omega

@[simp] theorem type_makeFrame (ft : FrameType) (chID : UInt16) (pay : List UInt8) :
    (makeFrame ft chID pay).type = ft := rfl

@[simp] theorem tpID_makeFrame (ft : FrameType) (chID : UInt16) (pay : List UInt8) :
    (makeFrame ft chID pay).tpID = chID :=
  uint16_putUint16 chID

/-- The header announces the payload length modulo `2^16` (the `uint16` conversion). -/
theorem payLen_makeFrame (ft : FrameType) (chID : UInt16) (pay : List UInt8) :
    (makeFrame ft chID pay).payLen = pay.length % 65536 := by
  have h := uint16_putUint16 (UInt16.ofNat pay.length)
  simp only [Frame.payLen, Frame.hdr, makeFrame]
  exact (congrArg UInt16.toNat h).trans (UInt16.toNat_ofNat_eq _)

@[simp] theorem pay_makeFrame (ft : FrameType) (chID : UInt16) (pay : List UInt8) :
    (makeFrame ft chID pay).pay = pay := rfl

/-- `disassembledFrame`. -/
structure DisassembledFrame where
  type : FrameType
  tpID : UInt16
  pay : List UInt8
  deriving DecidableEq, Inhabited

/-- `Frame.Disassemble`. -/
def Frame.disassemble (f : Frame) : DisassembledFrame := ⟨f.type, f.tpID, f.pay⟩

@[simp] theorem disassemble_makeFrame (ft : FrameType) (chID : UInt16) (pay : List UInt8) :
    (makeFrame ft chID pay).disassemble = ⟨ft, chID, pay⟩ := by
  simp [Frame.disassemble]

/-- Encoding undoes decoding: a frame whose header announces exactly its payload is
`MakeFrame` of its own fields. -/
theorem makeFrame_disassemble (f : Frame) (h : f.pay.length = f.payLen) :
    makeFrame f.type f.tpID f.pay = f := by
  have hlen : UInt16.ofNat f.pay.length = uint16 (f.hdr 3) (f.hdr 4) := by
    apply UInt16.toNat.inj
    simpa [h, Frame.payLen] using (uint16 (f.hdr 3) (f.hdr 4)).toNat_lt_size
  ext1
  rw [f.bytes_eq]
  simp [makeFrame, Frame.type, Frame.tpID, hlen]

/-! ### ACK payloads -/

/-- `disassembleAckPayload`. -/
def disassembleAckPayload (p : List UInt8) : Except String UInt16 :=
  match p with
  | [b0, b1] => .ok (uint16 b0 b1)
  | _ => .error "invalid ACK payload size"

@[simp] theorem disassembleAckPayload_putUint16 (offset : UInt16) :
    disassembleAckPayload (putUint16 offset) = .ok offset :=
  congrArg Except.ok (uint16_putUint16 offset)

/-! ### Stream ids -/

/-- `isInitiatorID`: the initiator of a stream picks an even id, the responder an odd one. -/
def isInitiatorID (tpID : UInt16) : Bool := tpID.toNat % 2 == 0

/-- `randID` on the draws `rand i, rand (i+1), …` of `cipher.RandByte(2)`, for at most `fuel`
of them: the id it returns and the position of the stream after it. -/
def randID (rand : Nat → UInt8 × UInt8) (initiator : Bool) : Nat → Nat → Option (UInt16 × Nat)
  | 0, _ => none
  | fuel + 1, i =>
    let id := uint16 (rand i).1 (rand i).2
    if initiator && id.toNat % 2 == 0 || !initiator && id.toNat % 2 != 0 then some (id, i + 1)
    else randID rand initiator fuel (i + 1)

/-- The loop's exit test holds exactly when the id has the caller's parity. -/
theorem randID_test (initiator : Bool) (id : UInt16) :
    (initiator && id.toNat % 2 == 0 || !initiator && id.toNat % 2 != 0) = true ↔
      isInitiatorID id = initiator := by
  cases initiator <;> simp [isInitiatorID]

theorem randID_succ (rand : Nat → UInt8 × UInt8) (initiator : Bool) (fuel i : Nat) :
    randID rand initiator (fuel + 1) i =
      if isInitiatorID (uint16 (rand i).1 (rand i).2) = initiator
      then some (uint16 (rand i).1 (rand i).2, i + 1)
      else randID rand initiator fuel (i + 1) :=
  if_congr (randID_test _ _) rfl rfl

/-- The caller's parity, as a remainder: initiators' ids are even, responders' odd. -/
theorem isInitiatorID_eq_iff (id : UInt16) (initiator : Bool) :
    isInitiatorID id = initiator ↔ id.toNat % 2 = if initiator then 0 else 1 := by
  cases initiator <;> simp [isInitiatorID]

/-- `randID` returns exactly the first draw, from position `i` on and within `fuel` draws, whose
id has its caller's parity (even for initiators, odd for responders), with the position after
it. -/
theorem randID_parity (rand : Nat → UInt8 × UInt8) (initiator : Bool) :
    ∀ (fuel i : Nat) (id : UInt16) (k : Nat), randID rand initiator fuel i = some (id, k) ↔
      i < k ∧ k ≤ i + fuel ∧ id = uint16 (rand (k - 1)).1 (rand (k - 1)).2 ∧
        id.toNat % 2 = (if initiator then 0 else 1) ∧
        ∀ j, i ≤ j → j + 1 < k → isInitiatorID (uint16 (rand j).1 (rand j).2) ≠ initiator
  | 0, i, id, k => by
    simp only [randID, reduceCtorEq, false_iff]
    omega
  | fuel + 1, i, id, k => by
    rw [randID_succ, ← isInitiatorID_eq_iff]
    split
    · next hp =>
      -- the first draw has the caller's parity
      simp only [Option.some.injEq, Prod.mk.injEq]
      constructor
      · rintro ⟨rfl, rfl⟩
        exact ⟨by omega, by omega, rfl, hp, fun j hj hjk ↦ by omega⟩
      · rintro ⟨hik, -, hid, -, hfirst⟩
        have hk : ¬i + 1 < k := fun hk ↦ hfirst i le_rfl hk hp
        obtain rfl : k = i + 1 := by omega
        exact ⟨hid.symm, rfl⟩
    · next hp =>
      -- the first draw is skipped
      rw [randID_parity rand initiator fuel (i + 1) id k, ← isInitiatorID_eq_iff]
      constructor
      · rintro ⟨hik, hk, hid, hpar, hrest⟩
        refine ⟨by omega, by omega, hid, hpar, fun j hj hjk ↦ ?_⟩
        rcases Nat.eq_or_lt_of_le hj with rfl | hj
        · exact hp
        · exact hrest j hj hjk
      · rintro ⟨hik, hk, hid, hpar, hrest⟩
        have hk' : k ≠ i + 1 := by rintro rfl; exact hp (hid ▸ hpar)
        exact ⟨by omega, by omega, hid, hpar, fun j hj hjk ↦ hrest j (by omega) hjk⟩

/-- A responder whose stream draws `0x0002` and then `0x0003` skips the even id. -/
example : randID (fun j ↦ if j = 0 then (0, 2) else (0, 3)) false 2 0 = some (3, 2) := by decide

end Dmsg
