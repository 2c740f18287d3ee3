import Dmsg.Frame

/-!
# Reading and writing frames

`readFrame` reads a header with `io.ReadFull`, then as many payload bytes as
the header announces.  The reader is the byte stream it still holds; the
writer is the byte stream written so far.  `io.ReadFull` is modelled by its
contract: `io.EOF` when nothing was read, `io.ErrUnexpectedEOF` when the
stream ended part-way.
-/

namespace Dmsg

/-- The errors `io.ReadFull` returns. -/
inductive IoError
  | eof
  | unexpectedEOF
  deriving DecidableEq, Repr

/-- `io.ReadFull(r, buf)` with `len(buf) = n` on a reader holding `r`: the bytes read,
the error, and what the reader still holds. -/
def readFull (n : Nat) (r : List UInt8) : List UInt8 × Option IoError × List UInt8 :=
  if n ≤ r.length then (r.take n, none, r.drop n)
  else if r = [] then ([], some .eof, [])
  else (r, some .unexpectedEOF, [])

theorem readFull_append {n : Nat} {bs : List UInt8} (h : bs.length = n) (rest : List UInt8) :
    readFull n (bs ++ rest) = (bs, none, rest) := by
  subst h
  simp [readFull]

theorem readFull_of_lt {n : Nat} {r : List UInt8} (h : r.length < n) :
    readFull n r = (r, some (if r = [] then .eof else .unexpectedEOF), []) := by
  rw [readFull, if_neg (Nat.not_le.mpr h)]
  split <;> simp_all

/-- A buffer of `n` bytes (from `make`, so zeroed) whose front a read filled with `got`. -/
def fillBuf (n : Nat) (got : List UInt8) : List UInt8 :=
  got ++ List.replicate (n - got.length) 0

theorem le_length_fillBuf (n : Nat) (got : List UInt8) : n ≤ (fillBuf n got).length := by
  simp only [fillBuf, List.length_append, List.length_replicate]
  omega

@[simp] theorem fillBuf_length (got : List UInt8) : fillBuf got.length got = got := by
  simp [fillBuf]

/-- What `readFrame` returns (`f`, `df`, `err`) and what the reader still holds. -/
structure FrameRead where
  f : Frame
  df : DisassembledFrame
  err : Option IoError
  rest : List UInt8

/-- The header buffer after the first `io.ReadFull`. -/
def headerBuf (hdr : List UInt8) : Frame := ⟨fillBuf headerLen hdr, le_length_fillBuf _ _⟩

/-- `readFrame`. -/
def readFrame (r : List UInt8) : FrameRead :=
  match readFull headerLen r with
  | (hdr, some e, r) => ⟨headerBuf hdr, default, some e, r⟩
  | (hdr, none, r) =>
    let h := headerBuf hdr
    let f (pay : List UInt8) : Frame :=
      ⟨h.bytes ++ fillBuf h.payLen pay, by simpa using Nat.le_add_right_of_le h.header_le⟩
    match readFull h.payLen r with
    | (pay, some e, r) => ⟨f pay, default, some e, r⟩
    | (pay, none, r) => ⟨f pay, (f pay).disassemble, none, r⟩

/-! ### One frame -/

theorem Frame.take_append_pay (f : Frame) : f.bytes.take headerLen ++ f.pay = f.bytes :=
  List.take_append_drop _ _

theorem Frame.length_take_header (f : Frame) : (f.bytes.take headerLen).length = headerLen := by
  simp [f.header_le]

/-- The header buffer of a frame's first five bytes reads that frame's header. -/
theorem headerBuf_take (f : Frame) :
    headerBuf (f.bytes.take headerLen) = ⟨f.bytes.take headerLen, by simp [f.length_take_header]⟩ := by
  simp [headerBuf, fillBuf, f.length_take_header]

theorem payLen_headerBuf_take (f : Frame) :
    (headerBuf (f.bytes.take headerLen)).payLen = f.payLen := by
  simp [headerBuf_take, Frame.payLen, Frame.hdr, List.getD_eq_getElem?_getD, List.getElem?_take,
    headerLen]

/-- `readFrame` consumes exactly a frame whose header announces its payload, and returns it
and its fields, whatever follows it. -/
theorem readFrame_frame (f : Frame) (h : f.pay.length = f.payLen) (rest : List UInt8) :
    readFrame (f.bytes ++ rest) = ⟨f, f.disassemble, none, rest⟩ := by
  have hs : f.bytes ++ rest = f.bytes.take headerLen ++ (f.pay ++ rest) := by
    rw [← List.append_assoc, f.take_append_pay]
  have hf : ∀ hp, (⟨(headerBuf (f.bytes.take headerLen)).bytes ++ fillBuf f.payLen f.pay, hp⟩ :
      Frame) = f := fun _ ↦ Frame.ext (by simp [headerBuf_take, ← h, f.take_append_pay])
  simp only [readFrame, hs, readFull_append f.length_take_header, payLen_headerBuf_take,
    readFull_append h, hf]

/-- `readFrame` consumes exactly one frame made by `MakeFrame` and returns its fields,
whatever follows it. -/
theorem readFrame_makeFrame (ft : FrameType) (id : UInt16) (pay rest : List UInt8)
    (h : pay.length ≤ maxFwdPayLen) :
    readFrame ((makeFrame ft id pay).bytes ++ rest) =
      ⟨makeFrame ft id pay, ⟨ft, id, pay⟩, none, rest⟩ := by
  rw [readFrame_frame _ (by
      rw [payLen_makeFrame, pay_makeFrame, Nat.mod_eq_of_lt (by simp only [maxFwdPayLen] at h; omega)]),
    disassemble_makeFrame]

/-! ### Every input -/

/-- The payload length the bytes `b[3:5]` announce (zero bytes where `b` is shorter). -/
def announcedPayLen (b : List UInt8) : Nat := (uint16 (b.getD 3 0) (b.getD 4 0)).toNat

theorem Frame.payLen_eq_announced (f : Frame) : f.payLen = announcedPayLen f.bytes := rfl

theorem announcedPayLen_take {b : List UInt8} {n : Nat} (h : headerLen ≤ n) :
    announcedPayLen (b.take n) = announcedPayLen b := by
  simp only [headerLen] at h
  simp only [announcedPayLen, List.getD_eq_getElem?_getD,
    List.getElem?_take_of_lt (show 3 < n by omega), List.getElem?_take_of_lt (show 4 < n by omega)]

theorem payLen_headerBuf {b : List UInt8} (h : headerLen ≤ b.length) :
    (headerBuf (b.take headerLen)).payLen = announcedPayLen b := by
  have hl : (b.take headerLen).length = headerLen := by simp [h]
  have h4 : 4 < b.length := h
  simp [headerBuf, fillBuf, hl, Frame.payLen, Frame.hdr, announcedPayLen,
    List.getD_eq_getElem?_getD, List.getElem?_take, headerLen, List.getElem?_eq_getElem,
    Nat.lt_trans (by decide : 3 < 4) h4, h4]

theorem readFrame_of_length_lt {b : List UInt8} (h : b.length < headerLen) :
    (readFrame b).err = some (if b = [] then .eof else .unexpectedEOF) ∧ (readFrame b).rest = [] := by
  simp [readFrame, readFull_of_lt h]

theorem readFrame_of_le {b : List UInt8} (h : headerLen + announcedPayLen b ≤ b.length) :
    (readFrame b).err = none ∧
    (readFrame b).f.bytes = b.take (headerLen + announcedPayLen b) ∧
    (readFrame b).rest = b.drop (headerLen + announcedPayLen b) ∧
    (readFrame b).df = (readFrame b).f.disassemble ∧
    (readFrame b).f.pay.length = (readFrame b).f.payLen := by
  set f : Frame := ⟨b.take (headerLen + announcedPayLen b), by simp; omega⟩
  have hpay : f.pay.length = f.payLen := by
    rw [Frame.payLen_eq_announced, announcedPayLen_take (Nat.le_add_right _ _)]
    simp only [f, Frame.pay, List.length_drop, List.length_take]
    omega
  have hb : readFrame b = ⟨f, f.disassemble, none, b.drop (headerLen + announcedPayLen b)⟩ := by
    conv_lhs => rw [← List.take_append_drop (headerLen + announcedPayLen b) b]
    exact readFrame_frame f hpay _
  simp [hb, hpay, f]

theorem readFrame_of_lt_announced {b : List UInt8} (h1 : headerLen ≤ b.length)
    (h2 : b.length < headerLen + announcedPayLen b) :
    (readFrame b).err = some (if b.length = headerLen then .eof else .unexpectedEOF) ∧
      (readFrame b).rest = [] := by
  have hs : b = b.take headerLen ++ b.drop headerLen := (List.take_append_drop _ _).symm
  have hd : (b.drop headerLen).length < (headerBuf (b.take headerLen)).payLen := by
    rw [payLen_headerBuf h1, List.length_drop]
    omega
  have he : b.drop headerLen = [] ↔ b.length = headerLen := by
    rw [List.drop_eq_nil_iff]
    omega
  rw [hs]
  simp only [readFrame, readFull_append (show (b.take headerLen).length = headerLen by simp [h1]),
    readFull_of_lt hd, he]
  simp

/-- `readFrame` on every input: it succeeds exactly when the input holds a header and the
payload it announces, and then returns that prefix as its frame; otherwise it consumes
all of the input, with `io.EOF` when it read nothing, including the input that ends right
after a full header. -/
theorem readFrame_spec (b : List UInt8) :
    ((readFrame b).err = none ↔ headerLen + announcedPayLen b ≤ b.length) ∧
    ((readFrame b).err = none →
      (readFrame b).f.bytes = b.take (headerLen + announcedPayLen b) ∧
      (readFrame b).rest = b.drop (headerLen + announcedPayLen b) ∧
      (readFrame b).df = (readFrame b).f.disassemble ∧
      (readFrame b).df.pay.length = (readFrame b).f.payLen ∧
      (readFrame b).f.payLen ≤ maxFwdPayLen ∧
      makeFrame (readFrame b).df.type (readFrame b).df.tpID (readFrame b).df.pay =
        (readFrame b).f) ∧
    ((readFrame b).err ≠ none →
      (readFrame b).rest = [] ∧ b.length < headerLen + announcedPayLen b ∧
      ((readFrame b).err = some .eof ↔ b = [] ∨ b.length = headerLen)) := by
  by_cases hn : headerLen + announcedPayLen b ≤ b.length
  · obtain ⟨he, hf, hr, hd, hp⟩ := readFrame_of_le hn
    refine ⟨by simp [he, hn], fun _ ↦ ⟨hf, hr, hd, by simp [hd, Frame.disassemble, hp],
      Frame.payLen_le _, ?_⟩, by simp [he]⟩
    simpa [hd, Frame.disassemble] using makeFrame_disassemble _ hp
  · have hfail : (readFrame b).err ≠ none ∧ (readFrame b).rest = [] ∧
        ((readFrame b).err = some .eof ↔ b = [] ∨ b.length = headerLen) := by
      by_cases h5 : headerLen ≤ b.length
      · obtain ⟨he, hr⟩ := readFrame_of_lt_announced h5 (Nat.lt_of_not_le hn)
        have hb : b ≠ [] := by rintro rfl; simp at h5
        refine ⟨by simp [he], hr, ?_⟩
        split at he <;> simp_all
      · obtain ⟨he, hr⟩ := readFrame_of_length_lt (Nat.lt_of_not_le h5)
        refine ⟨by simp [he], hr, ?_⟩
        split at he <;> simp_all
        omega
    exact ⟨by simpa [hn] using hfail.1, fun h ↦ absurd h hfail.1,
      fun _ ↦ ⟨hfail.2.1, Nat.lt_of_not_le hn, hfail.2.2⟩⟩

/-- A header announcing three payload bytes and nothing after it: the payload is short,
yet `readFrame` returns `io.EOF`, since its second `io.ReadFull` read nothing. -/
theorem readFrame_bare_header_eof :
    [fwdType, 0x00, 0x01, 0x00, 0x03] ≠ [] ∧
    [fwdType, 0x00, 0x01, 0x00, 0x03].length <
      headerLen + announcedPayLen [fwdType, 0x00, 0x01, 0x00, 0x03] ∧
    (readFrame [fwdType, 0x00, 0x01, 0x00, 0x03]).err = some .eof := by
  decide

/-! ### Writing frames -/

/-- `writeFrame` on a writer that takes every byte: the bytes written so far, then `f`. -/
def writeFrame (w : List UInt8) (f : Frame) : List UInt8 := w ++ f.bytes

/-- `writeFwdFrame`. -/
def writeFwdFrame (w : List UInt8) (id : UInt16) (p : List UInt8) : List UInt8 :=
  writeFrame w (makeFrame fwdType id p)

/-- `writeAckFrame`: the offset as a two-byte big-endian payload. -/
def writeAckFrame (w : List UInt8) (id offset : UInt16) : List UInt8 :=
  writeFrame w (makeFrame ackType id (putUint16 offset))

/-- `writeCloseFrame`: the reason as a one-byte payload. -/
def writeCloseFrame (w : List UInt8) (id : UInt16) (reason : UInt8) : List UInt8 :=
  writeFrame w (makeFrame closeType id [reason])

/-- A call of one of the frame writers above (`make`: `writeFrame(w, MakeFrame(..))`). -/
inductive FrameWrite
  | make (ft : FrameType) (id : UInt16) (pay : List UInt8)
  | fwd (id : UInt16) (p : List UInt8)
  | ack (id offset : UInt16)
  | close (id : UInt16) (reason : UInt8)

/-- The writer's call on the bytes written so far. -/
def FrameWrite.write : FrameWrite → List UInt8 → List UInt8
  | .make ft id pay, w => writeFrame w (makeFrame ft id pay)
  | .fwd id p, w => writeFwdFrame w id p
  | .ack id offset, w => writeAckFrame w id offset
  | .close id reason, w => writeCloseFrame w id reason

/-- The type, id and payload of the frame a call emits. -/
def FrameWrite.fields : FrameWrite → DisassembledFrame
  | .make ft id pay => ⟨ft, id, pay⟩
  | .fwd id p => ⟨fwdType, id, p⟩
  | .ack id offset => ⟨ackType, id, putUint16 offset⟩
  | .close id reason => ⟨closeType, id, [reason]⟩

/-- The frame a call emits. -/
def FrameWrite.frame (x : FrameWrite) : Frame := makeFrame x.fields.type x.fields.tpID x.fields.pay

theorem FrameWrite.write_eq (x : FrameWrite) (w : List UInt8) : x.write w = w ++ x.frame.bytes := by
  cases x <;> rfl

/-- Successive calls on one writer. -/
def writeAll (w : List UInt8) (ws : List FrameWrite) : List UInt8 :=
  ws.foldl (fun w x ↦ x.write w) w

theorem writeAll_eq (w : List UInt8) (ws : List FrameWrite) :
    writeAll w ws = w ++ (ws.map fun x ↦ x.frame.bytes).flatten := by
  induction ws generalizing w with
  | nil => simp [writeAll]
  | cons x xs ih => simp only [writeAll, List.foldl_cons] at ih ⊢; simp [ih, x.write_eq]

/-- `n` successive calls of `readFrame` on one reader. -/
def readFrames : Nat → List UInt8 → List FrameRead
  | 0, _ => []
  | n + 1, r => readFrame r :: readFrames n (readFrame r).rest

/-- What successive reads of the bytes of `ws` return: each call's frame and its fields,
with the bytes of the later calls still unread, then `io.EOF`. -/
def expectedReads : List FrameWrite → List FrameRead
  | [] => [⟨headerBuf [], default, some .eof, []⟩]
  | x :: xs => ⟨x.frame, x.fields, none, writeAll [] xs⟩ :: expectedReads xs

theorem writeAll_cons (x : FrameWrite) (xs : List FrameWrite) :
    writeAll [] (x :: xs) = x.frame.bytes ++ writeAll [] xs := by
  simp [writeAll_eq]

/-- Frames written one after another on one byte stream read back one by one, each read
consuming exactly its frame, then `io.EOF`; an ACK payload decodes to its offset. -/
theorem readFrames_writeAll (ws : List FrameWrite)
    (h : ∀ x ∈ ws, x.fields.pay.length ≤ maxFwdPayLen) :
    readFrames (ws.length + 1) (writeAll [] ws) = expectedReads ws ∧
    ∀ id offset, disassembleAckPayload (FrameWrite.ack id offset).fields.pay = .ok offset := by
  refine ⟨?_, fun id offset ↦ disassembleAckPayload_putUint16 offset⟩
  induction ws with
  | nil => rfl
  | cons x xs ih =>
    have hx := readFrame_makeFrame x.fields.type x.fields.tpID x.fields.pay (writeAll [] xs)
      (h x (List.mem_cons_self x xs))
    rw [List.length_cons, readFrames, writeAll_cons, FrameWrite.frame, hx,
      ih fun y hy ↦ h y (List.mem_cons_of_mem x hy)]
    rfl

/-- A FWD frame, an ACK and a CLOSE written on one stream read back in order. -/
theorem readFrames_fwd_ack_close :
    (∀ x ∈ [FrameWrite.fwd 0x0102 [0x41, 0x42, 0x43], .ack 7 0xBEEF, .close 7 0],
      x.fields.pay.length ≤ maxFwdPayLen) ∧
    readFrames 4 (writeAll [] [.fwd 0x0102 [0x41, 0x42, 0x43], .ack 7 0xBEEF, .close 7 0]) =
      expectedReads [.fwd 0x0102 [0x41, 0x42, 0x43], .ack 7 0xBEEF, .close 7 0] :=
  ⟨by decide, (readFrames_writeAll _ (by decide)).1⟩

end Dmsg
