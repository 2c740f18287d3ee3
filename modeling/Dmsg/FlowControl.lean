import Dmsg.ReadFrame

/-!
# Flow control on a stream

The stream code is outside these files; its flow control is as the protocol's description
gives it.  The sender starts with the window the responder advertised, takes each chunk it
writes as a `FWD` frame off that window, and blocks while the window is short.  The receiver
answers each `FWD` with an `ACK` whose offset is its count of received bytes modulo `2^16`,
and the sender credits the difference of two offsets modulo `2^16`.  Both kinds of frame
travel through `writeFwdFrame`, `writeAckFrame`, `readFrame` and `disassembleAckPayload` of
`types.go`.

A `FWD` payload has at most 65535 bytes, so every difference the sender computes is exact:
over every interleaving of the two ends, the window plus the bytes not yet credited is the
advertised window, and every frame in flight reads back.
-/

namespace Dmsg.FlowControl

/-- The two ends of one stream and the bytes in flight between them. -/
structure Link where
  /-- The sender's `sendWindow`. -/
  sendWindow : Nat
  /-- The sender's `lastAckOffset`. -/
  lastAckOffset : UInt16
  /-- The receiver's count of received bytes. -/
  received : Nat
  /-- Written by the sender, not yet read by the receiver. -/
  toReceiver : List UInt8
  /-- Written by the receiver, not yet read by the sender. -/
  toSender : List UInt8

/-- A stream whose responder advertised `window`, before either end has written. -/
def init (window : Nat) : Link := ⟨window, 0, 0, [], []⟩

/-- A step of one end. -/
inductive Act
  /-- The sender writes a chunk. -/
  | write (pay : List UInt8)
  /-- The receiver reads a frame. -/
  | recvFwd
  /-- The sender reads a frame. -/
  | recvAck

variable (id : UInt16)

/-- Modelled from the spec: the sender writes a chunk of at most `maxFwdPayLen` bytes as
`FWD(id, chunk)` after taking its length off `sendWindow`; while the window is short it
blocks, which is no step. -/
def write (l : Link) (pay : List UInt8) : Option Link :=
  if pay.length ≤ maxFwdPayLen ∧ pay.length ≤ l.sendWindow then
    some { l with sendWindow := l.sendWindow - pay.length,
                  toReceiver := writeFwdFrame l.toReceiver id pay }
  else none

/-- Modelled from the spec: the receiver reads a frame; on a `FWD` it adds the payload's
length to its count and answers `ACK(id, count mod 2^16)`. -/
def recvFwd (l : Link) : Option Link :=
  let r := readFrame l.toReceiver
  if r.err = none ∧ r.df.type = fwdType then
    some { l with received := l.received + r.df.pay.length, toReceiver := r.rest,
                  toSender := writeAckFrame l.toSender id
                    (UInt16.ofNat (l.received + r.df.pay.length)) }
  else none

/-- Modelled from the spec: the sender reads a frame; on an `ACK` it credits `sendWindow`
with `(offset - lastAckOffset) mod 2^16` and keeps the offset. -/
def recvAck (l : Link) : Option Link :=
  let r := readFrame l.toSender
  if r.err = none ∧ r.df.type = ackType then
    match disassembleAckPayload r.df.pay with
    | .ok offset =>
      some { l with sendWindow := l.sendWindow + (offset - l.lastAckOffset).toNat,
                    lastAckOffset := offset, toSender := r.rest }
    | .error _ => none
  else none

def step (l : Link) : Act → Option Link
  | .write pay => write id l pay
  | .recvFwd => recvFwd id l
  | .recvAck => recvAck l

def exec (l : Link) : List Act → Option Link
  | [] => some l
  | a :: as => (step id l a).bind fun l' ↦ exec l' as

/-! ### Frames in flight -/

/-- The bytes of `FWD` frames carrying `ps`. -/
def fwdFrames (ps : List (List UInt8)) : List UInt8 :=
  (ps.map fun p ↦ (makeFrame fwdType id p).bytes).flatten

/-- The bytes of `ACK` frames carrying the counts `cs` modulo `2^16`. -/
def ackFrames (cs : List Nat) : List UInt8 :=
  (cs.map fun c ↦ (makeFrame ackType id (putUint16 (UInt16.ofNat c))).bytes).flatten

theorem fwdFrames_append (ps : List (List UInt8)) (p : List UInt8) :
    fwdFrames id (ps ++ [p]) = writeFwdFrame (fwdFrames id ps) id p := by
  simp [fwdFrames, writeFwdFrame, writeFrame]

theorem ackFrames_append (cs : List Nat) (c : Nat) :
    ackFrames id (cs ++ [c]) = writeAckFrame (ackFrames id cs) id (UInt16.ofNat c) := by
  simp [ackFrames, writeAckFrame, writeFrame]

theorem readFrame_fwdFrames {p : List UInt8} (hp : p.length ≤ maxFwdPayLen)
    (ps : List (List UInt8)) :
    readFrame (fwdFrames id (p :: ps)) =
      ⟨makeFrame fwdType id p, ⟨fwdType, id, p⟩, none, fwdFrames id ps⟩ :=
  readFrame_makeFrame _ _ _ _ hp

theorem readFrame_ackFrames (c : Nat) (cs : List Nat) :
    readFrame (ackFrames id (c :: cs)) =
      ⟨makeFrame ackType id (putUint16 (UInt16.ofNat c)),
        ⟨ackType, id, putUint16 (UInt16.ofNat c)⟩, none, ackFrames id cs⟩ :=
  readFrame_makeFrame _ _ _ _ (by simp [maxFwdPayLen])

/-- Two counts at most `maxFwdPayLen` apart are recovered from their residues modulo
`2^16`. -/
theorem toNat_ofNat_sub_ofNat {a c : Nat} (h₁ : a ≤ c) (h₂ : c ≤ a + maxFwdPayLen) :
    (UInt16.ofNat c - UInt16.ofNat a).toNat = c - a := by
  show (BitVec.ofNat 16 c - BitVec.ofNat 16 a).toNat = c - a
  rw [BitVec.toNat_sub, BitVec.toNat_ofNat, BitVec.toNat_ofNat]
  simp only [maxFwdPayLen] at h₂
  omega

/-! ### The invariant -/

/-- The counts `cs` that the `ACK` frames in flight carry lead from the count `a` the sender
has credited to the receiver's count `r`, each at most `maxFwdPayLen` past the one before. -/
def AckCounts (a : Nat) : List Nat → Nat → Prop
  | [], r => r = a
  | c :: cs, r => a ≤ c ∧ c ≤ a + maxFwdPayLen ∧ AckCounts c cs r

theorem AckCounts.le : ∀ {a : Nat} {cs : List Nat} {r : Nat}, AckCounts a cs r → a ≤ r
  | _, [], _, h => Nat.le_of_eq h.symm
  | _, _ :: _, _, h => Nat.le_trans h.1 (AckCounts.le h.2.2)

theorem AckCounts.append :
    ∀ {a : Nat} {cs : List Nat} {r : Nat}, AckCounts a cs r → ∀ {c : Nat}, r ≤ c →
      c ≤ r + maxFwdPayLen → AckCounts a (cs ++ [c]) c
  | _, [], _, h, _, h₁, h₂ => by
    subst h
    exact ⟨h₁, h₂, rfl⟩
  | _, _ :: _, _, h, _, h₁, h₂ => ⟨h.1, h.2.1, AckCounts.append h.2.2 h₁ h₂⟩

/-- What is in flight on a link, and the window's account: `FWD` frames carrying `ps`; `ACK`
frames carrying `cs`, from the count `credited` the sender has credited up to the receiver's
count; and the window plus the bytes not yet credited is the advertised window `w0`. -/
structure Accounted (w0 : Nat) (l : Link) (ps : List (List UInt8)) (cs : List Nat)
    (credited : Nat) : Prop where
  toReceiver : l.toReceiver = fwdFrames id ps
  pay_le : ∀ p ∈ ps, p.length ≤ maxFwdPayLen
  toSender : l.toSender = ackFrames id cs
  counts : AckCounts credited cs l.received
  lastAckOffset : l.lastAckOffset = UInt16.ofNat credited
  window : l.sendWindow + ps.flatten.length + l.received = w0 + credited

variable {id} {w0 : Nat} {l l' : Link} {ps : List (List UInt8)} {cs : List Nat} {a : Nat}

theorem accounted_init (w0 : Nat) : Accounted id w0 (init w0) [] [] 0 :=
  ⟨rfl, by simp, rfl, rfl, rfl, by simp [init]⟩

theorem Accounted.write (h : Accounted id w0 l ps cs a) {pay : List UInt8}
    (hw : write id l pay = some l') : Accounted id w0 l' (ps ++ [pay]) cs a := by
  unfold FlowControl.write at hw
  split_ifs at hw with hp
  cases hw
  refine ⟨by rw [fwdFrames_append, h.toReceiver], fun p hp' ↦ ?_, h.toSender, h.counts,
    h.lastAckOffset, ?_⟩
  · rcases List.mem_append.mp hp' with hp' | hp'
    · exact h.pay_le p hp'
    · exact (List.mem_singleton.mp hp') ▸ hp.1
  · have := h.window
    simp only [List.flatten_append, List.length_append, List.flatten_cons, List.flatten_nil,
      List.append_nil] at this ⊢
    omega

theorem Accounted.recvFwd (h : Accounted id w0 l ps cs a) (hr : recvFwd id l = some l') :
    ∃ p ps', ps = p :: ps' ∧ Accounted id w0 l' ps' (cs ++ [l.received + p.length]) a := by
  unfold FlowControl.recvFwd at hr
  rcases ps with _ | ⟨p, ps⟩
  · rw [h.toReceiver] at hr
    simp [fwdFrames, readFrame, readFull] at hr
  have hp := h.pay_le p (List.mem_cons_self _ _)
  rw [h.toReceiver, readFrame_fwdFrames _ hp] at hr
  simp only [true_and, if_true] at hr
  cases hr
  refine ⟨p, ps, rfl, rfl, fun q hq ↦ h.pay_le q (List.mem_cons_of_mem _ hq), ?_,
    h.counts.append (Nat.le_add_right _ _) (by omega), h.lastAckOffset, ?_⟩
  · rw [ackFrames_append, h.toSender]
  · have := h.window
    simp only [List.flatten_cons, List.length_append] at this ⊢
    omega

theorem Accounted.recvAck (h : Accounted id w0 l ps cs a) (hr : recvAck l = some l') :
    ∃ c cs', cs = c :: cs' ∧ Accounted id w0 l' ps cs' c := by
  unfold FlowControl.recvAck at hr
  rcases cs with _ | ⟨c, cs⟩
  · rw [h.toSender] at hr
    simp [ackFrames, readFrame, readFull] at hr
  rw [h.toSender, readFrame_ackFrames] at hr
  simp only [true_and, if_true, disassembleAckPayload_putUint16] at hr
  cases hr
  obtain ⟨h₁, h₂, hc⟩ := h.counts
  have hle := hc.le
  refine ⟨c, cs, rfl, h.toReceiver, h.pay_le, rfl, hc, rfl, ?_⟩
  have := h.window
  simp only [h.lastAckOffset, toNat_ofNat_sub_ofNat h₁ h₂]
  omega

theorem Accounted.step (h : Accounted id w0 l ps cs a) {act : Act}
    (hs : step id l act = some l') : ∃ ps' cs' a', Accounted id w0 l' ps' cs' a' := by
  cases act with
  | write pay => exact ⟨_, _, _, h.write hs⟩
  | recvFwd =>
    obtain ⟨_, _, _, h'⟩ := h.recvFwd hs
    exact ⟨_, _, _, h'⟩
  | recvAck =>
    obtain ⟨_, _, _, h'⟩ := h.recvAck hs
    exact ⟨_, _, _, h'⟩

theorem Accounted.exec (h : Accounted id w0 l ps cs a) {acts : List Act}
    (he : exec id l acts = some l') : ∃ ps' cs' a', Accounted id w0 l' ps' cs' a' := by
  induction acts generalizing l ps cs a with
  | nil =>
    cases he
    exact ⟨_, _, _, h⟩
  | cons act acts ih =>
    obtain ⟨l₁, h₁, he⟩ := Option.bind_eq_some.mp he
    obtain ⟨_, _, _, h₁⟩ := h.step h₁
    exact ih h₁ he

/-! ### Consequences -/

/-- The window never exceeds the advertised one, and the bytes written and not yet credited
are what it lacks. -/
theorem Accounted.sendWindow_le (h : Accounted id w0 l ps cs a) :
    l.sendWindow + ps.flatten.length + (l.received - a) = w0 := by
  have := h.window
  have := h.counts.le
  omega

/-- With nothing in flight, the sender has its whole window back and the offsets agree. -/
theorem Accounted.quiescent (h : Accounted id w0 l ps cs a) (hr : l.toReceiver = [])
    (hs : l.toSender = []) :
    l.sendWindow = w0 ∧ l.lastAckOffset = UInt16.ofNat l.received := by
  have hps : ps = [] := by
    rcases ps with _ | ⟨p, ps⟩
    · rfl
    · simp [h.toReceiver, fwdFrames, makeFrame] at hr
  have hcs : cs = [] := by
    rcases cs with _ | ⟨c, cs⟩
    · rfl
    · simp [h.toSender, ackFrames, makeFrame] at hs
  subst hps hcs
  have hc : l.received = a := h.counts
  have := h.window
  simp only [List.flatten_nil, List.length_nil] at this
  exact ⟨by omega, hc ▸ h.lastAckOffset⟩

/-- Every frame in flight reads back: an end with bytes waiting can always take a step. -/
theorem Accounted.progress (h : Accounted id w0 l ps cs a) :
    (l.toReceiver ≠ [] → (FlowControl.recvFwd id l).isSome) ∧
      (l.toSender ≠ [] → (FlowControl.recvAck l).isSome) := by
  constructor
  · intro hr
    rcases ps with _ | ⟨p, ps⟩
    · exact absurd h.toReceiver hr
    · unfold FlowControl.recvFwd
      rw [h.toReceiver, readFrame_fwdFrames _ (h.pay_le p (List.mem_cons_self _ _))]
      rfl
  · intro hs
    rcases cs with _ | ⟨c, cs⟩
    · exact absurd h.toSender hs
    · unfold FlowControl.recvAck
      rw [h.toSender, readFrame_ackFrames]
      simp

/-- ACK flow control loses and invents no credit: over every interleaving of the two ends
from a stream whose responder advertised `w0`, the frames in flight read back, the window plus
the bytes written and not yet credited is `w0`, so the window never exceeds `w0`, and once
nothing is in flight the whole window is back. -/
theorem credit_conserved (w0 : Nat) (acts : List Act) (he : exec id (init w0) acts = some l) :
    (∃ ps cs credited, Accounted id w0 l ps cs credited) ∧ l.sendWindow ≤ w0 ∧
      (l.toReceiver ≠ [] → (recvFwd id l).isSome) ∧ (l.toSender ≠ [] → (recvAck l).isSome) ∧
      (l.toReceiver = [] → l.toSender = [] → l.sendWindow = w0) := by
  obtain ⟨ps, cs, a, h⟩ := (accounted_init w0).exec he
  have hw := h.sendWindow_le
  exact ⟨⟨ps, cs, a, h⟩, by omega, h.progress.1, h.progress.2,
    fun hr hs ↦ (h.quiescent hr hs).1⟩

/-- A chunk of three bytes written, read and acknowledged: the whole window is back. -/
theorem credit_conserved_round :
    let acts : List Act := [.write [1, 2, 3], .recvFwd, .recvAck]
    let l := (exec 5 (init 10) acts).get (by decide)
    (exec 5 (init 10) acts).isSome ∧ l.sendWindow = 10 ∧
      (∃ ps cs credited, Accounted 5 10 l ps cs credited) ∧ l.sendWindow ≤ 10 ∧
      (l.toReceiver ≠ [] → (recvFwd 5 l).isSome) ∧ (l.toSender ≠ [] → (recvAck l).isSome) ∧
      (l.toReceiver = [] → l.toSender = [] → l.sendWindow = 10) :=
  ⟨by decide, by decide, credit_conserved 10 _ (Option.eq_some_of_isSome (by decide))⟩

end Dmsg.FlowControl
