import Dmsg.Cipher

/-!
# Dial requests and responses

`SessionDialRequest`, `StreamDialRequest` and `DialResponse` (`types.go`) are
signed the same way: the signature covers the gob encoding of the struct with
its `Sig` field zeroed, and `Hash` is the SHA-256 of that same encoding.  The
gob encoder is a function of the field values, passed in; `Sign` encodes
through a pointer, which gob encodes as the value it points to.  A session's
responder checks each request against the last timestamp it accepted from the
same source key, which makes a replayed request fail as stale.
-/

namespace Dmsg

/-- The dial errors of `types.go`. -/
inductive DialError
  | reqInvalidSrcPK
  | reqInvalidDstPK
  | reqInvalidSrcPort
  | reqInvalidDstPort
  | reqInvalidTimestamp
  | reqInvalidSig
  | respInvalidHash
  | respInvalidSig
  | respNotAccepted
  | fromCode (code : UInt8)
  deriving DecidableEq, Repr

/-- A struct signed over its own encoding with a zeroed `Sig` field. -/
class Signed (α : Type) where
  sig : α → Sig
  withSig : α → Sig → α
  sig_withSig : ∀ a s, sig (withSig a s) = s
  withSig_withSig : ∀ a s t, withSig (withSig a s) t = withSig a t

namespace Signed

variable {α : Type} [Signed α] (c : Cipher) (encodeGob : α → List UInt8)

/-- `Sign`: zero `Sig`, sign the encoding and store the signature; on error `Sig` stays
zero. -/
def sign (sk : SecKey) (dr : α) : α × Option String :=
  match c.signPayload (encodeGob (withSig dr default)) sk with
  | .error e => (withSig dr default, some e)
  | .ok s => (withSig (withSig dr default) s, none)

/-- `Hash`: the SHA-256 of the encoding with a zeroed `Sig`. -/
def hash (dr : α) : SHA256 := c.sumSHA256 (encodeGob (withSig dr default))

/-- The signature check of each `Verify`: `Sig` verifies, under `pk`, over the encoding
with `Sig` zeroed. -/
def sigValid (pk : PubKey) (dr : α) : Bool :=
  match c.verifyPubKeySignedPayload pk (sig dr) (encodeGob (withSig dr default)) with
  | .ok _ => true
  | .error _ => false

/-- Signing changes only `Sig`. -/
theorem sign_fst (sk : SecKey) (dr : α) : ∃ s, (sign c encodeGob sk dr).1 = withSig dr s := by
  unfold sign
  split
  · exact ⟨default, rfl⟩
  · exact ⟨_, withSig_withSig _ _ _⟩

/-- Signing does not change the hash. -/
@[simp] theorem hash_sign (sk : SecKey) (dr : α) :
    hash c encodeGob (sign c encodeGob sk dr).1 = hash c encodeGob dr := by
  obtain ⟨s, hs⟩ := sign_fst c encodeGob sk dr
  simp [hash, hs, withSig_withSig]

/-- A request signed with `sk` carries a signature valid under `sk`'s public key. -/
theorem sigValid_sign (hc : c.Correct) {sk : SecKey} {dr dr' : α}
    (h : sign c encodeGob sk dr = (dr', none)) : sigValid c encodeGob (c.pubKey sk) dr' := by
  unfold sign at h
  split at h
  · cases h
  · rename_i s hs
    cases h
    simp [sigValid, sig_withSig, withSig_withSig, hc _ _ _ hs]

/-- What a successful `Sign` with `sk` does: it sets `Sig` to a signature valid under `sk`'s
public key, and keeps the hash. -/
theorem sign_spec (hc : c.Correct) {sk : SecKey} {dr dr' : α}
    (h : sign c encodeGob sk dr = (dr', none)) :
    ∃ s, dr' = withSig dr s ∧ hash c encodeGob dr' = hash c encodeGob dr ∧
      sigValid c encodeGob (c.pubKey sk) dr' := by
  obtain ⟨s, hs⟩ := sign_fst c encodeGob sk dr
  rw [h] at hs
  exact ⟨s, hs, by simpa [h] using hash_sign c encodeGob sk dr, sigValid_sign c encodeGob hc h⟩

end Signed

/-- `SessionDialRequest`. -/
structure SessionDialRequest where
  timestamp : Int
  srcPK : PubKey
  dstPK : PubKey
  sig : Sig

instance : Signed SessionDialRequest where
  sig dr := dr.sig
  withSig dr s := { dr with sig := s }
  sig_withSig _ _ := rfl
  withSig_withSig _ _ _ := rfl

/-- `StreamDialRequest`. -/
structure StreamDialRequest where
  timestamp : Int
  srcAddr : Addr
  dstAddr : Addr
  noiseMsg : List UInt8
  sig : Sig

instance : Signed StreamDialRequest where
  sig dr := dr.sig
  withSig dr s := { dr with sig := s }
  sig_withSig _ _ := rfl
  withSig_withSig _ _ _ := rfl

/-- `DialResponse`, signed with the key of the request's destination. -/
structure DialResponse where
  reqHash : SHA256
  accepted : Bool
  errCode : UInt8
  noiseMsg : List UInt8
  sig : Sig

instance : Signed DialResponse where
  sig dr := dr.sig
  withSig dr s := { dr with sig := s }
  sig_withSig _ _ := rfl
  withSig_withSig _ _ _ := rfl

section Verify

variable (c : Cipher)

/-- `SessionDialRequest.Sign`. -/
def SessionDialRequest.sign (encodeGob : SessionDialRequest → List UInt8) (sk : SecKey)
    (dr : SessionDialRequest) : SessionDialRequest × Option String :=
  Signed.sign c encodeGob sk dr

/-- `SessionDialRequest.Hash`. -/
def SessionDialRequest.hash (encodeGob : SessionDialRequest → List UInt8)
    (dr : SessionDialRequest) : SHA256 :=
  Signed.hash c encodeGob dr

/-- `SessionDialRequest.Verify`. -/
def SessionDialRequest.verify (encodeGob : SessionDialRequest → List UInt8)
    (dr : SessionDialRequest) (lastTimestamp : Int) : Option DialError :=
  if dr.srcPK.null then some .reqInvalidSrcPK
  else if dr.dstPK.null then some .reqInvalidDstPK
  else if dr.timestamp ≤ lastTimestamp then some .reqInvalidTimestamp
  else if Signed.sigValid c encodeGob dr.srcPK dr then none
  else some .reqInvalidSig

/-- `StreamDialRequest.Sign`. -/
def StreamDialRequest.sign (encodeGob : StreamDialRequest → List UInt8) (sk : SecKey)
    (dr : StreamDialRequest) : StreamDialRequest × Option String :=
  Signed.sign c encodeGob sk dr

/-- `StreamDialRequest.Hash`. -/
def StreamDialRequest.hash (encodeGob : StreamDialRequest → List UInt8)
    (dr : StreamDialRequest) : SHA256 :=
  Signed.hash c encodeGob dr

/-- `StreamDialRequest.Verify`: the session checks, with the two ports checked after
their keys. -/
def StreamDialRequest.verify (encodeGob : StreamDialRequest → List UInt8)
    (dr : StreamDialRequest) (lastTimestamp : Int) : Option DialError :=
  if dr.srcAddr.pk.null then some .reqInvalidSrcPK
  else if dr.srcAddr.port = 0 then some .reqInvalidSrcPort
  else if dr.dstAddr.pk.null then some .reqInvalidDstPK
  else if dr.dstAddr.port = 0 then some .reqInvalidDstPort
  else if dr.timestamp ≤ lastTimestamp then some .reqInvalidTimestamp
  else if Signed.sigValid c encodeGob dr.srcAddr.pk dr then none
  else some .reqInvalidSig

/-- `DialResponse.Sign`. -/
def DialResponse.sign (encodeGob : DialResponse → List UInt8) (sk : SecKey)
    (dr : DialResponse) : DialResponse × Option String :=
  Signed.sign c encodeGob sk dr

/-- `DialResponse.Verify`; `errorFromCode` is `ErrorFromCode`, whose table is outside
`types.go`. -/
def DialResponse.verify (encodeGob : DialResponse → List UInt8)
    (errorFromCode : UInt8 → Option DialError) (dr : DialResponse) (reqDstPK : PubKey)
    (reqHash : SHA256) : Option DialError :=
  if dr.reqHash ≠ reqHash then some .respInvalidHash
  else if !Signed.sigValid c encodeGob reqDstPK dr then some .respInvalidSig
  else if !dr.accepted then some ((errorFromCode dr.errCode).getD .respNotAccepted)
  else none

theorem SessionDialRequest.verify_eq_none_iff (encodeGob : SessionDialRequest → List UInt8)
    (dr : SessionDialRequest) (t : Int) :
    dr.verify c encodeGob t = none ↔ dr.srcPK.null = false ∧ dr.dstPK.null = false ∧
      t < dr.timestamp ∧ Signed.sigValid c encodeGob dr.srcPK dr = true := by
  unfold SessionDialRequest.verify
  rw [← Int.not_le]
  split_ifs <;> simp_all

theorem StreamDialRequest.verify_eq_none_iff (encodeGob : StreamDialRequest → List UInt8)
    (dr : StreamDialRequest) (t : Int) :
    dr.verify c encodeGob t = none ↔ dr.srcAddr.pk.null = false ∧ dr.srcAddr.port ≠ 0 ∧
      dr.dstAddr.pk.null = false ∧ dr.dstAddr.port ≠ 0 ∧ t < dr.timestamp ∧
      Signed.sigValid c encodeGob dr.srcAddr.pk dr = true := by
  unfold StreamDialRequest.verify
  rw [← Int.not_le]
  split_ifs <;> simp_all

/-- A stream request whose destination has a key and a port fails neither destination
check. -/
theorem StreamDialRequest.verify_ne_dst (encodeGob : StreamDialRequest → List UInt8)
    (dr : StreamDialRequest) (t : Int) (hk : dr.dstAddr.pk.null = false)
    (hp : dr.dstAddr.port ≠ 0) :
    dr.verify c encodeGob t ≠ some .reqInvalidDstPK ∧
      dr.verify c encodeGob t ≠ some .reqInvalidDstPort := by
  unfold StreamDialRequest.verify
  simp only [hk, hp, Bool.false_eq_true, if_false]
  split_ifs <;> simp

theorem DialResponse.verify_eq_none_iff (encodeGob : DialResponse → List UInt8)
    (errorFromCode : UInt8 → Option DialError) (dr : DialResponse) (pk : PubKey) (h : SHA256) :
    dr.verify c encodeGob errorFromCode pk h = none ↔
      dr.reqHash = h ∧ Signed.sigValid c encodeGob pk dr = true ∧ dr.accepted = true := by
  unfold DialResponse.verify
  split_ifs <;> simp_all

end Verify

/-- Signing agrees with hashing and verifying: a request signed with its source's key keeps
its hash and verifies against every earlier timestamp exactly when its keys (and, for a
stream, its ports) are set; a response that accepts a hash, signed with the destination's
key, verifies under that key. -/
theorem dial_signatures_agree (c : Cipher) (hc : c.Correct)
    (encSession : SessionDialRequest → List UInt8) (encStream : StreamDialRequest → List UInt8)
    (encResp : DialResponse → List UInt8) (errorFromCode : UInt8 → Option DialError) :
    (∀ (r r' : SessionDialRequest) (sk : SecKey), c.pubKey sk = r.srcPK →
      r.sign c encSession sk = (r', none) →
      r'.hash c encSession = r.hash c encSession ∧
      ∀ t, r'.verify c encSession t = none ↔
        r'.srcPK.null = false ∧ r'.dstPK.null = false ∧ t < r'.timestamp) ∧
    (∀ (r r' : StreamDialRequest) (sk : SecKey), c.pubKey sk = r.srcAddr.pk →
      r.sign c encStream sk = (r', none) →
      r'.hash c encStream = r.hash c encStream ∧
      ∀ t, r'.verify c encStream t = none ↔
        r'.srcAddr.pk.null = false ∧ r'.srcAddr.port ≠ 0 ∧ r'.dstAddr.pk.null = false ∧
          r'.dstAddr.port ≠ 0 ∧ t < r'.timestamp) ∧
    (∀ (d d' : DialResponse) (skR : SecKey) (h : SHA256), d.reqHash = h → d.accepted = true →
      d.sign c encResp skR = (d', none) →
      d'.verify c encResp errorFromCode (c.pubKey skR) h = none) := by
  refine ⟨fun r r' sk hk hs ↦ ?_, fun r r' sk hk hs ↦ ?_, fun d d' skR h hh ha hs ↦ ?_⟩
  · obtain ⟨s, rfl, hh, hv⟩ := Signed.sign_spec c encSession hc hs
    refine ⟨hh, fun t ↦ ?_⟩
    have hv' : Signed.sigValid c encSession r.srcPK (Signed.withSig r s) = true := hk ▸ hv
    rw [SessionDialRequest.verify_eq_none_iff]
    exact ⟨fun h ↦ ⟨h.1, h.2.1, h.2.2.1⟩, fun h ↦ ⟨h.1, h.2.1, h.2.2, hv'⟩⟩
  · obtain ⟨s, rfl, hh, hv⟩ := Signed.sign_spec c encStream hc hs
    refine ⟨hh, fun t ↦ ?_⟩
    have hv' : Signed.sigValid c encStream r.srcAddr.pk (Signed.withSig r s) = true := hk ▸ hv
    rw [StreamDialRequest.verify_eq_none_iff]
    exact ⟨fun h ↦ ⟨h.1, h.2.1, h.2.2.1, h.2.2.2.1, h.2.2.2.2.1⟩,
      fun h ↦ ⟨h.1, h.2.1, h.2.2.1, h.2.2.2.1, h.2.2.2.2, hv'⟩⟩
  · obtain ⟨s, rfl, -, hv⟩ := Signed.sign_spec c encResp hc hs
    exact (DialResponse.verify_eq_none_iff c encResp errorFromCode _ _ _).2 ⟨hh, hv, ha⟩

/-- A cipher that meets `Cipher.Correct`: a signature is the public key followed by the
payload's length. -/
def toyCipher : Cipher where
  pubKey sk := ⟨sk.data ++ [2], by simp [sk.length_eq]⟩
  signPayload b sk := .ok ⟨sk.data ++ [2] ++ List.replicate 32 (UInt8.ofNat b.length), by
    simp [sk.length_eq]⟩
  verifyPubKeySignedPayload pk s b :=
    if s.data = pk.data ++ List.replicate 32 (UInt8.ofNat b.length) then .ok ()
    else .error "invalid signature"
  sumSHA256 b := ⟨List.replicate 32 (UInt8.ofNat b.length), List.length_replicate _ _⟩

theorem toyCipher_correct : toyCipher.Correct := by
  rintro b sk s ⟨⟩
  simp [toyCipher]

/-- A fresh session request signed with its source's key verifies, and so does an
accepting response signed with its destination's key. -/
theorem dial_signatures_agree_toy :
    (SessionDialRequest.sign toyCipher (fun r ↦ [UInt8.ofNat r.timestamp.toNat])
      ⟨List.replicate 32 1, List.length_replicate _ _⟩
      ⟨7, toyCipher.pubKey ⟨List.replicate 32 1, List.length_replicate _ _⟩,
        toyCipher.pubKey ⟨List.replicate 32 3, List.length_replicate _ _⟩, default⟩).1.verify
      toyCipher (fun r ↦ [UInt8.ofNat r.timestamp.toNat]) 0 = none ∧
    (DialResponse.sign toyCipher (fun d ↦ d.noiseMsg) ⟨List.replicate 32 3, List.length_replicate _ _⟩
      ⟨default, true, 0, [], default⟩).1.verify toyCipher (fun d ↦ d.noiseMsg) (fun _ ↦ none)
      (toyCipher.pubKey ⟨List.replicate 32 3, List.length_replicate _ _⟩) default = none := by
  have h := dial_signatures_agree toyCipher toyCipher_correct (fun r ↦ [UInt8.ofNat r.timestamp.toNat])
    (fun _ ↦ []) (fun d ↦ d.noiseMsg) (fun _ ↦ none)
  exact ⟨((h.1 _ _ _ rfl rfl).2 0).2 ⟨by decide, by decide, by decide⟩,
    h.2.2 _ _ _ _ rfl rfl rfl⟩

/-! ### Replay protection -/

namespace SessionDialRequest

variable (c : Cipher) (encodeGob : SessionDialRequest → List UInt8)

/-- Modelled from the spec: the responder of a session handshake runs `Verify` against the
last timestamp it recorded for the request's source key and, on success, records the
request's timestamp for that key (the session code that does this is outside these files). -/
def respond (last : PubKey → Int) (dr : SessionDialRequest) : Option DialError × (PubKey → Int) :=
  match dr.verify c encodeGob (last dr.srcPK) with
  | none => (none, Function.update last dr.srcPK dr.timestamp)
  | some e => (some e, last)

/-- The requests a responder accepts from a sequence it reads, in order, and its record
after them. -/
def respondAll (last : PubKey → Int) :
    List SessionDialRequest → List SessionDialRequest × (PubKey → Int)
  | [] => ([], last)
  | dr :: drs =>
    let r := respondAll (dr.respond c encodeGob last).2 drs
    (if (dr.respond c encodeGob last).1 = none then dr :: r.1 else r.1, r.2)

variable {c encodeGob}

theorem respond_of_verify_none {last : PubKey → Int} {dr : SessionDialRequest}
    (h : dr.verify c encodeGob (last dr.srcPK) = none) :
    dr.respond c encodeGob last = (none, Function.update last dr.srcPK dr.timestamp) := by
  simp [respond, h]

theorem respond_of_verify_some {last : PubKey → Int} {dr : SessionDialRequest} {e : DialError}
    (h : dr.verify c encodeGob (last dr.srcPK) = some e) :
    dr.respond c encodeGob last = (some e, last) := by
  simp [respond, h]

/-- A request with both keys set and a timestamp no newer than `t` fails as stale. -/
theorem verify_of_le {dr : SessionDialRequest} {t : Int} (hs : dr.srcPK.null = false)
    (hd : dr.dstPK.null = false) (ht : dr.timestamp ≤ t) :
    dr.verify c encodeGob t = some .reqInvalidTimestamp := by
  simp [verify, hs, hd, ht]

variable (c encodeGob)

/-- The record only grows. -/
theorem le_respond (last : PubKey → Int) (dr : SessionDialRequest) (k : PubKey) :
    last k ≤ (dr.respond c encodeGob last).2 k := by
  cases h : dr.verify c encodeGob (last dr.srcPK) with
  | none =>
    have := ((verify_eq_none_iff c encodeGob dr _).mp h).2.2.1
    simp only [respond_of_verify_none h, Function.update_apply]
    split_ifs with hk
    · exact hk ▸ Int.le_of_lt this
    · exact Int.le_refl _
  | some e => simp only [respond_of_verify_some h, Int.le_refl]

theorem le_respondAll (last : PubKey → Int) (drs : List SessionDialRequest) (k : PubKey) :
    last k ≤ (respondAll c encodeGob last drs).2 k := by
  induction drs generalizing last with
  | nil => exact Int.le_refl _
  | cons dr drs ih => exact Int.le_trans (le_respond c encodeGob last dr k) (ih _)

variable {c encodeGob}

/-- An accepted request has both keys set and was newer than the record of its source, and
the record keeps at least its timestamp from then on. -/
theorem mem_respondAll {last : PubKey → Int} {drs : List SessionDialRequest}
    {r : SessionDialRequest} (hr : r ∈ (respondAll c encodeGob last drs).1) :
    r.srcPK.null = false ∧ r.dstPK.null = false ∧ last r.srcPK < r.timestamp ∧
      r.timestamp ≤ (respondAll c encodeGob last drs).2 r.srcPK := by
  induction drs generalizing last with
  | nil => cases hr
  | cons dr drs ih =>
    cases h : dr.verify c encodeGob (last dr.srcPK) with
    | none =>
      simp only [respondAll, respond_of_verify_none h, if_true, List.mem_cons] at hr ⊢
      rcases hr with rfl | hr
      · obtain ⟨hs, hd, hlt, -⟩ := (verify_eq_none_iff c encodeGob r _).mp h
        have hle := le_respondAll c encodeGob (Function.update last r.srcPK r.timestamp) drs r.srcPK
        rw [Function.update_same] at hle
        exact ⟨hs, hd, hlt, hle⟩
      · obtain ⟨hs, hd, hlt, hle⟩ := ih hr
        have hmono := le_respond c encodeGob last dr r.srcPK
        rw [respond_of_verify_none h] at hmono
        exact ⟨hs, hd, Int.lt_of_le_of_lt hmono hlt, hle⟩
    | some e =>
      simp only [respondAll, respond_of_verify_some h, reduceCtorEq, if_false] at hr ⊢
      exact ih hr

/-- The requests a responder accepts from one source key have strictly increasing
timestamps. -/
theorem respondAll_timestamps_increase (last : PubKey → Int) (drs : List SessionDialRequest) :
    (respondAll c encodeGob last drs).1.Pairwise
      fun r r' ↦ r.srcPK = r'.srcPK → r.timestamp < r'.timestamp := by
  induction drs generalizing last with
  | nil => exact List.Pairwise.nil
  | cons dr drs ih =>
    cases h : dr.verify c encodeGob (last dr.srcPK) with
    | none =>
      simp only [respondAll, respond_of_verify_none h, if_true]
      refine List.Pairwise.cons (fun r hr hk ↦ ?_) (ih _)
      have := (mem_respondAll hr).2.2.1
      rwa [← hk, Function.update_same] at this
    | some e =>
      simp only [respondAll, respond_of_verify_some h, reduceCtorEq, if_false]
      exact ih last

/-- A replayed request is rejected as stale, whatever the responder read in between. -/
theorem respond_replay {last : PubKey → Int} {pre : List SessionDialRequest}
    {r : SessionDialRequest} (hr : r ∈ (respondAll c encodeGob last pre).1)
    (mid : List SessionDialRequest) :
    (r.respond c encodeGob
        (respondAll c encodeGob (respondAll c encodeGob last pre).2 mid).2).1 =
      some .reqInvalidTimestamp := by
  obtain ⟨hs, hd, -, hle⟩ := mem_respondAll hr
  have hstale := Int.le_trans hle (le_respondAll c encodeGob _ mid r.srcPK)
  rw [respond_of_verify_some (verify_of_le hs hd hstale)]

/-- A responder accepts every request of a sequence whose requests carry both keys and a
valid signature, and whose timestamps from each source increase from above its record. -/
theorem respondAll_of_fresh {last : PubKey → Int} {drs : List SessionDialRequest}
    (hv : ∀ r ∈ drs, r.srcPK.null = false ∧ r.dstPK.null = false ∧
      Signed.sigValid c encodeGob r.srcPK r = true)
    (hlast : ∀ r ∈ drs, last r.srcPK < r.timestamp)
    (hinc : drs.Pairwise fun r r' ↦ r.srcPK = r'.srcPK → r.timestamp < r'.timestamp) :
    (respondAll c encodeGob last drs).1 = drs := by
  induction drs generalizing last with
  | nil => rfl
  | cons dr drs ih =>
    obtain ⟨hs, hd, hsig⟩ := hv dr (List.mem_cons_self _ _)
    have h : dr.verify c encodeGob (last dr.srcPK) = none :=
      (verify_eq_none_iff c encodeGob dr _).mpr ⟨hs, hd, hlast dr (List.mem_cons_self _ _), hsig⟩
    simp only [respondAll, respond_of_verify_none h, if_true]
    refine congrArg _ (ih (fun r hr ↦ hv r (List.mem_cons_of_mem _ hr)) (fun r hr ↦ ?_)
      (List.pairwise_cons.mp hinc).2)
    rw [Function.update_apply]
    split_ifs with hk
    · exact (List.pairwise_cons.mp hinc).1 r hr hk.symm
    · exact hlast r (List.mem_cons_of_mem _ hr)

/-- Replay protection of the session handshake: of a sequence of requests with both keys
set and valid signatures, a responder accepts all exactly when the timestamps from each
source increase from above its record; a request it accepted once it rejects as stale
whenever it reads it again. -/
theorem session_replay_protection (last : PubKey → Int) (drs : List SessionDialRequest)
    (hv : ∀ r ∈ drs, r.srcPK.null = false ∧ r.dstPK.null = false ∧
      Signed.sigValid c encodeGob r.srcPK r = true) :
    ((respondAll c encodeGob last drs).1 = drs ↔ (∀ r ∈ drs, last r.srcPK < r.timestamp) ∧
      drs.Pairwise fun r r' ↦ r.srcPK = r'.srcPK → r.timestamp < r'.timestamp) ∧
    ∀ r ∈ (respondAll c encodeGob last drs).1, ∀ mid,
      (r.respond c encodeGob (respondAll c encodeGob (respondAll c encodeGob last drs).2 mid).2).1 =
        some .reqInvalidTimestamp := by
  refine ⟨⟨fun h ↦ ⟨fun r hr ↦ ?_, h ▸ respondAll_timestamps_increase last drs⟩,
    fun ⟨hlast, hinc⟩ ↦ respondAll_of_fresh hv hlast hinc⟩, fun r hr mid ↦ respond_replay hr mid⟩
  exact (mem_respondAll (h.symm ▸ hr : r ∈ (respondAll c encodeGob last drs).1)).2.2.1

/-- Two requests from one source, signed with its key, timestamps 7 then 9: the responder
accepts both, and rejects each as stale whenever it comes again. -/
theorem session_replay_protection_toy :
    let enc : SessionDialRequest → List UInt8 := fun r ↦ [UInt8.ofNat r.timestamp.toNat]
    let req : Int → SessionDialRequest := fun ts ↦
      (SessionDialRequest.sign toyCipher enc ⟨List.replicate 32 1, List.length_replicate _ _⟩
        ⟨ts, toyCipher.pubKey ⟨List.replicate 32 1, List.length_replicate _ _⟩,
          toyCipher.pubKey ⟨List.replicate 32 3, List.length_replicate _ _⟩, default⟩).1
    (∀ r' ∈ [req 7, req 9], r'.srcPK.null = false ∧ r'.dstPK.null = false ∧
      Signed.sigValid toyCipher enc r'.srcPK r' = true) ∧
    (((respondAll toyCipher enc (fun _ ↦ 0) [req 7, req 9]).1 = [req 7, req 9] ↔
      (∀ r' ∈ [req 7, req 9], (0 : Int) < r'.timestamp) ∧
        [req 7, req 9].Pairwise fun r r' ↦ r.srcPK = r'.srcPK → r.timestamp < r'.timestamp) ∧
    ∀ r' ∈ (respondAll toyCipher enc (fun _ ↦ 0) [req 7, req 9]).1, ∀ mid,
      (r'.respond toyCipher enc (respondAll toyCipher enc
        (respondAll toyCipher enc (fun _ ↦ 0) [req 7, req 9]).2 mid).2).1 =
        some .reqInvalidTimestamp) :=
  ⟨by decide, session_replay_protection _ _ (by decide)⟩

end SessionDialRequest

end Dmsg
