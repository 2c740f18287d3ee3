import Dmsg.Handshake

/-!
# What `unmarshalHandshakeData` reports

`json.Unmarshal` returns three kinds of error on a handshake payload: the scanner's
`SyntaxError`, or the depth limit, for text that is not JSON; an `UnmarshalTypeError` for a
value of the wrong kind in a field; and the error of `UnmarshalText` for a key whose text it
rejects.  Every `UnmarshalTypeError` names a field of `HandshakeData` by its JSON path, with
that field's Go type, and every other error comes from the scanner or from `UnmarshalText`.
-/

namespace Dmsg

namespace Json

/-- An error of the scanner: a syntax error or the depth limit. -/
def Error.isSyntax : Error → Bool
  | .syntaxError .. | .maxDepth => true
  | _ => false

theorem map_eq_error {α β : Type} {x : Except Error α} {f : α → β} {e : Error} :
    x.map f = .error e ↔ x = .error e := by
  cases x <;> simp [Except.map]

/-- A rune of two bytes or more either fails where the rest of the string fails, or decodes
and leaves a shorter tail to the string. -/
theorem utf8Rune_error {b : UInt8} {rest : List UInt8} {next : Except Error (List UInt8 × List UInt8)}
    {e : Error} (h : utf8Rune b rest next = .error e) :
    next = .error e ∨ ∃ tl : List UInt8, tl.length < rest.length ∧ string tl = .error e := by
  unfold utf8Rune at h
  split at h <;> (repeat' split at h) <;> first
    | exact .inl (map_eq_error.mp h)
    | exact .inr ⟨_, by simp only [List.length_cons]; omega, map_eq_error.mp h⟩

/-- A surrogate escape either fails where the rest of the string fails, or joins the next
escape and leaves a shorter tail to the string. -/
theorem lowSurrogate_error {r : Nat} {rest : List UInt8}
    {next : Except Error (List UInt8 × List UInt8)} {e : Error}
    (h : lowSurrogate r rest next = .error e) :
    next = .error e ∨ ∃ tl : List UInt8, tl.length < rest.length ∧ string tl = .error e := by
  unfold lowSurrogate at h
  split at h <;> (repeat' split at h) <;> first
    | exact .inl (map_eq_error.mp h)
    | exact .inr ⟨_, by simp only [List.length_cons]; omega, map_eq_error.mp h⟩

theorem string_error :
    ∀ (n : Nat) (bs : List UInt8), bs.length ≤ n → ∀ {e : Error}, string bs = .error e → e.isSyntax
  | 0, bs, hl, _, h => by
    rw [List.length_eq_zero.mp (Nat.le_zero.mp hl)] at h
    unfold string at h
    cases h
    rfl
  | n + 1, bs, hl, e, h => by
    unfold string at h
    split at h <;> (repeat' split at h) <;> first
      | (cases h; rfl)
      | cases h
      | (rw [map_eq_error] at h; exact string_error n _ (by simp at hl ⊢; omega) h)
      | (obtain h | ⟨_, hlt, h⟩ := utf8Rune_error h <;>
          exact string_error n _ (by simp at hl ⊢; omega) h)
      | (obtain h | ⟨_, hlt, h⟩ := lowSurrogate_error h <;>
          exact string_error n _ (by simp at hl ⊢; omega) h)

theorem intPart_error {bs : List UInt8} {e : Error} (h : intPart bs = .error e) : e.isSyntax := by
  unfold intPart at h
  split at h <;> (try split at h) <;> cases h <;> rfl

theorem someDigits_error {bs : List UInt8} {e : Error} (h : someDigits bs = .error e) :
    e.isSyntax := by
  unfold someDigits at h
  split at h <;> cases h
  rfl

theorem fracPart_error {bs : List UInt8} {e : Error} (h : fracPart bs = .error e) : e.isSyntax := by
  unfold fracPart at h
  split at h
  · exact someDigits_error (map_eq_error.mp h)
  · cases h

theorem expPart_error {bs : List UInt8} {e : Error} (h : expPart bs = .error e) : e.isSyntax := by
  unfold expPart at h
  split at h <;> (repeat' split at h) <;> first
    | cases h
    | exact someDigits_error (map_eq_error.mp h)

theorem number_error {bs : List UInt8} {e : Error} (h : number bs = .error e) : e.isSyntax := by
  unfold number at h
  simp only [bind, Except.bind] at h
  repeat' split at h
  all_goals cases h <;> first
    | exact intPart_error ‹_›
    | exact fracPart_error ‹_›
    | exact expPart_error ‹_›

/-- The scanner fails only with a syntax error or at the depth limit. -/
theorem value_error : ∀ fuel : Nat,
    (∀ depth bs e, value fuel depth bs = .error e → e.isSyntax) ∧
    (∀ depth acc bs e, members fuel depth acc bs = .error e → e.isSyntax) ∧
    (∀ depth acc bs e, elements fuel depth acc bs = .error e → e.isSyntax)
  | 0 => ⟨fun _ _ _ h ↦ by cases h; rfl, fun _ _ _ _ h ↦ by cases h; rfl,
      fun _ _ _ _ h ↦ by cases h; rfl⟩
  | fuel + 1 => by
    obtain ⟨hv, hm, he⟩ := value_error fuel
    refine ⟨fun depth bs e h ↦ ?_, fun depth acc bs e h ↦ ?_, fun depth acc bs e h ↦ ?_⟩
    · unfold value at h
      split at h <;> (repeat' split at h) <;> first
        | (cases h; rfl)
        | cases h
        | exact hm _ _ _ _ h
        | exact he _ _ _ _ h
        | (rw [map_eq_error] at h; exact string_error _ _ le_rfl h)
        | (rw [map_eq_error] at h; exact number_error h)
    · unfold members at h
      split at h <;> (repeat' split at h) <;> first
        | exact hm _ _ _ _ h
        | (cases h <;> first | rfl | exact string_error _ _ le_rfl ‹_› | exact hv _ _ _ ‹_›)
    · unfold elements at h
      split at h <;> (repeat' split at h) <;> first
        | exact he _ _ _ _ h
        | (cases h <;> first | rfl | exact hv _ _ _ ‹_›)

theorem parse_error {bs : List UInt8} {e : Error} (h : parse bs = .error e) : e.isSyntax := by
  unfold parse at h
  split at h
  · cases h
    exact (value_error _).1 _ _ _ ‹_›
  · split at h <;> cases h
    rfl

end Json

open Json

/-- The fields of `HandshakeData` an `UnmarshalTypeError` can name: each JSON path, with the
field's Go type. -/
def handshakeFields : List (List String × String) :=
  [([], "dmsg.HandshakeData"), (["version"], "string"),
    (["init_address"], "dmsg.Addr"), (["init_address", "public_key"], "cipher.PubKey"),
    (["init_address", "port"], "uint16"),
    (["resp_address"], "dmsg.Addr"), (["resp_address", "public_key"], "cipher.PubKey"),
    (["resp_address", "port"], "uint16"), (["window"], "int32")]

variable (t : PkText)

/-- An error decoding can report: an `UnmarshalTypeError` naming a path and a Go type of `F`,
or an error `UnmarshalText` returned. -/
def Json.Error.decodedIn (F : List (List String × String)) : Error → Prop
  | .type _ path goType => (path, goType) ∈ F
  | .text msg => ∃ s, t.unmarshalText s = .error msg
  | _ => False

namespace Decoding

variable {t} {α β : Type} {F : List (List String × String)}

/-- Every error a decoding holds, saved or stopping it, is one decoding can report. -/
structure Reports (t : PkText) (F : List (List String × String)) (d : Decoding α) : Prop where
  saved : ∀ e, d.saved = some e → e.decodedIn t F
  stop : ∀ e, d.stop = some e → e.decodedIn t F

theorem Reports.saveError {d : Decoding α} {e : Error} (hd : d.Reports t F) (he : e.decodedIn t F) :
    (d.saveError e).Reports t F := by
  refine ⟨fun e' h ↦ ?_, hd.stop⟩
  cases hs : d.saved with
  | none =>
    simp only [Decoding.saveError, hs] at h
    cases h
    exact he
  | some e'' =>
    simp only [Decoding.saveError, hs] at h
    cases h
    exact hd.saved _ hs

theorem Reports.field {d : Decoding α} {get : α → β} {set : α → β → α}
    {dec : Decoding β → Decoding β} (hd : d.Reports t F)
    (hdec : ∀ d' : Decoding β, d'.Reports t F → (dec d').Reports t F) :
    (d.field get set dec).Reports t F :=
  let h := hdec ⟨get d.val, d.saved, d.stop⟩ ⟨hd.saved, hd.stop⟩
  ⟨h.saved, h.stop⟩

theorem Reports.leaf {d : Decoding α} {conv : Value → Except String α} {path : List String}
    {goType : String} (hd : d.Reports t F) (hm : (path, goType) ∈ F) (v : Value) :
    (leaf conv path goType d v).Reports t F := by
  unfold Decoding.leaf
  split
  · exact hd
  · split
    · exact ⟨hd.saved, hd.stop⟩
    · exact hd.saveError hm

theorem Reports.members {d : Decoding α} {f : Decoding α → List UInt8 × Value → Decoding α}
    (hd : d.Reports t F) (hf : ∀ d m, d.Reports t F → (f d m).Reports t F)
    (ms : List (List UInt8 × Value)) : (d.members f ms).Reports t F := by
  induction ms generalizing d with
  | nil => exact hd
  | cons m ms ih =>
    simp only [Decoding.members, List.foldl_cons] at ih ⊢
    split
    · exact ih hd
    · exact ih (hf d m hd)

theorem Reports.decodePubKey {d : Decoding PubKey} {path : List String}
    (hd : d.Reports t F) (hm : (path, "cipher.PubKey") ∈ F) (v : Value) :
    (decodePubKey t path d v).Reports t F := by
  unfold Dmsg.decodePubKey
  split
  · split
    · exact ⟨hd.saved, hd.stop⟩
    · exact ⟨hd.saved, fun e h ↦ by cases h; exact ⟨_, ‹_›⟩⟩
  · exact hd
  · exact hd.saveError hm

theorem Reports.decodeAddr {d : Decoding Addr} {path : List String} (hd : d.Reports t F)
    (ha : (path, "dmsg.Addr") ∈ F) (hk : (path ++ ["public_key"], "cipher.PubKey") ∈ F)
    (hp : (path ++ ["port"], "uint16") ∈ F) (v : Value) : (decodeAddr t path d v).Reports t F := by
  unfold Dmsg.decodeAddr
  split
  · refine hd.members (fun d m hd ↦ ?_) _
    unfold decodeAddrMember
    split
    · exact hd.field fun _ hd' ↦ hd'.decodePubKey hk _
    · exact hd.field fun _ hd' ↦ hd'.leaf hp _
    · exact hd
  · exact hd
  · exact hd.saveError ha

theorem Reports.decodeHandshakeMember {d : Decoding HandshakeData}
    (hd : d.Reports t handshakeFields) (m : List UInt8 × Value) :
    (decodeHandshakeMember t d m).Reports t handshakeFields := by
  unfold Dmsg.decodeHandshakeMember
  split
  · exact hd.field fun _ hd' ↦ hd'.leaf (by decide) _
  · exact hd.field fun _ hd' ↦ hd'.decodeAddr (by decide) (by decide) (by decide) _
  · exact hd.field fun _ hd' ↦ hd'.decodeAddr (by decide) (by decide) (by decide) _
  · exact hd.field fun _ hd' ↦ hd'.leaf (by decide) _
  · exact hd

/-- The error a decoding ends with, the one that stopped it or else the first one saved, is one
decoding can report. -/
theorem Reports.result {d : Decoding α} {e : Error} (hd : d.Reports t F)
    (h : (d.stop <|> d.saved) = some e) : e.decodedIn t F := by
  cases hs : d.stop with
  | none =>
    simp only [hs] at h
    exact hd.saved e (by simpa using h)
  | some e' =>
    simp only [hs] at h
    cases h
    exact hd.stop _ hs

end Decoding

/-- Every error `unmarshalHandshakeData` returns is the scanner's syntax error or depth limit, an
`UnmarshalTypeError` naming a field of `HandshakeData` by its JSON path with that field's Go
type, or the error `UnmarshalText` returned for a key's text. -/
theorem unmarshalHandshakeData_error (b : List UInt8) {e : Error}
    (h : (unmarshalHandshakeData t b).2 = some e) :
    e.isSyntax ∨ (∃ v path goType, e = .type v path goType ∧ (path, goType) ∈ handshakeFields) ∨
      ∃ msg s, e = .text msg ∧ t.unmarshalText s = .error msg := by
  unfold unmarshalHandshakeData at h
  split at h
  · cases h
    exact .inl (parse_error ‹_›)
  · right
    have hz : (⟨.zero, none, none⟩ : Decoding HandshakeData).Reports t handshakeFields :=
      ⟨fun _ h ↦ Option.noConfusion h, fun _ h ↦ Option.noConfusion h⟩
    have he : e.decodedIn t handshakeFields := by
      dsimp only at h
      split at h
      · exact (hz.members (fun _ m hd ↦ hd.decodeHandshakeMember m) _).result h
      · cases h
      · refine (hz.saveError ?_).result h
        show ([], "dmsg.HandshakeData") ∈ handshakeFields
        decide
    rcases e with _ | _ | ⟨v, path, goType⟩ | msg
    · exact he.elim
    · exact he.elim
    · exact .inl ⟨v, path, goType, rfl, he⟩
    · obtain ⟨s, hs⟩ := he
      exact .inr ⟨msg, s, rfl, hs⟩

end Dmsg
