import Telemetry.Credential.ServiceToken
import Telemetry.Proofs.Credential.Base64
import Telemetry.Proofs.Credential.Uuid

/-!
# Which texts are service tokens

`HasForm` describes the texts of a token: between white space they are the base64 form of a spelling of the
identifier, a colon and the raw token. `decodesFormat` says that these texts are read and no others, and
that any other text is refused for the first thing that is wrong with it, as `FirstFault` lists them.
-/
namespace Telemetry.ServiceToken

open Text

/-- A text is the base64 form of bytes with white space around it. -/
def Encodes (encoded : String) (bytes : List UInt8) : Prop :=
  ∃ before body after : List Char, encoded.toList = before ++ (body ++ after) ∧
    before.all isBlank = true ∧ after.all isBlank = true ∧
    utf8 (.ofList body) = Base64.encode bytes

/-- The bytes of an identifier, a colon and a raw token. -/
def content (identifier token : List Char) : List UInt8 :=
  utf8 (.ofList (identifier ++ ':' :: token))

/-- The texts that stand for a token. -/
structure HasForm (t : ServiceToken) (encoded : String) : Prop where
  token_ne_empty : t.token ≠ ""
  spelled : ∃ identifier : List Char, ':' ∉ identifier ∧ t.instanceUuid.Spells identifier ∧
    Encodes encoded (content identifier t.token.toList)

/-- The first thing that is wrong with a text: all that is checked before is in order. -/
inductive FirstFault (encoded : String) : Fault → Prop
  | base64 (e : Base64.Error) (h : ∀ bytes, ¬ Encodes encoded bytes) : FirstFault encoded (.base64 e)
  | utf8 (bytes : List UInt8) (h : Encodes encoded bytes) (hbytes : ∀ s, Text.utf8 s ≠ bytes) :
    FirstFault encoded .utf8
  | separator (s : String) (h : Encodes encoded (Text.utf8 s)) (hs : ':' ∉ s.toList) :
    FirstFault encoded .separator
  | uuid (f : Uuid.Fault) (identifier token : List Char)
    (h : Encodes encoded (content identifier token)) (hcolon : ':' ∉ identifier)
    (hidentifier : ∀ u : Uuid, ¬ u.Spells identifier) : FirstFault encoded (.uuid f)
  | emptyToken (u : Uuid) (identifier : List Char) (h : Encodes encoded (content identifier []))
    (hidentifier : u.Spells identifier) : FirstFault encoded .emptyToken

theorem isBlank_eq_false_of_encode {body : List Char} {bytes : List UInt8}
    (h : utf8 (.ofList body) = Base64.encode bytes) : ∀ c ∈ body, isBlank c = false := by
  intro c hc
  -- white space is the bytes up to 32, or a character of several bytes, and symbols are neither
  have hsymbol (b : UInt8) (hb : b ∈ String.utf8EncodeChar c) : 32 < b.toNat ∧ b.toNat < 128 := by
    have hmem : b ∈ utf8 (.ofList body) := by
      rw [utf8_eq_flatMap, String.toList_ofList]
      exact List.mem_flatMap.mpr ⟨c, hc, hb⟩
    rw [h] at hmem
    exact Base64.symbol_of_mem_encode hmem
  have hascii : 32 < c.toNat ∧ c.toNat < 128 := by
    by_cases hlt : c.toNat < 128
    · have hb := hsymbol _ (by rw [utf8EncodeChar_of_lt hlt]; exact List.mem_cons_self)
      rwa [UInt8.toNat_ofNat_of_lt' (hlt.trans (by decide))] at hb
    · obtain ⟨b, hb⟩ := List.exists_mem_of_ne_nil _ (String.utf8EncodeChar_ne_nil (c := c))
      have hhigh := le_of_mem_utf8EncodeChar (Nat.le_of_not_lt hlt) hb
      have hlow := (hsymbol b hb).2
      omega
  exact isBlank_of_ascii hascii

theorem encodes_iff (encoded : String) (bytes : List UInt8) : Encodes encoded bytes ↔
    Base64.decode (utf8 (.ofList (trim encoded.toList))) = .ok bytes := by
  rw [Base64.decode_eq_ok_iff]
  constructor
  · rintro ⟨before, body, after, heq, hbefore, hafter, hbody⟩
    rw [heq, trim_append hbefore hafter (isBlank_eq_false_of_encode hbody), hbody]
  · intro h
    obtain ⟨before, after, heq, hbefore, hafter⟩ := exists_trim encoded.toList
    exact ⟨before, _, after, heq, hbefore, hafter, h⟩

/-- Texts of the same bytes differ only in the white space around them. -/
theorem Encodes.trim_eq {encoded encoded' : String} {bytes : List UInt8} (h : Encodes encoded bytes)
    (h' : Encodes encoded' bytes) : trim encoded.toList = trim encoded'.toList := by
  rw [encodes_iff, Base64.decode_eq_ok_iff] at h h'
  have heq := utf8_injective (h.trans h'.symm)
  simpa using congrArg String.toList heq

theorem ofParts_ok {identifier token : List Char} {u : Uuid} (hcolon : ':' ∉ identifier)
    (hu : u.Spells identifier) (ht : token ≠ []) :
    ofParts (identifier ++ ':' :: token) = .ok ⟨u, .ofList token⟩ := by
  have hsplit := (splitOnce?_eq_some_iff (List.cons_ne_nil ':' [])).mpr
    (splitsAt_singleton_iff.mpr ⟨rfl, hcolon⟩ : SplitsAt _ (identifier ++ ':' :: token) _ _)
  have hempty : token.isEmpty = false := List.isEmpty_eq_false_iff.mpr ht
  simp [ofParts, hsplit, (Uuid.parse_eq_ok_iff identifier u).mpr hu, hempty]

theorem HasForm.check_eq {t : ServiceToken} {encoded : String} (h : t.HasForm encoded) :
    check encoded = .ok t := by
  obtain ⟨identifier, hcolon, hu, hencodes⟩ := h.spelled
  have htoken : t.token.toList ≠ [] := by simpa using h.token_ne_empty
  have hread := (encodes_iff _ _).mp hencodes
  simp only [check, hread, content, ofUtf8?_utf8, String.toList_ofList, ofParts_ok hcolon hu htoken,
    String.ofList_toList]

/-- What the outcome of a check says of a text. -/
def Judges (encoded : String) : Except Fault ServiceToken → Prop
  | .ok t => t.HasForm encoded
  | .error f => FirstFault encoded f

theorem judges_ofParts {encoded : String} {s : String} (h : Encodes encoded (utf8 s)) :
    Judges encoded (ofParts s.toList) := by
  have hne := List.cons_ne_nil ':' []
  cases hsplit : splitOnce? [':'] s.toList with
  | none =>
    have hcolon : ':' ∉ s.toList := fun hmem =>
      (splitOnce?_eq_none hne).mp hsplit ((List.singleton_infix_iff _ _).mpr hmem)
    have hparts : ofParts s.toList = .error .separator := by simp [ofParts, hsplit]
    rw [hparts]
    exact .separator s h hcolon
  | some parts =>
    obtain ⟨identifier, token⟩ := parts
    obtain ⟨heq, hcolon⟩ := splitsAt_singleton_iff.mp ((splitOnce?_eq_some_iff hne).mp hsplit)
    have hcontent : Encodes encoded (content identifier token) := by
      rwa [content, ← heq, String.ofList_toList]
    cases hu : Uuid.parse identifier with
    | error f =>
      have hnone (u : Uuid) : ¬ u.Spells identifier := fun hspells => by
        cases hu.symm.trans ((Uuid.parse_eq_ok_iff identifier u).mpr hspells)
      have hparts : ofParts s.toList = .error (.uuid f) := by simp [ofParts, hsplit, hu]
      rw [hparts]
      exact .uuid f identifier token hcontent hcolon hnone
    | ok u =>
      have hspells := (Uuid.parse_eq_ok_iff identifier u).mp hu
      by_cases ht : token = []
      · subst ht
        have hparts : ofParts s.toList = .error .emptyToken := by simp [ofParts, hsplit, hu]
        rw [hparts]
        exact .emptyToken u identifier hcontent hspells
      · rw [heq, ofParts_ok hcolon hspells ht]
        exact ⟨by simpa using ht, identifier, hcolon, hspells, by simpa using hcontent⟩

theorem judges_check (encoded : String) : Judges encoded (check encoded) := by
  cases hread : Base64.decode (utf8 (.ofList (trim encoded.toList))) with
  | error e =>
    have hnone (bytes : List UInt8) : ¬ Encodes encoded bytes := fun h => by
      cases hread.symm.trans ((encodes_iff _ _).mp h)
    have hcheck : check encoded = .error (.base64 e) := by simp only [check, hread]
    rw [hcheck]
    exact .base64 e hnone
  | ok bytes =>
    have hencodes := (encodes_iff _ _).mpr hread
    cases hs : ofUtf8? bytes with
    | none =>
      have hnone (s : String) : utf8 s ≠ bytes := by
        rintro rfl
        simp at hs
      have hcheck : check encoded = .error .utf8 := by simp only [check, hread, hs]
      rw [hcheck]
      exact .utf8 bytes hencodes hnone
    | some s =>
      obtain rfl := utf8_of_ofUtf8? hs
      have hcheck : check encoded = ofParts s.toList := by simp only [check, hread, hs]
      rw [hcheck]
      exact judges_ofParts hencodes

/-- What decoding a text says about it. -/
structure DecodesFormat (encoded : String) : Prop where
  /-- A text is read as a token exactly if it has the token's form. -/
  ok_iff : ∀ t, decode encoded = .ok t ↔ t.HasForm encoded
  /-- Any other text is refused for the first thing that is wrong with it. -/
  refused : (∀ t : ServiceToken, ¬ t.HasForm encoded) →
    ∃ f, FirstFault encoded f ∧ decode encoded = .error (.invalidServiceToken f.message)
  /-- An identifier is not read from its resource name, whose first colon comes too early. -/
  resourceName : ∀ rest : List Char, Encodes encoded (utf8 (.ofList ("urn:uuid:".toList ++ rest))) →
    decode encoded = .error (.invalidServiceToken (Fault.uuid (.character 'u' 0)).message)
  /-- Two texts of one token differ in the white space around them or in the spelling of the
  identifier. -/
  same : ∀ t encoded', decode encoded = .ok t → decode encoded' = .ok t →
    trim encoded.toList = trim encoded'.toList ∨
    ∃ identifier identifier', identifier ≠ identifier' ∧
      t.instanceUuid.Spells identifier ∧ Encodes encoded (content identifier t.token.toList) ∧
      t.instanceUuid.Spells identifier' ∧ Encodes encoded' (content identifier' t.token.toList)

theorem decode_eq_ok_iff_hasForm (encoded : String) (t : ServiceToken) :
    decode encoded = .ok t ↔ t.HasForm encoded := by
  constructor
  · intro h
    have hjudged := judges_check encoded
    rw [decode] at h
    cases hcheck : check encoded with
    | error f =>
      rw [hcheck] at h
      cases h
    | ok t' =>
      rw [hcheck] at h hjudged
      obtain rfl : t' = t := Except.ok.inj h
      exact hjudged
  · intro h
    rw [decode, h.check_eq]
    rfl

theorem decode_refuses {encoded : String} (h : ∀ t : ServiceToken, ¬ t.HasForm encoded) :
    ∃ f, FirstFault encoded f ∧ decode encoded = .error (.invalidServiceToken f.message) := by
  have hjudged := judges_check encoded
  cases hcheck : check encoded with
  | error f =>
    rw [hcheck] at hjudged
    exact ⟨f, hjudged, by rw [decode, hcheck]; rfl⟩
  | ok t =>
    rw [hcheck] at hjudged
    exact absurd hjudged (h t)

/-- In front of the first colon of a resource name stands no identifier. -/
theorem decode_resourceName {encoded : String} {rest : List Char}
    (h : Encodes encoded (utf8 (.ofList ("urn:uuid:".toList ++ rest)))) : decode encoded =
      .error (.invalidServiceToken (Fault.uuid (.character 'u' 0)).message) := by
  have hread := (encodes_iff _ _).mp h
  have hsplit : splitOnce? [':'] ("urn:uuid:".toList ++ rest) =
      some ("urn".toList, "uuid:".toList ++ rest) :=
    (splitOnce?_eq_some_iff (List.cons_ne_nil _ _)).mpr
      (splitsAt_singleton_iff.mpr ⟨rfl, by decide⟩)
  have hparse : Uuid.parse "urn".toList = .error (.character 'u' 0) := by decide
  have hcheck : check encoded = .error (.uuid (.character 'u' 0)) := by
    simp only [check, hread, ofUtf8?_utf8, String.toList_ofList, ofParts, hsplit, hparse]
  rw [decode, hcheck]
  rfl

/-- Decoding reads exactly the texts of tokens, and refuses all others for their first fault. -/
theorem decodesFormat (encoded : String) : DecodesFormat encoded := by
  constructor
  case ok_iff => exact decode_eq_ok_iff_hasForm encoded
  case refused => exact decode_refuses
  case resourceName => exact fun rest => decode_resourceName
  case same =>
    intro t encoded' h h'
    obtain ⟨-, identifier, hcolon, hspells, hencodes⟩ := (decode_eq_ok_iff_hasForm _ t).mp h
    obtain ⟨-, identifier', hcolon', hspells', hencodes'⟩ := (decode_eq_ok_iff_hasForm _ t).mp h'
    by_cases heq : identifier = identifier'
    · subst heq
      exact .inl (hencodes.trim_eq hencodes')
    · exact .inr ⟨identifier, identifier', heq, hspells, hencodes, hspells', hencodes'⟩

end Telemetry.ServiceToken
