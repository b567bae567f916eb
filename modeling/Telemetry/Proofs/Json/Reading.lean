import Telemetry.Json.Parser
import Telemetry.Proofs.Json.Grammar
import Telemetry.Proofs.Text.Hex

/-!
# Every text says one document

The reader of documents, with numbers read exactly, finds what a text says, whatever follows it that does not
continue a number. So a text says one document at most.
-/
namespace Telemetry

namespace Literal

theorem magnitude_nonneg (l : Literal) : 0 ≤ l.magnitude := by
  unfold magnitude
  positivity

/-- The exact value in steps, as a quotient. -/
def quotient (l : Literal) : ℚ := l.magnitude * Binary64.stepsPerOne

/-- The value of a literal, with the exact one rounded once. -/
def nearest? (l : Literal) : Option Number :=
  let x := Binary64.ofWord l.negative (Binary64.nearestWord l.quotient.num.toNat l.quotient.den)
  if h : x.isFinite = true then some (.double x h) else none

theorem Denotes.nearest?_eq {l : Literal} {x : Binary64} (h : l.Denotes x) :
    l.nearest? = some (.double x h.finite) := by
  have hnonneg : 0 ≤ l.quotient := mul_nonneg l.magnitude_nonneg (Nat.cast_nonneg _)
  have hnum : ((l.quotient.num.toNat : ℕ) : ℚ) = l.quotient.num := by
    exact_mod_cast Int.toNat_of_nonneg (Rat.num_nonneg.mpr hnonneg)
  have hrounds : Binary64.Rounds (l.quotient.num.toNat / l.quotient.den) x.word := by
    rw [hnum, Rat.num_div_den]
    exact h.rounds
  have hword := hrounds.nearestWord_eq l.quotient.den_pos (of_decide_eq_true h.finite)
  have hx : Binary64.ofWord l.negative (Binary64.nearestWord l.quotient.num.toNat l.quotient.den) = x := by
    rw [hword, ← h.isNegative_eq, Binary64.ofWord_word]
  simp only [nearest?, hx, h.finite, dif_pos]

end Literal

namespace Json

/-- What may follow a number without continuing it. -/
def Ends (rest : List Char) : Prop :=
  ∀ c ∈ rest.head?, c.isDigit = false ∧ c ≠ '.' ∧ c ≠ 'e' ∧ c ≠ 'E'

/-- Digits are read up to the first other character. -/
theorem digits?_append {ds rest : List Char} (hds : IsDigits ds)
    (hrest : ∀ c ∈ rest.head?, c.isDigit = false) : Literal.digits? (ds ++ rest) = some (ds, rest) := by
  have htake : (ds ++ rest).takeWhile Char.isDigit = ds := by
    rw [List.takeWhile_append_of_pos hds.isDigit]
    cases rest with
    | nil => simp
    | cons c rest => simp [hrest c rfl]
  have hdrop : (ds ++ rest).dropWhile Char.isDigit = rest := by
    rw [List.dropWhile_append_of_pos hds.isDigit]
    cases rest with
    | nil => rfl
    | cons c rest => simp [hrest c rfl]
  obtain ⟨d, ds', rfl⟩ := List.exists_cons_of_ne_nil hds.ne_nil
  rw [Literal.digits?, htake, hdrop]

theorem IsFraction.fraction?_append {text : List Char} {fraction : Option (List Char)}
    (h : IsFraction text fraction) {rest : List Char}
    (hrest : ∀ c ∈ rest.head?, c.isDigit = false ∧ c ≠ '.') :
    Literal.fraction? (text ++ rest) = some (fraction, rest) := by
  cases h with
  | absent =>
    cases rest with
    | nil => rfl
    | cons c rest =>
      rw [List.nil_append, Literal.fraction?]
      rintro rest' ⟨⟩
      exact (hrest '.' rfl).2 rfl
  | present hds =>
    rw [List.cons_append, Literal.fraction?, digits?_append hds fun c hc => (hrest c hc).1]
    rfl

theorem IsExponent.exponent?_append {text : List Char} {exponent : Option Int}
    (h : IsExponent text exponent) {rest : List Char} (hrest : Ends rest) :
    Literal.exponent? (text ++ rest) = some (exponent, rest) := by
  have hdigit : ∀ c ∈ rest.head?, c.isDigit = false := fun c hc => (hrest c hc).1
  cases h with
  | absent =>
    cases rest with
    | nil => rfl
    | cons c rest =>
      rw [List.nil_append, Literal.exponent?]
      · rintro rest' ⟨⟩
        exact (hrest 'e' rfl).2.2.1 rfl
      · rintro rest' ⟨⟩
        exact (hrest 'E' rfl).2.2.2 rfl
  | @unsigned mark ds hmark hds =>
    have hsigned : Literal.signedExponent? (ds ++ rest) = some ((Decimal.ofDigits ds : Int), rest) := by
      have hread := digits?_append hds hdigit
      obtain ⟨d, ds, rfl⟩ := List.exists_cons_of_ne_nil hds.ne_nil
      have hd := hds.isDigit d List.mem_cons_self
      rw [List.cons_append, Literal.signedExponent?, ← List.cons_append, hread]
      · rfl
      · rintro rest' ⟨⟩
        exact absurd hd (by decide)
      · rintro rest' ⟨⟩
        exact absurd hd (by decide)
    obtain rfl | rfl := hmark <;> rw [List.cons_append, Literal.exponent?, hsigned] <;> rfl
  | @plus mark ds hmark hds =>
    have hread := digits?_append hds hdigit
    obtain rfl | rfl := hmark <;>
      rw [List.cons_append, List.cons_append, Literal.exponent?, Literal.signedExponent?, hread] <;> rfl
  | @minus mark ds hmark hds =>
    have hread := digits?_append hds hdigit
    obtain rfl | rfl := hmark <;>
      rw [List.cons_append, List.cons_append, Literal.exponent?, Literal.signedExponent?, hread] <;> rfl

/-- A fraction starts with a point, an exponent with its mark, and neither of them is a digit. -/
theorem IsExponent.head?_append {text : List Char} {exponent : Option Int} (h : IsExponent text exponent)
    {rest : List Char} (hrest : Ends rest) :
    ∀ c ∈ (text ++ rest).head?, c.isDigit = false ∧ c ≠ '.' := by
  cases h with
  | absent => exact fun c hc => ⟨(hrest c hc).1, (hrest c hc).2.1⟩
  | unsigned hmark hds => obtain rfl | rfl := hmark <;> rintro c ⟨⟩ <;> decide
  | plus hmark hds => obtain rfl | rfl := hmark <;> rintro c ⟨⟩ <;> decide
  | minus hmark hds => obtain rfl | rfl := hmark <;> rintro c ⟨⟩ <;> decide

theorem IsFraction.head?_append {text : List Char} {fraction : Option (List Char)}
    (h : IsFraction text fraction) {rest : List Char} (hrest : ∀ c ∈ rest.head?, c.isDigit = false) :
    ∀ c ∈ (text ++ rest).head?, c.isDigit = false := by
  cases h with
  | absent => exact hrest
  | present hds => rintro c ⟨⟩; rfl

theorem IsUnsigned.unsigned?_append {negative : Bool} {text : List Char} {l : Literal}
    (h : IsUnsigned negative text l) {rest : List Char} (hrest : Ends rest) :
    Literal.unsigned? negative (text ++ rest) = some (l, rest) := by
  obtain @⟨whole, _, _, _, _, hwhole, hfraction, hexponent⟩ := h
  have hafter := hexponent.head?_append hrest
  have hdigits := digits?_append hwhole.toIsDigits
    (hfraction.head?_append fun c hc => (hafter c hc).1)
  have hzero : ¬(whole.head? = some '0' ∧ whole.length ≠ 1) := by
    rintro ⟨hhead, hlength⟩
    rw [hwhole.eq_zero hhead] at hlength
    exact hlength rfl
  simp only [List.append_assoc, Literal.unsigned?, hdigits, Option.bind_eq_bind, Option.bind_some,
    if_neg hzero, hfraction.fraction?_append hafter, hexponent.exponent?_append hrest, Option.pure_def]

/-- The first character of a number. -/
theorem IsUnsigned.exists_digit {negative : Bool} {text : List Char} {l : Literal}
    (h : IsUnsigned negative text l) : ∃ d rest, text = d :: rest ∧ d.isDigit = true := by
  obtain @⟨whole, _, _, _, _, hwhole, -, -⟩ := h
  obtain ⟨d, ds, rfl⟩ := List.exists_cons_of_ne_nil hwhole.ne_nil
  exact ⟨d, _, rfl, hwhole.isDigit d List.mem_cons_self⟩

theorem IsLiteral.read?_append {text : List Char} {l : Literal} (h : IsLiteral text l)
    {rest : List Char} (hrest : Ends rest) : Literal.read? (text ++ rest) = some (l, rest) := by
  cases h with
  | plain h =>
    have hread := h.unsigned?_append hrest
    obtain ⟨d, text, rfl, hd⟩ := h.exists_digit
    rw [List.cons_append, Literal.read?, ← List.cons_append, hread]
    rintro rest' ⟨⟩
    exact absurd hd (by decide)
  | minus h =>
    rw [List.cons_append, Literal.read?, h.unsigned?_append hrest]

/-- The characters that a number starts with. -/
def StartsNumber (c : Char) : Prop := c = '-' ∨ c.isDigit = true

theorem StartsNumber.ne {c d : Char} (hc : StartsNumber c) (hd : d ≠ '-' ∧ d.isDigit = false) : c ≠ d := by
  rintro rfl
  rcases hc with hc | hc
  · exact hd.1 hc
  · exact absurd hc (by simp [hd.2])

theorem IsLiteral.exists_head {text : List Char} {l : Literal} (h : IsLiteral text l) :
    ∃ c rest, text = c :: rest ∧ StartsNumber c := by
  cases h with
  | plain h =>
    obtain ⟨d, rest, rfl, hd⟩ := h.exists_digit
    exact ⟨d, rest, rfl, .inr hd⟩
  | minus h => exact ⟨'-', _, rfl, .inl rfl⟩

theorem exists_of_isCodeUnit {ds : List Char} {u : Nat} (h : IsCodeUnit ds u) :
    ∃ a b c d, ds = [a, b, c, d] := by
  obtain ⟨hlength, -⟩ := h
  match ds, hlength with
  | [a, b, c, d], _ => exact ⟨a, b, c, d, rfl⟩

theorem codeUnit?_toNat (c : Char) : codeUnit? c.toNat = some c := by
  have hvalid := c.valid
  have hsurrogate : ¬(0xD800 ≤ c.toNat ∧ c.toNat < 0xE000) := by
    rintro ⟨hlow, hhigh⟩
    rcases hvalid with h | ⟨h, -⟩
    · exact absurd h (Nat.not_lt.mpr hlow)
    · exact absurd h (by have : c.val.toNat = c.toNat := rfl; omega)
  rw [codeUnit?, if_neg hsurrogate, Char.ofNat_toNat]

theorem stringBody?_append {piece : List Char} {c : Char} (h : StandsFor piece c) (text : List Char) :
    stringBody? (piece ++ text) = (stringBody? text).map fun (cs, rest) => (c :: cs, rest) := by
  cases h with
  | plain hcontrol hquote hbackslash =>
    rw [List.singleton_append, stringBody?]
    · rw [if_neg (by omega)]
    all_goals grind
  | escape h =>
    have hletter : ∀ e ∈ escapes, e.1 ≠ 'u' ∧ escape? e.1 = some e.2 := by decide
    obtain ⟨hu, hc⟩ := hletter _ h
    rw [List.cons_append, List.cons_append, List.nil_append, stringBody?]
    · rw [hc]
    all_goals grind
  | @codeUnit ds c h =>
    obtain ⟨x, y, z, w, rfl⟩ := exists_of_isCodeUnit h
    have hvalue := h.value_eq
    -- the reader looks for a second code unit before it decides that this one is no surrogate
    by_cases hnext : ∃ e f g i rest, text = '\\' :: 'u' :: e :: f :: g :: i :: rest
    · obtain ⟨e, f, g, i, rest, rfl⟩ := hnext
      simp only [List.cons_append, List.nil_append]
      rw [stringBody?, hvalue]
      simp only [codeUnit?_toNat]
    · simp only [List.cons_append, List.nil_append]
      rw [stringBody?]
      · simp only [hvalue, Option.bind_some, codeUnit?_toNat]
      · exact fun e f g i rest htext => hnext ⟨e, f, g, i, rest, htext⟩
  | @surrogates high low h l c hhigh hlow hh hl hc =>
    obtain ⟨x, y, z, w, rfl⟩ := exists_of_isCodeUnit hhigh
    obtain ⟨e, f, g, i, rfl⟩ := exists_of_isCodeUnit hlow
    have hnone : codeUnit? (0xD800 + h) = none := by
      rw [codeUnit?, if_pos (by omega)]
    have hpair : surrogatePair? (0xD800 + h) (0xDC00 + l) = some c := by
      rw [surrogatePair?, if_pos (by omega), Nat.add_sub_cancel_left, Nat.add_sub_cancel_left, ← hc,
        Char.ofNat_toNat]
    simp only [List.cons_append, List.nil_append]
    rw [stringBody?, hhigh.value_eq]
    simp only [hnone, hlow.value_eq, Option.bind_some, hpair]

theorem IsBody.stringBody?_append {body cs : List Char} (h : IsBody body cs) (rest : List Char) :
    stringBody? (body ++ '"' :: rest) = some (cs, rest) := by
  induction h with
  | nil => rw [List.nil_append, stringBody?]
  | cons hpiece _ ih => rw [List.append_assoc, Json.stringBody?_append hpiece, ih, Option.map_some]

theorem isBlank_eq_true_iff (c : Char) :
    isBlank c = true ↔ c = ' ' ∨ c = '\t' ∨ c = '\n' ∨ c = '\r' := by
  simp only [isBlank, Bool.or_eq_true, beq_iff_eq]
  tauto

theorem skipBlank_append {before : List Char} (h : Blanks before) (cs : List Char) :
    skipBlank (before ++ cs) = skipBlank cs :=
  List.dropWhile_append_of_pos fun c hc => (isBlank_eq_true_iff c).mpr (h c hc)

theorem skipBlank_cons {c : Char} (h : isBlank c = false) (cs : List Char) :
    skipBlank (c :: cs) = c :: cs := by
  rw [skipBlank, List.dropWhile_cons_of_neg (by simp [h])]

theorem Blanks.ends {blanks rest : List Char} (h : Blanks blanks) (hrest : Ends rest) :
    Ends (blanks ++ rest) := by
  cases blanks with
  | nil => exact hrest
  | cons c blanks =>
    rintro _ ⟨⟩
    obtain rfl | rfl | rfl | rfl := h c List.mem_cons_self <;> decide

section Containers

variable {α : Type} {item : List Char → Option (α × List Char)} {close : Char}

/-- An item is read from a text, whatever follows it, perhaps without the blanks at its end. The text does not
start with the closing bracket. -/
structure Takes (item : List Char → Option (α × List Char)) (close : Char) (whole : List Char)
    (a : α) : Prop where
  head : ∀ rest, ∃ c cs, skipBlank (whole ++ rest) = c :: cs ∧ c ≠ close
  read : ∀ rest, Ends rest → ∃ left, item (whole ++ rest) = some (a, left) ∧
    skipBlank left = skipBlank rest

/-- A bracket that is not taken for anything else. -/
structure IsClosing (close : Char) : Prop where
  isBlank_eq : isBlank close = false
  ne_comma : close ≠ ','
  ends : ∀ rest, Ends (close :: rest)

theorem ends_comma (rest : List Char) : Ends (',' :: rest) := by
  rintro _ ⟨⟩
  decide

theorem listed_append (hclose : IsClosing close) {parts : List (List Char × α)}
    (hparts : ∀ p ∈ parts, Takes item close p.1 p.2) (hne : parts ≠ []) {closing : List Char}
    (hclosing : Blanks closing) (rest : List Char) {n : Nat} (hn : parts.length ≤ n) :
    listed item close n (List.intercalate [','] (parts.map Prod.fst) ++ (closing ++ close :: rest)) =
      some (parts.map Prod.snd, rest) := by
  induction parts generalizing n with
  | nil => exact absurd rfl hne
  | cons p parts ih =>
    rw [List.length_cons] at hn
    obtain ⟨n, rfl⟩ := Nat.exists_eq_succ_of_ne_zero (show n ≠ 0 by omega)
    obtain ⟨hfirst, hothers⟩ := List.forall_mem_cons.mp hparts
    cases parts with
    | nil =>
      obtain ⟨left, hread, hleft⟩ := hfirst.read _ (hclosing.ends (hclose.ends rest))
      rw [skipBlank_append hclosing, skipBlank_cons hclose.isBlank_eq] at hleft
      simp only [List.map_cons, List.map_nil, List.intercalate_singleton, listed, hread, hleft, if_pos]
    | cons q parts =>
      have hrest := ih hothers (List.cons_ne_nil _ _) (show (q :: parts).length ≤ n by simpa using hn)
      obtain ⟨left, hread, hleft⟩ := hfirst.read _ (ends_comma
        (List.intercalate [','] ((q :: parts).map Prod.fst) ++ (closing ++ close :: rest)))
      rw [skipBlank_cons rfl] at hleft
      have hcomma : ',' ≠ close := hclose.ne_comma.symm
      rw [List.map_cons, List.map_cons, List.intercalate_cons_cons, ← List.map_cons, List.append_assoc,
        List.append_assoc, List.singleton_append, listed, hread]
      simp only [hleft, if_neg hcomma, if_pos]
      rw [hrest]
      rfl

theorem length_le_intercalate (texts : List (List Char)) :
    texts.length ≤ (List.intercalate [','] texts).length + 1 := by
  induction texts with
  | nil => exact Nat.zero_le _
  | cons t texts ih =>
    cases texts with
    | nil => simp
    | cons u texts =>
      rw [List.intercalate_cons_cons, List.length_append, List.length_append, List.length_cons,
        List.length_singleton]
      omega

theorem length_le_of_mem_intercalate {t : List Char} {texts : List (List Char)} (h : t ∈ texts) :
    t.length ≤ (List.intercalate [','] texts).length := by
  induction texts with
  | nil => cases h
  | cons u texts ih =>
    cases texts with
    | nil =>
      obtain rfl := List.mem_singleton.mp h
      rw [List.intercalate_singleton]
    | cons w texts =>
      rw [List.intercalate_cons_cons, List.length_append, List.length_append]
      obtain rfl | h := List.mem_cons.mp h
      · omega
      · have := ih h
        omega

/-- What stands inside a container is shorter than its text. -/
theorem length_le_of_mem_container {t : List Char} {texts : List (List Char)} (h : t ∈ texts)
    {left right : Char} {closing : List Char} {depth : Nat}
    (hdepth : (left :: (List.intercalate [','] texts ++ (closing ++ [right]))).length ≤ depth + 1) :
    t.length ≤ depth := by
  have hlength := length_le_of_mem_intercalate h
  simp only [List.length_cons, List.length_append] at hdepth
  omega

theorem Spaced.length_text_le (v : Spaced) : v.text.length ≤ v.whole.length := by
  simp only [whole, List.length_append]
  omega

theorem Member.length_text_le (m : Member) : m.item.text.length ≤ m.whole.length := by
  have hitem := m.item.length_text_le
  simp only [whole, List.length_append, List.length_cons]
  omega

theorem exists_head_intercalate {parts : List (List Char × α)}
    (hparts : ∀ p ∈ parts, Takes item close p.1 p.2) (hne : parts ≠ []) (rest : List Char) :
    ∃ c cs, skipBlank (List.intercalate [','] (parts.map Prod.fst) ++ rest) = c :: cs ∧ c ≠ close := by
  obtain ⟨p, others, rfl⟩ := List.exists_cons_of_ne_nil hne
  have hfirst := hparts p List.mem_cons_self
  cases others with
  | nil =>
    rw [List.map_singleton, List.intercalate_singleton]
    exact hfirst.head rest
  | cons q others =>
    rw [List.map_cons, List.map_cons, List.intercalate_cons_cons, List.append_assoc, List.append_assoc]
    exact hfirst.head _

theorem enclosed_append (hclose : IsClosing close) {parts : List (List Char × α)}
    (hparts : ∀ p ∈ parts, Takes item close p.1 p.2) {closing : List Char} (hclosing : Blanks closing)
    (rest : List Char) :
    enclosed item close (List.intercalate [','] (parts.map Prod.fst) ++ (closing ++ close :: rest)) =
      some (parts.map Prod.snd, rest) := by
  by_cases hne : parts = []
  · subst hne
    rw [List.map_nil, List.intercalate_nil, List.nil_append, enclosed, skipBlank_append hclosing,
      skipBlank_cons hclose.isBlank_eq]
    simp
  · have hlength : parts.length ≤
        (List.intercalate [','] (parts.map Prod.fst) ++ (closing ++ close :: rest)).length := by
      have hcommas := length_le_intercalate (parts.map Prod.fst)
      simp only [List.length_append, List.length_cons, List.length_map] at hcommas ⊢
      omega
    obtain ⟨c, cs, hhead, hc⟩ := exists_head_intercalate hparts hne (closing ++ close :: rest)
    rw [enclosed, hhead]
    simp only [if_neg hc]
    exact listed_append hclose hparts hne hclosing rest hlength

theorem Takes.member {m : Member} {a : α} (h : Takes item close m.item.whole a) (hclose : close ≠ '"') :
    Takes (Json.member item) close m.whole (m.key, a) := by
  obtain ⟨before, name, key, gap, v, hbefore, hname, hgap⟩ := m
  obtain @⟨body, _, hbody⟩ := hname
  have hskip (rest : List Char) :
      skipBlank ((before ++ ('"' :: (body ++ ['"']) ++ (gap ++ ':' :: v.whole))) ++ rest) =
        '"' :: (body ++ '"' :: (gap ++ ':' :: (v.whole ++ rest))) := by
    simp only [List.append_assoc, List.cons_append, List.nil_append]
    rw [skipBlank_append hbefore, skipBlank_cons rfl]
  refine ⟨fun rest => ⟨_, _, hskip rest, hclose.symm⟩, fun rest hrest => ?_⟩
  obtain ⟨left, hread, hleft⟩ := h.read rest hrest
  refine ⟨left, ?_, hleft⟩
  rw [Member.whole, Json.member, hskip]
  simp only [hbody.stringBody?_append, skipBlank_append hgap, skipBlank_cons (c := ':') rfl, hread,
    Option.map_some, String.ofList_toList]

end Containers

theorem StartsNumber.isBlank_eq {c : Char} (hc : StartsNumber c) : isBlank c = false := by
  rw [← Bool.not_eq_true, isBlank_eq_true_iff]
  rintro (rfl | rfl | rfl | rfl) <;> exact hc.ne (by decide) rfl

theorem Denotes.exists_head {text : List Char} {j : Json} (h : Denotes text j) :
    ∃ c rest, text = c :: rest ∧ isBlank c = false ∧ c ≠ ']' ∧ c ≠ '\x7d' := by
  cases h with
  | number hl hx =>
    obtain ⟨c, rest, rfl, hc⟩ := hl.exists_head
    exact ⟨c, rest, rfl, hc.isBlank_eq, hc.ne (by decide), hc.ne (by decide)⟩
  | string h =>
    obtain ⟨-⟩ := h
    exact ⟨_, _, rfl, by decide⟩
  | _ => exact ⟨_, _, rfl, by decide⟩

/-- The texts that are no array and no object. -/
theorem value?_scalar (number : Literal → Option Number) (depth : Nat) {c : Char}
    (hblank : isBlank c = false) (harray : c ≠ '[') (hobject : c ≠ '\x7b') (cs : List Char) :
    value? number depth (c :: cs) = scalar? number (c :: cs) := by
  cases depth with
  | zero => rw [value?, skipBlank_cons hblank]
  | succ depth =>
    rw [value?, skipBlank_cons hblank]
    split
    · next h => exact absurd (List.cons.inj h).1 harray
    · next h => exact absurd (List.cons.inj h).1 hobject
    · rfl

theorem value?_append_blanks (number : Literal → Option Number) (depth : Nat) {before : List Char}
    (hbefore : Blanks before) (cs : List Char) :
    value? number depth (before ++ cs) = value? number depth cs := by
  cases depth <;> simp only [value?, skipBlank_append hbefore]

theorem scalar?_number (number : Literal → Option Number) {c : Char} (hc : StartsNumber c)
    (cs : List Char) : scalar? number (c :: cs) =
      (Literal.read? (c :: cs)).bind fun (l, rest) => (number l).map fun n => (.number n, rest) := by
  rw [scalar?]
  · cases Literal.read? (c :: cs) <;> rfl
  all_goals
    rintro rest ⟨⟩
    exact hc.ne (by decide) rfl

/-- What a container holds is read with one level less, for its texts are shorter. -/
theorem Spaced.takes {v : Spaced} {close : Char} (hclose : close = ']' ∨ close = '\x7d')
    (hv : Denotes v.text v.value) {depth : Nat}
    (ih : ∀ rest, Ends rest → value? Literal.nearest? depth (v.text ++ rest) = some (v.value, rest)) :
    Takes (value? Literal.nearest? depth) close v.whole v.value := by
  obtain ⟨c, cs, htext, hblank, hbracket, hbrace⟩ := hv.exists_head
  refine ⟨fun rest => ⟨c, cs ++ (v.after ++ rest), ?_, ?_⟩, fun rest hrest => ⟨v.after ++ rest, ?_, ?_⟩⟩
  · rw [whole, List.append_assoc, skipBlank_append v.blanks_before, List.append_assoc, htext,
      List.cons_append, skipBlank_cons hblank]
  · obtain rfl | rfl := hclose
    · exact hbracket
    · exact hbrace
  · rw [whole, List.append_assoc, value?_append_blanks _ _ v.blanks_before, List.append_assoc,
      ih _ (v.blanks_after.ends hrest)]
  · exact skipBlank_append v.blanks_after rest

/-- The reader finds what a text says if its depth is at least the length of the text. -/
theorem Denotes.value?_append {text : List Char} {j : Json} (h : Denotes text j) {depth : Nat}
    (hdepth : text.length ≤ depth) {rest : List Char} (hrest : Ends rest) :
    value? Literal.nearest? depth (text ++ rest) = some (j, rest) := by
  induction h generalizing depth rest with
  | null => rw [List.cons_append, value?_scalar _ _ rfl (by decide) (by decide)]; rfl
  | boolTrue => rw [List.cons_append, value?_scalar _ _ rfl (by decide) (by decide)]; rfl
  | boolFalse => rw [List.cons_append, value?_scalar _ _ rfl (by decide) (by decide)]; rfl
  | number hl hx =>
    have hread := hl.read?_append hrest
    obtain ⟨c, cs, rfl, hc⟩ := hl.exists_head
    rw [List.cons_append] at hread ⊢
    rw [value?_scalar _ _ hc.isBlank_eq (hc.ne (by decide)) (hc.ne (by decide)), scalar?_number _ hc,
      hread]
    simp only [Option.bind_some, hx.nearest?_eq, Option.map_some]
  | string h =>
    obtain ⟨hbody⟩ := h
    rw [List.cons_append, value?_scalar _ _ rfl (by decide) (by decide), scalar?, List.append_assoc,
      List.singleton_append, hbody.stringBody?_append, Option.map_some]
    simp only [String.ofList_toList]
  | @array items closing hitems hclosing ih =>
    obtain ⟨depth, rfl⟩ := Nat.exists_eq_succ_of_ne_zero (Nat.ne_zero_of_lt hdepth)
    have hparts : ∀ p ∈ items.map fun v => (v.whole, v.value),
        Takes (value? Literal.nearest? depth) ']' p.1 p.2 := by
      refine List.forall_mem_map.mpr fun v hv => v.takes (.inl rfl) (hitems v hv) fun rest hrest => ?_
      have hwhole := length_le_of_mem_container (List.mem_map_of_mem (f := Spaced.whole) hv) hdepth
      exact ih v hv (v.length_text_le.trans hwhole) hrest
    have hread := enclosed_append ⟨rfl, by decide, by rintro rest c ⟨⟩; decide⟩ hparts hclosing rest
    rw [List.map_map, List.map_map] at hread
    rw [List.cons_append, List.append_assoc, List.append_assoc, List.singleton_append, value?,
      skipBlank_cons rfl]
    exact congrArg (Option.map _) hread
  | @object members closing hmembers hclosing ih =>
    obtain ⟨depth, rfl⟩ := Nat.exists_eq_succ_of_ne_zero (Nat.ne_zero_of_lt hdepth)
    have hparts : ∀ p ∈ members.map fun m => (m.whole, (m.key, m.item.value)),
        Takes (member (value? Literal.nearest? depth)) '\x7d' p.1 p.2 := by
      refine List.forall_mem_map.mpr fun m hm => Takes.member ?_ (by decide)
      refine m.item.takes (.inr rfl) (hmembers m hm) fun rest hrest => ?_
      have hwhole := length_le_of_mem_container (List.mem_map_of_mem (f := Member.whole) hm) hdepth
      exact ih m hm (m.length_text_le.trans hwhole) hrest
    have hread := enclosed_append ⟨rfl, by decide, by rintro rest c ⟨⟩; decide⟩ hparts hclosing rest
    rw [List.map_map, List.map_map] at hread
    rw [List.cons_append, List.append_assoc, List.append_assoc, List.singleton_append, value?,
      skipBlank_cons rfl]
    exact congrArg (Option.map _) hread

/-- The reader finds what a text says. -/
theorem Says.exists_value? {text : String} {j : Json} (h : Says text j) :
    ∃ rest, value? Literal.nearest? text.toList.length text.toList = some (j, rest) := by
  obtain ⟨v, htext, rfl, hv⟩ := h
  have hends : Ends (v.after ++ []) := v.blanks_after.ends fun _ h => absurd h (Option.not_mem_none _)
  rw [List.append_nil] at hends
  refine ⟨v.after, ?_⟩
  rw [htext]
  exact (value?_append_blanks _ _ v.blanks_before _).trans (hv.value?_append v.length_text_le hends)

/-- A text says one document at most. -/
theorem Says.unique {text : String} {j j' : Json} (h : Says text j) (h' : Says text j') : j = j' := by
  obtain ⟨rest, hread⟩ := h.exists_value?
  obtain ⟨rest', hread'⟩ := h'.exists_value?
  exact (Prod.mk.inj (Option.some.inj (hread.symm.trans hread'))).1

end Json
end Telemetry
