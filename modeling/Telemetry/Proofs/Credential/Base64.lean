import Mathlib.Tactic
import Telemetry.Credential.Base64

/-!
# Reading base64

Texts are read in groups of four symbols, and every group that is read is the form of the bytes it gives:
`bytesOf_four` and `encode_four` take full groups to bytes and back, `bytesOf_two` and its kin the last
one. `decode_eq_ok_iff` says that bytes have one form only, with padding and without bits left over.
-/
namespace Telemetry.Base64

theorem symbol?_ofSixBits {n : Nat} (h : n < 64) : symbol? (ofSixBits n) = some n := by
  have hall : ∀ n < 64, symbol? (ofSixBits n) = some n := by decide
  exact hall n h

theorem ofSixBits_ne_pad {n : Nat} (h : n < 64) : ofSixBits n ≠ pad := by
  have hall : ∀ n < 64, ofSixBits n ≠ pad := by decide
  exact hall n h

theorem ofSixBits_of_symbol? {b : UInt8} {n : Nat} (h : symbol? b = some n) :
    n < 64 ∧ ofSixBits n = b := by
  have hall : ∀ k < 256, ∀ n ∈ symbol? (.ofNat k), n < 64 ∧ ofSixBits n = .ofNat k := by
    decide +kernel
  have hb := hall b.toNat b.toNat_lt n
  rw [UInt8.ofNat_toNat] at hb
  exact hb h

theorem symbols_map (offset : Nat) (ns : List Nat) (h : ∀ n ∈ ns, n < 64) :
    symbols offset (ns.map ofSixBits) = .ok ns := by
  induction ns generalizing offset with
  | nil => rfl
  | cons n ns ih =>
    have hn := symbol?_ofSixBits (h n List.mem_cons_self)
    have hns := ih (offset + 1) fun m hm => h m (List.mem_cons_of_mem n hm)
    simp only [List.map_cons, symbols, hn, hns]

theorem eq_map_of_symbols {offset : Nat} {bs : List UInt8} {ns : List Nat}
    (h : symbols offset bs = .ok ns) : bs = ns.map ofSixBits ∧ ∀ n ∈ ns, n < 64 := by
  induction bs generalizing offset ns with
  | nil =>
    obtain rfl : [] = ns := Except.ok.inj h
    simp
  | cons b bs ih =>
    rw [symbols] at h
    split at h
    · cases h
    · next n hn =>
      split at h
      · cases h
      · next ns' hns =>
        obtain rfl : n :: ns' = ns := Except.ok.inj h
        obtain ⟨hlt, hb⟩ := ofSixBits_of_symbol? hn
        obtain ⟨hbs, hall⟩ := ih hns
        refine ⟨by rw [List.map_cons, hb, hbs], ?_⟩
        simpa using ⟨hlt, hall⟩

theorem bytesOf_two {m n : Nat} (hm : m < 64) (hn : n < 64) :
    bytesOf 12 (ofSymbols [m, n]) = [.ofNat (m * 4 + n / 16)] := by
  have hvalue : ofSymbols [m, n] = 64 * m + n := by simp [ofSymbols]
  have hbyte : (64 * m + n) / 16 % 256 = m * 4 + n / 16 := by omega
  simpa [bytesOf, hvalue] using congrArg UInt8.ofNat hbyte

theorem bytesOf_three {l m n : Nat} (hl : l < 64) (hm : m < 64) (hn : n < 64) :
    bytesOf 18 (ofSymbols [l, m, n]) = [.ofNat (l * 4 + m / 16), .ofNat (m % 16 * 16 + n / 4)] := by
  have hvalue : ofSymbols [l, m, n] = 4096 * l + 64 * m + n := by simp [ofSymbols]; omega
  have hfirst : (4096 * l + 64 * m + n) / 1024 % 256 = l * 4 + m / 16 := by omega
  have hsecond : (4096 * l + 64 * m + n) / 4 % 256 = m % 16 * 16 + n / 4 := by omega
  simp [bytesOf, hvalue, List.range_succ, hfirst, hsecond]

theorem bytesOf_four {k l m n : Nat} (hk : k < 64) (hl : l < 64) (hm : m < 64) (hn : n < 64) :
    bytesOf 24 (ofSymbols [k, l, m, n]) =
      [.ofNat (k * 4 + l / 16), .ofNat (l % 16 * 16 + m / 4), .ofNat (m % 4 * 64 + n)] := by
  have hvalue : ofSymbols [k, l, m, n] = 262144 * k + 4096 * l + 64 * m + n := by
    simp [ofSymbols]; omega
  have hfirst : (262144 * k + 4096 * l + 64 * m + n) / 65536 % 256 = k * 4 + l / 16 := by omega
  have hsecond : (262144 * k + 4096 * l + 64 * m + n) / 256 % 256 = l % 16 * 16 + m / 4 := by omega
  have hthird : (262144 * k + 4096 * l + 64 * m + n) % 256 = m % 4 * 64 + n := by omega
  simp [bytesOf, hvalue, List.range_succ, hfirst, hsecond, hthird]

theorem encode_two {m n : Nat} (hm : m < 64) (hn : n < 64) (h : n % 16 = 0) :
    encode [.ofNat (m * 4 + n / 16)] = [m, n].map ofSixBits ++ [pad, pad] := by
  have hbyte := UInt8.toNat_ofNat_of_lt' (show m * 4 + n / 16 < 256 by omega)
  have hfirst : (m * 4 + n / 16) / 4 = m := by omega
  have hsecond : (m * 4 + n / 16) % 4 * 16 = n := by omega
  simp only [encode, hbyte, hfirst, hsecond,
    List.map_cons, List.map_nil, List.cons_append, List.nil_append]

theorem encode_three {l m n : Nat} (hl : l < 64) (hm : m < 64) (hn : n < 64) (h : n % 4 = 0) :
    encode [.ofNat (l * 4 + m / 16), .ofNat (m % 16 * 16 + n / 4)] =
      [l, m, n].map ofSixBits ++ [pad] := by
  have ha := UInt8.toNat_ofNat_of_lt' (show l * 4 + m / 16 < 256 by omega)
  have hb := UInt8.toNat_ofNat_of_lt' (show m % 16 * 16 + n / 4 < 256 by omega)
  have hfirst : (l * 4 + m / 16) / 4 = l := by omega
  have hsecond : (l * 4 + m / 16) % 4 * 16 + (m % 16 * 16 + n / 4) / 16 = m := by omega
  have hthird : (m % 16 * 16 + n / 4) % 16 * 4 = n := by omega
  simp only [encode, ha, hb, hfirst, hsecond, hthird,
    List.map_cons, List.map_nil, List.cons_append, List.nil_append]

theorem encode_four {k l m n : Nat} (hk : k < 64) (hl : l < 64) (hm : m < 64) (hn : n < 64)
    (rest : List UInt8) :
    encode (.ofNat (k * 4 + l / 16) :: .ofNat (l % 16 * 16 + m / 4) :: .ofNat (m % 4 * 64 + n) :: rest) =
      [k, l, m, n].map ofSixBits ++ encode rest := by
  have ha := UInt8.toNat_ofNat_of_lt' (show k * 4 + l / 16 < 256 by omega)
  have hb := UInt8.toNat_ofNat_of_lt' (show l % 16 * 16 + m / 4 < 256 by omega)
  have hc := UInt8.toNat_ofNat_of_lt' (show m % 4 * 64 + n < 256 by omega)
  have hfirst : (k * 4 + l / 16) / 4 = k := by omega
  have hsecond : (k * 4 + l / 16) % 4 * 16 + (l % 16 * 16 + m / 4) / 16 = l := by omega
  have hthird : (l % 16 * 16 + m / 4) % 16 * 4 + (m % 4 * 64 + n) / 64 = m := by omega
  have hfourth : (m % 4 * 64 + n) % 64 = n := by omega
  simp only [encode, ha, hb, hc, hfirst, hsecond, hthird, hfourth,
    List.map_cons, List.map_nil, List.cons_append, List.nil_append]

/-- The last group holds its symbols, as many as its bytes need, and padding up to four. -/
theorem decodeLast_eq_ok_iff (offset : Nat) (group bytes : List UInt8) :
    decodeLast offset group = .ok bytes ↔ ∃ ns k, group = ns.map ofSixBits ++ List.replicate k pad ∧
      (∀ n ∈ ns, n < 64) ∧ (2 ≤ ns.length ∨ ns = [] ∧ k = 0) ∧ (ns.length + k) % 4 = 0 ∧
      ofSymbols ns % 2 ^ (6 * ns.length % 8) = 0 ∧ bytes = bytesOf (6 * ns.length) (ofSymbols ns) := by
  constructor
  · intro h
    unfold decodeLast at h
    dsimp only at h
    split at h
    · cases h
    · next ns hns =>
      obtain ⟨hwritten, hlt⟩ := eq_map_of_symbols hns
      have hgroup := List.takeWhile_append_dropWhile (p := (· ≠ pad)) (l := group)
      generalize group.dropWhile (· ≠ pad) = padding at h hgroup
      rw [hwritten] at hgroup
      split_ifs at h with hstray hshort hlength hbits
      have hpadding : padding = List.replicate padding.length pad := by
        refine List.eq_replicate_iff.mpr ⟨rfl, fun b hb => ?_⟩
        by_contra hne
        refine hstray ?_
        simpa [List.ne_nil_of_mem hb] using Or.inr ⟨b, hb, hne⟩
      refine ⟨ns, padding.length, ?_, hlt, ?_, ?_, ?_, (Except.ok.inj h).symm⟩
      · rw [← hpadding, hgroup]
      · by_cases hempty : group = []
        · subst hempty
          have hnil := List.append_eq_nil_iff.mp hgroup
          exact .inr ⟨List.map_eq_nil_iff.mp hnil.1, by rw [hnil.2, List.length_nil]⟩
        · exact .inl (Nat.succ_le_of_lt (by simpa [hempty] using hshort))
      · simpa using hlength
      · simpa using hbits
  · rintro ⟨ns, k, rfl, hlt, hcount, hlength, hbits, rfl⟩
    have hne : ∀ b ∈ ns.map ofSixBits, b ≠ pad := by
      intro b hb
      obtain ⟨n, hn, rfl⟩ := List.mem_map.mp hb
      exact ofSixBits_ne_pad (hlt n hn)
    have hwritten : (ns.map ofSixBits ++ List.replicate k pad).takeWhile (· ≠ pad) =
        ns.map ofSixBits := by
      rw [List.takeWhile_append_of_pos (by simpa using hne)]
      cases k <;> simp [List.replicate_succ]
    have hpadding : (ns.map ofSixBits ++ List.replicate k pad).dropWhile (· ≠ pad) =
        List.replicate k pad := by
      rw [List.dropWhile_append_of_pos (by simpa using hne)]
      cases k <;> simp [List.replicate_succ]
    simp only [decodeLast, hwritten, hpadding, symbols_map offset ns hlt]
    rw [if_neg, if_neg, if_neg, if_neg]
    · simpa using hbits
    · simpa using hlength
    · rcases hcount with hcount | ⟨rfl, rfl⟩
      · simp [Nat.not_lt.mpr hcount]
      · simp
    · rcases hcount with hcount | ⟨rfl, rfl⟩
      · simp [Nat.not_lt.mpr hcount]
      · simp

/-- The six bits of each symbol of three bytes. -/
def sixBits (a b c : UInt8) : List Nat :=
  [a.toNat / 4, a.toNat % 4 * 16 + b.toNat / 16, b.toNat % 16 * 4 + c.toNat / 64, c.toNat % 64]

theorem encode_cons (a b c : UInt8) (rest : List UInt8) :
    encode (a :: b :: c :: rest) = (sixBits a b c).map ofSixBits ++ encode rest := rfl

theorem lt_of_mem_sixBits {a b c : UInt8} {n : Nat} (h : n ∈ sixBits a b c) : n < 64 := by
  have ha := a.toNat_lt
  have hb := b.toNat_lt
  have hc := c.toNat_lt
  simp only [sixBits, List.mem_cons, List.not_mem_nil, or_false] at h
  omega

theorem bytesOf_sixBits (a b c : UInt8) : bytesOf 24 (ofSymbols (sixBits a b c)) = [a, b, c] := by
  have ha := a.toNat_lt
  have hb := b.toNat_lt
  have hc := c.toNat_lt
  have hfirst : a.toNat / 4 * 4 + (a.toNat % 4 * 16 + b.toNat / 16) / 16 = a.toNat := by omega
  have hsecond : (a.toNat % 4 * 16 + b.toNat / 16) % 16 * 16 +
      (b.toNat % 16 * 4 + c.toNat / 64) / 4 = b.toNat := by omega
  have hthird : (b.toNat % 16 * 4 + c.toNat / 64) % 4 * 64 + c.toNat % 64 = c.toNat := by omega
  rw [sixBits, bytesOf_four (by omega) (by omega) (by omega) (by omega), hfirst, hsecond, hthird]
  simp only [UInt8.ofNat_toNat]

theorem decodeLast_encode (offset : Nat) (bytes : List UInt8) (h : bytes.length ≤ 3) :
    decodeLast offset (encode bytes) = .ok bytes := by
  rw [decodeLast_eq_ok_iff]
  match bytes, h with
  | [], _ => exact ⟨[], 0, rfl, by simp, .inr ⟨rfl, rfl⟩, rfl, rfl, rfl⟩
  | [a], _ =>
    have ha := a.toNat_lt
    have hbyte : a.toNat / 4 * 4 + a.toNat % 4 * 16 / 16 = a.toNat := by omega
    refine ⟨[a.toNat / 4, a.toNat % 4 * 16], 2, rfl, ?_, .inl le_rfl, by simp, ?_, ?_⟩
    · simp; omega
    · simp [ofSymbols]; omega
    · rw [List.length_cons, List.length_singleton, bytesOf_two (by omega) (by omega), hbyte,
        UInt8.ofNat_toNat]
  | [a, b], _ =>
    have ha := a.toNat_lt
    have hb := b.toNat_lt
    have hfirst : a.toNat / 4 * 4 + (a.toNat % 4 * 16 + b.toNat / 16) / 16 = a.toNat := by omega
    have hsecond : (a.toNat % 4 * 16 + b.toNat / 16) % 16 * 16 + b.toNat % 16 * 4 / 4 = b.toNat := by
      omega
    refine ⟨[a.toNat / 4, a.toNat % 4 * 16 + b.toNat / 16, b.toNat % 16 * 4], 1, rfl, ?_,
      .inl (by simp), by simp, ?_, ?_⟩
    · simp; omega
    · simp [ofSymbols]; omega
    · rw [List.length_cons, List.length_cons, List.length_singleton,
        bytesOf_three (by omega) (by omega) (by omega), hfirst, hsecond]
      simp only [UInt8.ofNat_toNat]
  | [a, b, c], _ =>
    refine ⟨sixBits a b c, 0, rfl, fun _ => lt_of_mem_sixBits, .inl (by simp [sixBits]),
      by simp [sixBits], ?_, ?_⟩
    · simp [sixBits, Nat.mod_one]
    · exact (bytesOf_sixBits a b c).symm

theorem eq_encode_of_decodeLast {offset : Nat} {group bytes : List UInt8} (hlen : group.length ≤ 4)
    (h : decodeLast offset group = .ok bytes) : group = encode bytes := by
  obtain ⟨ns, k, rfl, hlt, hcount, hlength, hbits, rfl⟩ := (decodeLast_eq_ok_iff _ _ _).mp h
  rw [List.length_append, List.length_map, List.length_replicate] at hlen
  match ns with
  | [] =>
    obtain rfl : k = 0 := by simpa using hcount
    rfl
  | [_] => simp at hcount
  | [m, n] =>
    obtain rfl : k = 2 := by simp at hlen hlength; omega
    simp only [List.mem_cons, List.not_mem_nil, or_false, forall_eq_or_imp, forall_eq] at hlt
    have hn : n % 16 = 0 := by simp [ofSymbols] at hbits; omega
    rw [List.length_cons, List.length_singleton, bytesOf_two hlt.1 hlt.2, encode_two hlt.1 hlt.2 hn]
    rfl
  | [l, m, n] =>
    obtain rfl : k = 1 := by simp at hlen hlength; omega
    simp only [List.mem_cons, List.not_mem_nil, or_false, forall_eq_or_imp, forall_eq] at hlt
    have hn : n % 4 = 0 := by simp [ofSymbols] at hbits; omega
    rw [List.length_cons, List.length_cons, List.length_singleton,
      bytesOf_three hlt.1 hlt.2.1 hlt.2.2, encode_three hlt.1 hlt.2.1 hlt.2.2 hn]
    rfl
  | [j, l, m, n] =>
    obtain rfl : k = 0 := by simp at hlen; omega
    simp only [List.mem_cons, List.not_mem_nil, or_false, forall_eq_or_imp, forall_eq] at hlt
    rw [List.length_cons, List.length_cons, List.length_cons, List.length_singleton,
      bytesOf_four hlt.1 hlt.2.1 hlt.2.2.1 hlt.2.2.2, encode_four hlt.1 hlt.2.1 hlt.2.2.1 hlt.2.2.2]
    rfl
  | _ :: _ :: _ :: _ :: _ :: _ => simp at hlen; omega

theorem encode_ne_nil {bytes : List UInt8} (h : bytes ≠ []) : encode bytes ≠ [] := by
  match bytes with
  | [_] => simp [encode]
  | [_, _] => simp [encode]
  | _ :: _ :: _ :: _ => simp [encode]

theorem decodeFrom_of_length_le (offset : Nat) {group : List UInt8} (h : group.length ≤ 4) :
    decodeFrom offset group = decodeLast offset group := by
  match group with
  | [] | [_] | [_, _] | [_, _, _] | [_, _, _, _] => rfl
  | _ :: _ :: _ :: _ :: _ :: _ => simp at h; omega

theorem decodeFrom_append (offset : Nat) {a b c d : UInt8} {rest : List UInt8} (h : rest ≠ []) :
    decodeFrom offset (a :: b :: c :: d :: rest) =
      (symbols offset [a, b, c, d]).bind fun ns =>
        (decodeFrom (offset + 4) rest).map (bytesOf 24 (ofSymbols ns) ++ ·) := by
  have hmore : rest.isEmpty = false := List.isEmpty_eq_false_iff.mpr h
  rw [decodeFrom, hmore, if_neg Bool.false_ne_true]
  cases symbols offset [a, b, c, d] with
  | error e => rfl
  | ok ns => cases decodeFrom (offset + 4) rest <;> rfl

theorem decodeFrom_encode (offset : Nat) (bytes : List UInt8) :
    decodeFrom offset (encode bytes) = .ok bytes := by
  induction bytes using encode.induct generalizing offset with
  | case1 => rfl
  | case2 a => exact decodeLast_encode offset [a] (by simp)
  | case3 a b => exact decodeLast_encode offset [a, b] (by simp)
  | case4 a b c rest ih =>
    by_cases hrest : rest = []
    · subst hrest
      exact decodeLast_encode offset [a, b, c] (by simp)
    · have hsymbols := symbols_map offset (sixBits a b c) fun _ => lt_of_mem_sixBits
      calc decodeFrom offset (encode (a :: b :: c :: rest))
          = (symbols offset ((sixBits a b c).map ofSixBits)).bind fun ns =>
              (decodeFrom (offset + 4) (encode rest)).map (bytesOf 24 (ofSymbols ns) ++ ·) :=
            decodeFrom_append offset (encode_ne_nil hrest)
        _ = .ok (bytesOf 24 (ofSymbols (sixBits a b c)) ++ rest) := by rw [hsymbols, ih]; rfl
        _ = .ok (a :: b :: c :: rest) := by rw [bytesOf_sixBits]; rfl

theorem eq_encode_of_decodeFrom {offset : Nat} {text bytes : List UInt8}
    (h : decodeFrom offset text = .ok bytes) : text = encode bytes := by
  induction hn : text.length using Nat.strongRecOn generalizing offset text bytes with
  | ind n ih =>
    by_cases hlen : text.length ≤ 4
    · rw [decodeFrom_of_length_le offset hlen] at h
      exact eq_encode_of_decodeLast hlen h
    · match text with
      | a :: b :: c :: d :: e :: rest =>
        rw [decodeFrom_append offset (List.cons_ne_nil e rest)] at h
        cases hsymbols : symbols offset [a, b, c, d] with
        | error e => rw [hsymbols] at h; cases h
        | ok ns =>
          cases hmore : decodeFrom (offset + 4) (e :: rest) with
          | error e => rw [hsymbols, hmore] at h; cases h
          | ok more =>
            rw [hsymbols, hmore] at h
            obtain rfl : bytesOf 24 (ofSymbols ns) ++ more = bytes := Except.ok.inj h
            have hrest := ih (e :: rest).length (by simp at hn ⊢; omega) hmore rfl
            obtain ⟨hgroup, hlt⟩ := eq_map_of_symbols hsymbols
            match ns with
            | [j, l, m, n] =>
              simp only [List.mem_cons, List.not_mem_nil, or_false, forall_eq_or_imp, forall_eq] at hlt
              rw [bytesOf_four hlt.1 hlt.2.1 hlt.2.2.1 hlt.2.2.2]
              simp only [List.cons_append, List.nil_append]
              rw [encode_four hlt.1 hlt.2.1 hlt.2.2.1 hlt.2.2.2, ← hgroup, ← hrest]
              rfl
            | [] | [_] | [_, _] | [_, _, _] | _ :: _ :: _ :: _ :: _ :: _ => simp at hgroup
      | [] | [_] | [_, _] | [_, _, _] | [_, _, _, _] => simp at hlen

theorem length_encode_mod (bytes : List UInt8) : (encode bytes).length % 4 = 0 := by
  induction bytes using encode.induct with
  | case1 | case2 a | case3 a b => simp [encode]
  | case4 a b c rest ih => simp [encode_cons, sixBits]; omega

/-- A text is read exactly if it is the canonical form of some bytes, and as these bytes. -/
theorem decode_eq_ok_iff (text bytes : List UInt8) : decode text = .ok bytes ↔ text = encode bytes := by
  have hread (hne : text ≠ []) (hlen : text.length % 4 ≠ 1) : decode text = decodeFrom 0 text := by
    rw [decode, List.getLast?_eq_some_getLast hne]
    exact if_neg fun h => hlen h.1
  constructor
  · intro h
    by_cases hne : text = []
    · subst hne
      obtain rfl : [] = bytes := Except.ok.inj h
      rfl
    · unfold decode at h
      rw [List.getLast?_eq_some_getLast hne] at h
      dsimp only at h
      split_ifs at h
      exact eq_encode_of_decodeFrom h
  · rintro rfl
    by_cases hbytes : bytes = []
    · subst hbytes
      rfl
    · rw [hread (encode_ne_nil hbytes) (by rw [length_encode_mod]; decide), decodeFrom_encode]

/-- Neither white space nor a character beyond ASCII has such a byte. -/
theorem symbol_of_mem_encode {bytes : List UInt8} {b : UInt8} (h : b ∈ encode bytes) :
    32 < b.toNat ∧ b.toNat < 128 := by
  have hsymbol (n : Nat) : 32 < (ofSixBits n).toNat ∧ (ofSixBits n).toNat < 128 := by
    unfold ofSixBits
    split_ifs <;> first | decide | (rw [UInt8.toNat_ofNat_of_lt' (by change _ < 256; omega)]; omega)
  induction bytes using encode.induct with
  | case1 => simp [encode] at h
  | case2 a =>
    simp only [encode, List.mem_cons, List.not_mem_nil, or_false] at h
    rcases h with rfl | rfl | rfl | rfl <;> first | exact hsymbol _ | decide
  | case3 a b =>
    simp only [encode, List.mem_cons, List.not_mem_nil, or_false] at h
    rcases h with rfl | rfl | rfl | rfl <;> first | exact hsymbol _ | decide
  | case4 a b c rest ih =>
    rw [encode_cons, List.mem_append] at h
    rcases h with h | h
    · obtain ⟨n, -, rfl⟩ := List.mem_map.mp h
      exact hsymbol n
    · exact ih h

end Telemetry.Base64
