import Telemetry.Proofs.Decimal
import Telemetry.Proofs.Uri

/-!
# Authorities of a host and a port

A host and a port are an authority if the host is made of letters, digits, points, hyphens and low lines, or of
these and at most eight colons in brackets. With a scheme of the web in front of it such an authority is an
identifier.
-/
namespace Telemetry.Uri

open Text

/-- The characters that a scan passes over. -/
def IsPlain (c : Char) : Prop := c.isAlphanum = true ∨ c = '-' ∨ c = '.' ∨ c = '_'

instance : DecidablePred IsPlain := fun _ => inferInstanceAs (Decidable (_ ∨ _))

theorem IsPlain.of_isDigit {c : Char} (h : c.isDigit = true) : IsPlain c :=
  .inl (by simp [Char.isAlphanum, h])

theorem isPlain_digits (n : Nat) : ∀ c ∈ Decimal.digits n, IsPlain c :=
  fun c hc => .of_isDigit (Decimal.isDigit_of_mem_digits n c hc)

theorem IsPlain.ne {c d : Char} (h : IsPlain c) (hd : ¬ IsPlain d) : c ≠ d := fun heq => hd (heq ▸ h)

namespace Scan

theorem step?_plain (s : Scan) {c : Char} (h : IsPlain c) : s.step? c = some s := by
  have hauthority : isAuthorityChar c = true := by
    obtain halphanum | rfl | rfl | rfl := h
    · simp [isAuthorityChar, halphanum]
    all_goals decide
  rw [step?, if_neg (h.ne (by decide)), if_neg (h.ne (by decide)), if_neg (h.ne (by decide)),
    if_neg (h.ne (by decide)), if_neg (h.ne (by decide)), if_pos hauthority]

/-- Of plain characters and colons a scan remembers the number of colons. -/
theorem foldlM_step? {cs : List Char} (h : ∀ c ∈ cs, c = ':' ∨ IsPlain c) (s : Scan)
    (hcolons : s.colons + cs.count ':' ≤ maxColons) :
    cs.foldlM step? s = some { s with colons := s.colons + cs.count ':' } := by
  induction cs generalizing s with
  | nil => rfl
  | cons c cs ih =>
    obtain ⟨hc, hcs⟩ := List.forall_mem_cons.mp h
    rw [List.foldlM_cons]
    obtain rfl | hplain := hc
    · rw [List.count_cons_self] at hcolons ⊢
      have hlt : s.colons < maxColons := by omega
      have hstep : s.step? ':' = some { s with colons := s.colons + 1 } := by
        rw [step?, if_pos rfl, if_pos hlt]
      rw [hstep]
      refine (ih hcs _ ?_).trans ?_
      · change s.colons + 1 + cs.count ':' ≤ maxColons
        omega
      · rw [Nat.add_right_comm, Nat.add_assoc]
    · rw [List.count_cons_of_ne (hplain.ne (by decide))] at hcolons ⊢
      rw [step?_plain s hplain]
      exact ih hcs s hcolons

end Scan

theorem getLast?_append_digits (front : List Char) (n : Nat) :
    (front ++ ':' :: Decimal.digits n).getLast? ≠ some '@' := by
  intro hlast
  rw [← List.singleton_append, ← List.append_assoc,
    List.getLast?_append_of_ne_nil _ (Decimal.digits_ne_nil n)] at hlast
  exact absurd (isPlain_digits n _ (List.mem_of_getLast? hlast)) (by decide)

theorem isAuthority_of_foldlM {cs : List Char} {s : Scan}
    (hscan : cs.foldlM Scan.step? Scan.start = some s) (haccepts : s.accepts = true)
    (hlast : cs.getLast? ≠ some '@') : isAuthority cs = true := by
  rw [isAuthority, hscan]
  exact Bool.and_eq_true_iff.mpr ⟨haccepts, decide_eq_true hlast⟩

theorem count_colon_of_plain {cs : List Char} (h : ∀ c ∈ cs, IsPlain c) : cs.count ':' = 0 :=
  List.count_eq_zero.mpr fun hcolon => absurd (h ':' hcolon) (by decide)

theorem foldlM_step?_plain {cs : List Char} (h : ∀ c ∈ cs, IsPlain c) {s : Scan}
    (hs : s.colons ≤ Scan.maxColons) : cs.foldlM Scan.step? s = some s := by
  have hcount := count_colon_of_plain h
  have hscan := Scan.foldlM_step? (fun c hc => .inr (h c hc)) s (by rwa [hcount])
  rwa [hcount] at hscan

theorem isAuthority_plain {host : List Char} (h : ∀ c ∈ host, IsPlain c) (n : Nat) :
    isAuthority (host ++ ':' :: Decimal.digits n) = true := by
  have hhost := foldlM_step?_plain h (show Scan.start.colons ≤ _ by decide)
  have hcolon : Scan.start.step? ':' = some ⟨1, false, false, false⟩ := rfl
  have hport := foldlM_step?_plain (isPlain_digits n) (show (Scan.mk 1 false false false).colons ≤ _ by decide)
  have hscan : (host ++ ':' :: Decimal.digits n).foldlM Scan.step? Scan.start =
      some ⟨1, false, false, false⟩ := by
    simp [List.foldlM_append, hhost, hcolon, hport]
  exact isAuthority_of_foldlM hscan rfl (getLast?_append_digits host n)

/-- A bracket makes a scan forget the colons in front of it. -/
theorem isAuthority_bracket {inner : List Char} (h : ∀ c ∈ inner, c = ':' ∨ IsPlain c)
    (hcolons : inner.count ':' ≤ Scan.maxColons) (n : Nat) :
    isAuthority ('[' :: (inner ++ [']']) ++ ':' :: Decimal.digits n) = true := by
  have hopen : Scan.start.step? '[' = some ⟨0, false, true, false⟩ := rfl
  have hinner := Scan.foldlM_step? h ⟨0, false, true, false⟩ (by simpa using hcolons)
  have hclose (colons : Nat) : Scan.step? ⟨colons, false, true, false⟩ ']' =
      some ⟨0, false, true, true⟩ := rfl
  have hcolon : Scan.step? ⟨0, false, true, true⟩ ':' = some ⟨1, false, true, true⟩ := rfl
  have hport := foldlM_step?_plain (isPlain_digits n) (show (Scan.mk 1 false true true).colons ≤ _ by decide)
  have hscan : ('[' :: (inner ++ [']']) ++ ':' :: Decimal.digits n).foldlM Scan.step? Scan.start =
      some ⟨1, false, true, true⟩ := by
    simp [List.foldlM_append, hopen, hinner, hclose, hcolon, hport]
  exact isAuthority_of_foldlM hscan rfl (getLast?_append_digits _ n)

theorem scheme?_http (rest : List Char) :
    scheme? ("http".toList ++ (schemeEnd ++ rest)) = some (some ("http".toList, rest)) := by
  have htake : ("http".toList ++ (schemeEnd ++ rest)).take 7 = "http://".toList := rfl
  rw [scheme?, htake]
  rfl

theorem scheme?_https (rest : List Char) :
    scheme? (https ++ (schemeEnd ++ rest)) = some (some (https, rest)) :=
  scheme?_of_startsHttps (show sameLetters "https://".toList _ = true by decide)

/-- An authority with a scheme of the web in front of it is an identifier. -/
theorem parse?_authority {scheme authority : List Char}
    (hscheme : scheme = "http".toList ∨ scheme = https) (hauthority : isAuthority authority = true)
    (hne : authority ≠ []) (hends : ∀ c ∈ authority, endsAuthority c = false)
    (hlength : authority.length ≤ 16000) :
    parse? (.ofList (scheme ++ (schemeEnd ++ authority))) = some (.absolute scheme authority [] none) := by
  have hread : scheme? (scheme ++ (schemeEnd ++ authority)) = some (some (scheme, authority)) := by
    obtain rfl | rfl := hscheme
    · exact scheme?_http authority
    · exact scheme?_https authority
  have hrest : ∀ c ∈ authority, (!endsAuthority c) = true := fun c hc => by rw [hends c hc]; rfl
  have hwhole : readAuthority? authority = some (authority, []) := by
    rw [readAuthority?, List.takeWhile_eq_self_iff.mpr hrest, List.dropWhile_eq_nil_iff.mpr hrest]
    exact if_pos hauthority
  have hfull : full? (scheme ++ (schemeEnd ++ authority)) =
      some (.absolute scheme authority [] none) := by
    simp only [full?, hread, hwhole]
    rw [if_neg (by simpa using hne)]
    rfl
  have hbytes : ¬ maxBytes < (String.ofList (scheme ++ (schemeEnd ++ authority))).utf8ByteSize := by
    have hsize := utf8ByteSize_ofList_le (scheme ++ (schemeEnd ++ authority))
    have hshort : scheme.length ≤ 5 := by obtain rfl | rfl := hscheme <;> decide
    have hparts : (scheme ++ (schemeEnd ++ authority)).length = scheme.length + (3 + authority.length) := by
      rw [List.length_append, List.length_append]
      rfl
    unfold maxBytes
    omega
  rw [parse?, if_neg hbytes, String.toList_ofList, ← hfull]
  obtain rfl | rfl := hscheme <;> rfl

theorem hostAndPort_eq {authority : List Char} (h : '@' ∉ authority) :
    hostAndPort authority = authority := by
  have hreverse : ∀ c ∈ authority.reverse, decide (c ≠ '@') = true := fun c hc =>
    decide_eq_true fun heq => h (heq ▸ List.mem_reverse.mp hc)
  rw [hostAndPort, List.takeWhile_eq_self_iff.mpr hreverse, List.reverse_reverse]

theorem hostOf_plain {host : List Char} (h : ∀ c ∈ host, IsPlain c) (n : Nat) :
    hostOf (host ++ ':' :: Decimal.digits n) = host := by
  have hat : '@' ∉ host ++ ':' :: Decimal.digits n := by
    intro hmem
    obtain hmem | hmem := List.mem_append.mp hmem
    · exact absurd (h _ hmem) (by decide)
    · obtain hcolon | hmem := List.mem_cons.mp hmem
      · exact absurd hcolon (by decide)
      · exact absurd (isPlain_digits n _ hmem) (by decide)
  have hcolon : ∀ c ∈ host, decide (c ≠ ':') = true := fun c hc =>
    decide_eq_true ((h c hc).ne (by decide))
  rw [hostOf, hostAndPort_eq hat]
  split
  case h_1 rest heq =>
    cases host with
    | nil => exact absurd (List.cons.inj heq).1 (by decide)
    | cons c host =>
      obtain rfl := (List.cons.inj heq).1
      exact absurd (h _ List.mem_cons_self) (by decide)
  case h_2 =>
    rw [List.takeWhile_append_of_pos hcolon]
    simp

/-- The host of an authority that starts with a bracket does so too. -/
theorem exists_hostOf_bracket {cs : List Char} (h : '@' ∉ '[' :: cs) :
    ∃ rest, hostOf ('[' :: cs) = '[' :: rest := by
  rw [hostOf, hostAndPort_eq h]
  exact ⟨_, rfl⟩

end Telemetry.Uri
