import Telemetry.Proofs.Decimal
import Telemetry.Proofs.Text.Hex
import Telemetry.ServerName

/-!
# Domain names and addresses

What a server can be called, as data: a domain name by its labels, an address by its four octets, and an
address by its eight groups. The first two are server names; an address of groups stands between brackets and
is none.
-/
namespace Telemetry

namespace Text

/-- Separators stand between parts, one less than there are parts. -/
theorem count_intercalate {separator : Char} {parts : List (List Char)}
    (h : ∀ part ∈ parts, separator ∉ part) :
    ([separator].intercalate parts).count separator = parts.length - 1 := by
  induction parts with
  | nil => rfl
  | cons part parts ih =>
    obtain ⟨hpart, hparts⟩ := List.forall_mem_cons.mp h
    cases parts with
    | nil => simp [List.count_eq_zero.mpr hpart]
    | cons part' parts =>
      rw [List.intercalate_cons_cons, List.count_append, List.count_append, ih hparts,
        List.count_eq_zero.mpr hpart, List.count_singleton_self]
      simp only [List.length_cons]
      omega

theorem length_intercalate_le {separator : Char} {parts : List (List Char)} {n : Nat}
    (h : ∀ part ∈ parts, part.length ≤ n) :
    ([separator].intercalate parts).length ≤ (n + 1) * parts.length := by
  induction parts with
  | nil => simp
  | cons part parts ih =>
    obtain ⟨hpart, hparts⟩ := List.forall_mem_cons.mp h
    have hrest := ih hparts
    cases parts with
    | nil => simpa using Nat.le_succ_of_le hpart
    | cons part' parts =>
      rw [List.intercalate_cons_cons, List.length_append, List.length_append, List.length_singleton,
        List.length_cons, Nat.mul_succ]
      omega

/-- A separator at the end stands in front of an empty part. -/
theorem intercalate_append_nil {separator : Char} {parts : List (List Char)} (h : parts ≠ []) :
    [separator].intercalate (parts ++ [[]]) = [separator].intercalate parts ++ [separator] := by
  induction parts with
  | nil => exact absurd rfl h
  | cons part parts ih =>
    cases parts with
    | nil => simp
    | cons part' parts =>
      rw [List.cons_append, List.cons_append, List.intercalate_cons_cons, ← List.cons_append,
        ih (List.cons_ne_nil _ _), List.intercalate_cons_cons]
      simp only [List.append_assoc]

end Text

namespace ServerName

theorem splitOn_eq (separator : Char) (cs : List Char) : splitOn separator cs = cs.splitOn separator := by
  induction cs with
  | nil => rfl
  | cons c cs ih =>
    rw [splitOn, ih, List.splitOn, List.splitOn, List.splitOnP_cons_eq_if_modifyHead]
    simp only [beq_iff_eq]
    split_ifs
    · rfl
    · cases hparts : List.splitOnP (· == separator) cs with
      | nil => exact absurd hparts (List.splitOnP_ne_nil _ _)
      | cons part parts => rfl

theorem mem_labels {cs part : List Char} (h : part ∈ splitOn '.' cs) : part ∈ labels cs ∨ part = [] := by
  rw [labels]
  split_ifs with hlast
  · rw [← List.dropLast_append_getLast? [] hlast.2] at h
    exact (List.mem_append.mp h).imp_right List.mem_singleton.mp
  · exact .inl h

end ServerName

/-- The characters of a server name. -/
theorem char_of_isServerName {cs : List Char} (h : isServerName cs = true) {c : Char} (hc : c ∈ cs) :
    c = '.' ∨ ServerName.isLabelChar c = true := by
  have hparts : ['.'].intercalate (ServerName.splitOn '.' cs) = cs := by
    rw [ServerName.splitOn_eq, List.intercalate_splitOn]
  rw [← hparts] at hc
  obtain rfl | ⟨part, hpart, hc⟩ := Text.mem_intercalate hc
  · exact .inl rfl
  · right
    obtain hname | hoctets := Bool.or_eq_true_iff.mp h
    · obtain hlabel | rfl := ServerName.mem_labels hpart
      · simp only [ServerName.isDomainName, Bool.and_eq_true] at hname
        have hisLabel := List.all_eq_true.mp hname.1.2 part hlabel
        simp only [ServerName.isLabel, Bool.and_eq_true] at hisLabel
        exact List.all_eq_true.mp hisLabel.1.2 c hc
      · exact absurd hc List.not_mem_nil
    · simp only [ServerName.isFourOctets, Bool.and_eq_true] at hoctets
      have hisOctet := List.all_eq_true.mp hoctets.2 part hpart
      simp only [ServerName.isOctet, Bool.and_eq_true] at hisOctet
      have hdigit := List.all_eq_true.mp hisOctet.1.1.2 c hc
      simp [ServerName.isLabelChar, Char.isAlphanum, hdigit]

/-- An address in brackets is no server name. -/
theorem isServerName_bracket (cs : List Char) : isServerName ('[' :: cs) = false :=
  Bool.eq_false_iff.mpr fun h => absurd (char_of_isServerName h List.mem_cons_self) (by decide)

/-- Letters, digits, low lines and hyphens, with no hyphen at an end. -/
structure IsLabel (label : List Char) : Prop where
  length : 1 ≤ label.length ∧ label.length ≤ 63
  char : ∀ c ∈ label, c.isAlphanum = true ∨ c = '_' ∨ c = '-'
  head : label.head? ≠ some '-'
  last : label.getLast? ≠ some '-'

/-- A domain name by its labels, with or without a point behind them. The last label is no number. -/
structure DomainName where
  labels : List (List Char)
  rooted : Bool
  ne_nil : labels ≠ []
  isLabel : ∀ label ∈ labels, IsLabel label
  not_all_digits : ∃ label ∈ labels.getLast?, ∃ c ∈ label, c.isDigit = false
  length_le : (['.'].intercalate labels ++ if rooted then ['.'] else []).length ≤ 253

namespace DomainName

def text (d : DomainName) : List Char :=
  ['.'].intercalate d.labels ++ if d.rooted then ['.'] else []

theorem isLabel_of_isLabel {label : List Char} (h : IsLabel label) : ServerName.isLabel label = true := by
  have hchars : label.all ServerName.isLabelChar = true :=
    List.all_eq_true.mpr fun c hc => by simpa [ServerName.isLabelChar, or_assoc] using h.char c hc
  simp [ServerName.isLabel, h.length, hchars, h.head, h.last]

variable (d : DomainName)

theorem point_not_mem : ∀ label ∈ d.labels, '.' ∉ label := fun label hlabel hpoint =>
  absurd ((d.isLabel label hlabel).char '.' hpoint) (by decide)

theorem splitOn_text :
    ServerName.splitOn '.' d.text = d.labels ++ if d.rooted then [[]] else [] := by
  have htext : d.text = ['.'].intercalate (d.labels ++ if d.rooted then [[]] else []) := by
    rw [text]
    split_ifs
    · rw [Text.intercalate_append_nil d.ne_nil]
    · rw [List.append_nil, List.append_nil]
  rw [ServerName.splitOn_eq, htext, List.splitOn_intercalate]
  · intro label hlabel
    obtain hlabel | hlabel := List.mem_append.mp hlabel
    · exact d.point_not_mem label hlabel
    · split_ifs at hlabel
      · rw [List.mem_singleton.mp hlabel]
        exact List.not_mem_nil
      · exact absurd hlabel List.not_mem_nil
  · exact List.append_ne_nil_of_left_ne_nil d.ne_nil _

/-- A point at the end of a name adds no label. -/
theorem labels_text : ServerName.labels d.text = d.labels := by
  rw [ServerName.labels, splitOn_text]
  cases d.rooted with
  | true =>
    have hlength := List.length_pos_of_ne_nil d.ne_nil
    simp [hlength]
  | false =>
    have hlast : d.labels.getLast? ≠ some [] := fun hlast =>
      absurd (d.isLabel _ (List.mem_of_getLast? hlast)).length.1 (by simp)
    simp [hlast]

/-- A domain name is a server name. -/
theorem isServerName_text : isServerName d.text = true := by
  have hlabels : d.labels.all ServerName.isLabel = true :=
    List.all_eq_true.mpr fun label hlabel => isLabel_of_isLabel (d.isLabel label hlabel)
  have hlast : d.labels.getLast?.any (fun label => label.all Char.isDigit) = false := by
    obtain ⟨label, hlabel, c, hc, hdigit⟩ := d.not_all_digits
    rw [Option.mem_def.mp hlabel, Option.any_some, List.all_eq_false]
    exact ⟨c, hc, by simp [hdigit]⟩
  have hlength : d.text.length ≤ 253 := d.length_le
  rw [isServerName, ServerName.isDomainName, labels_text, hlabels, hlast, decide_eq_true hlength]
  rfl

end DomainName

/-- An address of four octets. -/
structure FourOctets where
  first : UInt8
  second : UInt8
  third : UInt8
  fourth : UInt8

namespace FourOctets

def octets (o : FourOctets) : List UInt8 := [o.first, o.second, o.third, o.fourth]

def text (o : FourOctets) : List Char :=
  ['.'].intercalate (o.octets.map fun octet => Decimal.digits octet.toNat)

variable (o : FourOctets)

theorem isOctet_digits (octet : UInt8) : ServerName.isOctet (Decimal.digits octet.toNat) = true := by
  have hlt : octet.toNat < 256 := octet.toNat_lt
  have hne : (Decimal.digits octet.toNat).length ≠ 0 := by simp [Decimal.digits_ne_nil]
  have hlength : (Decimal.digits octet.toNat).length ≤ 3 :=
    Decimal.length_digits_le (by decide) (hlt.trans (by decide))
  have hdigits : (Decimal.digits octet.toNat).all Char.isDigit = true :=
    List.all_eq_true.mpr (Decimal.isDigit_of_mem_digits _)
  have hzero : (Decimal.digits octet.toNat).length = 1 ∨ (Decimal.digits octet.toNat).head? ≠ some '0' := by
    obtain heq | hpos := Nat.eq_zero_or_pos octet.toNat
    · exact .inl (by rw [heq, Decimal.digits]; rfl)
    · exact .inr (Decimal.head?_digits_ne hpos)
  have hvalue : Decimal.ofDigits (Decimal.digits octet.toNat) ≤ 255 := by
    rw [Decimal.ofDigits_digits]
    omega
  rw [ServerName.isOctet, hdigits, decide_eq_true hzero, decide_eq_true hvalue,
    decide_eq_true ⟨Nat.one_le_iff_ne_zero.mpr hne, hlength⟩]
  rfl

theorem splitOn_text :
    ServerName.splitOn '.' o.text = o.octets.map fun octet => Decimal.digits octet.toNat := by
  rw [ServerName.splitOn_eq, text, List.splitOn_intercalate]
  · intro part hpart hpoint
    obtain ⟨octet, -, rfl⟩ := List.mem_map.mp hpart
    exact absurd (Decimal.isDigit_of_mem_digits _ _ hpoint) (by decide)
  · simp [octets]

/-- An address of four octets is a server name. -/
theorem isServerName_text : isServerName o.text = true := by
  have hoctets : ServerName.isFourOctets o.text = true := by
    rw [ServerName.isFourOctets, splitOn_text]
    simp [octets, isOctet_digits]
  rw [isServerName, hoctets, Bool.or_true]

theorem char {c : Char} (hc : c ∈ o.text) : c.isDigit = true ∨ c = '.' := by
  obtain rfl | ⟨part, hpart, hc⟩ := Text.mem_intercalate hc
  · exact .inr rfl
  · obtain ⟨octet, -, rfl⟩ := List.mem_map.mp hpart
    exact .inl (Decimal.isDigit_of_mem_digits _ c hc)

theorem length_text_le : o.text.length ≤ 16 := by
  suffices h : ∀ part ∈ o.octets.map fun octet => Decimal.digits octet.toNat, part.length ≤ 3 from
    Text.length_intercalate_le h
  intro part hpart
  obtain ⟨octet, -, rfl⟩ := List.mem_map.mp hpart
  exact Decimal.length_digits_le (by decide) (octet.toNat_lt.trans (by decide))

end FourOctets

/-- Up to four hexadecimal digits. -/
structure Group where
  digits : List Char
  length : 1 ≤ digits.length ∧ digits.length ≤ 4
  isDigit : ∀ c ∈ digits, (Text.Hex.digit? c).isSome = true

/-- Groups one after the other, of which four octets may stand for the last two. -/
structure Groups where
  groups : List Group
  octets : Option FourOctets

/-- The characters of an address apart from its colons. -/
def IsAddressChar (c : Char) : Prop := c.isAlphanum = true ∨ c = '.'

instance : DecidablePred IsAddressChar := fun _ => inferInstanceAs (Decidable (_ ∨ _))

theorem IsAddressChar.ne_colon {c : Char} (h : IsAddressChar c) : c ≠ ':' := by
  rintro rfl
  exact absurd h (by decide)

theorem Group.isAddressChar (g : Group) {c : Char} (hc : c ∈ g.digits) : IsAddressChar c :=
  .inl (Text.Hex.isAlphanum_of_digit? (g.isDigit c hc))

namespace Groups

def size (g : Groups) : Nat := g.groups.length + if g.octets.isSome then 2 else 0

def parts (g : Groups) : List (List Char) :=
  g.groups.map Group.digits ++ (g.octets.map FourOctets.text).toList

variable (g : Groups)

theorem isAddressChar {part : List Char} (hpart : part ∈ g.parts) {c : Char} (hc : c ∈ part) :
    IsAddressChar c := by
  obtain hpart | hpart := List.mem_append.mp hpart
  · obtain ⟨group, -, rfl⟩ := List.mem_map.mp hpart
    exact group.isAddressChar hc
  · obtain ⟨octets, -, rfl⟩ := Option.map_eq_some_iff.mp (Option.mem_toList.mp hpart)
    exact (octets.char hc).imp_left fun hdigit => by simp [Char.isAlphanum, hdigit]

theorem length_part_le {part : List Char} (hpart : part ∈ g.parts) : part.length ≤ 16 := by
  obtain hpart | hpart := List.mem_append.mp hpart
  · obtain ⟨group, -, rfl⟩ := List.mem_map.mp hpart
    exact group.length.2.trans (by decide)
  · obtain ⟨octets, -, rfl⟩ := Option.map_eq_some_iff.mp (Option.mem_toList.mp hpart)
    exact octets.length_text_le

/-- Four octets are one part that counts as two. -/
theorem length_parts : g.parts.length = g.size ∨ g.parts.length + 1 = g.size := by
  rw [parts, size, List.length_append, List.length_map]
  cases g.octets <;> simp

/-- The groups with colons between them. -/
def text : List Char := [':'].intercalate g.parts

theorem count_text : g.text.count ':' = g.parts.length - 1 :=
  Text.count_intercalate fun _ hpart hcolon => (g.isAddressChar hpart hcolon).ne_colon rfl

theorem length_text_le : g.text.length ≤ 17 * g.size := by
  have hlength : g.text.length ≤ (16 + 1) * g.parts.length :=
    Text.length_intercalate_le fun _ hpart => g.length_part_le hpart
  have hparts := g.length_parts
  omega

theorem char {c : Char} (hc : c ∈ g.text) : c = ':' ∨ IsAddressChar c := by
  obtain rfl | ⟨part, hpart, hc⟩ := Text.mem_intercalate hc
  · exact .inl rfl
  · exact .inr (g.isAddressChar hpart hc)

end Groups

/-- An address of eight groups, all of them written or with two colons in the place of one group or more. -/
inductive EightGroups where
  | whole (g : Groups) (size : g.size = 8)
  | shortened (front : List Group) (back : Groups) (size : front.length + back.size ≤ 7)

namespace EightGroups

def text : EightGroups → List Char
  | whole g _ => g.text
  | shortened front back _ => Groups.text ⟨front, none⟩ ++ ':' :: ':' :: back.text

theorem char (e : EightGroups) {c : Char} (hc : c ∈ e.text) : c = ':' ∨ IsAddressChar c := by
  cases e with
  | whole g _ => exact g.char hc
  | shortened front back _ =>
    obtain hc | hc := List.mem_append.mp hc
    · exact Groups.char _ hc
    · obtain rfl | rfl | hc : c = ':' ∨ c = ':' ∨ c ∈ back.text := by simpa using hc
      · exact .inl rfl
      · exact .inl rfl
      · exact back.char hc

/-- The colons of an address are at least two and at most eight. -/
theorem count_text (e : EightGroups) : 2 ≤ e.text.count ':' ∧ e.text.count ':' ≤ 8 := by
  cases e with
  | whole g size =>
    have hparts := g.length_parts
    rw [text, g.count_text]
    omega
  | shortened front back size =>
    have hfront : (Groups.text ⟨front, none⟩).count ':' = front.length - 1 := by
      rw [Groups.count_text]
      simp [Groups.parts]
    have hparts := back.length_parts
    rw [text, List.count_append, List.count_cons_self, List.count_cons_self, hfront, back.count_text]
    omega

theorem length_text_le (e : EightGroups) : e.text.length ≤ 136 := by
  cases e with
  | whole g size => exact g.length_text_le.trans (by rw [size])
  | shortened front back size =>
    have hfront := Groups.length_text_le ⟨front, none⟩
    have hback := back.length_text_le
    have hsize : Groups.size ⟨front, none⟩ = front.length := by simp [Groups.size]
    rw [text, List.length_append, List.length_cons, List.length_cons]
    omega

end EightGroups
end Telemetry
