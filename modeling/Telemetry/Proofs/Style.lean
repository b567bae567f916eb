import Mathlib.Tactic
import Telemetry.Style

/-!
# What is read of a styled text

A terminal reads a text from left to right, as sequences that set or end a style and as other characters.
A text that was styled reads as it did before, all of it in the style, and nothing after it is.
-/
namespace Telemetry.Style

/-- What a terminal reads at a time. -/
inductive Token where
  | char (c : Char)
  | opening
  | reset

def Token.char? : Token → Option Char
  | char c => some c
  | _ => none

/-- A text in one pass from left to right. Colours are no styles here. -/
def tokens : List Char → List Token
  | '\x1b' :: '[' :: '0' :: 'm' :: rest => .reset :: tokens rest
  | '\x1b' :: '[' :: '1' :: 'm' :: rest => .opening :: tokens rest
  | '\x1b' :: '[' :: '2' :: 'm' :: rest => .opening :: tokens rest
  | c :: rest => .char c :: tokens rest
  | [] => []

/-- A text without its sequences. -/
def strip (text : List Char) : List Char := (tokens text).filterMap Token.char?

/-- The characters on the terminal, and whether each one is in a style. -/
def shown (styled : Bool) : List Token → List (Char × Bool)
  | [] => []
  | .char c :: rest => (c, styled) :: shown styled rest
  | .opening :: rest => shown true rest
  | .reset :: rest => shown false rest

/-- A style that is no colour. -/
def IsEmphasis (style : Style) : Prop := style = bold ∨ style = dimmed

theorem IsEmphasis.tokens_opening {style : Style} (h : style.IsEmphasis) (rest : List Char) :
    tokens (style.opening ++ rest) = .opening :: tokens rest := by
  obtain rfl | rfl := h <;> rfl

/-- A text that does not go on with a sequence begun before it. -/
def Breaks (text : List Char) : Prop := ∀ c ∈ text.head?, c ∉ ['[', '0', '1', '2', 'm']

/-- The end of a sequence that begins in a text is in the text. -/
theorem Breaks.exists_of_append {text after rest : List Char} {digit : Char} (hafter : Breaks after)
    (hdigit : digit ∈ ['0', '1', '2']) (h : text ++ after = '[' :: digit :: 'm' :: rest) :
    ∃ rest', text = '[' :: digit :: 'm' :: rest' := by
  have hsplit : text ++ after = ['[', digit, 'm'] ++ rest := h
  obtain ⟨lost, hsequence, hlost⟩ | ⟨rest', htext, -⟩ := List.append_eq_append_iff.mp hsplit
  · cases lost with
    | nil => exact ⟨[], by rw [← List.append_nil text, ← hsequence]⟩
    | cons c lost =>
      have hmem : c ∈ ['[', digit, 'm'] := hsequence ▸ List.mem_append_right _ List.mem_cons_self
      have hbreaks := hafter c (by rw [hlost]; rfl)
      simp only [List.mem_cons, List.not_mem_nil, or_false] at hmem hdigit hbreaks
      grind
  · exact ⟨rest', htext⟩

/-- No sequence begins with a character and what follows. -/
def BeginsNone (c : Char) (rest : List Char) : Prop :=
  ∀ digit ∈ ['0', '1', '2'], ∀ rest', c = escape → rest ≠ '[' :: digit :: 'm' :: rest'

theorem tokens_cons {c : Char} {rest : List Char} (h : BeginsNone c rest) :
    tokens (c :: rest) = .char c :: tokens rest := by
  rw [tokens]
  · exact h '0' (by decide)
  · exact h '1' (by decide)
  · exact h '2' (by decide)

theorem tokens_cons_of_ne {c : Char} (hc : c ≠ escape) (rest : List Char) :
    tokens (c :: rest) = .char c :: tokens rest :=
  tokens_cons fun _ _ _ h _ => hc h

/-- A text is sequences and other characters. -/
theorem tokens_induction {motive : List Char → Prop} (nil : motive [])
    (reset : ∀ rest, motive rest → motive (reset ++ rest))
    (opening : ∀ style : Style, style.IsEmphasis → ∀ rest, motive rest →
      motive (style.opening ++ rest))
    (char : ∀ c rest, BeginsNone c rest → motive rest → motive (c :: rest)) (text : List Char) :
    motive text := by
  fun_induction tokens text with
  | case1 rest ih => exact reset rest ih
  | case2 rest ih => exact opening bold (.inl rfl) rest ih
  | case3 rest ih => exact opening dimmed (.inr rfl) rest ih
  | case4 c rest hreset hbold hdimmed ih =>
    refine char c rest ?_ ih
    rintro digit hdigit rest' hc hrest
    simp only [List.mem_cons, List.not_mem_nil, or_false] at hdigit
    obtain rfl | rfl | rfl := hdigit
    · exact hreset rest' hc hrest
    · exact hbold rest' hc hrest
    · exact hdimmed rest' hc hrest
  | case5 => exact nil

theorem tokens_append (text : List Char) {after : List Char} (h : Breaks after) :
    tokens (text ++ after) = tokens text ++ tokens after := by
  induction text using tokens_induction with
  | nil => rfl
  | reset rest ih => exact congrArg (Token.reset :: ·) ih
  | opening style hstyle rest ih =>
    rw [List.append_assoc, hstyle.tokens_opening, hstyle.tokens_opening, ih, List.cons_append]
  | char c rest hnone ih =>
    have happend : BeginsNone c (rest ++ after) := fun digit hdigit rest' hc hrest =>
      have ⟨rest', hrest⟩ := h.exists_of_append hdigit hrest
      hnone digit hdigit rest' hc hrest
    rw [List.cons_append, tokens_cons happend, tokens_cons hnone, ih, List.cons_append]

/-- Each reset in a text is followed by the opening of its style. -/
def Token.reopened : Token → List Token
  | .reset => [.reset, .opening]
  | t => [t]

section Reopen

variable {start : List Char}

theorem reopen_cons {c : Char} {rest : List Char} (h : ∀ rest', c :: rest ≠ reset ++ rest') :
    reopen start (c :: rest) = c :: reopen start rest := by
  rw [reopen]
  rintro rest' rfl rfl
  exact h rest' rfl

theorem reopen_cons_of_ne {c : Char} (hc : c ≠ escape) (rest : List Char) :
    reopen start (c :: rest) = c :: reopen start rest :=
  reopen_cons fun _ h => hc (List.cons.inj h).1

/-- What a text begins with that is opened again was there before, unless it is an escape. -/
theorem exists_of_reopen {text cs : List Char} {c : Char} (hc : c ≠ escape)
    (h : reopen start text = c :: cs) :
    ∃ text', text = c :: text' ∧ reopen start text' = cs := by
  unfold reopen at h
  split at h
  · exact absurd (List.cons.inj h).1.symm hc
  · obtain ⟨rfl, rfl⟩ := List.cons.inj h
    exact ⟨_, rfl, rfl⟩
  · cases h

/-- No sequence comes about where a style is opened again. -/
theorem exists_of_reopen_sequence {text cs : List Char} {digit : Char} (hdigit : digit ≠ escape)
    (h : reopen start text = '[' :: digit :: 'm' :: cs) :
    ∃ rest, text = '[' :: digit :: 'm' :: rest := by
  obtain ⟨_, rfl, hdigits⟩ := exists_of_reopen (by decide) h
  obtain ⟨_, rfl, hend⟩ := exists_of_reopen hdigit hdigits
  obtain ⟨rest, rfl, -⟩ := exists_of_reopen (by decide) hend
  exact ⟨rest, rfl⟩

theorem reopen_opening {style : Style} (h : style.IsEmphasis) (rest : List Char) :
    reopen start (style.opening ++ rest) = style.opening ++ reopen start rest := by
  obtain rfl | rfl := h
  all_goals
    simp only [opening, List.cons_append, List.nil_append]
    rw [reopen_cons (by simp [reset]), reopen_cons_of_ne (by decide), reopen_cons_of_ne (by decide),
      reopen_cons_of_ne (by decide)]

theorem tokens_reopen (hstart : ∀ rest, tokens (start ++ rest) = .opening :: tokens rest)
    (text : List Char) : tokens (reopen start text) = (tokens text).flatMap Token.reopened := by
  induction text using tokens_induction with
  | nil => rfl
  | reset rest ih =>
    have hreopen : reopen start (reset ++ rest) = reset ++ (start ++ reopen start rest) :=
      reopen.eq_1 start rest
    have hreset (rest : List Char) : tokens (reset ++ rest) = .reset :: tokens rest := rfl
    rw [hreopen, hreset, hreset, hstart, ih]
    rfl
  | opening style hstyle rest ih =>
    rw [reopen_opening hstyle, hstyle.tokens_opening, hstyle.tokens_opening, ih]
    rfl
  | char c rest hnone ih =>
    have hreset (rest' : List Char) : c :: rest ≠ reset ++ rest' := fun h =>
      hnone '0' (by decide) rest' (List.cons.inj h).1 (List.cons.inj h).2
    have hreopen : BeginsNone c (reopen start rest) := fun digit hdigit rest' hc hrest =>
      have hne : digit ≠ escape := fun heq => absurd (heq ▸ hdigit) (by decide)
      have ⟨rest', hrest⟩ := exists_of_reopen_sequence hne hrest
      hnone digit hdigit rest' hc hrest
    rw [reopen_cons hreset, tokens_cons hreopen, tokens_cons hnone, ih]
    rfl

end Reopen

variable {style : Style}

theorem breaks_escape (rest : List Char) : Breaks (escape :: rest) := by
  intro c hc
  cases hc
  decide

theorem IsEmphasis.breaks_paint (h : style.IsEmphasis) (text after : List Char) :
    Breaks (style.paint true text ++ after) := by
  obtain rfl | rfl := h <;> exact breaks_escape _

theorem IsEmphasis.tokens_paint (h : style.IsEmphasis) (text after : List Char) :
    tokens (style.paint true text ++ after) =
      .opening :: ((tokens text).flatMap Token.reopened ++ .reset :: tokens after) := by
  have hreset : Breaks (reset ++ after) := breaks_escape _
  rw [paint, if_pos rfl, List.append_assoc, List.append_assoc, h.tokens_opening,
    tokens_append _ hreset, tokens_reopen h.tokens_opening]
  rfl

theorem filterMap_reopened (ts : List Token) :
    (ts.flatMap Token.reopened).filterMap Token.char? = ts.filterMap Token.char? := by
  induction ts with
  | nil => rfl
  | cons t ts ih =>
    cases t with
    | char c => exact congrArg (c :: ·) ih
    | opening => exact ih
    | reset => exact ih

theorem strip_append (text : List Char) {after : List Char} (h : Breaks after) :
    strip (text ++ after) = strip text ++ strip after := by
  rw [strip, tokens_append text h, List.filterMap_append]
  rfl

theorem strip_cons_of_ne {c : Char} (hc : c ≠ escape) (rest : List Char) :
    strip (c :: rest) = c :: strip rest := by
  rw [strip, tokens_cons_of_ne hc]
  rfl

theorem strip_append_of_ne {text : List Char} (h : ∀ c ∈ text, c ≠ escape) (after : List Char) :
    strip (text ++ after) = text ++ strip after := by
  induction text with
  | nil => rfl
  | cons c text ih =>
    obtain ⟨hc, htext⟩ := List.forall_mem_cons.mp h
    rw [List.cons_append, strip_cons_of_ne hc, ih htext, List.cons_append]

/-- With and without colour the same is left of a text. -/
theorem IsEmphasis.strip_paint (h : style.IsEmphasis) (color : Bool) (text : List Char)
    {after : List Char} (hafter : Breaks after) :
    strip (style.paint color text ++ after) = strip text ++ strip after := by
  cases color with
  | false => exact strip_append text hafter
  | true =>
    rw [strip, h.tokens_paint, List.filterMap_cons, List.filterMap_append, filterMap_reopened]
    rfl

theorem shown_reopened (ts after : List Token) :
    shown true (ts.flatMap Token.reopened ++ .reset :: after) =
      (ts.filterMap Token.char?).map (·, true) ++ shown false after := by
  induction ts with
  | nil => rfl
  | cons t ts ih =>
    cases t with
    | char c => exact congrArg ((c, true) :: ·) ih
    | opening => exact ih
    | reset => exact ih

theorem shown_append_opening (styled : Bool) (ts after : List Token) :
    shown styled (ts ++ .opening :: after) = shown styled ts ++ shown true after := by
  induction ts generalizing styled with
  | nil => rfl
  | cons t ts ih =>
    cases t with
    | char c => exact congrArg ((c, styled) :: ·) (ih styled)
    | opening => exact ih true
    | reset => exact ih false

/-- A text is all in its style, and what comes after it is not. -/
theorem IsEmphasis.shown_paint (h : style.IsEmphasis) (before text after : List Char) :
    shown false (tokens (before ++ (style.paint true text ++ after))) =
      shown false (tokens before) ++ ((strip text).map (·, true) ++ shown false (tokens after)) := by
  rw [tokens_append before (h.breaks_paint text after), h.tokens_paint, shown_append_opening, shown_reopened]
  rfl

end Telemetry.Style
